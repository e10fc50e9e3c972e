import PortGraph.Proofs.Engine.Waiting
import PortGraph.Proofs.Table
import PortGraph.Proofs.Work.Ghosts

/-!
# Metered engines

How often the body of a node has been started, or a task submitted for it, is nothing that an engine
keeps. It is counted by a meter, a list of nodes beside the state of the host: each body is noted
when it is started, and each task when it is submitted. Nobody can look at the list, so an engine
that is metered runs as it does without the meter.

## Main definitions

* `Metered`: the state of a host with a meter
* `Site.metered`, `Engine.metered`: the same with a meter
* `Engine.Shows`: an engine that shows of another one

## Main results

* `Engine.Shows.runPlan`: what shows of an engine runs as the engine does
* `Engine.shows_metered`: an engine shows of itself with a meter
* `Engine.exists_metered`: each run is that of the metered engine
-/

namespace PortGraph

variable {κ σ τ ε α : Type}

/-! ### Meters -/

/-- The state of a host with the nodes that have been started on it, once for each start. -/
structure Metered (κ : Type) where
  host : κ
  starts : List String

namespace Metered

/-- The same meter beside another state. -/
def withHost (host : κ) (s : Metered κ) : Metered κ := { s with host := host }

/-- Note the start of a node. -/
def note (nodeId : String) (s : Metered κ) : Metered κ := { s with starts := s.starts ++ [nodeId] }

end Metered

/-- Work on a host, whatever its meter says. -/
def Work.onHost (w : Work κ ε α) : Work (Metered κ) ε α := w.within Metered.host Metered.withHost

/-- Work on a host that is noted when it starts. -/
def Work.noted (nodeId : String) (w : Work κ ε α) : Work (Metered κ) ε α :=
  .consult (·.note nodeId) fun _ => w.onHost

theorem Work.shows_onHost (w : Work κ ε α) : w.onHost.Shows Metered.host w :=
  .of_within (fun _ _ => rfl) w

theorem Work.shows_noted (nodeId : String) (w : Work κ ε α) :
    (w.noted nodeId).Shows Metered.host w :=
  .hidden (fun _ => rfl) fun _ => w.shows_onHost

/-- A body that is noted when it is started. -/
def Body.metered (body : Body κ) : Body (Metered κ) := fun scope inputs config =>
  (body scope inputs config).noted scope.nodeId

/-- A registry of bodies that are noted when they are started. -/
def Registry.metered (r : Registry (Body κ)) : Registry (Body (Metered κ)) :=
  ⟨r.entries.map fun _ entry => ⟨entry.manifest, entry.body?.map Body.metered⟩⟩

theorem Registry.body?_metered (r : Registry (Body κ)) (type : String) :
    r.metered.body? type = (r.body? type).map Body.metered := by
  rw [body?, body?, metered, Table.get?_map]
  cases r.entries.get? type <;> rfl

/-- A task service whose tasks are noted when they are submitted. -/
def TaskService.metered (service : TaskService κ) : TaskService (Metered κ) where
  submit request := (service.submit request).noted request.nodeId
  status taskId := (service.status taskId).onHost

/-- The same place with a meter. -/
def Site.metered : Site κ → Site (Metered κ)
  | .inProcess registry base => .inProcess registry.metered base
  | .remote service c => .remote service.metered c

/-- The engine with a meter where it runs its nodes. -/
def Engine.metered (site : Site κ) (e : Engine κ) : Engine (Metered κ) where
  registry := e.registry.metered
  backend := site.metered.backend
  limit? := e.limit?
  stopOnError := e.stopOnError
  digest := e.digest
  order := e.order

/-! ### What is dispatched -/

section

variable {get : τ → σ}

theorem InProcess.shows_attemptFrom {w : Work τ Report Outcome} {v : Work σ Report Outcome}
    (h : w.Shows get v) (base : UInt64) (left attempt : Nat) :
    (attemptFrom base w left attempt).Shows get (attemptFrom base v left attempt) := by
  induction left generalizing attempt with
  | zero =>
    rw [attemptFrom, attemptFrom]
    refine (h.mapNews _).bind fun o => ?_
    cases o <;> exact .done _
  | succ left ih =>
    rw [attemptFrom, attemptFrom]
    refine (h.mapNews _).bind fun o => ?_
    cases o with
    | ok outputs => exact .done _
    | error err =>
      dsimp only
      split
      · exact .done _
      · split
        · exact .fault _
        · refine .tell (.observe fun m => .await fun m' => ?_)
          split
          · exact ih (attempt + 1)
          · exact .done _

end

/-- **To poll a service with a meter** is to poll the service: polls are not noted. -/
theorem Polling.pollFrom_metered (service : TaskService κ) (p : Polling) (taskId : String)
    (deadline start interval : Nat) (state : Task.State) :
    pollFrom service.metered p taskId deadline start interval state =
      (pollFrom service p taskId deadline start interval state).onHost := by
  have hpoll : poll service.metered taskId deadline = (poll service taskId deadline).onHost := by
    rw [poll, poll, Work.onHost, ← Work.before_within, ← Work.mapNews_within]
    rfl
  induction hleft : deadline - start using Nat.strongRecOn generalizing start interval state with
  | ind left ih =>
    rcases Nat.lt_or_ge start deadline with hlt | hle
    · rw [pollFrom_eq_of_lt hlt, pollFrom_eq_of_lt hlt]
      refine congrArg Work.observe (funext fun m => ?_)
      dsimp only
      split
      · rfl
      · rw [hpoll, Work.within_bind]
        refine congrArg (Work.bind _) (funext fun reply? => ?_)
        rw [afterPoll, afterPoll, Work.within_bind, Work.sayAll_within]
        refine congrArg (Work.bind _) (funext fun _ => ?_)
        split
        · rfl
        · refine congrArg Work.observe (funext fun m' => ?_)
          refine congrArg (Work.await _) (funext fun m'' => ?_)
          dsimp only
          split
          · exact ih _ (hleft ▸ wake_bound hlt (Nat.le_max_right _ _)) _ _ _ rfl
          · rfl
    · rw [pollFrom_eq_of_le hle, pollFrom_eq_of_le hle]
      rfl

/-- **What is dispatched with a meter shows what is dispatched without.** -/
theorem Site.shows_dispatch (site : Site κ) (i : Invocation) :
    (site.metered.backend.dispatch i).Shows Metered.host (site.backend.dispatch i) := by
  cases site with
  | inProcess registry base =>
    simp only [metered, backend, Backend.inProcess, InProcess.dispatch, Registry.body?_metered]
    cases registry.body? i.manifest.type with
    | none => exact .done _
    | some body => exact InProcess.shows_attemptFrom (Work.shows_noted _ _) _ _ _
  | remote service c =>
    refine Work.Shows.bind (.observe fun m => ?_) fun o => .done _
    refine ((Work.shows_noted _ _).mapNews _).bind fun receipt => ?_
    cases receipt with
    | error err => exact .done _
    | ok receipt =>
      dsimp only
      rw [Polling.pollFrom_metered]
      exact .tell (Work.shows_onHost _)

/-! ### Engines -/

/-- What nodes share, seen by who sees a part of the state of the host. -/
def Shared.seen (get : τ → σ) (s : Shared τ) : Shared σ := ⟨s.cache?, get s.host⟩

/-- What shows of an engine is another one that goes by the same rules. -/
structure Engine.Shows (get : τ → σ) (e : Engine τ) (e' : Engine σ) : Prop where
  dispatch : ∀ i, (e.backend.dispatch i).Shows get (e'.backend.dispatch i)
  limit : e'.limit? = e.limit?
  stop : e'.stopOnError = e.stopOnError
  digest : e'.digest = e.digest
  order : e'.order = e.order

/-- **An engine shows of itself with a meter.** -/
theorem Engine.shows_metered {site : Site κ} {e : Engine κ} (he : e.backend = site.backend) :
    (e.metered site).Shows Metered.host e :=
  ⟨fun i => he ▸ site.shows_dispatch i, rfl, rfl, rfl, rfl⟩

/-- Whoever looks something up finds the same. -/
theorem Shared.lookup_seen {get : τ → σ} (s : Shared τ) (now : Nat) (key : String) :
    (s.seen get).lookup now key = ((s.lookup now key).1, (s.lookup now key).2.seen get) := by
  obtain ⟨cache?, host⟩ := s
  cases cache? <;> rfl

namespace Engine.Shows

variable {get : τ → σ} {e : Engine τ} {e' : Engine σ}

theorem keyOf_eq (h : e.Shows get e') (step : Step) (inputs : Fields) :
    e'.keyOf step inputs = e.keyOf step inputs := by
  rw [keyOf, keyOf, h.digest]

theorem remembered (h : e.Shows get e') (step : Step) (inputs : Fields) :
    (e.remembered step inputs).Shows (Shared.seen get) (e'.remembered step inputs) := by
  rw [Engine.remembered, Engine.remembered, h.keyOf_eq]
  split
  · refine .observe fun m => .consult (fun s => ?_) fun s => ?_
    · rw [Shared.lookup_seen]
    · rw [Shared.lookup_seen]
      exact .done _
  · exact .done _

theorem remember (h : e.Shows get e') (step : Step) (inputs : Fields) (o : Outcome) :
    (e.remember step inputs o).Shows (Shared.seen get) (e'.remember step inputs o) := by
  cases o with
  | error err => exact .done _
  | ok outputs =>
    simp only [Engine.remember, h.keyOf_eq]
    split
    · exact .observe fun m => .consult (fun _ => rfl) fun _ => .done _
    · exact .done _

theorem invoke (h : e.Shows get e') (scope : Scope) (step : Step) (inputs : Fields) :
    (e.invoke scope step inputs).Shows (Shared.seen get) (e'.invoke scope step inputs) := by
  rw [Engine.invoke, Engine.invoke]
  split
  · exact .done _
  · split
    · exact .done _
    · refine Work.Shows.bind ?_ fun d => .done _
      exact ((h.dispatch _).mapNews _).within (fun _ => rfl) (fun _ _ => rfl) (fun _ => rfl)

theorem execute (h : e.Shows get e') (scope : Scope) (step : Step) (inputs : Fields) :
    (e.execute scope step inputs).Shows (Shared.seen get) (e'.execute scope step inputs) := by
  have hclose (start : Nat) (cached : Bool) (attempts : UInt32) (o : Outcome) :
      (close scope step start cached attempts o).Shows (Shared.seen get)
        (close scope step start cached attempts o) :=
    .observe fun m => .tell (.done _)
  refine .observe fun m => .tell ((h.remembered step inputs).bind fun found => ?_)
  cases found with
  | some outputs => exact hclose m.now true 0 (.ok outputs)
  | none =>
    refine (h.invoke scope step inputs).bind fun d => ?_
    exact (h.remember step inputs d.result).bind fun _ => hclose m.now false d.attempts d.result

/-! ### Runs -/

/-- A phase goes the same way. -/
theorem runPhase (h : e.Shows get e') (plan : Plan) (scope : Scope) (initial : Fields)
    (t : Table Result) (phase : Phase) (world : World (Shared τ) Event) :
    EndAlike (fun x y => y = (x.1.seen (Shared.seen get), x.2))
      (e.runPhase plan scope initial t phase world)
      (e'.runPhase plan scope initial t phase (world.seen (Shared.seen get))) := by
  let works := (stepsOf plan phase).map (e.stepWork scope t initial)
  let works' := (stepsOf plan phase).map (e'.stepWork scope t initial)
  have hworks : List.Forall₂ (Work.Shows (Shared.seen get)) works works' :=
    List.forall₂_map_left_iff.mpr (List.forall₂_map_right_iff.mpr
      (List.forall₂_same.mpr fun step _ => (h.execute _ _ _).mapNews _))
  have hlength : works'.length = works.length := hworks.length_eq.symm
  have hroom : e'.room phase works.length = e.room phase works.length := by
    rw [room, room, h.limit]
  obtain ⟨hstart, hpieces⟩ := Pool.start_seen world (e.room phase works.length) hworks
  have hrun := Pool.run_seen hpieces (e.order e.limit? works.length)
  rw [← hstart] at hrun
  simp only [Engine.runPhase]
  rw [show (stepsOf plan phase).map (e'.stepWork scope t initial) = works' from rfl, hlength, hroom,
    h.order, h.limit]
  generalize (Pool.start world (e.room phase works.length) works).run
    (e.order e.limit? works.length) = ran at hrun ⊢
  generalize (Pool.start (world.seen (Shared.seen get)) (e.room phase works.length) works').run
    (e.order e.limit? works.length) = ran' at hrun ⊢
  cases hrun with
  | error cause => exact .error cause
  | ok hsame =>
    subst hsame
    refine .ok (congrArg (Prod.mk _) ?_)
    rw [takenUp, takenUp, h.limit]

/-- The phases go the same way. -/
theorem runPhases (h : e.Shows get e') (plan : Plan) (scope : Scope) (initial : Fields)
    (phases : List Phase) (index : Nat) (t : Table Result) (world : World (Shared τ) Event) :
    EndAlike (fun x y => y = (x.1.seen (Shared.seen get), x.2))
      (e.runPhases plan scope initial index t world phases)
      (e'.runPhases plan scope initial index t (world.seen (Shared.seen get)) phases) := by
  induction phases generalizing index t world with
  | nil => exact .ok rfl
  | cons phase rest ih =>
    have hcancelled : (world.seen (Shared.seen get)).cancelled = world.cancelled := rfl
    simp only [Engine.runPhases, h.stop, hcancelled]
    split
    · exact .ok rfl
    · split
      · exact .ok rfl
      · have hphase := h.runPhase plan scope initial t phase (begun scope index phase world)
        rw [begun] at hphase
        change EndAlike _ _ (e'.runPhase plan scope initial t phase
          ((world.seen (Shared.seen get)).tell _)) at hphase
        generalize e.runPhase plan scope initial t phase _ = ran at hphase ⊢
        generalize e'.runPhase plan scope initial t phase _ = ran' at hphase ⊢
        cases hphase with
        | error cause => exact .error cause
        | @ok there _ hsame =>
          subst hsame
          exact ih (index + 1) (there.2.foldl addResult t) (completed scope index there.2 there.1)

/-- **What shows of an engine runs as the engine does.** -/
theorem runPlan (h : e.Shows get e') (plan : Plan) (scope : Scope) (initial : Fields)
    (world : World (Shared τ) Event) :
    EndAlike (fun x y => y = (x.1.seen (Shared.seen get), x.2))
      (e.runPlan plan scope initial world)
      (e'.runPlan plan scope initial (world.seen (Shared.seen get))) := by
  rw [Engine.runPlan, Engine.runPlan]
  cases missingStep? plan with
  | some id => exact .error _
  | none =>
    have hphases := h.runPhases plan scope initial plan.phases 0 Table.empty (world.tell
        (.run scope.executionId (.started plan.graphId (UInt64.ofNat plan.phases.length))))
    change EndAlike _ _ (e'.runPhases plan scope initial 0 Table.empty
      ((world.seen (Shared.seen get)).tell _) plan.phases) at hphases
    dsimp only
    generalize e.runPhases plan scope initial 0 Table.empty _ plan.phases = ran at hphases ⊢
    generalize e'.runPhases plan scope initial 0 Table.empty _ plan.phases = ran' at hphases ⊢
    cases hphases with
    | error cause => exact .error _
    | ok hsame =>
      subst hsame
      exact .ok rfl

end Engine.Shows

/-! ### Runs with a meter -/

/-- What nodes share, with a meter on which nothing has been noted yet. -/
def Shared.metered (s : Shared κ) : Shared (Metered κ) := ⟨s.cache?, ⟨s.host, []⟩⟩

/-- **Each run is that of the metered engine.** -/
theorem Engine.exists_metered {site : Site κ} {e : Engine κ} (he : e.backend = site.backend)
    {plan : Plan} {scope : Scope} {initial : Fields} {world after : World (Shared κ) Event}
    {run : RunResults} (hrun : e.runPlan plan scope initial world = .ok (after, run)) :
    ∃ metered, (e.metered site).runPlan plan scope initial
        (world.withState world.state.metered) = .ok (metered, run) ∧
      after = metered.seen (Shared.seen Metered.host) := by
  have hboth := (shows_metered he).runPlan plan scope initial
    (world.withState world.state.metered)
  change EndAlike _ _ (e.runPlan plan scope initial world) at hboth
  rw [hrun] at hboth
  generalize (e.metered site).runPlan plan scope initial _ = ran at hboth ⊢
  cases hboth with
  | @ok there _ hsame =>
    obtain ⟨metered, run'⟩ := there
    cases hsame
    exact ⟨metered, rfl, rfl⟩

end PortGraph
