import PortGraph.Proofs.Engine.Midway
import PortGraph.Proofs.Engine.Waiting

/-!
# Cancellation

A run may be cancelled at any instant, by a node or from outside. No phase starts after that. A
phase that has started goes to its end: each of its nodes gets a record. A node that waits then, be
it for its next attempt or for the next poll of its task, ends at that very instant, with the
attempts that it has told of, and nothing else is done to it. What is inside, in a body or in a
request, goes on.

## Main definitions

* `attemptsOf`: how many attempts of a node have been told of
* `Engine.HasLeft`: a phase has let go of a node, with what its record says
* `Engine.EndsIn`: a node of a phase ends by cancellation
* `Engine.HeedsCancellation`: what cancellation does to a run

## Main results

* `Engine.InPhase.cases_of_piece`: where the nodes of a phase are
* `Engine.InPhase.exists_endsIn`: who waits when the run is cancelled ends at that instant
* `Engine.runPlan_cancels`: the runs of a compiled plan heed cancellation
-/

namespace PortGraph

variable {β κ : Type}

/-! ### Attempts -/

/-- Told of an attempt: one that has failed and will be repeated, or a task that was submitted. -/
def NodeNews.marksAttempt : NodeNews → Bool
  | .retrying .. | .submitted .. => true
  | .started .. | .progress .. | .completed .. | .failed .. => false

/-- How many attempts of a node have been told of, other than its last one if that has ended it. -/
def attemptsOf (id : String) (events : List Event) : Nat :=
  (newsAbout id events).countP (·.marksAttempt)

/-- A node tells of its attempts what has been told by whoever runs it. -/
theorem attemptsOf_map (x id type : String) (l : List DispatchNews) :
    attemptsOf id ((.started type :: l.map DispatchNews.news).map (.node x id)) =
      l.countP (·.marksAttempt) := by
  rw [attemptsOf, newsAbout_map_node, List.countP_cons_of_neg Bool.false_ne_true, List.countP_map]
  refine List.countP_congr fun news _ => ?_
  cases news <;> exact Iff.rfl

/-- The record of a node that cancellation has ended after so many attempts. -/
structure Result.IsCancelled (id : String) (attempts : Nat) (x : Result) : Prop where
  nodeId_eq : x.nodeId = id
  success_eq : x.success = false
  outputs_eq : x.outputs = Table.empty
  errorCode?_eq : x.errorCode? = some .cancelled
  attempts_eq : x.metadata.attempts.toNat = attempts

namespace Engine

variable {e : Engine κ} {plan : Plan} {scope : Scope} {initial : Fields} {k j : Nat}
  {phase : Phase} {t : Table Result} {world there : World (Shared κ) Event}
  {p q : Pool (Shared κ) Event Result} {site : Site κ} {c : Call}

/-! ### The nodes of a phase -/

/-- Piece `j` of a pool runs the call `c`, has stopped, and `W` is left of what has been
dispatched. -/
def HasLeft (e : Engine κ) (scope : Scope) (calls : List Call) (p : Pool (Shared κ) Event Result)
    (j : Nat) (c : Call) (W : Invocation → Work κ DispatchNews Dispatch → Prop) : Prop :=
  calls[j]? = some c ∧ ∃ n config start w,
    p.pieces[j]? = some ⟨e.dispatched (.node scope.executionId c.nodeId)
      { scope with nodeId := c.nodeId } c start w, some n⟩ ∧
    W ⟨{ scope with nodeId := c.nodeId }, c.step.manifest, c.inputs, config⟩ w

/-- **Where the nodes of a phase are.** Whoever has started is inside, or waits after as many
attempts as have been told of, or has ended. -/
theorem InPhase.cases_of_piece (h : e.InPhase plan scope initial world k phase there t p)
    (hstaged : plan.IsStaged) (hsite : e.backend = site.backend)
    (hc : (plan.phaseCalls initial t phase)[j]? = some c) {w : Work (Shared κ) Event Result}
    {n : Nat} (hpiece : p.pieces[j]? = some ⟨w, some n⟩) {block : List Event}
    (hblock : p.world.news = there.news ++ block) :
    e.HasLeft scope (plan.phaseCalls initial t phase) p j c site.IsInside ∨
      (∃ due, e.HasLeft scope (plan.phaseCalls initial t phase) p j c
        fun i => site.IsWaiting i (attemptsOf c.nodeId block) due) ∨
      ∃ x, w = .done x := by
  obtain ⟨limit, told, htold, hnumbered⟩ := h.exists_chronicle hstaged
  have hnext := hstaged.stagedFrom_cons h.getElem?_eq
  have hids : (plan.phaseCalls initial t phase).map (·.nodeId) = phase.nodeIds :=
    hnext.nodeId_phaseCalls t
  have hid : phase.nodeIds[j]? = some c.nodeId := by rw [← hids, List.getElem?_map, hc]; rfl
  have hlt : j < p.pieces.length := (List.getElem?_eq_some_iff.mp hpiece).1
  have hwork := List.getElem?_eq_getElem (htold.length ▸ hlt)
  have htells := htold.tells j _ _ hwork hpiece
  obtain ⟨c', hc', hexecute⟩ := exists_call_of_getElem? hwork
  cases hc.symm.trans hc'
  rw [hexecute] at htells
  have hstop : w.IsStopped := h.isSound.stopped j _ hpiece rfl
  obtain ⟨config, start, l, r, hdispatch, hr, hnews, rfl⟩ | hdone :=
    cases_of_tells_execute htells hstop
  swap
  · exact .inr (.inr hdone)
  -- Nobody else tells of the node, so what it has told of attempts is what `block` tells of them.
  have hcount : l.countP (·.marksAttempt) = attemptsOf c.nodeId block := by
    rw [htold.news, begun, World.news_tell, List.append_assoc] at hblock
    rw [← List.append_cancel_left hblock, attemptsOf, newsAbout_append,
      newsAbout_map_snd hnext.1 hnumbered hid, hnews, ← attemptsOf_map]
    rfl
  rw [hsite] at hdispatch
  obtain hinside | ⟨due, hwaiting⟩ | ⟨d, rfl⟩ := Site.cases_of_tells hdispatch hr
  · exact .inl ⟨hc, n, config, start, r, hpiece, hinside⟩
  · exact .inr (.inl ⟨due, hc, n, config, start, r, hpiece, hcount ▸ hwaiting⟩)
  · exact absurd hstop (not_isStopped_dispatched _ _ _ _ _ _)

/-! ### Nodes that wait -/

/-- What is told of a node that cancellation has ended. -/
def abandoned (scope : Scope) (id : String) : Event :=
  .node scope.executionId id (.failed .cancelled NodeError.cancelled.message)

/-- The node of piece `j` had made so many attempts when the run was cancelled in the step from `p`
to `q`, and ends at that instant with the record `x`. -/
structure EndsIn (e : Engine κ) (plan : Plan) (scope : Scope) (initial : Fields)
    (world : World (Shared κ) Event) (policy : Pool.Policy) (p q : Pool (Shared κ) Event Result)
    (j : Nat) (id : String) (attempts : Nat) (x : Result) : Prop where
  isCancelled : x.IsCancelled id attempts
  /-- In that step nothing is done to the node, other than that it ends. -/
  now : Pool.OnlyEnds j q.world.now (abandoned scope id) x p q
  /-- Nor is in any later one. -/
  later : ∀ r r', Pool.Leads policy q r → r.step policy = .ok r' →
    Pool.OnlyEnds j q.world.now (abandoned scope id) x r r'
  /-- It has ended before the clock moves on. -/
  atOnce : ∀ r, Pool.Leads policy q r → r.world.now ≠ q.world.now →
    r.rest? j = some (.done x) ∧ (q.world.now, abandoned scope id) ∈ r.world.log
  atLast : ∀ after run, e.runPlan plan scope initial world = .ok (after, run) →
    run.get? id = some x ∧ (q.world.now, abandoned scope id) ∈ after.log

/-- **Who waits when the run is cancelled ends at that instant**, which is that of the request if it
came from outside. -/
theorem InPhase.exists_endsIn (h : e.InPhase plan scope initial world k phase there t p)
    (hstaged : plan.IsStaged) (hq : p.step (e.phasePolicy plan phase) = .ok q)
    (hgo : p.world.cancelled = false) (hcancelled : q.world.cancelled = true) {attempts due : Nat}
    (hleft : e.HasLeft scope (plan.phaseCalls initial t phase) p j c
      fun i => site.IsWaiting i attempts due)
    (hdue : q.world.now < due) :
    (∀ u, world.Expects u → q.world.cancelAt? = some u ∨ q.world.now = u) ∧
      ∃ x, e.EndsIn plan scope initial world (e.phasePolicy plan phase) p q j c.nodeId attempts
        x := by
  obtain ⟨hc, n, config, start, w, hpiece, hwaiting⟩ := hleft
  have hw : (e.dispatched (.node scope.executionId c.nodeId) { scope with nodeId := c.nodeId } c
      start w).Heeds q.world.now _ _ := heeds_of_isWaiting hwaiting hdue
  obtain ⟨hheeds, honly⟩ := Pool.heeds_of_step hq hgo hcancelled hw rfl hpiece
  refine ⟨fun u hu => Pool.cancelAt?_or_now_of_step hq hgo (h.isAt.expects hu) hw hpiece,
    record { scope with nodeId := c.nodeId } c.step (.ofNat (q.world.now - start)) false
      (.ofNat attempts) (.error .cancelled), ?_⟩
  constructor
  case isCancelled => exact ⟨rfl, rfl, rfl, rfl, UInt32.toNat_ofNat_of_lt' hwaiting.lt⟩
  case now => exact honly
  case later => exact fun r r' hr hstep => ((hheeds.leads hw hr).step hw hstep).2
  case atOnce =>
    intro r hr hnow
    cases hheeds.leads hw hr with
    | waits _ _ hstill => exact absurd hstill hnow
    | ended hended htold => exact ⟨by rw [Pool.rest?, hended]; rfl, htold⟩
  case atLast =>
    intro after run hrun
    obtain ⟨last, rs, hlast, hrs, hrecords, hlog⟩ := (h.step hq).exists_records hstaged hrun
    obtain ⟨⟨n', hr⟩, htold⟩ := (hheeds.leads hw hlast).of_results? hw hrs
    exact ⟨hrecords _ (List.mem_of_getElem? hr), hlog _ htold⟩

/-! ### Runs -/

/-- **Cancellation.** What it does to a run that begins in `world`, whether one of the nodes cancels
it or somebody from outside, and at whatever time. -/
structure HeedsCancellation (e : Engine κ) (plan : Plan) (scope : Scope) (initial : Fields)
    (world : World (Shared κ) Event) : Prop where
  /-- A request from outside for some instant is pending until then. When the clock has gone beyond
  it, the run has been cancelled, wherever it is. -/
  granted : ∀ now calls, e.IsAt plan scope initial world now calls →
    ∀ u, world.Expects u → now.Expects u
  /-- No phase starts any more in a run that goes on after that and comes to its end. -/
  startsNoPhase : ∀ now calls, e.IsAt plan scope initial world now calls → now.cancelled = true →
    ∀ after run, e.runPlan plan scope initial world = .ok (after, run) → StartsNoPhase now after
  /-- Whether or not it comes to its end, the phase that is to start next does not, nor does a later
  one. -/
  stopsBetween : ∀ k there t, e.ComesTo plan scope initial world k there t →
    there.cancelled = true →
      ∀ l phase there t p, k ≤ l → ¬ e.InPhase plan scope initial world l phase there t p
  /-- Nor does any phase after the one that the run is in. -/
  stopsAfter : ∀ k phase there t p, e.InPhase plan scope initial world k phase there t p →
    p.world.cancelled = true →
      ∀ l phase there t p, k < l → ¬ e.InPhase plan scope initial world l phase there t p
  /-- The phases that have started settle: when the run has come to its end, all of their nodes have
  records. -/
  settles : ∀ after run, e.runPlan plan scope initial world = .ok (after, run) →
    ∃ log, after.news = world.news ++ log ∧ ∀ x i ids parallel,
      Event.run x (.phaseStarted i ids parallel) ∈ log →
        ∀ id ∈ ids, run.results.contains id = true
  /-- It does come to its end if whatever is dispatched for it does: in process the bodies, with
  delays between the attempts that can be counted, and else the submissions. A poll need not be
  answered. -/
  completes : ∀ site : Site κ, e.backend = site.backend → site.Completes plan scope →
    ∃ after run, e.runPlan plan scope initial world = .ok (after, run)
  /-- The run counts as cancelled just if it had been cancelled when one of its phases was to
  start. -/
  cancelled_iff : ∀ after run, e.runPlan plan scope initial world = .ok (after, run) →
    (run.cancelled = true ↔ ∃ k < plan.phases.length, ∃ there t,
      e.ComesTo plan scope initial world k there t ∧ there.cancelled = true)
  /-- So if it is cancelled in a phase, it counts as cancelled unless that is the last one. -/
  cancelled_iff_of_inPhase : ∀ k phase there t p,
    e.InPhase plan scope initial world k phase there t p → p.world.cancelled = true →
      ∀ after run, e.runPlan plan scope initial world = .ok (after, run) →
        (run.cancelled = true ↔ k + 1 < plan.phases.length)
  /-- A run that has been cancelled in a phase has been in one of the steps of its nodes. -/
  exists_step : ∀ k phase there t p, e.InPhase plan scope initial world k phase there t p →
    p.world.cancelled = true → ∃ before after,
      e.InPhase plan scope initial world k phase there t before ∧
      before.step (e.phasePolicy plan phase) = .ok after ∧ before.world.cancelled = false ∧
      after.world.cancelled = true ∧ Pool.Leads (e.phasePolicy plan phase) after p
  /-- At any time a node that has started is inside, or it waits after as many attempts as have been
  told of, or it has ended. -/
  stands : ∀ site : Site κ, e.backend = site.backend → ∀ k phase there t p,
    e.InPhase plan scope initial world k phase there t p → ∀ j c w n block,
      (plan.phaseCalls initial t phase)[j]? = some c → p.pieces[j]? = some ⟨w, some n⟩ →
      p.world.news = there.news ++ block →
        e.HasLeft scope (plan.phaseCalls initial t phase) p j c site.IsInside ∨
        (∃ due, e.HasLeft scope (plan.phaseCalls initial t phase) p j c
          fun i => site.IsWaiting i (attemptsOf c.nodeId block) due) ∨
        ∃ x, w = .done x
  /-- Who waits in the step in which the run is cancelled, and for an instant that has not come,
  ends at the instant of cancellation, with a record that tells of it and of the attempts made. The
  instant is that of a request from outside if nobody within was first. -/
  endsIn : ∀ site : Site κ, e.backend = site.backend → ∀ k phase there t p,
    e.InPhase plan scope initial world k phase there t p → ∀ q,
      p.step (e.phasePolicy plan phase) = .ok q → p.world.cancelled = false →
      q.world.cancelled = true → ∀ j c attempts due,
        e.HasLeft scope (plan.phaseCalls initial t phase) p j c
          (fun i => site.IsWaiting i attempts due) → q.world.now < due →
          (∀ u, world.Expects u → q.world.cancelAt? = some u ∨ q.world.now = u) ∧
          ∃ x, e.EndsIn plan scope initial world (e.phasePolicy plan phase) p q j c.nodeId attempts
            x

/-- **The runs of a compiled plan heed cancellation.** -/
theorem runPlan_cancels (e : Engine κ) (r : Registry β) (g : Graph) (plan : Plan) (scope : Scope)
    (initial : Fields) (world : World (Shared κ) Event) (hplan : g.compile r = .ok plan) :
    e.HeedsCancellation plan scope initial world := by
  have hstaged := (Graph.isPlan_of_compile hplan).1.isStaged
  constructor
  case granted => exact fun now calls hat u hu => hat.expects hu
  case startsNoPhase =>
    exact fun now calls hat hcancelled after run hrun => hat.startsNoPhase hstaged hcancelled hrun
  case stopsBetween =>
    exact fun k there t h hcancelled l _ _ _ _ hkl => h.not_inPhase hcancelled hkl
  case stopsAfter =>
    exact fun k phase there t p h hcancelled l _ _ _ _ hkl => h.not_inPhase hcancelled hkl
  case settles => exact fun after run hrun => exists_contains_of_phaseStarted hstaged hrun
  case completes =>
    intro site hsite h
    refine Completes.exists_runPlan (fun id step inputs config hstep => ?_) hstaged initial world
    rw [hsite]
    exact h.ends_dispatch hstep inputs config
  case cancelled_iff => exact fun after run hrun => Engine.cancelled_iff hstaged hrun
  case cancelled_iff_of_inPhase =>
    exact fun k phase there t p h hcancelled after run hrun =>
      h.cancelled_iff hstaged hcancelled hrun
  case exists_step =>
    exact fun k phase there t p h hcancelled => h.exists_step_of_cancelled hcancelled
  case stands =>
    exact fun site hsite k phase there t p h j c w n block hc hpiece hblock =>
      h.cases_of_piece hstaged hsite hc hpiece hblock
  case endsIn =>
    exact fun site hsite k phase there t p h q hq hgo hcancelled j c attempts due hleft hdue =>
      h.exists_endsIn hstaged hq hgo hcancelled hleft hdue

/-! ### A small run -/

/-- A body that has no value. -/
def stubbornBody : Body Unit := fun _ _ _ => .done (.error (.failed "no value" none))

/-- The types of the small graph. Sources may be attempted three times. -/
def stubbornRegistry : Registry (Body Unit) where
  entries := (Table.empty.insert "source"
      ⟨{ Graph.sampleSource with retry := 2 }, some stubbornBody⟩).insert "sum"
    ⟨Graph.sampleSum, none⟩

theorem eq_of_body?_stubbornRegistry {type : String} {body : Body Unit}
    (h : stubbornRegistry.body? type = some body) : body = stubbornBody := by
  simp only [Registry.body?, stubbornRegistry, Table.get?_insert, Table.get?_empty] at h
  split at h
  · cases h
  · split at h
    · cases h
      rfl
    · cases h

/-- The plan of the small graph with these types. -/
def stubbornPlan : Plan := (Graph.sampleGraph.compile stubbornRegistry).toOption.getD default

theorem compile_stubbornPlan : Graph.sampleGraph.compile stubbornRegistry = .ok stubbornPlan := by
  decide +kernel

/-- Nodes run in process, a tenth of a second after a failed attempt. -/
def stubbornSite : Site Unit := .inProcess stubbornRegistry 100

def stubbornEngine : Engine Unit where
  registry := stubbornRegistry
  backend := stubbornSite.backend

def hastyScope : Scope := ⟨"run", "sample", "", none⟩

/-- The world in which a run begins that will be cancelled after fifty milliseconds. -/
def hastyWorld : World (Shared Unit) Event := (World.start 0 ⟨none, ()⟩).renew (some 50)

/-- The world in which it comes to its first phase. -/
def hastyStart : World (Shared Unit) Event := hastyWorld.tell (.run hastyScope.executionId
  (.started stubbornPlan.graphId (.ofNat stubbornPlan.phases.length)))

/-- The sources, before any of them has started. -/
def hastyPool : Pool (Shared Unit) Event Result :=
  stubbornEngine.phasePool stubbornPlan hastyScope Table.empty Table.empty sourcePhase
    (begun hastyScope 0 sourcePhase hastyStart)

/-- The sources after one more step. -/
def hastyNext (p : Pool (Shared Unit) Event Result) : Pool (Shared Unit) Event Result :=
  (p.step (stubbornEngine.phasePolicy stubbornPlan sourcePhase)).toOption.getD p

theorem step_eq_hastyNext {p : Pool (Shared Unit) Event Result}
    (h : (p.step (stubbornEngine.phasePolicy stubbornPlan sourcePhase)).toOption.isSome = true) :
    p.step (stubbornEngine.phasePolicy stubbornPlan sourcePhase) = .ok (hastyNext p) := by
  rw [hastyNext]
  cases hq : p.step (stubbornEngine.phasePolicy stubbornPlan sourcePhase) with
  | error cause => rw [hq] at h; cases h
  | ok q => rfl

/-- Both sources, having failed once. -/
def failedPool : Pool (Shared Unit) Event Result := hastyNext (hastyNext hastyPool)

/-- They are in the first phase of the run. -/
theorem inPhase_failedPool : stubbornEngine.InPhase stubbornPlan hastyScope Table.empty hastyWorld 0
    sourcePhase hastyStart Table.empty failedPool where
  getElem?_eq := by decide +kernel
  comes := rfl
  goes := rfl
  unfailed := fun _ => rfl
  leads := .tail (.single (step_eq_hastyNext (by decide +kernel)))
    (step_eq_hastyNext (by decide +kernel))

/-- Nobody is inside a body that has no value. -/
theorem not_isInside_stubbornSite (i : Invocation) (w : Work Unit DispatchNews Dispatch) :
    ¬ stubbornSite.IsInside i w := by
  intro h
  cases h with
  | body hbody hr h =>
    obtain rfl := eq_of_body?_stubbornRegistry hbody
    cases h
    exact hr _ rfl

/-- The source `q` waits for its next attempt, a tenth of a second after the first one. -/
theorem hasLeft_failedPool : ∃ c : Call, c.nodeId = "q" ∧ stubbornEngine.HasLeft hastyScope
    (stubbornPlan.phaseCalls Table.empty Table.empty sourcePhase) failedPool 0 c
      fun i => stubbornSite.IsWaiting i 1 100 := by
  have hcall : ((stubbornPlan.phaseCalls Table.empty Table.empty sourcePhase)[0]?.map (·.nodeId)) =
      some "q" := by decide +kernel
  have hwait : (failedPool.pieces[0]?.map fun s => (s.stopped?, s.wait?)) =
      some (some 0, some (.instantOrCancelled 100)) := by decide +kernel
  obtain ⟨c, hc, hid⟩ := Option.map_eq_some_iff.mp hcall
  obtain ⟨⟨w, stopped?⟩, hpiece, hstand⟩ := Option.map_eq_some_iff.mp hwait
  obtain ⟨rfl, hwait⟩ := Prod.mk.inj hstand
  have hnews : failedPool.world.news = hastyStart.news ++ failedPool.world.news.drop 1 := by
    decide +kernel
  have hcount : attemptsOf "q" (failedPool.world.news.drop 1) = 1 := by decide +kernel
  have hsite : stubbornEngine.backend = stubbornSite.backend := rfl
  obtain ⟨-, n, config, start, w, -, hinside⟩ | ⟨due, hleft⟩ | ⟨x, rfl⟩ :=
    inPhase_failedPool.cases_of_piece (Graph.isPlan_of_compile compile_stubbornPlan).1.isStaged
      hsite hc hpiece hnews
  · exact absurd hinside (not_isInside_stubbornSite _ _)
  · rw [hid, hcount] at hleft
    obtain ⟨hc, n, config, start, w, hpiece', hwaiting⟩ := id hleft
    obtain ⟨next, rfl, -⟩ := hwaiting.exists_eq_await
    cases hpiece.symm.trans hpiece'
    cases hwait
    exact ⟨c, hid, hleft⟩
  · cases hwait

/-- In the next step the run is cancelled. -/
theorem now_of_step_failedPool {q : Pool (Shared Unit) Event Result}
    (hq : failedPool.step (stubbornEngine.phasePolicy stubbornPlan sourcePhase) = .ok q) :
    q.world.cancelled = true ∧ q.world.now = 50 := by
  obtain ⟨r, i, rfl | hr, hi, hq⟩ := Pool.step_inv hq
  · have hqueue : failedPool.queue = [] := by decide +kernel
    rw [hqueue] at hi
    cases hi
  have hwoken : Pool.woken
      { failedPool with world := failedPool.world.turn, spell := 0, last? := none } = [] := by
    refine List.eq_nil_iff_forall_not_mem.mpr fun j hj => ?_
    obtain ⟨s, hs, hover, -⟩ := Pool.mem_woken_iff.mp hj
    have hnone : ∀ s ∈ failedPool.pieces,
        s.wait?.any (·.isOver failedPool.world.turn.moment) = false := by decide +kernel
    exact Bool.false_ne_true ((hnone s (List.mem_of_getElem? hs)).symm.trans hover)
  have hturn : failedPool.turn.queue = [] := by
    rw [Pool.turn]
    dsimp only
    rw [hwoken]
    decide +kernel
  rw [Pool.nextTurn, if_pos (by rw [hturn]; rfl)] at hr
  obtain ⟨world, hskip, rfl⟩ := Option.map_eq_some_iff.mp hr
  have hworld : (failedPool.turn.world.skip failedPool.turn.waits).map
      (fun w => (w.cancelled, w.now)) = some (true, 50) := by decide +kernel
  rw [hskip] at hworld
  obtain ⟨hcancelled, hnow⟩ := Prod.mk.inj (Option.some.inj hworld)
  exact ⟨Pool.cancelled_drive hq hcancelled, (Pool.now_drive hq).trans hnow⟩

/-- The small graph, cancelled while its sources wait. The source `q` ends with the one attempt that
it has made, and the sums are not computed any more. -/
theorem cancels_sampleGraph :
    Graph.sampleGraph.compile stubbornRegistry = .ok stubbornPlan ∧ ∃ after run x,
      stubbornEngine.runPlan stubbornPlan hastyScope Table.empty hastyWorld = .ok (after, run) ∧
      run.get? "q" = some x ∧ x.IsCancelled "q" 1 ∧
      (50, abandoned hastyScope "q") ∈ after.log ∧ run.cancelled = true := by
  have hheeds := runPlan_cancels stubbornEngine stubbornRegistry Graph.sampleGraph stubbornPlan
    hastyScope Table.empty hastyWorld compile_stubbornPlan
  obtain ⟨after, run, hrun⟩ := hheeds.completes stubbornSite rfl fun id step _ =>
    ⟨InProcess.isSome_delayMs?_of_base_le (by decide) step.manifest.retry,
      fun body hbody _ _ => eq_of_body?_stubbornRegistry hbody ▸ trivial⟩
  -- The run ends, and so it makes a step from where both sources have failed.
  obtain ⟨q, hq⟩ : ∃ q,
      failedPool.step (stubbornEngine.phasePolicy stubbornPlan sourcePhase) = .ok q := by
    obtain ⟨last, rs, hlast, hrs, -⟩ := inPhase_failedPool.exists_records
      (Graph.isPlan_of_compile compile_stubbornPlan).1.isStaged hrun
    rcases hlast.cases_head with rfl | ⟨q, hq, -⟩
    · have hnone : failedPool.results?.isNone = true := by decide +kernel
      rw [hrs] at hnone
      cases hnone
    · exact ⟨q, hq⟩
  obtain ⟨hcancelled, hnow⟩ := now_of_step_failedPool hq
  obtain ⟨c, hid, hleft⟩ := hasLeft_failedPool
  obtain ⟨-, x, hx⟩ := hheeds.endsIn stubbornSite rfl 0 sourcePhase hastyStart Table.empty
    failedPool inPhase_failedPool q hq (by decide +kernel) hcancelled 0 c 1 100 hleft
    (by rw [hnow]; decide)
  obtain ⟨hget, htold⟩ := hx.atLast after run hrun
  rw [hid] at hget htold
  rw [hnow] at htold
  have hflag := hheeds.cancelled_iff_of_inPhase 0 sourcePhase hastyStart Table.empty q
    (inPhase_failedPool.step hq) hcancelled
  have hphases : 0 + 1 < stubbornPlan.phases.length := by decide +kernel
  exact ⟨compile_stubbornPlan, after, run, x, hrun, hget, hid ▸ hx.isCancelled, htold,
    (hflag after run hrun).mpr hphases⟩

end Engine

end PortGraph
