import PortGraph.Proofs.Validation
import PortGraph.Proofs.Engine.Waiting

/-!
# Records

A node comes to its record by one of four ways: it is found in the cache, its inputs or its
configuration are not valid, or it has been dispatched. Each record of a run goes back to one of
these ways for the step of its node, with the inputs that the final results give it.

So a record can be relied on for more than the outcome. It names an error just if the node has
failed, and has outputs only if it has not. It counts no attempt just if there was none to count:
the outputs were remembered, validation has kept the node from being dispatched, or there was no
body to start. Otherwise it counts at least one, and no more than the type of the node allows.

## Main definitions

* `Engine.Exit`: the ways to a record
* `Site.Refuses`: what keeps a node from being attempted
* `Site.IsRecord`: what can be relied on in a record

## Main results

* `Engine.exit_of_tells`: an execution comes to its end by one of the ways
* `Engine.exists_exit_of_runPlan`: so does each record of a run
* `Engine.Exit.isRecord`: what can be relied on whichever way it was
-/

namespace PortGraph

variable {κ : Type}

/-! ### The ways to a record -/

namespace Engine

/-- How an execution of a step with its inputs comes to its record. -/
inductive Exit (e : Engine κ) (scope : Scope) (step : Step) (inputs : Fields) : Result → Prop
  /-- Outputs are found that have been remembered. -/
  | hit {duration : UInt64} {outputs : Fields}
    (hcacheable : step.manifest.capabilities.cacheable = true) :
    Exit e scope step inputs (record scope step duration true 0 (.ok outputs))
  | inputs {duration : UInt64} {err : NodeError}
    (hinputs : step.manifest.validateInputs inputs = .error err) :
    Exit e scope step inputs (record scope step duration false 0 (.error err))
  | config {duration : UInt64} {err : NodeError}
    (hinputs : step.manifest.validateInputs inputs = .ok ())
    (hconfig : step.manifest.validateConfig step.node.config = .error err) :
    Exit e scope step inputs (record scope step duration false 0 (.error err))
  | dispatched {duration : UInt64} {config : Fields} {told : List DispatchNews} {d : Dispatch}
    (hinputs : step.manifest.validateInputs inputs = .ok ())
    (hconfig : step.manifest.validateConfig step.node.config = .ok config)
    (hdispatch : (e.backend.dispatch ⟨scope, step.manifest, inputs, config⟩).Tells told (.done d)) :
    Exit e scope step inputs
      (record scope step duration false d.attempts (step.manifest.check d.result))

variable {e : Engine κ} {scope : Scope} {step : Step} {inputs : Fields}

theorem attempts_checked (m : Manifest) (d : Dispatch) : (checked m d).attempts = d.attempts := by
  rw [checked]
  split
  · split <;> rfl
  · rfl

/-- Only what may be remembered is found. -/
theorem cacheable_of_remembered {told : List NodeNews} {outputs : Fields}
    (h : (e.remembered step inputs).Tells told (.done (some outputs))) :
    step.manifest.capabilities.cacheable = true := by
  rw [remembered] at h
  split at h
  · assumption
  · cases h

/-- The record at the end of a node. -/
theorem record_of_close {start : Nat} {cached : Bool} {attempts : UInt32} {o : Outcome}
    {told : List NodeNews} {x : Result}
    (h : (close (κ := κ) scope step start cached attempts o).Tells told (.done x)) :
    ∃ duration, x = record scope step duration cached attempts o := by
  rw [close] at h
  cases h with
  | observe h =>
    cases h with
    | tell h =>
      cases h
      exact ⟨_, rfl⟩

/-- **An execution comes to its end by one of the ways.** -/
theorem exit_of_tells {told : List NodeNews} {x : Result}
    (h : (e.execute scope step inputs).Tells told (.done x)) : e.Exit scope step inputs x := by
  rw [execute] at h
  cases h with
  | observe h =>
    cases h with
    | tell h =>
      obtain ⟨found, _, _, -, hfound, h⟩ := h.of_bind
      cases found with
      | some outputs =>
        obtain ⟨duration, rfl⟩ := record_of_close h
        exact .hit (cacheable_of_remembered hfound)
      | none =>
        obtain ⟨d, _, _, -, hinvoke, h⟩ := Work.Tells.of_bind h
        obtain ⟨_, _, _, -, -, h⟩ := h.of_bind
        obtain ⟨duration, rfl⟩ := record_of_close h
        rw [invoke] at hinvoke
        split at hinvoke
        · rename_i err hinputs
          cases hinvoke
          exact .inputs hinputs
        · rename_i hinputs
          split at hinvoke
          · rename_i err hconfig
            cases hinvoke
            exact .config hinputs hconfig
          · rename_i config hconfig
            obtain ⟨d', _, _, -, hwithin, hdone⟩ := hinvoke.of_bind
            cases hdone
            obtain ⟨_, -, hdispatch⟩ := hwithin.of_within.of_mapNews
            rw [attempts_checked, result_checked]
            exact .dispatched hinputs hconfig hdispatch

theorem Exit.nodeId_eq {x : Result} (h : e.Exit scope step inputs x) : x.nodeId = step.node.id := by
  cases h <;> rfl

/-! ### The records of a run -/

variable {plan : Plan} {initial : Fields} {t t' : Table Result}

/-- Each record of a phase goes back to a call of the phase. -/
theorem exists_exit_of_runPhase {phase : Phase} {world after : World (Shared κ) Event}
    {found : List Result}
    (hrun : e.runPhase plan scope initial t phase world = .ok (after, found)) {x : Result}
    (hx : x ∈ found) : ∃ c ∈ plan.phaseCalls initial t phase,
      e.Exit { scope with nodeId := c.nodeId } c.step c.inputs x := by
  obtain ⟨rs, hpool, rfl⟩ := exists_run_of_runPhase hrun
  rw [phasePool] at hpool
  obtain ⟨told, -, haccount⟩ := Pool.exists_account
    (fun hne => e.room_pos phase (List.length_pos_iff.mpr hne)) hpool
  obtain ⟨y, hy, rfl⟩ := List.mem_map.mp ((e.takenUp_perm phase rs).mem_iff.mp hx)
  obtain ⟨j, hj⟩ := List.mem_iff_getElem?.mp hy
  have hlt : j < ((stepsOf plan phase).map (e.stepWork scope t initial)).length :=
    haccount.length ▸ (List.getElem?_eq_some_iff.mp hj).1
  have hwork := List.getElem?_eq_getElem hlt
  have htells := haccount.tells j _ _ hwork hj
  obtain ⟨c, hc, hstep⟩ := exists_call_of_getElem? hwork
  rw [hstep] at htells
  obtain ⟨_, -, hexecute⟩ := htells.of_mapNews
  exact ⟨c, List.mem_of_getElem? hc, exit_of_tells hexecute⟩

/-- Each record of some phases goes back to a call with inputs from the final results, unless it was
there before. -/
theorem exists_exit_of_runPhases {phases : List Phase} {known : String → Prop} {index : Nat}
    {world after : World (Shared κ) Event} {ending : Ending}
    (hstaged : plan.StagedFrom known phases) (ht : ∀ id, known id → t.contains id = true)
    (hrun : e.runPhases plan scope initial index t world phases = .ok (after, t', ending))
    {id : String} {x : Result} (hx : t'.get? id = some x) :
    t.get? id = some x ∨ ∃ step, plan.step? id = some step ∧ step.node.id = id ∧
      e.Exit { scope with nodeId := id } step (gather step t' initial) x := by
  induction phases generalizing known index t world with
  | nil =>
    cases hrun
    exact .inl hx
  | cons phase rest ih =>
    cases runPhases_cons_iff.mp hrun with
    | cancelled | stopped => exact .inl hx
    | @phase there found _ _ _ _ _ hphase hrest =>
      have hfound := runPhase_yieldAny (hstaged.nodup_phaseCalls t) hphase
      refine (ih hstaged.2.2 (fun id hid => hstaged.contains_foldl ht hfound hid) hrest).elim
        (fun hold => ?_) .inr
      rw [get?_foldl_addResult, Option.or_eq_some_iff] at hold
      refine hold.imp_right fun ⟨_, hfind⟩ => ?_
      obtain ⟨c, hc, hexit⟩ := exists_exit_of_runPhase hphase (List.mem_of_find?_eq_some hfind)
      obtain ⟨-, hstep, hinputs, hsources⟩ := hstaged.of_mem_phaseCalls hc
      have hid : c.nodeId = id := by
        rw [Call.nodeId, ← hexit.nodeId_eq]
        simpa using List.find?_some hfind
      have hpart : t.IsPartOf t' := fun id r hr =>
        runPhases_isPartOf hrest id r (isPartOf_foldl_addResult found t id r hr)
      have hgather : gather c.step t initial = gather c.step t' initial :=
        Plan.gather_eq_of_isPartOf hpart fun b hb source port hs =>
          ht source (hsources b hb source port hs)
      subst hid
      exact ⟨c.step, hstep, rfl, hgather ▸ hinputs ▸ hexit⟩

/-- **Each record of a run goes back to an execution** of the step of its node, with the inputs that
the final results give it. -/
theorem exists_exit_of_runPlan {world after : World (Shared κ) Event} {run : RunResults}
    (hstaged : plan.IsStaged) (hrun : e.runPlan plan scope initial world = .ok (after, run))
    {id : String} {x : Result} (hx : run.get? id = some x) :
    ∃ step, plan.step? id = some step ∧ step.node.id = id ∧
      e.Exit { scope with nodeId := id } step (gather step run.results initial) x := by
  obtain ⟨last, t, ending, hphases, rfl, -⟩ := (runPlan_eq_ok_iff hstaged).mp hrun
  exact (exists_exit_of_runPhases hstaged (fun _ h => h.elim) hphases hx).resolve_left nofun

end Engine

/-! ### What can be relied on -/

namespace Site

/-- Whether there is something to run nodes of a type: a body in process, and the service else. -/
def hasRuntime : Site κ → String → Bool
  | .inProcess registry _, type => (registry.body? type).isSome
  | .remote .., _ => true

/-- Whether nodes run as tasks. -/
def isRemote : Site κ → Bool
  | .inProcess .. => false
  | .remote .. => true

/-- How often a node may be attempted. -/
def mostAttempts : Site κ → Manifest → Nat
  | .inProcess .., m => m.retry.toNat + 1
  | .remote .., _ => 1

/-- What keeps a node from being attempted, with the code that is recorded for it: what validation
says before it is dispatched, or that there is nothing to run it. -/
inductive Refuses (site : Site κ) (step : Step) (inputs : Fields) : NodeError → ErrorCode → Prop
  | inputs {problems : List String}
    (h : step.manifest.validateInputs inputs = .error (.invalidInputs problems)) :
    Refuses site step inputs (.invalidInputs problems) .invalidInputs
  | config {problems : List String} (hinputs : step.manifest.validateInputs inputs = .ok ())
    (h : step.manifest.validateConfig step.node.config = .error (.invalidConfig problems)) :
    Refuses site step inputs (.invalidConfig problems) .invalidConfig
  | runtime {config : Fields} (hinputs : step.manifest.validateInputs inputs = .ok ())
    (hconfig : step.manifest.validateConfig step.node.config = .ok config)
    (h : site.hasRuntime step.manifest.type = false) :
    Refuses site step inputs (.runtimeNotFound step.manifest.type) .notFound

/-- What can be relied on in the record of a step with its inputs. -/
structure IsRecord (site : Site κ) (step : Step) (inputs : Fields) (x : Result) : Prop where
  error_iff : x.error.isSome = true ↔ x.success = false
  outputs_eq : x.success = false → x.outputs = Table.empty
  /-- Outputs that have been remembered are a success without an attempt. -/
  of_cached : x.metadata.cached = true → x.success = true ∧ x.metadata.attempts = 0
  /-- No attempt is counted just if there was none. -/
  attempts_eq_zero_iff : x.metadata.attempts = 0 ↔ x.metadata.cached = true ∨
    ∃ err code, site.Refuses step inputs err code ∧ x.error = some (.ofError err) ∧
      x.errorCode? = some code
  attempts_le : x.metadata.attempts.toNat ≤ site.mostAttempts step.manifest
  /-- What has been dispatched as a task has been attempted once. -/
  once : site.isRemote = true → x.metadata.cached = false →
    (∀ err code, ¬ site.Refuses step inputs err code) → x.metadata.attempts = 1
  /-- What succeeds anew is valid. -/
  validateOutputs : x.success = true → x.metadata.cached = false →
    step.manifest.validateOutputs x.outputs = .ok ()

variable {site : Site κ} {step : Step} {inputs : Fields}

/-- How often a node has been attempted that was dispatched. -/
theorem attempts_of_tells {i : Invocation} {told : List DispatchNews} {d : Dispatch}
    (h : (site.backend.dispatch i).Tells told (.done d)) :
    d.attempts.toNat ≤ site.mostAttempts i.manifest ∧
      (site.hasRuntime i.manifest.type = true → d.attempts ≠ 0) ∧
      (site.hasRuntime i.manifest.type = false →
        d = ⟨.error (.runtimeNotFound i.manifest.type), 0⟩) ∧
      (site.isRemote = true → d.attempts = 1) := by
  cases site with
  | inProcess registry base =>
    obtain ⟨hnone, rfl⟩ | ⟨hsome, hpos, hmost⟩ := InProcess.attempts_of_tells h
    · exact ⟨Nat.zero_le _, by simp [hasRuntime, hnone], fun _ => rfl, nofun⟩
    · refine ⟨hmost, fun _ hzero => ?_, fun hnone => ?_, nofun⟩
      · simp [hzero] at hpos
      · cases hsome.symm.trans hnone
  | remote service c =>
    obtain ⟨o, _, _, -, -, hdone⟩ := Work.Tells.of_bind h
    cases hdone
    exact ⟨Nat.le_refl 1, fun _ => show (1 : UInt32) ≠ 0 by decide, nofun, fun _ => rfl⟩

end Site

/-- **What can be relied on in a record**, whichever way it has come about. -/
theorem Engine.Exit.isRecord {site : Site κ} {e : Engine κ} (he : e.backend = site.backend)
    {scope : Scope} {step : Step} {inputs : Fields} {x : Result}
    (h : e.Exit scope step inputs x) : site.IsRecord step inputs x := by
  cases h with
  | hit =>
    refine ⟨?_, nofun, fun _ => ⟨rfl, rfl⟩, iff_of_true rfl (.inl rfl), Nat.zero_le _, nofun, nofun⟩
    exact iff_of_false nofun nofun
  | @inputs _ err hinputs =>
    obtain ⟨-, rfl⟩ := Manifest.validateInputs_eq_error_iff.mp hinputs
    refine ⟨iff_of_true rfl rfl, fun _ => rfl, nofun, ?_, Nat.zero_le _, ?_, nofun⟩
    · exact iff_of_true rfl (.inr ⟨_, _, .inputs hinputs, rfl, rfl⟩)
    · exact fun _ _ hnone => (hnone _ _ (.inputs hinputs)).elim
  | @config _ err hinputs hconfig =>
    have hproblems := hconfig
    rw [Manifest.validateConfig] at hproblems
    split at hproblems
    · cases hproblems
    · cases hproblems
      refine ⟨iff_of_true rfl rfl, fun _ => rfl, nofun, ?_, Nat.zero_le _, ?_, nofun⟩
      · exact iff_of_true rfl (.inr ⟨_, _, .config hinputs hconfig, rfl, rfl⟩)
      · exact fun _ _ hnone => (hnone _ _ (.config hinputs hconfig)).elim
  | @dispatched _ config _ d hinputs hconfig hdispatch =>
    rw [he] at hdispatch
    obtain ⟨hmost, hattempted, hmissing, honce⟩ := Site.attempts_of_tells hdispatch
    refine ⟨?_, ?_, nofun, ⟨fun hzero => ?_, ?_⟩, hmost, fun hremote _ _ => honce hremote, ?_⟩
    · cases step.manifest.check d.result <;> simp [record, Except.isOk, Except.toBool]
    · cases step.manifest.check d.result <;> simp [record, Except.isOk, Except.toBool]
    · cases hruntime : site.hasRuntime step.manifest.type with
      | true => exact absurd hzero (hattempted hruntime)
      | false =>
        cases hmissing hruntime
        exact .inr ⟨_, _, .runtime hinputs hconfig hruntime, rfl, rfl⟩
    · rintro (hcached | ⟨err, code, hrefuses, -⟩)
      · cases hcached
      · cases hrefuses with
        | inputs h => cases hinputs.symm.trans h
        | config _ h => cases hconfig.symm.trans h
        | runtime _ _ h => exact congrArg Dispatch.attempts (hmissing h)
    · intro hsuccess _
      cases hcheck : step.manifest.check d.result with
      | error err => simp [record, hcheck, Except.isOk, Except.toBool] at hsuccess
      | ok outputs => exact (Manifest.check_eq_ok_iff.mp hcheck).2

end PortGraph
