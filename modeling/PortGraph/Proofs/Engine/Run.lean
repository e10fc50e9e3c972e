import PortGraph.Proofs.Engine.Calls
import PortGraph.Proofs.Work.Pool

/-!
# Runs that nobody cancels

If the bodies compute a function, a run that nobody cancels comes to its end, and its results are,
apart from metadata, what the dataflow of its plan evaluates to. How many nodes may be under way,
who goes on when several can, and how long anything takes make no difference.

What the nodes of an engine share comes in by an invariant of the cache. All that is asked of it is
that the calls of the run keep it up, and that what is found in the cache is the outcome of the call
(`Engine.Upholds`). Having no cache at all is one such invariant.

## Main definitions

* `Backend.Computes`: the bodies compute a function
* `Engine.Upholds`: a call gets along with the cache

## Main results

* `Engine.exists_runPlan`: a run comes to its end if all calls settle
* `Engine.bareResults_eq_conclude`: the order in which the nodes of a phase end does not show
* `Engine.runPlan_eq`: a run comes to its end, with the results that the dataflow evaluates to
-/

namespace PortGraph

variable {κ : Type}

/-- The bodies compute `f` in a run that nobody cancels, as long as everybody keeps what bodies
share within `J`. -/
def Backend.Computes (b : Backend κ) (J : κ → Prop) (f : NodeFunction) : Prop :=
  ∀ i : Invocation, (b.dispatch i).Settles J fun d =>
    d.result = f i.scope.nodeId i.manifest i.inputs i.config

namespace Engine

variable {e : Engine κ} {C : Option Cache → Prop} {J : κ → Prop} {f : NodeFunction}

/-- A call gets along with the invariant `C` of the cache, if its type makes use of the cache: what
it finds is its outcome, and storing its outcome keeps up the invariant. -/
structure Upholds (e : Engine κ) (C : Option Cache → Prop) (f : NodeFunction) (c : Call) :
    Prop where
  lookup : c.step.manifest.capabilities.cacheable = true → ∀ (s : Shared κ) now, C s.cache? →
    C (s.lookup now (e.keyOf c.step c.inputs)).2.cache? ∧
      ∀ outputs, (s.lookup now (e.keyOf c.step c.inputs)).1 = some outputs →
        c.outcome f = .ok outputs
  store : c.step.manifest.capabilities.cacheable = true → ∀ (s : Shared κ) now outputs, C s.cache? →
    c.outcome f = .ok outputs → C (s.store now (e.keyOf c.step c.inputs) outputs).cache?

/-! ### Calls -/

/-- To uphold the invariant is to get along with it, having one outcome. -/
theorem upholds_iff_respects {c : Call} : e.Upholds C f c ↔ e.Respects C (c.outcome f = ·) c :=
  ⟨fun h => ⟨h.lookup, h.store⟩, fun h => ⟨h.lookup, h.store⟩⟩

/-- **A call of a body that computes a function settles, with the record of its outcome.** -/
theorem Upholds.settles_execute (hb : e.backend.Computes J f) (scope : Scope) {c : Call}
    (hscope : scope.nodeId = c.nodeId) (hc : e.Upholds C f c) :
    (e.execute scope c.step c.inputs).Settles (Shared.Obeys C J)
      (c.Yields fun c o => c.outcome f = o) := by
  refine Engine.settles_execute (G := fun c o => c.outcome f = o) scope
    (upholds_iff_respects.mp hc) ?_
  refine (settles_invoke (F := .ofFunction f) scope c fun config => ?_).mono
    fun d hd => hd.outcome_eq
  refine (hb ⟨scope, c.step.manifest, c.inputs, config⟩).mono fun d hd => ?_
  rw [← hscope]
  exact hd

/-! ### Phases -/

variable {plan : Plan} {initial : Fields}

theorem room_pos (e : Engine κ) (phase : Phase) {width : Nat} (h : 1 ≤ width) :
    1 ≤ e.room phase width := by
  rw [room]
  split
  · cases e.limit? with
    | none => exact h
    | some n => exact Nat.le_max_left 1 n
  · exact Nat.le_refl 1

theorem takenUp_perm (e : Engine κ) (phase : Phase) (found : List (Nat × Result)) :
    (e.takenUp phase found).Perm (found.map (·.2)) := by
  rw [takenUp]
  split
  · exact Pool.asEnded_perm found
  · exact .refl _

/-- The works of a phase are those of its calls. -/
theorem exists_call_of_getElem? {scope : Scope} {t : Table Result} {phase : Phase} {j : Nat}
    {w : Work (Shared κ) Event Result}
    (hj : ((stepsOf plan phase).map (e.stepWork scope t initial))[j]? = some w) :
    ∃ c, (plan.phaseCalls initial t phase)[j]? = some c ∧
      w = (e.execute { scope with nodeId := c.nodeId } c.step c.inputs).mapNews
        (Event.node scope.executionId c.nodeId) := by
  obtain ⟨step, hstep, rfl⟩ := Option.map_eq_some_iff.mp (List.getElem?_map ▸ hj)
  refine ⟨⟨step, gather step t initial⟩, ?_, rfl⟩
  rw [Plan.phaseCalls, List.getElem?_map, hstep, Option.map_some]

/-- The results of a phase, in whatever order they are taken up, are records of its calls if each of
the works has ended with one. -/
theorem yieldAll_takenUp {G : Call → Outcome → Prop} {calls : List Call} (phase : Phase)
    {found : List (Nat × Result)} (hlen : found.length = calls.length)
    (h : ∀ (j : Nat) r, found[j]? = some r → ∃ c, calls[j]? = some c ∧ c.Yields G r.2) :
    Call.YieldAll G calls (e.takenUp phase found) := by
  refine ⟨found.map (·.2), List.forall₂_iff_get.mpr ⟨?_, fun j hj hj' => ?_⟩,
    e.takenUp_perm phase found⟩
  · rw [List.length_map, hlen]
  · have hjf : j < found.length := by simpa using hj'
    obtain ⟨c, hc, hyields⟩ := h j found[j] (List.getElem?_eq_getElem hjf)
    obtain ⟨_, rfl⟩ := List.getElem?_eq_some_iff.mp hc
    simpa using hyields

/-- **The nodes of a phase all end** if their calls settle, each with a record of its call. -/
theorem exists_runPhase {G : Call → Outcome → Prop} (scope : Scope) (initial : Fields)
    (t : Table Result) {phase : Phase} {world : World (Shared κ) Event}
    (hw : world.IsCalm (Shared.Obeys C J))
    (hcalls : ∀ c ∈ plan.phaseCalls initial t phase,
      (e.execute { scope with nodeId := c.nodeId } c.step c.inputs).Settles (Shared.Obeys C J)
        (c.Yields G)) :
    ∃ after found, e.runPhase plan scope initial t phase world = .ok (after, found) ∧
      after.IsCalm (Shared.Obeys C J) ∧
      Call.YieldAll G (plan.phaseCalls initial t phase) found := by
  let works := (stepsOf plan phase).map (e.stepWork scope t initial)
  have hworks : ∀ (j : Nat) w, works[j]? = some w → Work.Settles (Shared.Obeys C J)
      (fun r => ∃ c, (plan.phaseCalls initial t phase)[j]? = some c ∧ c.Yields G r) w := by
    intro j w hj
    obtain ⟨c, hc, rfl⟩ := exists_call_of_getElem? hj
    exact ((hcalls c (List.mem_of_getElem? hc)).mapNews _).mono fun r hr => ⟨c, hc, hr⟩
  obtain ⟨after, found, hrun, hcalm, hlen, hfound⟩ := Pool.run_start hw
    (fun hne => e.room_pos phase (List.length_pos_iff.mpr hne)) hworks
    (e.order e.limit? works.length)
  refine ⟨after, e.takenUp phase found, ?_, hcalm, yieldAll_takenUp phase ?_ hfound⟩
  · simp only [runPhase, works] at hrun ⊢
    rw [hrun]
  · simp [hlen, works, Plan.phaseCalls]

/-- The nodes of a phase all end, each with the record of its call. -/
theorem runPhase_eq (hb : e.backend.Computes J f) (scope : Scope) {t : Table Result} {phase : Phase}
    {world : World (Shared κ) Event} (hw : world.IsCalm (Shared.Obeys C J))
    (hcalls : ∀ c ∈ plan.phaseCalls initial t phase, e.Upholds C f c) :
    ∃ after found, e.runPhase plan scope initial t phase world = .ok (after, found) ∧
      after.IsCalm (Shared.Obeys C J) ∧
      (found.map Result.bare).Perm ((plan.phaseCalls initial t phase).map (Call.record f)) := by
  obtain ⟨after, found, hrun, hcalm, hfound⟩ := exists_runPhase scope initial t hw
    fun c hc => (hcalls c hc).settles_execute hb { scope with nodeId := c.nodeId } rfl
  exact ⟨after, found, hrun, hcalm, hfound.map_bare⟩

/-- **In whatever order the nodes of a phase end**, their results are added up to what the phase
comes to. -/
theorem bareResults_eq_conclude {t : Table Result} {known : String → Prop} {phase : Phase}
    {rest : List Phase} (h : plan.StagedFrom known (phase :: rest)) {found : List Result}
    (hfound : (found.map Result.bare).Perm
      ((plan.phaseCalls initial t phase).map (Call.record f))) :
    bareResults (found.foldl addResult t) =
      conclude f (bareResults t) (plan.phaseCalls initial t phase) := by
  have hnodes : (plan.phaseCalls initial t phase).map (·.nodeId) = phase.nodeIds :=
    h.nodeId_phaseCalls t
  have hdistinct : ((found.map Result.bare).map (·.nodeId)).Nodup := by
    rw [(hfound.map _).nodup_iff, List.map_map]
    simp only [Function.comp_def, Call.nodeId_record, hnodes]
    exact h.1
  rw [bareResults_foldl_addResult, foldl_addResult_perm hfound hdistinct, conclude]

theorem isCalm_tell {I : Shared κ → Prop} {world : World (Shared κ) Event} (h : world.IsCalm I)
    (news : Event) : (world.tell news).IsCalm I :=
  ⟨h.cancelled_eq, h.cancelAt?_eq, h.state⟩

/-- The phases come to an end if all calls of steps of the plan settle. -/
theorem exists_runPhases {G : Call → Outcome → Prop} (scope : Scope) (initial : Fields)
    (index : Nat) (t : Table Result) {known : String → Prop} {phases : List Phase}
    (hstaged : plan.StagedFrom known phases) {world : World (Shared κ) Event}
    (hw : world.IsCalm (Shared.Obeys C J))
    (hcalls : ∀ c : Call, plan.step? c.nodeId = some c.step →
      (e.execute { scope with nodeId := c.nodeId } c.step c.inputs).Settles (Shared.Obeys C J)
        (c.Yields G)) :
    ∃ after t' ending,
      e.runPhases plan scope initial index t world phases = .ok (after, t', ending) ∧
      after.IsCalm (Shared.Obeys C J) ∧ ending ≠ .cancelled := by
  induction phases generalizing index t known world with
  | nil => exact ⟨world, t, .finished, rfl, hw, nofun⟩
  | cons phase rest ih =>
    simp only [runPhases, hw.cancelled_eq, Bool.false_eq_true, if_false]
    split
    · exact ⟨_, t, .stopped, rfl, isCalm_tell hw _, nofun⟩
    · obtain ⟨after, found, hrun, hcalm, -⟩ :=
        exists_runPhase scope initial t (isCalm_tell hw _) fun c hc =>
          hcalls c (hstaged.of_mem_phaseCalls hc).2.1
      rw [hrun]
      exact ih (index + 1) _ hstaged.2.2 (isCalm_tell hcalm _)

/-- The phases come to an end, with the results that the dataflow evaluates to. -/
theorem runPhases_eq (hb : e.backend.Computes J f) (scope : Scope) (index : Nat)
    (t : Table Result) {known : String → Prop} {phases : List Phase}
    (hstaged : plan.StagedFrom known phases) {world : World (Shared κ) Event}
    (hw : world.IsCalm (Shared.Obeys C J))
    (hcalls : ∀ c ∈ plan.callsFrom f e.stopOnError initial (bareResults t) phases,
      e.Upholds C f c) :
    ∃ after t' ending,
      e.runPhases plan scope initial index t world phases = .ok (after, t', ending) ∧
      after.IsCalm (Shared.Obeys C J) ∧ bareResults t' = conclude f (bareResults t)
        (plan.callsFrom f e.stopOnError initial (bareResults t) phases) := by
  induction phases generalizing index t known world with
  | nil => exact ⟨world, t, .finished, rfl, hw, rfl⟩
  | cons phase rest ih =>
    simp only [runPhases, hw.cancelled_eq, Bool.false_eq_true, if_false]
    simp only [Plan.callsFrom, failedIds_bareResults] at hcalls ⊢
    split
    · rename_i hstop
      refine ⟨_, t, .stopped, rfl, isCalm_tell hw _, ?_⟩
      simp [conclude]
    · rename_i hstop
      simp only [hstop, Bool.false_eq_true, if_false, List.forall_mem_append] at hcalls ⊢
      have hphase :
          plan.phaseCalls initial (bareResults t) phase = plan.phaseCalls initial t phase := by
        simp only [Plan.phaseCalls, gather_bareResults]
      rw [hphase] at hcalls ⊢
      obtain ⟨after, found, hrun, hcalm, hfound⟩ := runPhase_eq hb scope
        (isCalm_tell hw _) hcalls.1
      rw [hrun]
      have hbare := bareResults_eq_conclude hstaged hfound
      obtain ⟨after', t', ending, hrest, hcalm', ht'⟩ := ih (index + 1) _ hstaged.2.2
        (isCalm_tell hcalm _) (hbare ▸ hcalls.2)
      refine ⟨after', t', ending, hrest, hcalm', ?_⟩
      rw [ht', hbare, conclude_append]

/-! ### Plans -/

theorem missingStep?_eq_none (h : plan.IsStaged) : missingStep? plan = none := by
  refine List.find?_eq_none.mpr fun id hid => ?_
  obtain ⟨phase, hphase, hid⟩ := List.mem_flatMap.mp hid
  obtain ⟨step, hs⟩ := Plan.StagedFrom.exists_step h phase hphase id hid
  simp [hs]

/-- **A run comes to what its phases come to.** -/
theorem runPlan_eq_ok_iff (h : plan.IsStaged) {world after : World (Shared κ) Event}
    {run : RunResults} :
    e.runPlan plan scope initial world = .ok (after, run) ↔ ∃ last t ending,
      e.runPhases plan scope initial 0 Table.empty (world.tell
        (.run scope.executionId (.started plan.graphId (.ofNat plan.phases.length)))) plan.phases =
          .ok (last, t, ending) ∧
      run = outcomeOf scope plan world.now last.now t ending ∧
      after = last.tell (.run scope.executionId
        (.completed (.ofNat run.succeeded) (.ofNat run.failed) run.durationMs)) := by
  rw [runPlan, missingStep?_eq_none h]
  dsimp only
  constructor
  · intro hrun
    split at hrun
    · cases hrun
    · rename_i hphases
      cases hrun
      exact ⟨_, _, _, hphases, rfl, rfl⟩
  · rintro ⟨last, t, ending, hphases, rfl, rfl⟩
    rw [hphases]

/-- **A run that nobody cancels comes to its end**, with the results that the dataflow of its plan
evaluates to. -/
theorem runPlan_eq (hb : e.backend.Computes J f) (scope : Scope) (hstaged : plan.IsStaged)
    {world : World (Shared κ) Event} (hw : world.IsCalm (Shared.Obeys C J))
    (hcalls : ∀ c ∈ plan.calls f e.stopOnError initial, e.Upholds C f c) :
    ∃ after run, e.runPlan plan scope initial world = .ok (after, run) ∧
      after.IsCalm (Shared.Obeys C J) ∧
      bareResults run.results = plan.evaluate f e.stopOnError initial := by
  let news := RunNews.started plan.graphId (UInt64.ofNat plan.phases.length)
  obtain ⟨after, t, ending, hrun, hcalm, ht⟩ := runPhases_eq hb scope 0 Table.empty hstaged
    (isCalm_tell hw (.run scope.executionId news)) hcalls
  simp only [runPlan, missingStep?_eq_none hstaged, news, hrun] at hrun ⊢
  exact ⟨_, _, rfl, isCalm_tell hcalm _, ht⟩

/-- **A run that nobody cancels comes to its end** if all calls of steps of the plan settle. -/
theorem exists_runPlan {G : Call → Outcome → Prop} (scope : Scope) (initial : Fields)
    (hstaged : plan.IsStaged) {world : World (Shared κ) Event}
    (hw : world.IsCalm (Shared.Obeys C J))
    (hcalls : ∀ c : Call, plan.step? c.nodeId = some c.step →
      (e.execute { scope with nodeId := c.nodeId } c.step c.inputs).Settles (Shared.Obeys C J)
        (c.Yields G)) :
    ∃ after run, e.runPlan plan scope initial world = .ok (after, run) ∧
      run.cancelled = false := by
  let news := RunNews.started plan.graphId (UInt64.ofNat plan.phases.length)
  obtain ⟨after, t, ending, hrun, -, hending⟩ := exists_runPhases scope initial 0
    Table.empty hstaged (isCalm_tell hw (.run scope.executionId news)) hcalls
  simp only [runPlan, missingStep?_eq_none hstaged, news, hrun] at hrun ⊢
  exact ⟨_, _, rfl, by simpa [outcomeOf] using hending⟩

end Engine

end PortGraph
