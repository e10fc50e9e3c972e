import PortGraph.Proofs.Engine.Semantics
import PortGraph.Proofs.Engine.Story

/-!
# The log of a run

What a run tells from its start to its end: that it has started, then for each of its phases that
the phase has started, the stories of its nodes, and that it has completed, then why the next phase
does not start if that is so, and at last that the run has completed. The numbers that are told on
the way are those of the results that the run comes to.

A run comes to its end if its nodes do, whoever cancels it and whenever.

## Main definitions

* `PhasesTold`: what is told of some phases
* `EndTold`: what is told of why the next phase does not start
* `IsLog`: what a run tells from its start to its end
* `Engine.Completes`: whatever is dispatched for a plan comes to its end

## Main results

* `Engine.runPhases_told`: the phases of a run tell of themselves
* `Engine.Completes.exists_runPlan`: a run comes to its end if what is dispatched does
* `Engine.runPlan_isLog`: a run of a compiled plan tells its log
-/

namespace PortGraph

variable {β κ : Type}

/-! ### Logs -/

/-- How many of some nodes have failed. -/
def failuresAmong (t : Table Result) (ids : List String) : Nat :=
  ids.countP fun id => (t.get? id).any (!·.success)

/-- What is told of some phases, the first of which is number `i`, when each of them goes to its end
in a run that comes to the results `t`. -/
inductive PhasesTold (x : String) (limit? : Option Nat) (t : Table Result) :
    Nat → List Phase → List Event → Prop
  | done (i : Nat) : PhasesTold x limit? t i [] []
  | phase {i phase rest block log} (hblock : IsBlock x limit? t phase block)
    (h : PhasesTold x limit? t (i + 1) rest log) :
    PhasesTold x limit? t i (phase :: rest)
      (.run x (.phaseStarted (.ofNat i) phase.nodeIds phase.parallel) :: block ++
        .run x (.phaseCompleted (.ofNat i) (.ofNat (failuresAmong t phase.nodeIds))) :: log)

/-- What is told when the phase after the first `k` ones does not start. -/
inductive EndTold (x : String) (t : Table Result) (k : Nat) : Ending → List Event → Prop
  | finished : EndTold x t k .finished []
  | cancelled : EndTold x t k .cancelled [.run x (.cancelled (.ofNat k))]
  | stopped {ids} (hids : ∀ id, id ∈ ids ↔ ∃ r, t.get? id = some r ∧ r.success = false) :
    EndTold x t k .stopped [.run x (.stopped (.ofNat k) ids)]

/-- What a run of a plan tells from its start to its end. -/
inductive IsLog (x : String) (limit? : Option Nat) (plan : Plan) (run : RunResults) :
    List Event → Prop
  | intro {k phases ending closing} (hk : k ≤ plan.phases.length)
    (hphases : PhasesTold x limit? run.results 0 (plan.phases.take k) phases)
    (hclosing : EndTold x run.results k ending closing)
    (hcancelled : run.cancelled = true ↔ ending = .cancelled)
    (hstopped : run.stoppedOnError = true ↔ ending = .stopped) :
    IsLog x limit? plan run
      (.run x (.started plan.graphId (.ofNat plan.phases.length)) :: phases ++ closing ++
        [.run x (.completed (.ofNat run.succeeded) (.ofNat run.failed) run.durationMs)])

/-! ### The results of a phase -/

/-- Results stand under the ids of their nodes. -/
def IsKeyed (t : Table Result) : Prop := ∀ id r, t.get? id = some r → r.nodeId = id

theorem IsKeyed.foldl_addResult {t : Table Result} (h : IsKeyed t) (found : List Result) :
    IsKeyed (found.foldl addResult t) := by
  intro id r hr
  rw [get?_foldl_addResult, Option.or_eq_some_iff] at hr
  rcases hr with hr | ⟨-, hr⟩
  · exact h id r hr
  · simpa using List.find?_some hr

/-- The nodes that have failed. -/
theorem mem_failedIds {t : Table Result} (h : IsKeyed t) {id : String} :
    id ∈ failedIds t ↔ ∃ r, t.get? id = some r ∧ r.success = false := by
  have hmem {r : Result} : r ∈ t.values ↔ ∃ id, t.get? id = some r := by
    rw [Table.values, List.mem_map]
    constructor
    · rintro ⟨⟨id, r⟩, hr, rfl⟩
      exact ⟨id, Table.find?_eq_some_of_mem t.nodup_keys hr⟩
    · rintro ⟨id, hr⟩
      exact ⟨(id, r), Table.mem_of_find? hr, rfl⟩
  rw [failedIds, List.mem_map]
  constructor
  · rintro ⟨r, hr, rfl⟩
    obtain ⟨hvalue, hfailed⟩ := List.mem_filter.mp hr
    obtain ⟨id, hid⟩ := hmem.mp hvalue
    exact ⟨r, h id r hid ▸ hid, by simpa using hfailed⟩
  · rintro ⟨r, hr, hfailed⟩
    exact ⟨r, List.mem_filter.mpr ⟨hmem.mpr ⟨id, hr⟩, by simp [hfailed]⟩, h id r hr⟩

namespace Plan.StagedFrom

variable {plan : Plan} {known : String → Prop} {phase : Phase} {rest : List Phase}
  {G : Call → Outcome → Prop} {initial : Fields} {t : Table Result} {found : List Result}

/-- There is one result for each node of a phase. -/
theorem nodeIds_perm (h : plan.StagedFrom known (phase :: rest))
    (hfound : Call.YieldAll G (plan.phaseCalls initial t phase) found) :
    (found.map (·.nodeId)).Perm phase.nodeIds := by
  have hids : (plan.phaseCalls initial t phase).map (·.nodeId) = phase.nodeIds :=
    h.nodeId_phaseCalls t
  rw [← hids]
  exact hfound.nodeIds_perm

/-- **No node of a phase has a result before**, and the results of the phase are added. -/
theorem get?_of_mem (h : plan.StagedFrom known (phase :: rest))
    (ht : ∀ id, t.contains id = true ↔ known id)
    (hfound : Call.YieldAll G (plan.phaseCalls initial t phase) found) {r : Result}
    (hr : r ∈ found) : (found.foldl addResult t).get? r.nodeId = some r := by
  have hperm := h.nodeIds_perm hfound
  have hid : r.nodeId ∈ phase.nodeIds := hperm.mem_iff.mp (List.mem_map_of_mem hr)
  have hnew : t.get? r.nodeId = none := by
    rw [← Option.not_isSome_iff_eq_none]
    intro hsome
    exact (h.2.1 _ hid).1 ((ht _).mp hsome)
  rw [get?_foldl_addResult, hnew, Option.none_or]
  exact Table.find?_key_eq_some (hperm.nodup_iff.mpr h.1) hr

theorem contains_foldl_iff (h : plan.StagedFrom known (phase :: rest))
    (ht : ∀ id, t.contains id = true ↔ known id)
    (hfound : Call.YieldAll G (plan.phaseCalls initial t phase) found) (id : String) :
    (found.foldl addResult t).contains id = true ↔ known id ∨ id ∈ phase.nodeIds := by
  rw [Table.contains, get?_foldl_addResult, Option.isSome_or, Bool.or_eq_true,
    List.find?_isSome, ← (h.nodeIds_perm hfound).mem_iff, List.mem_map]
  refine or_congr (ht id) ?_
  simp only [decide_eq_true_eq]

/-- The failures that are counted when a phase ends are those that the results hold. -/
theorem countP_eq_failuresAmong (h : plan.StagedFrom known (phase :: rest))
    (hfound : Call.YieldAll G (plan.phaseCalls initial t phase) found) {t' : Table Result}
    (ht' : ∀ r ∈ found, t'.get? r.nodeId = some r) :
    found.countP (!·.success) = failuresAmong t' phase.nodeIds := by
  rw [failuresAmong, ← (h.nodeIds_perm hfound).countP_eq, List.countP_map]
  refine List.countP_congr fun r hr => ?_
  rw [Function.comp_apply, ht' r hr]
  rfl

end Plan.StagedFrom

namespace Engine

variable {e : Engine κ} {plan : Plan} {scope : Scope} {initial : Fields}

/-! ### The phases -/

/-- **The phases of a run tell of themselves** as far as the run goes, and then why it goes no
further. The results are those of the phases that are told of. -/
theorem runPhases_told {phases : List Phase} {known : String → Prop} {index : Nat}
    {t t' : Table Result} {world after : World (Shared κ) Event} {ending : Ending}
    (hstaged : plan.StagedFrom known phases) (ht : ∀ id, t.contains id = true ↔ known id)
    (hkeyed : IsKeyed t)
    (hrun : e.runPhases plan scope initial index t world phases = .ok (after, t', ending)) :
    ∃ k ≤ phases.length, ∃ told closing,
      after.news = world.news ++ (told ++ closing) ∧
      PhasesTold scope.executionId e.limit? t' index (phases.take k) told ∧
      EndTold scope.executionId t' (index + k) ending closing ∧
      (k = phases.length ↔ ending = .finished) ∧
      ∀ id, t'.contains id = true ↔ known id ∨ id ∈ (phases.take k).flatMap (·.nodeIds) := by
  induction phases generalizing known index t world with
  | nil =>
    cases hrun
    refine ⟨0, Nat.le_refl 0, [], [], ?_, .done index, .finished, by simp, by simp [ht]⟩
    rw [List.append_nil, List.append_nil]
  | cons phase rest ih =>
    cases runPhases_cons_iff.mp hrun with
    | cancelled =>
      refine ⟨0, Nat.zero_le _, [], _, World.news_tell _ _, .done index, .cancelled, ?_, ?_⟩
      · simp
      · simp [ht]
    | stopped =>
      refine ⟨0, Nat.zero_le _, [], _, World.news_tell _ _, .done index,
        .stopped fun id => mem_failedIds hkeyed, ?_, ?_⟩
      · simp
      · simp [ht]
    | @phase there found _ _ _ _ _ hphase hrest =>
      have hfound := runPhase_yieldAny (hstaged.nodup_phaseCalls t) hphase
      obtain ⟨block, hnews, hblock⟩ := isBlock_runPhase hstaged hphase
      obtain ⟨k, hk, told, closing, hafter, htold, hclosing, hend, hcontains⟩ :=
        ih hstaged.2.2 (hstaged.contains_foldl_iff ht hfound) (hkeyed.foldl_addResult found) hrest
      have hget : ∀ r ∈ found, t'.get? r.nodeId = some r := fun r hr =>
        runPhases_isPartOf hrest _ _ (hstaged.get?_of_mem ht hfound hr)
      rw [completed, hstaged.countP_eq_failuresAmong hfound hget] at hafter
      refine ⟨k + 1, Nat.succ_le_succ hk, _, closing, ?_, .phase (hblock t' hget) htold, ?_, ?_,
        fun id => ?_⟩
      · rw [hafter, World.news_tell, hnews, begun, World.news_tell]
        simp only [List.append_assoc, List.cons_append, List.nil_append]
      · rw [← Nat.add_assoc, Nat.add_right_comm]
        exact hclosing
      · rw [List.length_cons, Nat.add_right_cancel_iff]
        exact hend
      · rw [hcontains, List.take_succ_cons, List.flatMap_cons, List.mem_append, or_assoc]

/-! ### Runs that end -/

/-- Whatever is dispatched for the steps of a plan comes to its end. -/
def Completes (e : Engine κ) (plan : Plan) (scope : Scope) : Prop :=
  ∀ id step inputs config, plan.step? id = some step →
    (e.backend.dispatch
      ⟨{ scope with nodeId := step.node.id }, step.manifest, inputs, config⟩).Ends

/-- A phase comes to its end if what is dispatched does. -/
theorem Completes.exists_runPhase (h : e.Completes plan scope) (initial : Fields)
    (t : Table Result) (phase : Phase) (world : World (Shared κ) Event) :
    ∃ after found, e.runPhase plan scope initial t phase world = .ok (after, found) := by
  let works := (stepsOf plan phase).map (e.stepWork scope t initial)
  have hworks : ∀ w ∈ works, w.Ends := by
    intro w hw
    obtain ⟨step, hstep, rfl⟩ := List.mem_map.mp hw
    obtain ⟨id, -, hid⟩ := List.mem_filterMap.mp hstep
    exact (ends_execute fun config => h id step _ config hid).mapNews _
  obtain ⟨after, rs, hrun⟩ := Pool.exists_run_of_ends world
    (fun hne => e.room_pos phase (List.length_pos_iff.mpr hne)) hworks
    (e.order e.limit? works.length)
  refine ⟨after, e.takenUp phase rs, ?_⟩
  simp only [runPhase, works] at hrun ⊢
  rw [hrun]

theorem Completes.exists_runPhases (h : e.Completes plan scope) (initial : Fields)
    (phases : List Phase) (index : Nat) (t : Table Result) (world : World (Shared κ) Event) :
    ∃ after t' ending,
      e.runPhases plan scope initial index t world phases = .ok (after, t', ending) := by
  induction phases generalizing index t world with
  | nil => exact ⟨world, t, .finished, rfl⟩
  | cons phase rest ih =>
    simp only [runPhases]
    split
    · exact ⟨_, t, .cancelled, rfl⟩
    · split
      · exact ⟨_, t, .stopped, rfl⟩
      · obtain ⟨after, found, hphase⟩ := h.exists_runPhase initial t phase (world.tell
          (.run scope.executionId (.phaseStarted (.ofNat index) phase.nodeIds phase.parallel)))
        rw [hphase]
        exact ih (index + 1) _ _

/-- **A run comes to its end if what is dispatched for its plan does**, whoever cancels it and
whenever. -/
theorem Completes.exists_runPlan (h : e.Completes plan scope) (hstaged : plan.IsStaged)
    (initial : Fields) (world : World (Shared κ) Event) :
    ∃ after run, e.runPlan plan scope initial world = .ok (after, run) := by
  obtain ⟨after, t, ending, hphases⟩ := h.exists_runPhases initial plan.phases 0 Table.empty
    (world.tell (.run scope.executionId (.started plan.graphId (.ofNat plan.phases.length))))
  exact ⟨_, _, (runPlan_eq_ok_iff hstaged).mpr ⟨after, t, ending, hphases, rfl, rfl⟩⟩

theorem exists_runPlan_of_ends (h : ∀ i, (e.backend.dispatch i).Ends) (hstaged : plan.IsStaged)
    (scope : Scope) (initial : Fields) (world : World (Shared κ) Event) :
    ∃ after run, e.runPlan plan scope initial world = .ok (after, run) :=
  Completes.exists_runPlan (fun _ _ _ _ _ => h _) hstaged initial world

/-! ### The log -/

/-- What has been told, and what the results are, when a run has come to its end. -/
theorem exists_of_runPlan (hstaged : plan.IsStaged) {world after : World (Shared κ) Event}
    {run : RunResults} (hrun : e.runPlan plan scope initial world = .ok (after, run)) :
    ∃ k ≤ plan.phases.length, ∃ told closing ending,
      after.news = world.news ++
        (.run scope.executionId (.started plan.graphId (.ofNat plan.phases.length)) ::
          told ++ closing ++ [.run scope.executionId
            (.completed (.ofNat run.succeeded) (.ofNat run.failed) run.durationMs)]) ∧
      PhasesTold scope.executionId e.limit? run.results 0 (plan.phases.take k) told ∧
      EndTold scope.executionId run.results k ending closing ∧
      (run.cancelled = true ↔ ending = .cancelled) ∧
      (run.stoppedOnError = true ↔ ending = .stopped) ∧
      (k = plan.phases.length ↔ ending = .finished) ∧
      ∀ id, run.results.contains id = true ↔ id ∈ (plan.phases.take k).flatMap (·.nodeIds) := by
  obtain ⟨last, t, ending, hphases, rfl, rfl⟩ := (runPlan_eq_ok_iff hstaged).mp hrun
  have hempty : ∀ id, (Table.empty : Table Result).contains id = true ↔ False := by
    intro id
    rw [Table.contains, Table.get?_empty]
    simp
  obtain ⟨k, hk, told, closing, hnews, htold, hclosing, hend, hcontains⟩ :=
    runPhases_told hstaged hempty (fun id r hr => by cases hr) hphases
  refine ⟨k, hk, told, closing, ending, ?_, htold, Nat.zero_add k ▸ hclosing, ?_, ?_, hend, ?_⟩
  · rw [World.news_tell, hnews, World.news_tell]
    simp only [List.append_assoc, List.cons_append, List.nil_append]
  · exact decide_eq_true_iff
  · exact decide_eq_true_iff
  · intro id
    rw [show (outcomeOf scope plan world.now last.now t ending).results = t from rfl, hcontains,
      false_or]

/-- **The log of a run.** A run of a compiled plan that has come to its end has told its log,
whatever bodies, caches, limits and failures there are, and whenever it is cancelled. And it does
come to its end if whatever is dispatched does. -/
theorem runPlan_isLog (e : Engine κ) (r : Registry β) (g : Graph) (plan : Plan) (scope : Scope)
    (initial : Fields) (world : World (Shared κ) Event) (hplan : g.compile r = .ok plan) :
    (∀ after run, e.runPlan plan scope initial world = .ok (after, run) →
      ∃ log, after.news = world.news ++ log ∧ IsLog scope.executionId e.limit? plan run log) ∧
    ((∀ i, (e.backend.dispatch i).Ends) →
      ∃ after run, e.runPlan plan scope initial world = .ok (after, run)) := by
  have hstaged := (Graph.isPlan_of_compile hplan).1.isStaged
  constructor
  · intro after run hrun
    obtain ⟨k, hk, told, closing, ending, hnews, htold, hclosing, hcancelled, hstopped, -⟩ :=
      exists_of_runPlan hstaged hrun
    exact ⟨_, hnews, .intro hk htold hclosing hcancelled hstopped⟩
  · intro hends
    exact exists_runPlan_of_ends hends hstaged scope initial world

/-- The small graph, run two nodes at a time and cancelled after seven milliseconds. -/
theorem isLog_sampleGraph :
    Graph.sampleGraph.compile Graph.sampleRegistry = .ok Graph.samplePlan ∧
      (∀ i, (sampleEngine.backend.dispatch i).Ends) ∧ ∃ after run log,
        sampleEngine.runPlan Graph.samplePlan ⟨"run", "sample", "", none⟩ Table.empty
          ((World.start 0 ⟨none, ()⟩).renew (some 7)) = .ok (after, run) ∧
        after.news = log ∧ IsLog "run" (some 2) Graph.samplePlan run log := by
  have hends : ∀ i, (sampleEngine.backend.dispatch i).Ends := fun i m => ⟨rfl, fun _ _ => trivial⟩
  obtain ⟨hlog, hend⟩ := runPlan_isLog sampleEngine Graph.sampleRegistry Graph.sampleGraph
    Graph.samplePlan ⟨"run", "sample", "", none⟩ Table.empty
    ((World.start 0 ⟨none, ()⟩).renew (some 7)) Graph.compile_sampleGraph
  obtain ⟨after, run, hrun⟩ := hend hends
  obtain ⟨log, hnews, hisLog⟩ := hlog after run hrun
  exact ⟨Graph.compile_sampleGraph, hends, after, run, log, hrun, hnews, hisLog⟩

end Engine

end PortGraph
