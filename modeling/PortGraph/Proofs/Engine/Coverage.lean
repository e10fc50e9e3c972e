import PortGraph.Proofs.Engine.Log

/-!
# What a run covers

A run of a compiled plan never looks for a step in vain, gathers inputs only from results that are
there, and gets one result for each node. It goes through the first phases of the plan, all of them
unless it is cancelled or stopped, and its results are those of the nodes of these phases.

## Main definitions

* `Engine.ComesTo`: a run comes to one of its phases
* `Engine.IsAt`: where a run may be found, and the calls it has made
* `startedPhases`: how many phases have started, by what is told

## Main results

* `Engine.ComesTo.contains_iff`: the results that are there when a phase starts
* `Engine.runPhases_append`: a run goes through what its first phases come to
* `Engine.runPlan_covers`: what a run covers
-/

namespace PortGraph

variable {β κ : Type}

/-! ### Phases that have started -/

/-- A phase has started. -/
def Event.startsPhase : Event → Bool
  | .run _ (.phaseStarted ..) => true
  | _ => false

/-- How many phases have started, by what is told. -/
def startedPhases (events : List Event) : Nat := events.countP (·.startsPhase)

theorem PhasesTold.startedPhases_eq {x : String} {limit? : Option Nat} {t : Table Result} {i : Nat}
    {phases : List Phase} {log : List Event} (h : PhasesTold x limit? t i phases log) :
    startedPhases log = phases.length := by
  induction h with
  | done i => rfl
  | @phase i phase rest block log hblock _ ih =>
    have hnone : block.countP (·.startsPhase) = 0 := by
      rw [List.countP_eq_zero]
      intro event hevent
      obtain ⟨id, -, news, rfl⟩ := hblock.about event hevent
      exact Bool.false_ne_true
    rw [startedPhases] at ih ⊢
    rw [List.length_cons, ← ih, List.cons_append, List.countP_cons, List.countP_append, hnone,
      List.countP_cons]
    simp [Event.startsPhase]

theorem EndTold.startedPhases_eq {x : String} {t : Table Result} {k : Nat} {ending : Ending}
    {closing : List Event} (h : EndTold x t k ending closing) : startedPhases closing = 0 := by
  cases h <;> rfl

/-- As many phases have started in a run as are told of. -/
theorem startedPhases_log {x : String} {limit? : Option Nat} {t : Table Result}
    {phases : List Phase} {ending : Ending} {told closing : List Event} {graphId : String}
    {total succeeded failed duration : UInt64} {k : Nat}
    (htold : PhasesTold x limit? t 0 phases told) (hclosing : EndTold x t k ending closing) :
    startedPhases (.run x (.started graphId total) :: told ++ closing ++
      [.run x (.completed succeeded failed duration)]) = phases.length := by
  have htold := htold.startedPhases_eq
  have hclosing := hclosing.startedPhases_eq
  rw [startedPhases] at htold hclosing ⊢
  rw [List.countP_append, List.cons_append, List.countP_cons, List.countP_append, htold, hclosing]
  simp [Event.startsPhase]

/-! ### Phases that are still to come -/

namespace Plan

variable {plan : Plan} {known : String → Prop}

/-- Phases that can follow one another do so after any of them. -/
theorem StagedFrom.of_append {phases rest : List Phase}
    (h : plan.StagedFrom known (phases ++ rest)) :
    plan.StagedFrom known phases ∧
      plan.StagedFrom (fun id => known id ∨ id ∈ phases.flatMap (·.nodeIds)) rest := by
  induction phases generalizing known with
  | nil =>
    refine ⟨trivial, ?_⟩
    simpa using h
  | cons phase others ih =>
    obtain ⟨hothers, hrest⟩ := ih h.2.2
    refine ⟨⟨h.1, h.2.1, hothers⟩, ?_⟩
    simpa only [List.flatMap_cons, List.mem_append, or_assoc] using hrest

/-- The first phases can follow one another. -/
theorem IsStaged.take (h : plan.IsStaged) (k : Nat) :
    plan.StagedFrom (fun _ => False) (plan.phases.take k) := by
  rw [IsStaged, ← List.take_append_drop k plan.phases] at h
  exact h.of_append.1

/-- Phase number `k` can follow those before it. -/
theorem IsStaged.stagedFrom_cons (h : plan.IsStaged) {k : Nat} {phase : Phase}
    (hk : plan.phases[k]? = some phase) :
    plan.StagedFrom (fun id => False ∨ id ∈ (plan.phases.take k).flatMap (·.nodeIds))
      (phase :: plan.phases.drop (k + 1)) := by
  obtain ⟨hlt, rfl⟩ := List.getElem?_eq_some_iff.mp hk
  rw [IsStaged, ← List.take_append_drop k plan.phases] at h
  rw [← List.drop_eq_getElem_cons hlt]
  exact h.of_append.2

end Plan

theorem Graph.IsPlan.nonempty_of_getElem? {r : Registry β} {g : Graph} {plan : Plan}
    (h : g.IsPlan r plan) {k : Nat} {phase : Phase} (hk : plan.phases[k]? = some phase) :
    phase.nodeIds ≠ [] := by
  obtain ⟨n, hn, hne, -⟩ := h.phases_eq
  have hlt : k < n := by
    have := (List.getElem?_eq_some_iff.mp hk).1
    rwa [hn, List.length_map, List.length_range] at this
  rw [h.getElem?_phases hk]
  exact hne k hlt

/-- If each node has a result, all phases have been gone through: a phase that has not would hold a
node without one. -/
theorem Graph.IsPlan.eq_length_of_forall_contains {r : Registry β} {g : Graph} {plan : Plan}
    (h : g.IsPlan r plan) {k : Nat} (hk : k ≤ plan.phases.length) {t : Table Result}
    (ht : ∀ id, t.contains id = true ↔ id ∈ (plan.phases.take k).flatMap (·.nodeIds))
    (hall : ∀ id ∈ g.nodeIds, t.contains id = true) : k = plan.phases.length := by
  by_contra hne
  have hlt : k < plan.phases.length := by omega
  have hget := List.getElem?_eq_getElem hlt
  obtain ⟨id, hid⟩ := List.exists_mem_of_ne_nil _ (h.nonempty_of_getElem? hget)
  have hnode : id ∈ plan.nodeIds := List.mem_flatMap.mpr ⟨_, List.getElem_mem hlt, hid⟩
  have hdone := (ht id).mp (hall id (h.mem_nodeIds_iff.mp hnode))
  exact ((h.isStaged.stagedFrom_cons hget).2.1 id hid).1 (.inr hdone)

namespace Engine

variable {e : Engine κ} {r : Registry β} {g : Graph} {plan : Plan} {scope : Scope}
  {initial : Fields} {world : World (Shared κ) Event}

/-- A run that begins in `world` comes to its phase number `k`, if there is one, with the results
`t`, and the world is then `there`. -/
def ComesTo (e : Engine κ) (plan : Plan) (scope : Scope) (initial : Fields)
    (world : World (Shared κ) Event) (k : Nat) (there : World (Shared κ) Event)
    (t : Table Result) : Prop :=
  e.runPhases plan scope initial 0 Table.empty
    (world.tell (.run scope.executionId (.started plan.graphId (.ofNat plan.phases.length))))
    (plan.phases.take k) = .ok (there, t, .finished)

/-- **The results that are there when a phase starts** are those of the nodes of all phases
before. -/
theorem ComesTo.contains_iff (hstaged : plan.IsStaged) {k : Nat} {there : World (Shared κ) Event}
    {t : Table Result} (h : e.ComesTo plan scope initial world k there t) (id : String) :
    t.contains id = true ↔ id ∈ (plan.phases.take k).flatMap (·.nodeIds) := by
  obtain ⟨n, -, told, closing, -, -, -, hend, hcontains⟩ :=
    runPhases_told (hstaged.take k) (fun id => by simp [Table.contains, Table.get?_empty])
      (fun id r hr => by cases hr) h
  rw [hcontains, false_or, hend.mpr rfl, List.take_length]

/-- The nodes that feed the nodes of a phase have results when it starts. -/
theorem ComesTo.contains_source (hstaged : plan.IsStaged) {k : Nat} {phase : Phase}
    (hk : plan.phases[k]? = some phase) {there : World (Shared κ) Event} {t : Table Result}
    (h : e.ComesTo plan scope initial world k there t) :
    ∀ step ∈ stepsOf plan phase, ∀ b ∈ step.bindings, ∀ source port,
      b.source = .node source port → t.contains source = true := by
  intro step hstep b hb source port hs
  obtain ⟨id, hid, hstep⟩ := List.mem_filterMap.mp hstep
  obtain ⟨-, step', hstep', -, hsources⟩ := (hstaged.stagedFrom_cons hk).2.1 id hid
  cases hstep.symm.trans hstep'
  rw [h.contains_iff hstaged]
  exact (hsources b hb source port hs).resolve_left not_false

/-- **No node gets a second result** when those of a phase are added. -/
theorem ComesTo.contains_eq_false (hstaged : plan.IsStaged) {k : Nat} {phase : Phase}
    (hk : plan.phases[k]? = some phase) {there : World (Shared κ) Event} {t : Table Result}
    (h : e.ComesTo plan scope initial world k there t) {now after : World (Shared κ) Event}
    {before rest : List Result} {x : Result}
    (hrun : e.runPhase plan scope initial t phase now = .ok (after, before ++ x :: rest)) :
    (before.foldl addResult t).contains x.nodeId = false := by
  have hphase := hstaged.stagedFrom_cons hk
  have hfound := runPhase_yieldAny (hphase.nodup_phaseCalls t) hrun
  have hperm := hphase.nodeIds_perm hfound
  have hnodup : ((before ++ x :: rest).map (·.nodeId)).Nodup := hperm.nodup_iff.mpr hphase.1
  have hid : x.nodeId ∈ phase.nodeIds := hperm.mem_iff.mp (by simp)
  rw [Table.contains, get?_foldl_addResult, Option.isSome_or, Bool.or_eq_false_iff]
  constructor
  · rw [← Bool.not_eq_true]
    intro hold
    exact (hphase.2.1 _ hid).1 (.inr ((h.contains_iff hstaged _).mp hold))
  · rw [← Bool.not_eq_true, List.find?_isSome]
    rintro ⟨y, hy, hyx⟩
    rw [List.map_append, List.map_cons, List.nodup_append] at hnodup
    exact hnodup.2.2 _ (List.mem_map_of_mem hy) _ List.mem_cons_self (of_decide_eq_true hyx)

/-! ### Where a run may be found -/

/-- Where a run that begins in `world` may be found: between two phases, or in the middle of one.
It has then made some calls, those of the phase that it is in included. -/
inductive IsAt (e : Engine κ) (plan : Plan) (scope : Scope) (initial : Fields)
    (world : World (Shared κ) Event) : World (Shared κ) Event → List Call → Prop
  | between {k there t} (h : e.ComesTo plan scope initial world k there t) :
    IsAt e plan scope initial world there (plan.callsOf initial t)
  | within {k phase there t pool} (hk : plan.phases[k]? = some phase)
    (h : e.ComesTo plan scope initial world k there t) (hgo : there.cancelled = false)
    (hfailed : e.stopOnError = true → failedIds t = [])
    (hpool : Pool.Leads (e.phasePolicy plan phase) (e.phasePool plan scope initial t phase
      (there.tell (.run scope.executionId
        (.phaseStarted (.ofNat k) phase.nodeIds phase.parallel)))) pool) :
    IsAt e plan scope initial world pool.world
      (plan.callsOf initial t ++ plan.phaseCalls initial t phase)

/-- **A run goes through what its first phases come to**: it goes on from there, unless it is left
off before. -/
theorem runPhases_append (e : Engine κ) (plan : Plan) (scope : Scope) (initial : Fields)
    (index : Nat) (t : Table Result) (world : World (Shared κ) Event) (phases rest : List Phase) :
    e.runPhases plan scope initial index t world (phases ++ rest) =
      match e.runPhases plan scope initial index t world phases with
      | .ok (after, t', .finished) =>
        e.runPhases plan scope initial (index + phases.length) t' after rest
      | leftOff => leftOff := by
  induction phases generalizing index t world with
  | nil => rfl
  | cons phase others ih =>
    simp only [List.cons_append, runPhases]
    split
    · rfl
    · split
      · rfl
      · split
        · rfl
        · rw [ih, List.length_cons, Nat.add_assoc, Nat.add_comm 1]

/-! ### The end of a run -/

theorem summary_of_runPlan (hstaged : plan.IsStaged) {after : World (Shared κ) Event}
    {run : RunResults} (hrun : e.runPlan plan scope initial world = .ok (after, run)) :
    run.summary = plan.summary := by
  obtain ⟨last, t, ending, -, rfl, -⟩ := (runPlan_eq_ok_iff hstaged).mp hrun
  rfl

/-- A run whose nodes have all succeeded is a success, if the nodes can be counted. -/
theorem isSuccess_of_forall (hp : g.IsPlan r plan) (hsize : g.nodes.length < UInt64.size)
    {run : RunResults} (hsummary : run.summary = plan.summary)
    (hkeys : run.results.keys.Perm plan.nodeIds) (hcancelled : run.cancelled = false)
    (hstopped : run.stoppedOnError = false)
    (hall : ∀ id ∈ g.nodeIds, ∃ x, run.get? id = some x ∧ x.success = true) :
    run.isSuccess = true := by
  have hfailed : run.failed = 0 := by
    rw [RunResults.failed, List.countP_eq_zero]
    intro x hx
    obtain ⟨⟨id, y⟩, hy, rfl⟩ := List.mem_map.mp hx
    have hid : id ∈ g.nodeIds :=
      hp.mem_nodeIds_iff.mp (hkeys.mem_iff.mp (List.mem_map_of_mem hy))
    obtain ⟨z, hz, hsuccess⟩ := hall id hid
    have hget : run.get? id = some y := Table.find?_eq_some_of_mem run.results.nodup_keys hy
    cases hget.symm.trans hz
    simp [hsuccess]
  have hcount : plan.nodeIds.length = g.nodes.length := by
    have hperm : plan.nodeIds.Perm g.nodeIds :=
      (List.perm_ext_iff_of_nodup hp.nodup_nodeIds hp.sound.distinct).mpr fun id =>
        hp.mem_nodeIds_iff
    rw [hperm.length_eq, Graph.nodeIds, List.length_map]
  have hlength : run.results.size = plan.nodeIds.length := by
    rw [← hkeys.length_eq, Table.size, Table.keys, List.length_map]
  have htotal : run.summary.totalNodes.toNat = plan.nodeIds.length := by
    rw [hsummary, Plan.summary, Plan.nodeCount, hcount]
    exact UInt64.toNat_ofNat_of_lt' hsize
  simp [RunResults.isSuccess, hcancelled, hstopped, hfailed, hlength, htotal]

/-- Each node of a successful run that has gone through all phases has succeeded. -/
theorem exists_of_isSuccess (hp : g.IsPlan r plan) {run : RunResults}
    (hkeys : run.results.keys.Perm plan.nodeIds) (h : run.isSuccess = true) :
    ∀ id ∈ g.nodeIds, ∃ x, run.get? id = some x ∧ x.success = true := by
  intro id hid
  have hmem : id ∈ run.results.keys := hkeys.mem_iff.mpr (hp.mem_nodeIds_iff.mpr hid)
  obtain ⟨x, hx⟩ := Option.isSome_iff_exists.mp (Table.contains_iff_mem_keys.mpr hmem)
  have hvalue : x ∈ run.results.values := List.mem_map_of_mem (Table.mem_of_find? hx)
  simp only [RunResults.isSuccess, Bool.and_eq_true, decide_eq_true_eq] at h
  have hfailed := List.countP_eq_zero.mp h.1.2 x hvalue
  exact ⟨x, hx, by simpa using hfailed⟩

/-- **What a run covers.** A run of a compiled plan, whatever bodies, caches, limits and failures
there are and whenever it is cancelled, does not miss a step. When one of its phases starts, each
node that feeds one of its nodes has a result, and no node of it has; none gets two. When the run
has come to its end, it has results for the nodes of the phases that have started, and no others.
These are all phases unless the run has been cancelled or stopped, and only one of the two. It is a
success just if each node of the graph has a record of success; the nodes are counted in 64 bits. -/
theorem runPlan_covers (e : Engine κ) (r : Registry β) (g : Graph) (plan : Plan) (scope : Scope)
    (initial : Fields) (world : World (Shared κ) Event) (hplan : g.compile r = .ok plan) :
    (∀ id, e.runPlan plan scope initial world ≠ .error (.missingStep id)) ∧
    (∀ k phase there t, plan.phases[k]? = some phase →
      e.ComesTo plan scope initial world k there t →
        (∀ step ∈ stepsOf plan phase, ∀ b ∈ step.bindings, ∀ source port,
          b.source = .node source port → t.contains source = true) ∧
        ∀ now after before x rest,
          e.runPhase plan scope initial t phase now = .ok (after, before ++ x :: rest) →
            (before.foldl addResult t).contains x.nodeId = false) ∧
    ∀ after run, e.runPlan plan scope initial world = .ok (after, run) →
      ∃ log k, after.news = world.news ++ log ∧ startedPhases log = k ∧
        run.results.keys.Perm ((plan.phases.take k).flatMap (·.nodeIds)) ∧
        k ≤ plan.phases.length ∧
        (k < plan.phases.length ↔ run.cancelled = true ∨ run.stoppedOnError = true) ∧
        ¬ (run.cancelled = true ∧ run.stoppedOnError = true) ∧
        (run.isSuccess = true → ∀ id ∈ g.nodeIds, ∃ x, run.get? id = some x ∧ x.success = true) ∧
        (g.nodes.length < UInt64.size →
          (∀ id ∈ g.nodeIds, ∃ x, run.get? id = some x ∧ x.success = true) →
            run.isSuccess = true) := by
  obtain ⟨hp, -⟩ := Graph.isPlan_of_compile hplan
  have hstaged := hp.isStaged
  refine ⟨?missing, ?reached, ?ended⟩
  case missing =>
    intro id herror
    rw [runPlan, missingStep?_eq_none hstaged] at herror
    dsimp only at herror
    split at herror <;> cases herror
  case reached =>
    intro k phase there t hk h
    exact ⟨h.contains_source hstaged hk,
      fun now after before x rest hrun => h.contains_eq_false hstaged hk hrun⟩
  case ended =>
    intro after run hrun
    obtain ⟨k, hk, told, closing, ending, hnews, htold, hclosing, hcancelled, hstopped, hend,
      hcontains⟩ := exists_of_runPlan hstaged hrun
    have hkeys : run.results.keys.Perm ((plan.phases.take k).flatMap (·.nodeIds)) := by
      have hnodup := hp.nodup_nodeIds
      rw [Plan.nodeIds, ← List.take_append_drop k plan.phases, List.flatMap_append] at hnodup
      refine (List.perm_ext_iff_of_nodup run.results.nodup_keys hnodup.of_append_left).mpr ?_
      intro id
      rw [← Table.contains_iff_mem_keys, hcontains]
    have hflags : k < plan.phases.length ↔ run.cancelled = true ∨ run.stoppedOnError = true := by
      rw [Nat.lt_iff_le_and_ne, and_iff_right hk, ne_eq, hend, hcancelled, hstopped]
      cases ending <;> simp
    have hall (hlength : k = plan.phases.length) : run.results.keys.Perm plan.nodeIds := by
      rw [hlength, List.take_length] at hkeys
      exact hkeys
    refine ⟨_, k, hnews, ?_, hkeys, hk, hflags, ?_, ?_, ?_⟩
    · rw [startedPhases_log htold hclosing, List.length_take, Nat.min_eq_left hk]
    · rw [hcancelled, hstopped]
      rintro ⟨rfl, h⟩
      cases h
    · intro h
      have hnot : ¬ k < plan.phases.length := by
        rw [hflags]
        simp only [RunResults.isSuccess, Bool.and_eq_true, Bool.not_eq_true'] at h
        simp [h.1.1]
      exact exists_of_isSuccess hp (hall (by omega)) h
    · intro hsize hsuccess
      have hlength : k = plan.phases.length := by
        refine hp.eq_length_of_forall_contains hk hcontains fun id hid => ?_
        obtain ⟨x, hx, -⟩ := hsuccess id hid
        exact Option.isSome_iff_exists.mpr ⟨x, hx⟩
      have hno : ¬ (run.cancelled = true ∨ run.stoppedOnError = true) := by
        rw [← hflags]
        omega
      simp only [not_or, Bool.not_eq_true] at hno
      exact isSuccess_of_forall hp hsize (summary_of_runPlan hstaged hrun) (hall hlength) hno.1
        hno.2 hsuccess

/-- The first phase of the small graph. -/
def sourcePhase : Phase := ⟨["q", "p"], true⟩

/-- The small graph, run two nodes at a time and cancelled after seven milliseconds. -/
theorem covers_sampleGraph :
    Graph.sampleGraph.compile Graph.sampleRegistry = .ok Graph.samplePlan ∧
      ∃ after run log k,
        sampleEngine.runPlan Graph.samplePlan ⟨"run", "sample", "", none⟩ Table.empty
          ((World.start 0 ⟨none, ()⟩).renew (some 7)) = .ok (after, run) ∧
        after.news = log ∧ startedPhases log = k ∧
        run.results.keys.Perm ((Graph.samplePlan.phases.take k).flatMap (·.nodeIds)) ∧
        (k < 3 ↔ run.cancelled = true ∨ run.stoppedOnError = true) := by
  let world : World (Shared Unit) Event := (World.start 0 ⟨none, ()⟩).renew (some 7)
  have hends : ∀ i, (sampleEngine.backend.dispatch i).Ends := fun i m => ⟨rfl, fun _ _ => trivial⟩
  have hplan := Graph.compile_sampleGraph
  have hstaged := (Graph.isPlan_of_compile hplan).1.isStaged
  obtain ⟨after, run, hrun⟩ := exists_runPlan_of_ends hends hstaged
    ⟨"run", "sample", "", none⟩ Table.empty world
  obtain ⟨-, -, hended⟩ := runPlan_covers sampleEngine Graph.sampleRegistry Graph.sampleGraph
    Graph.samplePlan ⟨"run", "sample", "", none⟩ Table.empty world hplan
  obtain ⟨log, k, hnews, hk, hkeys, -, hflags, -⟩ := hended after run hrun
  have hphases : Graph.samplePlan.phases.length = 3 := by decide +kernel
  exact ⟨hplan, after, run, log, k, hrun, hnews, hk, hkeys, hphases ▸ hflags⟩

end Engine

end PortGraph
