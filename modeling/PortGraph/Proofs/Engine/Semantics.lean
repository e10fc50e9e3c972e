import PortGraph.Proofs.Compile.Layers
import PortGraph.Proofs.Engine.Run

/-!
# What a run computes

The results of a run are the one solution of the dataflow equations of its graph: each node has the
record of a call whose inputs are gathered from the very results. The equations do not mention
phases, the order in which nodes end, or how many of them may be under way, so none of that shows in
the results.

## Main results

* `Graph.IsPlan.isStaged`: in a compiled plan, values come from earlier phases
* `Engine.runPlan_isSolution`: a run that goes to its end solves the dataflow equations
-/

namespace PortGraph

variable {β κ : Type} {r : Registry β} {g : Graph} {plan : Plan}

namespace Graph

/-- The step of a node, with its manifest and the bindings that its connections make. -/
theorem IsPlan.of_step?_eq_some (h : g.IsPlan r plan) {id : String} {step : Step}
    (hs : plan.step? id = some step) :
    id ∈ g.nodeIds ∧ g.manifestAt? r id = some step.manifest ∧
      step.bindings = (g.incoming id).map bindingOf := by
  by_cases hid : id ∈ g.nodeIds
  · obtain ⟨n, hn, rfl⟩ := List.mem_map.mp hid
    obtain ⟨m, hm, hstep⟩ := h.step?_eq n hn
    cases hs.symm.trans hstep
    exact ⟨hid, (manifestAt?_eq h.sound.distinct hn).trans hm, rfl⟩
  · cases hs.symm.trans (h.step?_eq_none id hid)

/-- Where the value of a binding of a compiled step comes from. -/
theorem feeds_of_mem_bindings {id source port : String} {b : Binding}
    (hb : b ∈ (g.incoming id).map bindingOf) (hs : b.source = .node source port) :
    g.Feeds source id := by
  obtain ⟨c, hc, rfl⟩ := List.mem_map.mp hb
  obtain ⟨hmem, htarget⟩ := List.mem_filter.mp hc
  cases hi : c.isInitial with
  | true => simp [bindingOf, hi] at hs
  | false =>
    simp only [bindingOf, hi, Bool.false_eq_true, if_false, Binding.Source.node.injEq] at hs
    exact ⟨c, hmem, hi, hs.1, of_decide_eq_true htarget⟩

/-- The levels from number `k` on follow those before. -/
theorem IsPlan.stagedFrom (h : g.IsPlan r plan) (n k : Nat) :
    plan.StagedFrom (fun id => ∃ j < k, id ∈ g.level j)
      ((List.range' k n).map fun k => phaseOf (g.manifests r) (g.level k)) := by
  induction n generalizing k with
  | zero => trivial
  | succ n ih =>
    refine ⟨nodup_level h.sound.distinct k, fun id hid => ⟨?_, ?_⟩, ?_⟩
    · rintro ⟨j, hj, hmem⟩
      have := (mem_level_iff.mp hmem).2.unique (mem_level_iff.mp hid).2
      omega
    · obtain ⟨hnode, hdepth⟩ := mem_level_iff.mp hid
      obtain ⟨x, hx, rfl⟩ := List.mem_map.mp hnode
      obtain ⟨m, -, hstep⟩ := h.step?_eq x hx
      refine ⟨_, hstep, rfl, fun b hb source port hs => ?_⟩
      have hfeeds := feeds_of_mem_bindings hb hs
      have hsource := (h.sound.isClosed _ _ hfeeds).1
      obtain ⟨j, hj⟩ := h.exists_hasDepth hsource
      exact ⟨j, hj.lt_of_feeds hdepth hfeeds, mem_level_iff.mpr ⟨hsource, hj⟩⟩
    · have hknown : (fun id => (∃ j < k, id ∈ g.level j) ∨ id ∈ g.level k) =
          fun id => ∃ j < k + 1, id ∈ g.level j := by
        funext id
        simp only [Nat.lt_succ_iff_lt_or_eq, or_and_right, exists_or, exists_eq_left]
      have hnext := ih (k + 1)
      rw [← hknown] at hnext
      exact hnext

/-- **In a compiled plan, values come from earlier phases.** -/
theorem IsPlan.isStaged (h : g.IsPlan r plan) : plan.IsStaged := by
  obtain ⟨n, hn, -, -⟩ := h.phases_eq
  have hstaged := h.stagedFrom n 0
  rw [← List.range_eq_range', ← hn] at hstaged
  have hknown : (fun id => ∃ j < 0, id ∈ g.level j) = fun _ => False := by
    funext id
    simp
  rwa [hknown] at hstaged

end Graph

namespace Engine

/-- Without a cache, every call gets along with what there is. -/
theorem upholds_none (e : Engine κ) (f : NodeFunction) (c : Call) : e.Upholds (· = none) f c :=
  upholds_iff_respects.mpr (e.respects_none _ c)

end Engine

/-- Looking at less of the records keeps a solution a solution. -/
theorem Plan.isSolution_of_bareResults {f : NodeFunction} {initial : Fields} {t : Table Result}
    (h : plan.IsSolution f initial (bareResults t)) : plan.IsSolution f initial t where
  contains_iff id := by rw [← contains_bareResults, h.contains_iff]
  get?_eq id hid := by
    obtain ⟨step, hs, hget⟩ := h.get?_eq id hid
    refine ⟨step, hs, ?_⟩
    rw [get?_bareResults, gather_bareResults, Option.map_map] at hget
    exact hget

namespace Engine

/-- **A run computes the dataflow of its graph.** A compiled plan that is run without a cache, in a
run that neither cancellation nor a failure keeps from starting its phases, comes to its end. There
is one result for each node of the graph, and the results solve the dataflow equations, which have
no other solution. The limit of the engine and the order in which nodes go on may be any, and with
it the order in which they end. -/
theorem runPlan_isSolution (e : Engine κ) (r : Registry β) (g : Graph) (plan : Plan) (scope : Scope)
    (initial : Fields) (f : NodeFunction) (J : κ → Prop) (world : World (Shared κ) Event)
    (hplan : g.compile r = .ok plan) (hb : e.backend.Computes J f) (hstop : e.stopOnError = false)
    (hw : world.IsCalm (Shared.Obeys (· = none) J)) :
    ∃ after run, e.runPlan plan scope initial world = .ok (after, run) ∧
      run.results.keys.Perm g.nodeIds ∧ plan.IsSolution f initial run.results ∧
      ∀ t, plan.IsSolution f initial t → bareResults t = bareResults run.results := by
  obtain ⟨hp, -⟩ := Graph.isPlan_of_compile hplan
  obtain ⟨after, run, hrun, -, hresults⟩ := runPlan_eq hb scope hp.isStaged hw
    fun c (_ : c ∈ plan.calls f e.stopOnError initial) => e.upholds_none f c
  rw [hstop] at hresults
  have hsolution : plan.IsSolution f initial run.results :=
    Plan.isSolution_of_bareResults (hresults ▸ hp.isStaged.isSolution)
  refine ⟨after, run, hrun, ?_, hsolution, fun t ht => hp.isStaged.unique ht hsolution⟩
  refine (List.perm_ext_iff_of_nodup run.results.nodup_keys hp.sound.distinct).mpr fun id => ?_
  rw [← Table.contains_iff_mem_keys, hsolution.contains_iff, hp.mem_nodeIds_iff]

/-! ### A small run -/

/-- The sum of the inputs `a` and `b`, an input that is not there counting for one. -/
def sampleBody (_type : String) (inputs _config : Fields) : Outcome :=
  let term (port : String) : Int := match inputs.get? port with
    | some (.num (.whole i)) => i
    | _ => 1
  .ok (Table.empty.insert "x" (.num (.whole (term "a" + term "b"))))

/-- An engine whose bodies compute that sum in some milliseconds, two of them at a time. -/
def sampleEngine : Engine Unit where
  registry := Graph.sampleRegistry
  backend := ⟨"sample", fun i => (Work.sleep 5).bind fun _ =>
    .done ⟨sampleBody i.manifest.type i.inputs i.config, 1⟩⟩
  limit? := some 2

theorem computes_sampleEngine :
    sampleEngine.backend.Computes (fun _ => True) (.ofType sampleBody) :=
  fun _ _ _ => ⟨rfl, fun _ _ _ => rfl⟩

/-- The small graph, run without a cache. -/
theorem runPlan_sampleGraph :
    Graph.sampleGraph.compile Graph.sampleRegistry = .ok Graph.samplePlan ∧ ∃ after run,
      sampleEngine.runPlan Graph.samplePlan ⟨"run", "sample", "", none⟩ Table.empty
        (.start 0 ⟨none, ()⟩) = .ok (after, run) ∧
      run.results.keys.Perm ["t", "s", "q", "p"] ∧
      Graph.samplePlan.IsSolution (.ofType sampleBody) Table.empty run.results ∧
      ∀ t, Graph.samplePlan.IsSolution (.ofType sampleBody) Table.empty t →
        bareResults t = bareResults run.results :=
  ⟨Graph.compile_sampleGraph, runPlan_isSolution sampleEngine Graph.sampleRegistry Graph.sampleGraph
    Graph.samplePlan ⟨"run", "sample", "", none⟩ Table.empty (.ofType sampleBody) (fun _ => True)
    (.start 0 ⟨none, ()⟩) Graph.compile_sampleGraph computes_sampleEngine rfl
    ⟨rfl, rfl, rfl, trivial⟩⟩

end Engine

end PortGraph
