import PortGraph.Proofs.Engine.Semantics

/-!
# What a failure cannot reach

Two runs of one graph, on engines whose bodies compute the same except at one node: there they may
succeed in one run and fail in the other, or give different outputs. The nodes that come after it,
along connections between nodes, may notice. No other node does, whichever phase it is in: its
inputs are gathered from nodes that do not notice either. In particular a node that fails takes
nothing away from the nodes that it does not feed, be it directly or over others.

## Main definitions

* `Graph.IsSparedBy`: the nodes that do not notice what becomes of another one

## Main results

* `Graph.IsPlan.isSelfFed_isSparedBy`: they get their values from each other
* `Engine.runPlan_isolates`: they have the same results in both runs
-/

namespace PortGraph

open Relation (TransGen)

variable {β κ κ' : Type}

namespace Graph

variable {r : Registry β} {g : Graph} {plan : Plan} {m id : String}

/-- The node `id` is another one than `m`, and nothing leads from `m` to it. -/
structure IsSparedBy (g : Graph) (m id : String) : Prop where
  ne : id ≠ m
  not_transGen : ¬ TransGen g.Feeds m id

/-- What feeds a node that does not notice does not notice either. -/
theorem IsSparedBy.of_feeds {source : String} (h : g.IsSparedBy m id)
    (hfeeds : g.Feeds source id) : g.IsSparedBy m source where
  ne := by
    rintro rfl
    exact h.not_transGen (.single hfeeds)
  not_transGen hm := h.not_transGen (hm.tail hfeeds)

/-- **The nodes that do not notice get their values from each other.** -/
theorem IsPlan.isSelfFed_isSparedBy (h : g.IsPlan r plan) (m : String) :
    plan.IsSelfFed (g.IsSparedBy m) := by
  intro id step hs hid b hb source port hsource
  obtain ⟨-, -, hbindings⟩ := h.of_step?_eq_some hs
  rw [hbindings] at hb
  exact hid.of_feeds (feeds_of_mem_bindings hb hsource)

end Graph

namespace Engine

/-- A run without a cache that nothing keeps from going on solves the dataflow equations. -/
theorem exists_isSolution {e : Engine κ} {r : Registry β} {g : Graph} {plan : Plan}
    (hp : g.IsPlan r plan) {f : NodeFunction} {J : κ → Prop} (hb : e.backend.Computes J f)
    (hstop : e.stopOnError = false) (scope : Scope) (initial : Fields)
    {world : World (Shared κ) Event} (hw : world.IsCalm (Shared.Obeys (· = none) J)) :
    ∃ after run, e.runPlan plan scope initial world = .ok (after, run) ∧
      plan.IsSolution f initial run.results := by
  obtain ⟨after, run, hrun, -, hresults⟩ := runPlan_eq hb scope hp.isStaged hw
    fun c (_ : c ∈ plan.calls f e.stopOnError initial) => e.upholds_none f c
  rw [hstop] at hresults
  have hbare : plan.IsSolution f initial (bareResults run.results) := by
    rw [hresults]
    exact hp.isStaged.isSolution
  exact ⟨after, run, hrun, Plan.isSolution_of_bareResults hbare⟩

/-- **What becomes of a node does not concern those it does not lead to.** Run a compiled plan twice
on the same inputs, without a cache, in runs that neither cancellation nor a failure keeps from
starting their phases. The bodies compute functions that may differ at the node `m` and nowhere
else; apart from that, engines, limits and clocks may be any. Then each node of the graph other than
`m` to which no connections between nodes lead from `m` has a result in both runs, with the same
success, the same outputs and the same error. -/
theorem runPlan_isolates (e : Engine κ) (e' : Engine κ') (r : Registry β) (g : Graph) (plan : Plan)
    (scope scope' : Scope) (initial : Fields) (m : String) (f f' : NodeFunction) (J : κ → Prop)
    (J' : κ' → Prop) (world : World (Shared κ) Event) (world' : World (Shared κ') Event)
    (hplan : g.compile r = .ok plan) (hb : e.backend.Computes J f)
    (hb' : e'.backend.Computes J' f') (hf : ∀ id, id ≠ m → f id = f' id)
    (hstop : e.stopOnError = false) (hstop' : e'.stopOnError = false)
    (hw : world.IsCalm (Shared.Obeys (· = none) J))
    (hw' : world'.IsCalm (Shared.Obeys (· = none) J')) :
    ∃ after run after' run',
      e.runPlan plan scope initial world = .ok (after, run) ∧
      e'.runPlan plan scope' initial world' = .ok (after', run') ∧
      ∀ id ∈ g.nodeIds, id ≠ m → ¬ TransGen g.Feeds m id →
        ∃ x x', run.get? id = some x ∧ run'.get? id = some x' ∧ x.success = x'.success ∧
          x.outputs = x'.outputs ∧ x.error = x'.error := by
  obtain ⟨hp, -⟩ := Graph.isPlan_of_compile hplan
  obtain ⟨after, run, hrun, hsolution⟩ := exists_isSolution hp hb hstop scope initial hw
  obtain ⟨after', run', hrun', hsolution'⟩ := exists_isSolution hp hb' hstop' scope' initial hw'
  refine ⟨after, run, after', run', hrun, hrun', fun id hid hne hapart => ?_⟩
  have hmem : id ∈ plan.nodeIds := hp.mem_nodeIds_iff.mpr hid
  obtain ⟨phase, hphase, hidPhase⟩ := List.mem_flatMap.mp hmem
  have hagree := hp.isStaged.agree hsolution hsolution' (hp.isSelfFed_isSparedBy m)
    (fun id hspared => hf id hspared.ne) (fun _ h => h) (fun _ h => h.elim) phase hphase id
    hidPhase ⟨hne, hapart⟩
  obtain ⟨x, hx⟩ := Option.isSome_iff_exists.mp ((hsolution.contains_iff id).mpr hmem)
  obtain ⟨x', hx'⟩ := Option.isSome_iff_exists.mp ((hsolution'.contains_iff id).mpr hmem)
  rw [hx, hx'] at hagree
  obtain ⟨hsuccess, houtputs, herror⟩ := Result.eq_of_bare (Option.some.inj hagree)
  exact ⟨x, x', hx, hx', hsuccess, houtputs, herror⟩

/-- The sum, except that the node `p` fails. -/
def faultyBody : NodeFunction := fun id m inputs config =>
  if id = "p" then .error (.failed "no value" none) else sampleBody m.type inputs config

/-- An engine with such bodies, any number of which may be under way. -/
def faultyEngine : Engine Unit where
  registry := Graph.sampleRegistry
  backend := ⟨"faulty", fun i => (Work.sleep 9).bind fun _ =>
    .done ⟨faultyBody i.scope.nodeId i.manifest i.inputs i.config, 1⟩⟩

/-- The node `p` of the small graph fails in one of two runs, which does not concern `q`. -/
theorem isolates_sampleGraph :
    Graph.sampleGraph.compile Graph.sampleRegistry = .ok Graph.samplePlan ∧
      faultyBody "p" ≠ NodeFunction.ofType sampleBody "p" ∧
      ¬ TransGen Graph.sampleGraph.Feeds "p" "q" ∧ ∃ after run after' run' x x',
        sampleEngine.runPlan Graph.samplePlan ⟨"first", "sample", "", none⟩ Table.empty
          (.start 0 ⟨none, ()⟩) = .ok (after, run) ∧
        faultyEngine.runPlan Graph.samplePlan ⟨"second", "sample", "", none⟩ Table.empty
          (.start 20 ⟨none, ()⟩) = .ok (after', run') ∧
        run.get? "q" = some x ∧ run'.get? "q" = some x' ∧ x.success = x'.success ∧
        x.outputs = x'.outputs ∧ x.error = x'.error := by
  have hcomputes : faultyEngine.backend.Computes (fun _ => True) faultyBody :=
    fun _ _ _ => ⟨rfl, fun _ _ _ => rfl⟩
  have hf : ∀ id, id ≠ "p" → NodeFunction.ofType sampleBody id = faultyBody id := by
    intro id hid
    funext m inputs config
    rw [faultyBody, if_neg hid, NodeFunction.ofType]
  have hdiffer : faultyBody "p" ≠ NodeFunction.ofType sampleBody "p" := by
    intro h
    have hp := congrFun (congrFun (congrFun h Graph.sampleSource) Table.empty) Table.empty
    cases hp
  have hunfed : ∀ c ∈ Graph.sampleGraph.connections, c.target.node ≠ "q" := by decide
  have hapart : ¬ TransGen Graph.sampleGraph.Feeds "p" "q" := by
    intro h
    obtain ⟨-, -, c, hc, -, -, htarget⟩ := Relation.TransGen.tail'_iff.mp h
    exact hunfed c hc htarget
  obtain ⟨after, run, after', run', hrun, hrun', hsame⟩ := runPlan_isolates sampleEngine
    faultyEngine Graph.sampleRegistry Graph.sampleGraph Graph.samplePlan
    ⟨"first", "sample", "", none⟩ ⟨"second", "sample", "", none⟩ Table.empty "p"
    (.ofType sampleBody) faultyBody (fun _ => True) (fun _ => True) (.start 0 ⟨none, ()⟩)
    (.start 20 ⟨none, ()⟩) Graph.compile_sampleGraph computes_sampleEngine hcomputes hf rfl rfl
    ⟨rfl, rfl, rfl, trivial⟩ ⟨rfl, rfl, rfl, trivial⟩
  obtain ⟨x, x', hx, hx', hequal⟩ := hsame "q" (by decide) (by decide) hapart
  exact ⟨Graph.compile_sampleGraph, hdiffer, hapart, after, run, after', run', x, x', hrun, hrun',
    hx, hx', hequal⟩

end Engine

end PortGraph
