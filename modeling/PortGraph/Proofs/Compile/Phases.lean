import PortGraph.Compile.Report
import PortGraph.Proofs.Compile.Levels
import PortGraph.Proofs.Compile.Structure

/-!
# What compiling a graph gives

A graph compiles just if it is sound and has no cycle. The plan then has one phase for each depth,
with the nodes of that depth, and a step for each node.

`Graph.IsPlan` is all that is known of a plan without looking into the compiler. Whatever is said
about runs of compiled plans starts from it.

## Main definitions

* `Graph.IsPlan`: the phases and the steps of a plan, in terms of the graph and the registry

## Main results

* `Graph.compile_isOk_iff`: when a graph compiles, and when a cycle is reported
* `Graph.isPlan_of_compile`: what is compiled is a plan of the graph
-/

namespace PortGraph.Graph

variable {β : Type} {r : Registry β} {g : Graph}

/-- What a compiled plan is: a phase for each depth that occurs, and a step for each node. -/
structure IsPlan (r : Registry β) (g : Graph) (plan : Plan) : Prop where
  sound : g.IsSound r
  graphId_eq : plan.graphId = g.id
  phases_eq : ∃ n, plan.phases = (List.range n).map (fun k => phaseOf (g.manifests r) (g.level k)) ∧
    (∀ k < n, g.level k ≠ []) ∧ ∀ id ∈ g.nodeIds, g.Below n id
  step?_eq : ∀ n ∈ g.nodes, ∃ m, r.manifest? n.type = some m ∧
    plan.step? n.id = some ⟨n, m, (g.incoming n.id).map bindingOf⟩
  step?_eq_none : ∀ id ∉ g.nodeIds, plan.step? id = none

/-! ### Errors -/

theorem cycleDetected_notMem_nodeErrors (ids : List String) (before : List String)
    (nodes : List Node) : .cycleDetected ids ∉ nodeErrors r before nodes := by
  induction nodes generalizing before with
  | nil => simp [nodeErrors]
  | cons n rest ih =>
    simp only [nodeErrors, nodeErrorsAfter, List.mem_append, not_or]
    refine ⟨⟨?_, ?_, ?_⟩, ih _⟩ <;> split <;> simp

theorem cycleDetected_notMem_connectionErrors (ids : List String) (manifests : Table Manifest)
    (fed : List Endpoint) (l : List Connection) :
    .cycleDetected ids ∉ g.connectionErrors manifests fed l := by
  induction l generalizing fed with
  | nil => simp [connectionErrors]
  | cons c rest ih =>
    have hend : .cycleDetected ids ∉ g.endErrors c := by
      simp only [endErrors, List.mem_append, not_or]
      constructor <;> split <;> simp
    have hport : portError? manifests c ≠ some (.cycleDetected ids) := by
      intro h
      simp only [portError?] at h
      repeat' split at h
      all_goals simp at h
    simp only [connectionErrors]
    split
    · simp only [List.mem_append, Option.mem_toList, not_or]
      refine ⟨?_, hport, ih _⟩
      split <;> simp
    · rename_i he
      rw [List.mem_append, not_or]
      exact ⟨hend, ih _⟩

/-- A cycle is not among the structural errors. -/
theorem cycleDetected_notMem_structureErrors (ids : List String) :
    .cycleDetected ids ∉ g.structureErrors r := by
  rw [structureErrors, List.mem_append, not_or]
  exact ⟨cycleDetected_notMem_nodeErrors ids [] g.nodes,
    cycleDetected_notMem_connectionErrors ids (g.manifests r) [] g.connections⟩

theorem compile_of_not_isSound (h : ¬ g.IsSound r) :
    ∃ e ∈ g.structureErrors r, g.compile r = .error e := by
  rw [← structureErrors_eq_nil_iff] at h
  obtain ⟨e, rest, he⟩ := List.exists_cons_of_ne_nil h
  exact ⟨e, by simp [he], by simp [compile, he]⟩

/-! ### Phases -/

/-- Both ends of the links of a sound graph are nodes. -/
theorem IsSound.isClosed (h : g.IsSound r) : g.IsClosed := by
  rintro a b ⟨c, hc, hi, rfl, rfl⟩
  exact ⟨(h.source_mem c hc).resolve_left (by simp [hi]), h.target_mem c hc⟩

/-- **The phases of a graph without cycles**, one for each depth. -/
theorem phases_of_acyclic (hg : g.IsClosed) (ha : g.Acyclic) (manifests : Table Manifest) :
    ∃ n, g.phases manifests = .ok ((List.range n).map fun k => phaseOf manifests (g.level k)) ∧
      (∀ k < n, g.level k ≠ []) ∧ ∀ id ∈ g.nodeIds, g.Below n id := by
  obtain ⟨n, hn, hne, hl⟩ := exists_leveling_eq hg
  have hleft : g.unbounded n = [] := by
    have := (leveling_left_eq_nil_iff hg).mpr ha
    rwa [hl] at this
  refine ⟨n, ?_, hne, fun id hid => ?_⟩
  · simp only [phases, hl, hleft, List.isEmpty_nil, if_true, List.map_map]
    rfl
  · -- Nobody has depth `n`, so the bound `n + 1` is the bound `n`.
    have hb := unbounded_eq_nil_iff.mp hleft id hid
    by_contra hnb
    have : id ∈ g.level n := mem_level_iff.mpr ⟨hid, hasDepth_iff.mpr ⟨hb, hnb⟩⟩
    simp [hn] at this

theorem phases_of_not_acyclic (hg : g.IsClosed) (ha : ¬ g.Acyclic) (manifests : Table Manifest) :
    ∃ ids, g.phases manifests = .error (.cycleDetected ids) := by
  have hleft : g.leveling.left ≠ [] := fun h => ha ((leveling_left_eq_nil_iff hg).mp h)
  refine ⟨g.cycleAmong (g.leveling.left.map (·.1)), ?_⟩
  simp [phases, hleft]

/-! ### Steps -/

/-- Adding the steps of distinct nodes with known manifests. -/
theorem addSteps_of_known (g : Graph) {manifests : Table Manifest} (nodes : List Node)
    (hd : (nodes.map (·.id)).Nodup) (hm : ∀ n ∈ nodes, ∃ m, manifests.get? n.id = some m)
    (steps : Table Step) :
    ∃ t, g.addSteps manifests steps nodes = .ok t ∧
      (∀ n ∈ nodes, ∃ m, manifests.get? n.id = some m ∧
        t.get? n.id = some ⟨n, m, (g.incoming n.id).map bindingOf⟩) ∧
      ∀ id ∉ nodes.map (·.id), t.get? id = steps.get? id := by
  induction nodes generalizing steps with
  | nil => exact ⟨steps, rfl, by simp, by simp⟩
  | cons n rest ih =>
    obtain ⟨hn, hrest⟩ := List.nodup_cons.mp hd
    obtain ⟨m, hmn⟩ := hm n (by simp)
    let s : Step := ⟨n, m, (g.incoming n.id).map bindingOf⟩
    obtain ⟨t, ht, hin, hout⟩ := ih hrest (fun x hx => hm x (by simp [hx])) (steps.insert n.id s)
    refine ⟨t, ?_, ?_, ?_⟩
    · simpa [addSteps, stepOf, hmn] using ht
    · rintro x hx
      rcases List.mem_cons.mp hx with rfl | hx
      · exact ⟨m, hmn, by rw [hout _ hn, Table.get?_insert, if_pos rfl]⟩
      · exact hin x hx
    · intro id hid
      simp only [List.map_cons, List.mem_cons, not_or] at hid
      rw [hout id hid.2, Table.get?_insert, if_neg hid.1]

/-- Every node of a sound graph has its manifest in the table. -/
theorem IsSound.exists_manifest (h : g.IsSound r) {n : Node} (hn : n ∈ g.nodes) :
    ∃ m, (g.manifests r).get? n.id = some m ∧ r.manifest? n.type = some m := by
  rw [get?_manifests h.distinct, manifestAt?_eq h.distinct hn]
  obtain ⟨m, hm⟩ : ∃ m, r.manifest? n.type = some m := by
    rw [← Option.isSome_iff_exists]
    simpa [Registry.contains, Table.contains, Registry.manifest?] using h.registered n hn
  exact ⟨m, hm, hm⟩

/-- Every node of a sound graph gets its step. -/
theorem IsSound.exists_addSteps (h : g.IsSound r) :
    ∃ steps, g.addSteps (g.manifests r) Table.empty g.nodes = .ok steps ∧
      (∀ n ∈ g.nodes, ∃ m, r.manifest? n.type = some m ∧
        steps.get? n.id = some ⟨n, m, (g.incoming n.id).map bindingOf⟩) ∧
      ∀ id ∉ g.nodeIds, steps.get? id = none := by
  obtain ⟨steps, hsteps, hin, hout⟩ := addSteps_of_known g g.nodes h.distinct
    (fun n hn => (h.exists_manifest hn).imp fun _ hm => hm.1) Table.empty
  refine ⟨steps, hsteps, fun n hn => ?_, hout⟩
  obtain ⟨m, hm, hstep⟩ := hin n hn
  obtain ⟨m', hm', hregistered⟩ := h.exists_manifest hn
  cases hm.symm.trans hm'
  exact ⟨m, hregistered, hstep⟩

/-! ### Plans -/

theorem compile_of_acyclic (h : g.IsSound r) (ha : g.Acyclic) :
    ∃ plan, g.compile r = .ok plan ∧ g.IsPlan r plan := by
  have hs := (structureErrors_eq_nil_iff r g).mpr h
  obtain ⟨n, hphases, hne, hbelow⟩ := phases_of_acyclic h.isClosed ha (g.manifests r)
  obtain ⟨steps, hsteps, hin, hout⟩ := h.exists_addSteps
  let phases := (List.range n).map fun k => phaseOf (g.manifests r) (g.level k)
  refine ⟨⟨g.id, phases, steps⟩, by simp only [compile, hs, hphases, hsteps, phases], h, rfl,
    ⟨n, rfl, hne, hbelow⟩, hin, hout⟩

theorem compile_of_not_acyclic (h : g.IsSound r) (ha : ¬ g.Acyclic) :
    ∃ ids, g.compile r = .error (.cycleDetected ids) := by
  obtain ⟨ids, hp⟩ := phases_of_not_acyclic h.isClosed ha (g.manifests r)
  exact ⟨ids, by simp only [compile, (structureErrors_eq_nil_iff r g).mpr h, hp]⟩

/-- What is compiled is a plan of the graph, and the graph has no cycle. -/
theorem isPlan_of_compile {plan : Plan} (h : g.compile r = .ok plan) :
    g.IsPlan r plan ∧ g.Acyclic := by
  by_cases hs : g.IsSound r
  · by_cases ha : g.Acyclic
    · obtain ⟨plan', hc, hp⟩ := compile_of_acyclic hs ha
      rw [hc] at h
      cases h
      exact ⟨hp, ha⟩
    · obtain ⟨ids, hc⟩ := compile_of_not_acyclic hs ha
      rw [hc] at h
      cases h
  · obtain ⟨e, -, hc⟩ := compile_of_not_isSound hs
    rw [hc] at h
    cases h

/-- **When a graph compiles**: just if nothing is to be said against its nodes and connections one
by one and no node feeds itself. A cycle is reported just if that alone fails. -/
theorem compile_isOk_iff (r : Registry β) (g : Graph) :
    ((∃ plan, g.compile r = .ok plan) ↔ g.IsSound r ∧ g.Acyclic) ∧
      ((∃ ids, g.compile r = .error (.cycleDetected ids)) ↔ g.IsSound r ∧ ¬ g.Acyclic) := by
  refine ⟨⟨?_, ?_⟩, ⟨?_, ?_⟩⟩
  · rintro ⟨plan, h⟩
    obtain ⟨hp, ha⟩ := isPlan_of_compile h
    exact ⟨hp.sound, ha⟩
  · rintro ⟨hs, ha⟩
    obtain ⟨plan, h, -⟩ := compile_of_acyclic hs ha
    exact ⟨plan, h⟩
  · rintro ⟨ids, h⟩
    by_cases hs : g.IsSound r
    · refine ⟨hs, fun ha => ?_⟩
      obtain ⟨plan, hc, -⟩ := compile_of_acyclic hs ha
      rw [hc] at h
      cases h
    · obtain ⟨e, he, hc⟩ := compile_of_not_isSound hs
      rw [hc] at h
      cases h
      exact absurd he (cycleDetected_notMem_structureErrors ids)
  · rintro ⟨hs, ha⟩
    exact compile_of_not_acyclic hs ha

end PortGraph.Graph
