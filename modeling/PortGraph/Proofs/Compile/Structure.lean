import PortGraph.Compile.Structure
import PortGraph.Proofs.Table

/-!
# Graphs without structural errors

The conditions under which nothing is said against a graph one node and one connection at a time,
each stated on its own. The checks that find the errors build on one another: a connection with an
unknown end is looked at no further, and manifests are found by node id, in a table in which a
repeated id hides another node. Since all conditions are asked at once, none of this shows.

## Main definitions

* `Graph.manifestAt?`: the manifest that the registry has for the type of a node
* `Graph.Fits`: the ports of a connection exist and their types go together
* `Graph.IsSound`: all the conditions

## Main results

* `Graph.structureErrors_eq_nil_iff`: there are no structural errors just if the graph is sound
-/

namespace PortGraph.Graph

variable {β : Type} {r : Registry β} {g : Graph}

/-- The manifest that the registry has for the type of a node. -/
def manifestAt? (r : Registry β) (g : Graph) (id : String) : Option Manifest :=
  (g.find? id).bind fun n => r.manifest? n.type

/-- The target port of a connection is a declared input and, unless the value comes from the inputs
of the run, the source port is a declared output of a type that the target port accepts. -/
def Fits (r : Registry β) (g : Graph) (c : Connection) : Prop :=
  ∃ m p, g.manifestAt? r c.target.node = some m ∧ m.inputPort? c.target.port = some p ∧
    (c.isInitial = false → ∃ s q, g.manifestAt? r c.source.node = some s ∧
      s.outputPort? c.source.port = some q ∧ p.type.acceptsPort q.type = true)

/-- Nothing can be said against the nodes and the connections of a graph one by one. -/
structure IsSound (r : Registry β) (g : Graph) : Prop where
  distinct : g.nodeIds.Nodup
  unreserved : initialNode ∉ g.nodeIds
  registered : ∀ n ∈ g.nodes, r.contains n.type = true
  target_mem : ∀ c ∈ g.connections, c.target.node ∈ g.nodeIds
  source_mem : ∀ c ∈ g.connections, c.isInitial = true ∨ c.source.node ∈ g.nodeIds
  fits : ∀ c ∈ g.connections, g.Fits r c
  /-- No input is fed by two connections. -/
  fed_once : (g.connections.map (·.target)).Nodup

/-! ### Manifests by node id -/

theorem manifestAt?_eq (hd : g.nodeIds.Nodup) {n : Node} (hn : n ∈ g.nodes) :
    g.manifestAt? r n.id = r.manifest? n.type := by
  have hfound : g.find? n.id = some n := Table.find?_key_eq_some hd hn
  rw [manifestAt?, hfound]
  rfl

theorem manifestAt?_eq_none {id : String} (h : id ∉ g.nodeIds) : g.manifestAt? r id = none := by
  have : g.find? id = none := List.find?_eq_none.mpr fun n hn he =>
    h (List.mem_map.mpr ⟨n, hn, by simpa using he⟩)
  rw [manifestAt?, this]
  rfl

/-- The entries of the table of manifests have the ids of nodes as their keys, in order. -/
theorem keys_manifests_sublist (r : Registry β) (nodes : List Node) :
    ((nodes.filterMap fun n => (r.manifest? n.type).map fun m => (n.id, m)).map (·.1)).Sublist
      (nodes.map (·.id)) := by
  induction nodes with
  | nil => simp
  | cons n rest ih =>
    cases h : r.manifest? n.type with
    | none => simpa [h] using ih.cons n.id
    | some m => simpa [h] using ih.cons_cons n.id

/-- With distinct node ids, the table holds for each node the manifest of its type. -/
theorem get?_manifests (hd : g.nodeIds.Nodup) (id : String) :
    (g.manifests r).get? id = g.manifestAt? r id := by
  have hkeys := (keys_manifests_sublist r g.nodes).nodup hd
  by_cases hid : id ∈ g.nodeIds
  · obtain ⟨n, hn, rfl⟩ := List.mem_map.mp hid
    rw [manifestAt?_eq hd hn]
    cases hm : r.manifest? n.type with
    | some m =>
      exact Table.get?_ofList_of_mem hkeys (List.mem_filterMap.mpr ⟨n, hn, by simp [hm]⟩)
    | none =>
      refine Table.get?_ofList_eq_none_iff.mpr fun h => ?_
      obtain ⟨⟨k, m⟩, he, hk⟩ := List.mem_map.mp h
      obtain ⟨n', hn', h'⟩ := List.mem_filterMap.mp he
      obtain ⟨m', hm', he'⟩ := Option.map_eq_some_iff.mp h'
      cases he'
      obtain rfl := List.inj_on_of_nodup_map hd hn' hn hk
      simp [hm] at hm'
  · rw [manifestAt?_eq_none hid]
    exact Table.get?_ofList_eq_none_iff.mpr fun h =>
      hid ((keys_manifests_sublist r g.nodes).subset h)

/-! ### Nodes -/

theorem nodeErrors_eq_nil_iff (r : Registry β) (before : List String) (nodes : List Node) :
    nodeErrors r before nodes = [] ↔
      (∀ n ∈ nodes, n.id ≠ initialNode ∧ r.contains n.type = true) ∧
        (nodes.map (·.id)).Nodup ∧ ∀ n ∈ nodes, n.id ∉ before := by
  induction nodes generalizing before with
  | nil => simp [nodeErrors]
  | cons n rest ih =>
    have hn : nodeErrorsAfter r before n = [] ↔
        n.id ≠ initialNode ∧ n.id ∉ before ∧ r.contains n.type = true := by
      simp [nodeErrorsAfter]
    rw [nodeErrors, List.append_eq_nil_iff, hn, ih, List.map_cons, List.nodup_cons]
    simp only [List.forall_mem_cons, List.mem_append, List.mem_singleton, not_or, List.mem_map]
    constructor
    · rintro ⟨⟨h1, h2, h3⟩, h4, h5, h6⟩
      refine ⟨⟨⟨h1, h3⟩, h4⟩, ⟨?_, h5⟩, h2, fun m hm => (h6 m hm).1⟩
      rintro ⟨m, hm, he⟩
      exact (h6 m hm).2 he
    · rintro ⟨⟨⟨h1, h3⟩, h4⟩, ⟨h7, h5⟩, h2, h6⟩
      exact ⟨⟨h1, h2, h3⟩, h4, h5, fun m hm => ⟨h6 m hm, fun he => h7 ⟨m, hm, he⟩⟩⟩

/-! ### Connections -/

theorem endErrors_eq_nil_iff {c : Connection} :
    g.endErrors c = [] ↔
      (c.isInitial = true ∨ c.source.node ∈ g.nodeIds) ∧ c.target.node ∈ g.nodeIds := by
  cases h : c.isInitial <;> simp [endErrors, h]

theorem connectionErrors_eq_nil_iff (manifests : Table Manifest) (fed : List Endpoint)
    (l : List Connection) :
    g.connectionErrors manifests fed l = [] ↔
      (∀ c ∈ l, g.endErrors c = [] ∧ portError? manifests c = none) ∧
        (l.map (·.target)).Nodup ∧ ∀ c ∈ l, c.target ∉ fed := by
  induction l generalizing fed with
  | nil => simp [connectionErrors]
  | cons c rest ih =>
    cases he : g.endErrors c with
    | cons e errors => simp [connectionErrors, he]
    | nil =>
      have hfed : (if fed.contains c.target then
          [CompileError.ambiguousInput c.target.node c.target.port] else []) = [] ↔
          c.target ∉ fed := by simp
      simp only [connectionErrors, he]
      rw [List.append_eq_nil_iff, hfed, List.append_eq_nil_iff, Option.toList_eq_nil_iff, ih,
        List.map_cons, List.nodup_cons, List.forall_mem_cons, List.forall_mem_cons]
      simp only [he, List.mem_cons, not_or, List.mem_map, true_and]
      constructor
      · rintro ⟨h1, h2, h3, h4, h5⟩
        refine ⟨⟨h2, h3⟩, ⟨?_, h4⟩, h1, fun d hd => (h5 d hd).2⟩
        rintro ⟨d, hd, hdc⟩
        exact (h5 d hd).1 hdc
      · rintro ⟨⟨h2, h3⟩, ⟨h6, h4⟩, h1, h5⟩
        exact ⟨h1, h2, h3, h4, fun d hd => ⟨fun hdc => h6 ⟨d, hd, hdc⟩, h5 d hd⟩⟩

/-- With the manifests of both ends at hand, a connection without a fault is one that fits. -/
theorem portError?_eq_none_iff (hd : g.nodeIds.Nodup)
    (hr : ∀ n ∈ g.nodes, r.contains n.type = true) {c : Connection} (hc : g.endErrors c = []) :
    portError? (g.manifests r) c = none ↔ g.Fits r c := by
  have known {id : String} (hid : id ∈ g.nodeIds) : ∃ m, g.manifestAt? r id = some m := by
    obtain ⟨n, hn, rfl⟩ := List.mem_map.mp hid
    rw [manifestAt?_eq hd hn, ← Option.isSome_iff_exists]
    simpa [Registry.contains, Table.contains, Registry.manifest?] using hr n hn
  obtain ⟨hsource, htarget⟩ := endErrors_eq_nil_iff.mp hc
  obtain ⟨m, hm⟩ := known htarget
  simp only [portError?, get?_manifests hd, Fits, hm, Option.some.injEq, exists_and_left,
    exists_eq_left']
  cases hp : m.inputPort? c.target.port with
  | none => simp
  | some p =>
    cases hi : c.isInitial with
    | true => simp
    | false =>
      obtain ⟨s, hs⟩ := known (hsource.resolve_left (by simp [hi]))
      cases hq : s.outputPort? c.source.port with
      | none => simp [hs, hq]
      | some q => simp [hs, hq]

/-- **There are no structural errors just if the graph is sound.** -/
theorem structureErrors_eq_nil_iff (r : Registry β) (g : Graph) :
    g.structureErrors r = [] ↔ g.IsSound r := by
  rw [structureErrors, List.append_eq_nil_iff, nodeErrors_eq_nil_iff, connectionErrors_eq_nil_iff]
  constructor
  · rintro ⟨⟨hn, hd, -⟩, hc, hfed, -⟩
    have hr : ∀ n ∈ g.nodes, r.contains n.type = true := fun n h => (hn n h).2
    refine ⟨hd, ?_, hr, fun c h => (endErrors_eq_nil_iff.mp (hc c h).1).2,
      fun c h => (endErrors_eq_nil_iff.mp (hc c h).1).1,
      fun c h => (portError?_eq_none_iff hd hr (hc c h).1).mp (hc c h).2, hfed⟩
    intro hmem
    obtain ⟨n, h, hid⟩ := List.mem_map.mp hmem
    exact (hn n h).1 hid
  · intro h
    have he : ∀ c ∈ g.connections, g.endErrors c = [] := fun c hc =>
      endErrors_eq_nil_iff.mpr ⟨h.source_mem c hc, h.target_mem c hc⟩
    refine ⟨⟨fun n hn => ⟨?_, h.registered n hn⟩, h.distinct, by simp⟩, fun c hc => ⟨he c hc, ?_⟩,
      h.fed_once, by simp⟩
    · rintro hid
      exact h.unreserved (hid ▸ List.mem_map.mpr ⟨n, hn, rfl⟩)
    · exact (portError?_eq_none_iff h.distinct h.registered (he c hc)).mpr (h.fits c hc)

end PortGraph.Graph
