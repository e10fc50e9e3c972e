import PortGraph.Body
import PortGraph.Proofs.Compile.Phases

/-!
# The layers of a plan

The phases of a compiled plan are the layers of its graph: phase `k` holds the nodes of depth `k`.
So values only flow from earlier phases to later ones, and with fewer phases they could not.

## Main definitions

* `Graph.IsLayered`: all that the phases of a plan are good for

## Main results

* `Graph.IsPlan.phaseOf?_eq_some_iff`: the phase of a node is its depth
* `Graph.isLayered_of_compile`: compiled plans are layered
-/

namespace PortGraph.Graph

open Classical

variable {β : Type} {r : Registry β} {g : Graph} {plan : Plan}

/-- The phases of a plan are the layers of its graph. -/
structure IsLayered (r : Registry β) (g : Graph) (plan : Plan) : Prop where
  /-- A phase lists the nodes whose depth is its number, in the order of the graph. -/
  nodeIds_eq : ∀ k phase, plan.phases[k]? = some phase →
    phase.nodeIds = g.nodeIds.filter fun id => g.HasDepth k id
  /-- There is a phase for each depth that occurs, and no other one. -/
  lt_length_iff : ∀ k, k < plan.phases.length ↔ ∃ id ∈ g.nodeIds, g.HasDepth k id
  nonempty : ∀ phase ∈ plan.phases, phase.nodeIds ≠ []
  exists_hasDepth : ∀ id ∈ g.nodeIds, ∃ k, g.HasDepth k id
  /-- The plan holds the nodes of the graph, each once. -/
  perm : plan.nodeIds.Perm g.nodeIds
  nodup : plan.nodeIds.Nodup
  /-- Connections between nodes lead to later phases. -/
  forward : ∀ c ∈ g.connections, c.isInitial = false →
    ∃ i j, plan.phaseOf? c.source.node = some i ∧ plan.phaseOf? c.target.node = some j ∧ i < j
  /-- Any order of the nodes in which connections lead on takes as many stages. -/
  least : ∀ (stage : String → Nat) (n : Nat), (∀ id ∈ g.nodeIds, stage id < n) →
    (∀ c ∈ g.connections, c.isInitial = false → stage c.source.node < stage c.target.node) →
      plan.phases.length ≤ n
  /-- A phase is parallel just if it has several nodes and the types of all allow it. -/
  parallel_iff : ∀ phase ∈ plan.phases, phase.parallel = true ↔
    1 < phase.nodeIds.length ∧
      ∀ id ∈ phase.nodeIds, ∃ m, g.manifestAt? r id = some m ∧ m.capabilities.parallel = true

/-- A chain takes at least one stage for each of its connections. -/
theorem Chain.le_stage {stage : String → Nat} (hs : ∀ a b, g.Feeds a b → stage a < stage b)
    {k : Nat} {id : String} (h : g.Chain k id) : k ≤ stage id := by
  induction h with
  | start => exact Nat.zero_le _
  | extend _ hab ih =>
    have := hs _ _ hab
    omega

theorem nodup_level (hd : g.nodeIds.Nodup) (k : Nat) : (g.level k).Nodup := hd.filter _

theorem parallel_phaseOf_iff (hd : g.nodeIds.Nodup) (l : List String) :
    (phaseOf (g.manifests r) l).parallel = true ↔ 1 < l.length ∧
      ∀ id ∈ l, ∃ m, g.manifestAt? r id = some m ∧ m.capabilities.parallel = true := by
  simp only [phaseOf, Bool.and_eq_true, decide_eq_true_eq, List.all_eq_true, get?_manifests hd]
  refine and_congr_right fun _ => forall_congr' fun id => imp_congr_right fun _ => ?_
  cases g.manifestAt? r id <;> simp

namespace IsPlan

/-- Phase `k` of a plan is level `k`. -/
theorem getElem?_phases (h : g.IsPlan r plan) {k : Nat} {phase : Phase}
    (hk : plan.phases[k]? = some phase) : phase = phaseOf (g.manifests r) (g.level k) := by
  obtain ⟨n, hn, -, -⟩ := h.phases_eq
  rw [hn] at hk
  obtain ⟨hlt, rfl⟩ := List.getElem?_eq_some_iff.mp hk
  simp

theorem lt_length_iff (h : g.IsPlan r plan) (k : Nat) :
    k < plan.phases.length ↔ ∃ id ∈ g.nodeIds, g.HasDepth k id := by
  obtain ⟨n, hn, hne, hbelow⟩ := h.phases_eq
  rw [hn, List.length_map, List.length_range]
  constructor
  · intro hk
    obtain ⟨id, hid⟩ := List.exists_mem_of_ne_nil _ (hne k hk)
    exact ⟨id, mem_level_iff.mp hid⟩
  · rintro ⟨id, hid, hd⟩
    exact hd.lt_of_below (hbelow id hid)

theorem exists_hasDepth (h : g.IsPlan r plan) {id : String} (hid : id ∈ g.nodeIds) :
    ∃ k, g.HasDepth k id := by
  obtain ⟨n, -, -, hbelow⟩ := h.phases_eq
  exact exists_hasDepth_iff.mpr ⟨n, hbelow id hid⟩

/-- **The phase of a node is its depth.** -/
theorem phaseOf?_eq_some_iff (h : g.IsPlan r plan) {id : String} {k : Nat} :
    plan.phaseOf? id = some k ↔ id ∈ g.nodeIds ∧ g.HasDepth k id := by
  have hmem {j : Nat} (hj : j < plan.phases.length) :
      plan.phases[j].nodeIds.contains id = true ↔ id ∈ g.nodeIds ∧ g.HasDepth j id := by
    rw [h.getElem?_phases (List.getElem?_eq_getElem hj), List.contains_iff_mem]
    exact mem_level_iff
  rw [Plan.phaseOf?, List.findIdx?_eq_some_iff_getElem]
  constructor
  · rintro ⟨hk, hid, -⟩
    exact (hmem hk).mp hid
  · rintro ⟨hid, hd⟩
    have hk := (h.lt_length_iff k).mpr ⟨id, hid, hd⟩
    refine ⟨hk, (hmem hk).mpr ⟨hid, hd⟩, fun j hj hjd => ?_⟩
    have := hd.unique ((hmem (hj.trans hk)).mp hjd).2
    omega

theorem mem_nodeIds_iff (h : g.IsPlan r plan) {id : String} :
    id ∈ plan.nodeIds ↔ id ∈ g.nodeIds := by
  obtain ⟨n, hn, -, hbelow⟩ := h.phases_eq
  simp only [Plan.nodeIds, hn, List.mem_flatMap, List.mem_map, List.mem_range]
  constructor
  · rintro ⟨_, ⟨k, -, rfl⟩, hid⟩
    exact (mem_level_iff.mp hid).1
  · intro hid
    obtain ⟨k, hk⟩ := h.exists_hasDepth hid
    exact ⟨_, ⟨k, hk.lt_of_below (hbelow id hid), rfl⟩, mem_level_iff.mpr ⟨hid, hk⟩⟩

/-- No node is in two phases, or twice in one. -/
theorem nodup_nodeIds (h : g.IsPlan r plan) : plan.nodeIds.Nodup := by
  obtain ⟨n, hn, -, -⟩ := h.phases_eq
  rw [Plan.nodeIds, hn, List.flatMap_map, List.nodup_flatMap]
  refine ⟨fun k _ => nodup_level h.sound.distinct k, ?_⟩
  refine List.nodup_range.pairwise_of_forall_ne fun i _ j _ hij id hi hj => hij ?_
  exact (mem_level_iff.mp hi).2.unique (mem_level_iff.mp hj).2

/-- A connection between nodes leads to a later phase. -/
theorem phaseOf?_lt (h : g.IsPlan r plan) {a b : String} (hab : g.Feeds a b) :
    ∃ i j, plan.phaseOf? a = some i ∧ plan.phaseOf? b = some j ∧ i < j := by
  obtain ⟨ha, hb⟩ := h.sound.isClosed a b hab
  obtain ⟨i, hi⟩ := h.exists_hasDepth ha
  obtain ⟨j, hj⟩ := h.exists_hasDepth hb
  exact ⟨i, j, h.phaseOf?_eq_some_iff.mpr ⟨ha, hi⟩, h.phaseOf?_eq_some_iff.mpr ⟨hb, hj⟩,
    hi.lt_of_feeds hj hab⟩

end IsPlan

/-- **The phases of a compiled plan are the layers of its graph.** -/
theorem isLayered_of_compile (r : Registry β) (g : Graph) (plan : Plan)
    (h : g.compile r = .ok plan) : g.IsLayered r plan := by
  obtain ⟨hp, -⟩ := isPlan_of_compile h
  have hd := hp.sound.distinct
  have hphase : ∀ phase ∈ plan.phases, ∃ k, k < plan.phases.length ∧
      phase = phaseOf (g.manifests r) (g.level k) := by
    intro phase hphase
    obtain ⟨k, hk, rfl⟩ := List.getElem_of_mem hphase
    exact ⟨k, hk, hp.getElem?_phases (List.getElem?_eq_getElem hk)⟩
  constructor
  case nodeIds_eq =>
    intro k phase hk
    rw [hp.getElem?_phases hk]
    rfl
  case lt_length_iff => exact hp.lt_length_iff
  case nonempty =>
    intro phase hmem
    obtain ⟨k, hk, rfl⟩ := hphase phase hmem
    obtain ⟨id, hid⟩ := (hp.lt_length_iff k).mp hk
    exact List.ne_nil_of_mem (mem_level_iff.mpr hid)
  case exists_hasDepth => exact fun id hid => hp.exists_hasDepth hid
  case perm =>
    exact (List.perm_ext_iff_of_nodup hp.nodup_nodeIds hd).mpr fun id => hp.mem_nodeIds_iff
  case nodup => exact hp.nodup_nodeIds
  case forward =>
    intro c hc hi
    exact hp.phaseOf?_lt ⟨c, hc, hi, rfl, rfl⟩
  case least =>
    intro stage n hn hs
    cases hlen : plan.phases.length with
    | zero => exact Nat.zero_le n
    | succ k =>
      -- The last phase holds a node of depth `k`, which cannot have a stage before `k`.
      obtain ⟨id, hid, hk⟩ := (hp.lt_length_iff k).mp (by omega)
      have hle : k ≤ stage id := hk.1.le_stage fun a b ⟨c, hc, hi, ha, hb⟩ => ha ▸ hb ▸ hs c hc hi
      have := hn id hid
      omega
  case parallel_iff =>
    intro phase hmem
    obtain ⟨k, -, rfl⟩ := hphase phase hmem
    exact parallel_phaseOf_iff hd (g.level k)

/-! ### A small graph -/

/-- A type that gives a number. -/
def sampleSource : Manifest where
  type := "source"
  version := "1"
  category := .input
  outputs := [{ name := "x", type := .single .number }]
  capabilities := { cacheable := true, parallel := true }

/-- A type that adds two numbers. -/
def sampleSum : Manifest where
  type := "sum"
  version := "1"
  category := .transform
  inputs := [{ name := "a", type := .single .number }, { name := "b", type := .single .number }]
  outputs := [{ name := "x", type := .single .number }]
  capabilities := { cacheable := true, parallel := true }

/-- The registry of the two types. -/
def sampleRegistry : Registry (Body Unit) where
  entries := (Table.empty.insert "source" ⟨sampleSource, none⟩).insert "sum" ⟨sampleSum, none⟩

/-- Two sources `p` and `q` whose sum `s` is added to `q` once more, so that `t` joins a short and a
long chain. The nodes are listed against the order of the chains. -/
def sampleGraph : Graph where
  id := "sample"
  nodes := [⟨"t", "sum", Table.empty⟩, ⟨"s", "sum", Table.empty⟩, ⟨"q", "source", Table.empty⟩,
    ⟨"p", "source", Table.empty⟩]
  connections := [⟨⟨"p", "x"⟩, ⟨"s", "a"⟩⟩, ⟨⟨"q", "x"⟩, ⟨"s", "b"⟩⟩, ⟨⟨"s", "x"⟩, ⟨"t", "a"⟩⟩,
    ⟨⟨"q", "x"⟩, ⟨"t", "b"⟩⟩]

/-- The plan of the small graph. -/
def samplePlan : Plan := (sampleGraph.compile sampleRegistry).toOption.getD default

theorem compile_sampleGraph : sampleGraph.compile sampleRegistry = .ok samplePlan := by
  decide +kernel

/-- The phases of the small graph. -/
theorem isLayered_sampleGraph :
    sampleGraph.compile sampleRegistry = .ok samplePlan ∧
      samplePlan.phases = [⟨["q", "p"], true⟩, ⟨["s"], false⟩, ⟨["t"], false⟩] ∧
      sampleGraph.IsLayered sampleRegistry samplePlan :=
  ⟨compile_sampleGraph, by decide +kernel,
    isLayered_of_compile sampleRegistry sampleGraph samplePlan compile_sampleGraph⟩

end PortGraph.Graph
