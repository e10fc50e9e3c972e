import PortGraph.Graph
import Mathlib.Data.Fintype.Card
import Mathlib.Data.Set.Finite.List
import Mathlib.Logic.Relation

/-!
# Chains of connections

The links of a graph read as a relation, and the chains they form. The depth of a node is the
length of the longest chain that ends at it. It need not exist: behind a cycle there are chains of
every length.

Depths are handled through the bound `Graph.Below k id`, that every chain ending at `id` is shorter
than `k`. A bound passes from the sources of a node to the node and back
(`Graph.below_succ_iff`), which no statement about the longest chain itself does, and having depth
`k` is having the bound `k + 1` and not the bound `k`.

## Main definitions

* `Graph.Feeds`: some connection leads from one node to another
* `Graph.Chain`, `Graph.HasDepth`, `Graph.Below`: chains, their greatest length, and bounds on it
* `Graph.Acyclic`: no node feeds itself through any number of connections
* `Graph.IsClosed`: links have both their ends among the nodes

## Main results

* `Graph.below_succ_iff`: a node has a bound as its sources have the bound one below
* `Graph.exists_hasDepth_iff`: a depth exists as soon as there is any bound
* `Graph.not_below_of_cycle`: behind a cycle there is no bound
* `Graph.exists_no_source`: any nodes there are include a first one, unless they are on cycles
-/

namespace PortGraph.Graph

open Relation

/-! ### Links as a relation -/

/-- Some connection leads from node `a` to node `b`. -/
def Feeds (g : Graph) (a b : String) : Prop :=
  ∃ c ∈ g.connections, c.isInitial = false ∧ c.source.node = a ∧ c.target.node = b

theorem mem_links_iff {g : Graph} {a b : String} : (a, b) ∈ g.links ↔ g.Feeds a b := by
  constructor
  · intro h
    obtain ⟨c, hc, he⟩ := List.mem_map.mp h
    obtain ⟨hmem, hi⟩ := List.mem_filter.mp hc
    cases he
    exact ⟨c, hmem, by simpa using hi, rfl, rfl⟩
  · rintro ⟨c, hmem, hi, rfl, rfl⟩
    exact List.mem_map.mpr ⟨c, List.mem_filter.mpr ⟨hmem, by simp [hi]⟩, rfl⟩

/-- No node feeds itself, be it through other nodes or directly. -/
def Acyclic (g : Graph) : Prop := ∀ id, ¬ TransGen g.Feeds id id

/-- The links of a graph lead from nodes to nodes. -/
def IsClosed (g : Graph) : Prop := ∀ a b, g.Feeds a b → a ∈ g.nodeIds ∧ b ∈ g.nodeIds

/-! ### Chains and bounds -/

/-- A chain of `k` connections ends at a node. -/
inductive Chain (g : Graph) : Nat → String → Prop
  | start (id : String) : Chain g 0 id
  | extend {k : Nat} {a b : String} : Chain g k a → g.Feeds a b → Chain g (k + 1) b

/-- The longest chain that ends at `id` has `k` connections. -/
def HasDepth (g : Graph) (k : Nat) (id : String) : Prop :=
  g.Chain k id ∧ ∀ n, g.Chain n id → n ≤ k

/-- Every chain that ends at `id` has fewer than `k` connections. -/
def Below (g : Graph) (k : Nat) (id : String) : Prop := ∀ n, g.Chain n id → n < k

variable {g : Graph} {k m : Nat} {a b id : String}

theorem not_below_zero : ¬ g.Below 0 id := fun h => absurd (h 0 (.start id)) (by omega)

theorem Below.mono (h : g.Below k id) (hk : k ≤ m) : g.Below m id := fun n hn =>
  Nat.lt_of_lt_of_le (h n hn) hk

/-- **A bound passes from the sources of a node to the node.** -/
theorem below_succ_iff : g.Below (k + 1) b ↔ ∀ a, g.Feeds a b → g.Below k a := by
  constructor
  · intro h a hab n hn
    have := h (n + 1) (.extend hn hab)
    omega
  · intro h n hn
    cases hn with
    | start => omega
    | extend ha hab =>
      have := h _ hab _ ha
      omega

/-- The end of a chain is the end of every shorter one. -/
theorem Chain.of_le (h : g.Chain k id) (hm : m ≤ k) : g.Chain m id := by
  induction h generalizing m with
  | start id =>
    obtain rfl : m = 0 := by omega
    exact .start id
  | extend _ hab ih =>
    cases m with
    | zero => exact .start _
    | succ m => exact .extend (ih (by omega)) hab

theorem not_below_iff : ¬ g.Below k id ↔ g.Chain k id := by
  constructor
  · intro h
    simp only [Below, not_forall, not_lt] at h
    obtain ⟨n, hn, hk⟩ := h
    exact hn.of_le hk
  · intro h hb
    exact absurd (hb k h) (by omega)

/-! ### Depths -/

theorem hasDepth_iff : g.HasDepth k id ↔ g.Below (k + 1) id ∧ ¬ g.Below k id := by
  rw [not_below_iff, HasDepth, Below, and_comm]
  exact and_congr_left fun _ => forall_congr' fun n => imp_congr_right fun _ => by omega

theorem HasDepth.unique (hk : g.HasDepth k id) (hm : g.HasDepth m id) : k = m :=
  Nat.le_antisymm (hm.2 k hk.1) (hk.2 m hm.1)

theorem exists_hasDepth_iff : (∃ k, g.HasDepth k id) ↔ ∃ k, g.Below k id := by
  constructor
  · rintro ⟨k, hk⟩
    exact ⟨k + 1, (hasDepth_iff.mp hk).1⟩
  · rintro ⟨k, hk⟩
    induction k with
    | zero => exact absurd hk not_below_zero
    | succ k ih =>
      by_cases h : g.Below k id
      · exact ih h
      · exact ⟨k, hasDepth_iff.mpr ⟨hk, h⟩⟩

theorem HasDepth.lt_of_below (h : g.HasDepth k id) (hb : g.Below m id) : k < m := hb k h.1

/-- A chain that ends at a node grows by a connection out of it. -/
theorem HasDepth.lt_of_feeds (ha : g.HasDepth k a) (hb : g.HasDepth m b) (h : g.Feeds a b) :
    k < m := hb.2 (k + 1) (.extend ha.1 h)

/-! ### Cycles -/

/-- A bound drops along every connection, back from its target to its source. -/
theorem Below.of_transGen (h : TransGen g.Feeds a b) (hb : g.Below k b) : ∃ m < k, g.Below m a := by
  have step : ∀ {k a b}, g.Feeds a b → g.Below k b → ∃ m < k, g.Below m a := by
    intro k a b hab hb
    cases k with
    | zero => exact absurd hb not_below_zero
    | succ k => exact ⟨k, by omega, below_succ_iff.mp hb a hab⟩
  induction h generalizing k with
  | single hab => exact step hab hb
  | tail _ hbc ih =>
    obtain ⟨m, hm, hbm⟩ := step hbc hb
    obtain ⟨n, hn, han⟩ := ih hbm
    exact ⟨n, by omega, han⟩

/-- Behind a cycle there is no bound. -/
theorem not_below_of_cycle (h : TransGen g.Feeds id id) (k : Nat) : ¬ g.Below k id := by
  induction k using Nat.strong_induction_on with
  | _ k ih =>
    intro hb
    obtain ⟨m, hm, hbm⟩ := hb.of_transGen h
    exact ih m hm hbm

/-- A bound of a node is one of all that lead to it. -/
theorem Below.of_reflTransGen (h : ReflTransGen g.Feeds a b) (hb : g.Below k b) : g.Below k a := by
  rcases reflTransGen_iff_eq_or_transGen.mp h with rfl | h
  · exact hb
  · obtain ⟨m, hm, ha⟩ := hb.of_transGen h
    exact ha.mono hm.le

/-- Among nodes that are on no cycle, some node is fed by none of them. -/
theorem exists_no_source {l : List String} (h : ∀ id ∈ l, ¬ TransGen g.Feeds id id) (hl : l ≠ []) :
    ∃ b ∈ l, ∀ a ∈ l, ¬ g.Feeds a b := by
  let r : {x // x ∈ l} → {x // x ∈ l} → Prop := fun a b => TransGen g.Feeds a b
  have trans : IsTrans _ r := ⟨fun _ _ _ => TransGen.trans⟩
  have irrefl : Std.Irrefl r := ⟨fun a => h a a.2⟩
  have finite : Finite {x // x ∈ l} := List.finite_toSet l
  have wf : WellFounded r := Finite.wellFounded_of_trans_of_irrefl r
  obtain ⟨x, hx⟩ := List.exists_mem_of_ne_nil l hl
  obtain ⟨b, -, hb⟩ := wf.has_min Set.univ ⟨⟨x, hx⟩, trivial⟩
  exact ⟨b, b.2, fun a ha hab => hb ⟨a, ha⟩ trivial (.single hab)⟩

/-- Without cycles, some node of a list is fed by no other of it. -/
theorem Acyclic.exists_no_source (h : g.Acyclic) {l : List String} (hl : l ≠ []) :
    ∃ b ∈ l, ∀ a ∈ l, ¬ g.Feeds a b :=
  Graph.exists_no_source (fun id _ => h id) hl

end PortGraph.Graph
