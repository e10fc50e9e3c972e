import PortGraph.Compile.Levels
import PortGraph.Proofs.Graph.Chain

/-!
# What the levels of a graph are

Level `k` holds the nodes of depth `k`, and the nodes left over are those without any depth.

The invariant is stated in bounds on chains, not in terms of what was taken before: when level `k`
is about to be taken, the waiting nodes are those without the bound `k + 1`, each with the number of
links into it from nodes without the bound `k`. Taking the level raises both bounds by one, as it
holds the nodes with the first bound and not the second.

## Main definitions

* `Graph.level`: the nodes of a depth, in the order of the graph
* `Graph.unbounded`: the nodes that wait while a level is taken, with their numbers

## Main results

* `Graph.expand_unbounded`: what taking a level does to the waiting nodes
* `Graph.exists_leveling_eq`: the levels, and the nodes left over
* `Graph.leveling_left_eq_nil_iff`: nothing is left over just if there is no cycle
-/

namespace PortGraph.Graph

open Classical

variable {g : Graph}

/-- The nodes of depth `k`, in the order of the graph. -/
noncomputable def level (g : Graph) (k : Nat) : List String := g.nodeIds.filter (g.HasDepth k)

/-- The nodes without the bound `k + 1`, each with the number of links into it from nodes without
the bound `k`. -/
noncomputable def unbounded (g : Graph) (k : Nat) : List (String × Nat) :=
  (g.nodeIds.filter fun id => ¬ g.Below (k + 1) id).map fun id =>
    (id, g.links.countP fun l => ¬ g.Below k l.1 ∧ l.2 = id)

theorem mem_level_iff {k : Nat} {id : String} :
    id ∈ g.level k ↔ id ∈ g.nodeIds ∧ g.HasDepth k id := by
  simp [level]

/-! ### One level -/

/-- The links that leave level `k` are those from nodes with the bound `k + 1` and not `k`. -/
theorem linksInto_level (hg : g.IsClosed) (k : Nat) (id : String) :
    (g.links.countP fun l => ¬ g.Below k l.1 ∧ l.2 = id) =
      Leveling.linksInto g.links (g.level k) id +
        g.links.countP fun l => ¬ g.Below (k + 1) l.1 ∧ l.2 = id := by
  have split (l : List (String × String)) (hl : ∀ x ∈ l, x ∈ g.links) :
      (l.countP fun l => ¬ g.Below k l.1 ∧ l.2 = id) =
        Leveling.linksInto l (g.level k) id +
          l.countP fun l => ¬ g.Below (k + 1) l.1 ∧ l.2 = id := by
    induction l with
    | nil => rfl
    | cons x rest ih =>
      have hx : g.Feeds x.1 x.2 := mem_links_iff.mp (hl x (by simp))
      have hmem : (g.level k).contains x.1 = true ↔ g.Below (k + 1) x.1 ∧ ¬ g.Below k x.1 := by
        rw [List.contains_iff_mem, mem_level_iff, hasDepth_iff]
        exact and_iff_right (hg _ _ hx).1
      have hmono : g.Below k x.1 → g.Below (k + 1) x.1 := fun h => h.mono (by omega)
      simp only [Leveling.linksInto, List.countP_cons] at ih ⊢
      rw [ih fun y hy => hl y (by simp [hy])]
      by_cases h1 : g.Below k x.1 <;> by_cases h2 : g.Below (k + 1) x.1 <;>
        by_cases h3 : x.2 = id <;> simp_all <;> omega
  exact split g.links fun _ h => h

/-- The number of links into a node from nodes without a bound is zero just if the node has the
bound one above. -/
theorem countP_links_eq_zero_iff {k : Nat} {id : String} :
    (g.links.countP fun l => ¬ g.Below k l.1 ∧ l.2 = id) = 0 ↔ g.Below (k + 1) id := by
  rw [below_succ_iff, List.countP_eq_zero]
  constructor
  · intro h a ha
    simpa using h (a, id) (mem_links_iff.mpr ha)
  · rintro h ⟨a, b⟩ hl
    by_cases hb : b = id
    · subst hb
      simpa using h a (mem_links_iff.mp hl)
    · simp [hb]

/-- Taking level `k` leaves each waiting node with the links into it from deeper nodes. -/
theorem expand_unbounded (hg : g.IsClosed) (k : Nat) :
    Leveling.expand g.links (g.level k) (g.unbounded k) =
      (g.nodeIds.filter fun id => ¬ g.Below (k + 1) id).map fun id =>
        (id, g.links.countP fun l => ¬ g.Below (k + 1) l.1 ∧ l.2 = id) := by
  rw [Leveling.expand, unbounded, List.map_map]
  refine List.map_congr_left fun id _ => ?_
  simp only [Function.comp_apply, linksInto_level hg k id, Nat.add_sub_cancel_left]

theorem free_expand (hg : g.IsClosed) (k : Nat) :
    Leveling.free (Leveling.expand g.links (g.level k) (g.unbounded k)) = g.level (k + 1) := by
  rw [expand_unbounded hg, Leveling.free, List.filter_map, List.map_map, List.filter_filter]
  simp only [Function.comp_def, countP_links_eq_zero_iff, List.map_id', level, hasDepth_iff]
  exact List.filter_congr fun id _ => by simp

theorem blocked_expand (hg : g.IsClosed) (k : Nat) :
    Leveling.blocked (Leveling.expand g.links (g.level k) (g.unbounded k)) =
      g.unbounded (k + 1) := by
  rw [expand_unbounded hg, Leveling.blocked, List.filter_map, List.filter_filter, unbounded]
  congr 1
  refine List.filter_congr fun id _ => ?_
  have hmono : g.Below (k + 1) id → g.Below (k + 1 + 1) id := fun h => h.mono (by omega)
  simp only [Function.comp_apply, ne_eq, countP_links_eq_zero_iff]
  by_cases h : g.Below (k + 1) id <;> simp_all

/-! ### All levels -/

/-- The levels from number `k` on, and the nodes left over behind the last one, number `n`. -/
theorem peel_unbounded (hg : g.IsClosed) (k : Nat) :
    ∃ n, k ≤ n ∧ g.level n = [] ∧ (∀ j, k ≤ j → j < n → g.level j ≠ []) ∧
      Leveling.peel g.links (g.level k) (g.unbounded k) =
        ⟨(List.range' k (n - k)).map g.level, g.unbounded n⟩ := by
  generalize hl : g.level k = l, hw : g.unbounded k = w
  induction l, w using Leveling.peel.induct g.links generalizing k with
  | case1 w =>
    refine ⟨k, le_rfl, hl, by omega, ?_⟩
    rw [Leveling.peel]
    simp [hw]
  | case2 l w hne after ih =>
    subst hl hw
    obtain ⟨n, hkn, hn, hall, hpeel⟩ :=
      ih (k + 1) (free_expand hg k).symm (blocked_expand hg k).symm
    refine ⟨n, by omega, hn, fun j hj hjn => ?_, ?_⟩
    · rcases Nat.eq_or_lt_of_le hj with rfl | hj
      · exact hne
      · exact hall j hj hjn
    · have hlen : n - k = (n - (k + 1)) + 1 := by omega
      rw [Leveling.peel, dif_neg hne, hlen, List.range'_succ]
      simp only [List.map_cons]
      rw [hpeel]

/-- Before anything is taken, level zero is free and everybody else waits. -/
theorem leveling_eq_peel (g : Graph) :
    g.leveling = Leveling.peel g.links (g.level 0) (g.unbounded 0) := by
  have hcount (id : String) :
      g.linksInto id = g.links.countP fun l => ¬ g.Below 0 l.1 ∧ l.2 = id := by
    simp only [linksInto, not_below_zero, not_false_eq_true, true_and]
  have hzero (id : String) : g.linksInto id = 0 ↔ g.Below 1 id := by
    rw [hcount]
    exact countP_links_eq_zero_iff
  have hfree : Leveling.free (g.nodeIds.map fun id => (id, g.linksInto id)) = g.level 0 := by
    rw [Leveling.free, List.filter_map, List.map_map, level]
    simp only [Function.comp_def, hzero, List.map_id', hasDepth_iff, not_below_zero,
      not_false_eq_true, and_true]
  have hblocked :
      Leveling.blocked (g.nodeIds.map fun id => (id, g.linksInto id)) = g.unbounded 0 := by
    rw [Leveling.blocked, List.filter_map, unbounded]
    simp only [Function.comp_def, ne_eq, hzero]
    simp only [hcount]
  rw [leveling, hfree, hblocked]

/-- **The levels of a graph**: level `k` holds the nodes of depth `k`, up to the first depth that no
node has. -/
theorem exists_leveling_eq (hg : g.IsClosed) :
    ∃ n, g.level n = [] ∧ (∀ k < n, g.level k ≠ []) ∧
      g.leveling = ⟨(List.range n).map g.level, g.unbounded n⟩ := by
  obtain ⟨n, -, hn, hall, hpeel⟩ := peel_unbounded hg 0
  refine ⟨n, hn, fun k hk => hall k (by omega) hk, ?_⟩
  rw [leveling_eq_peel, hpeel, Nat.sub_zero, List.range_eq_range']

theorem unbounded_eq_nil_iff {k : Nat} :
    g.unbounded k = [] ↔ ∀ id ∈ g.nodeIds, g.Below (k + 1) id := by
  simp [unbounded, List.filter_eq_nil_iff]

/-- **Nothing is left over just if there is no cycle.** -/
theorem leveling_left_eq_nil_iff (hg : g.IsClosed) : g.leveling.left = [] ↔ g.Acyclic := by
  obtain ⟨n, hn, -, hl⟩ := exists_leveling_eq hg
  rw [hl]
  constructor
  · intro h id hc
    have hid : id ∈ g.nodeIds := by
      obtain ⟨a, -, ha⟩ := Relation.TransGen.tail'_iff.mp hc
      exact (hg a id ha).2
    exact not_below_of_cycle hc _ (unbounded_eq_nil_iff.mp h id hid)
  · intro h
    rw [unbounded_eq_nil_iff]
    by_contra hne
    push Not at hne
    obtain ⟨x, hx, hxb⟩ := hne
    -- A first one among the nodes left over has only sources that were taken, so it is free.
    let left := g.nodeIds.filter fun id => ¬ g.Below (n + 1) id
    have hleft : left ≠ [] := List.ne_nil_of_mem (List.mem_filter.mpr ⟨hx, by simpa using hxb⟩)
    obtain ⟨b, hb, hmin⟩ := h.exists_no_source hleft
    obtain ⟨-, hbb⟩ := List.mem_filter.mp hb
    have hsource : ∀ a, g.Feeds a b → g.Below n a := by
      intro a hab
      have ha := (hg a b hab).1
      have hbelow : g.Below (n + 1) a := by
        by_contra hna
        exact hmin a (List.mem_filter.mpr ⟨ha, by simpa using hna⟩) hab
      by_contra hna
      have : a ∈ g.level n := mem_level_iff.mpr ⟨ha, hasDepth_iff.mpr ⟨hbelow, hna⟩⟩
      simp [hn] at this
    exact absurd (below_succ_iff.mpr hsource) (by simpa using hbb)

end PortGraph.Graph
