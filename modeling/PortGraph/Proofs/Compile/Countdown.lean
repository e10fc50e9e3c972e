import PortGraph.Proofs.Compile.Cycle

/-!
# Counting links down

The levels of a graph are taken by a count: each node has the number of links into it, every link
out of a node that is taken counts one less for the node it leads to, and who comes down to zero is
taken next. `Leveling.expand` subtracts what a whole level counts at once, in numbers that cannot
fall below zero. Here the count is made link by link, and fails where it would take one from zero.
It never does, for every graph without structural errors and however many links join the same two
nodes, and it comes to the same levels.

All of this follows from what stands in the numbers whenever a level is about to be taken, level `k`
say: the number of a node is that of the links into it from nodes without the bound `k`. What is
counted off by level `k` is part of that number.

## Main definitions

* `Countdown`, `Countdown.takeOff?`: the numbers, and one link less
* `Graph.turn?`, `Graph.IsHead`: one level, and where the loop stands before it takes the next one
* `Graph.IsCountedDown`: all that the count is good for

## Main results

* `Graph.mem_leftOver_iff`: the nodes left over are those behind a cycle
* `Countdown.exists_takeOffAll?`: taking links off one by one
* `Graph.IsAt.turn`: one turn takes the loop from one level to the next
* `Graph.isCountedDown_of_structureErrors`: the count is right for every sound graph
-/

namespace PortGraph

/-! ### One link less -/

/-- The number of links into each node from nodes not taken yet, and the nodes to be taken next. -/
structure Countdown where
  numbers : Table Nat
  current : List String

namespace Countdown

/-- One link more into a node. What is no node has no number. -/
def putOn (numbers : Table Nat) (id : String) : Table Nat :=
  match numbers.get? id with
  | some n => numbers.insert id (n + 1)
  | none => numbers

/-- One link less into a node, which is noted down if it was the last one. There is no result if the
number would fall below zero. -/
def takeOff? (s : Table Nat × List String) (id : String) : Option (Table Nat × List String) :=
  match s.1.get? id with
  | some 0 => none
  | some (n + 1) => some (s.1.insert id n, if n = 0 then s.2 ++ [id] else s.2)
  | none => some s

/-- One link less for each occurrence of a node in a list. -/
def takeOffAll? (s : Table Nat × List String) (ids : List String) :
    Option (Table Nat × List String) :=
  ids.foldlM takeOff? s

/-- Each node has as many links more as it occurs in the list. -/
theorem get?_foldl_putOn (ids : List String) (numbers : Table Nat) (id : String) :
    (ids.foldl putOn numbers).get? id = (numbers.get? id).map (· + ids.count id) := by
  induction ids generalizing numbers with
  | nil => simp
  | cons a rest ih =>
    rw [List.foldl_cons, ih, putOn]
    by_cases ha : id = a
    · subst ha
      cases h : numbers.get? id with
      | none => simp [h]
      | some n =>
        simp only [Table.get?_insert, if_true, Option.map_some, List.count_cons_self]
        congr 1
        omega
    · have hcount : (a :: rest).count id = rest.count id := List.count_cons_of_ne (Ne.symm ha)
      rw [hcount]
      cases h : numbers.get? a with
      | none => rfl
      | some n => simp only [Table.get?_insert, ha, if_false]

/-- A list of links has been taken off: who had as many links as the list has of them is noted down,
once. -/
structure IsTakenOff (numbers : Table Nat) (ids : List String) (s : Table Nat × List String) :
    Prop where
  get?_eq : ∀ id, s.1.get? id = (numbers.get? id).map (· - ids.count id)
  nodup : s.2.Nodup
  mem_iff : ∀ id, id ∈ s.2 ↔ id ∈ ids ∧ numbers.get? id = some (ids.count id)

/-- Another link can be taken off if there is one. -/
theorem IsTakenOff.takeOff? {numbers : Table Nat} {ids : List String} {s : Table Nat × List String}
    (h : IsTakenOff numbers ids s) {a : String}
    (ha : ∀ n, numbers.get? a = some n → ids.count a < n) :
    ∃ s', Countdown.takeOff? s a = some s' ∧ IsTakenOff numbers (ids ++ [a]) s' := by
  obtain ⟨hget, hnodup, hmem⟩ := h
  have hself : (ids ++ [a]).count a = ids.count a + 1 := by simp
  have hcount {id : String} (hid : id ≠ a) : (ids ++ [a]).count id = ids.count id := by
    simp [Ne.symm hid]
  cases hn : numbers.get? a with
  | none =>
    have hnone : s.1.get? a = none := by rw [hget, hn, Option.map_none]
    refine ⟨s, by rw [Countdown.takeOff?, hnone], fun id => ?_, hnodup, fun id => ?_⟩
    · by_cases hid : id = a
      · subst hid
        rw [hnone, hn, Option.map_none]
      · rw [hget, hcount hid]
    · by_cases hid : id = a
      · simp [hmem, hid, hn]
      · simp [hmem, hcount hid, hid]
  | some n =>
    have hlt := ha n hn
    obtain ⟨m, hm⟩ : ∃ m, n - ids.count a = m + 1 := ⟨n - ids.count a - 1, by omega⟩
    have hsome : s.1.get? a = some (m + 1) := by rw [hget, hn, Option.map_some, hm]
    -- So far the node has not been noted down, as it has a link left.
    have hnew : a ∉ s.2 := fun hin => by
      have := hn.symm.trans ((hmem a).mp hin).2
      simp only [Option.some.injEq] at this
      omega
    refine ⟨(s.1.insert a m, if m = 0 then s.2 ++ [a] else s.2), by rw [Countdown.takeOff?, hsome],
      fun id => ?_, ?_, fun id => ?_⟩
    · rw [Table.get?_insert]
      by_cases hid : id = a
      · subst hid
        rw [if_pos rfl, hn, Option.map_some, hself]
        congr 1
        omega
      · rw [if_neg hid, hget, hcount hid]
    · split
      · exact List.nodup_append.mpr ⟨hnodup, List.nodup_singleton a, by
          rintro x hx y hy rfl
          exact hnew (List.mem_singleton.mp hy ▸ hx)⟩
      · exact hnodup
    · by_cases hid : id = a
      · subst hid
        have hlast : m = 0 ↔ n = ids.count id + 1 := by omega
        rw [hn, hself, Option.some.injEq, ← hlast]
        by_cases hz : m = 0 <;> simp [hz, hnew]
      · rw [hcount hid]
        split <;> simp [hmem, hid]

/-- **Links can be taken off one by one if there are enough of them.** -/
theorem exists_takeOffAll? {ids : List String} {numbers : Table Nat}
    (h : ∀ id n, numbers.get? id = some n → ids.count id ≤ n) :
    ∃ s, takeOffAll? (numbers, []) ids = some s ∧ IsTakenOff numbers ids s := by
  induction ids using List.reverseRecOn with
  | nil => exact ⟨(numbers, []), rfl, by simp, List.nodup_nil, by simp⟩
  | append_singleton ids a ih =>
    have hself : (ids ++ [a]).count a = ids.count a + 1 := by simp
    obtain ⟨s, hs, htaken⟩ := ih fun id n hn => by
      have := h id n hn
      rw [List.count_append] at this
      omega
    obtain ⟨s', hs', htaken'⟩ := htaken.takeOff? (a := a) fun n hn => by
      have := h a n hn
      omega
    refine ⟨s', ?_, htaken'⟩
    rw [takeOffAll?] at hs ⊢
    rw [List.foldlM_append, hs]
    simpa using hs'

end Countdown

namespace Graph

open Relation

variable {β : Type} {r : Registry β} {g : Graph}

/-! ### Behind a cycle -/

/-- **The nodes left over are those behind a cycle**, the nodes of cycles among them. -/
theorem mem_leftOver_iff (hg : g.IsClosed) {id : String} :
    id ∈ g.leftOver ↔ ∃ c, TransGen g.Feeds c c ∧ ReflTransGen g.Feeds c id := by
  constructor
  · intro hid
    by_contra hno
    push Not at hno
    -- Those left over that lead to the node have sources of the same kind, but no cycle.
    classical
    let before := g.leftOver.filter fun a => ReflTransGen g.Feeds a id
    have hmem {a : String} : a ∈ before ↔ a ∈ g.leftOver ∧ ReflTransGen g.Feeds a id := by
      simp [before]
    obtain ⟨b, hb, hmin⟩ := exists_no_source (l := before) (fun a ha hc => hno a hc (hmem.mp ha).2)
      (List.ne_nil_of_mem (hmem.mpr ⟨hid, .refl⟩))
    obtain ⟨hleft, hbid⟩ := hmem.mp hb
    obtain ⟨a, ha, hab⟩ := exists_source_of_mem_leftOver hg hleft
    have hab := mem_links_iff.mp hab
    exact hmin a (hmem.mpr ⟨ha, .head hab hbid⟩) hab
  · rintro ⟨c, hc, hcid⟩
    obtain ⟨n, -, -, hl⟩ := exists_leveling_eq hg
    have hid : id ∈ g.nodeIds := by
      rcases ReflTransGen.cases_tail_iff _ _ _ |>.mp hcid with rfl | ⟨a, -, ha⟩
      · obtain ⟨a, -, ha⟩ := TransGen.tail'_iff.mp hc
        exact (hg a id ha).2
      · exact (hg a id ha).2
    have hbelow : ¬ g.Below (n + 1) id := fun hb =>
      not_below_of_cycle hc (n + 1) (hb.of_reflTransGen hcid)
    simp [leftOver, hl, unbounded, hid, hbelow]

/-! ### The loop -/

/-- The nodes that links lead to from a node, in the order of the links. -/
def targets (g : Graph) (id : String) : List String := (g.links.filter (·.1 = id)).map (·.2)

/-- Nodes in the order of the graph. -/
def inOrder (g : Graph) (ids : List String) : List String :=
  ids.mergeSort fun a b => g.nodeIds.idxOf a ≤ g.nodeIds.idxOf b

/-- The numbers of links into the nodes, counted link by link. -/
def linkNumbers (g : Graph) : Table Nat :=
  (g.links.map (·.2)).foldl Countdown.putOn (Table.ofList (g.nodeIds.map fun id => (id, 0)))

/-- Where the loop begins: all links are counted, and the nodes that nothing feeds are next. -/
def countdown (g : Graph) : Countdown where
  numbers := g.linkNumbers
  current := g.nodeIds.filter fun id => g.linkNumbers.get? id = some 0

/-- One turn of the loop: the links out of each node that is taken are taken off one by one, and the
nodes that come down to zero are next. -/
def turn? (g : Graph) (s : Countdown) : Option Countdown :=
  (Countdown.takeOffAll? (s.numbers, []) (s.current.flatMap g.targets)).map fun t =>
    ⟨t.1, g.inOrder t.2⟩

/-- The loop stands before its next turn, after turns that have taken the given levels. -/
inductive IsHead (g : Graph) : List (List String) → Countdown → Prop
  | first : IsHead g [] g.countdown
  | again {levels : List (List String)} {s s' : Countdown} (h : IsHead g levels s)
      (hne : s.current ≠ []) (ht : g.turn? s = some s') : IsHead g (levels ++ [s.current]) s'

/-- All that the count is good for. -/
structure IsCountedDown (g : Graph) : Prop where
  /-- Before each turn, the number of a node is that of the connections that lead to it from nodes
  that have not been taken, each of them counted. -/
  number_eq : ∀ levels s, g.IsHead levels s → ∀ id ∈ g.nodeIds,
    s.numbers.get? id = some (g.connections.countP fun c =>
      !c.isInitial && c.target.node = id && !levels.flatten.contains c.source.node)
  /-- No turn takes one from zero. -/
  turns : ∀ levels s, g.IsHead levels s → ∃ s', g.turn? s = some s'
  /-- Every node is taken at most once. -/
  once : ∀ levels s, g.IsHead levels s →
    (levels.flatten ++ s.current).Nodup ∧ levels.flatten ++ s.current ⊆ g.nodeIds
  /-- There are no more turns than nodes. -/
  length_le : ∀ levels s, g.IsHead levels s → levels.length ≤ g.nodes.length
  ends : ∃ levels s, g.IsHead levels s ∧ s.current = []
  /-- In the end the nodes with a number that is not zero are those behind a cycle. -/
  positive_iff : ∀ levels s, g.IsHead levels s → s.current = [] → ∀ id ∈ g.nodeIds,
    (∃ n, s.numbers.get? id = some n ∧ 0 < n) ↔
      ∃ c, TransGen g.Feeds c c ∧ ReflTransGen g.Feeds c id
  /-- What has been taken are the levels of the graph, and what has a number the nodes left over. -/
  leveling_eq : ∀ levels s, g.IsHead levels s → s.current = [] → g.leveling.levels = levels ∧
    ∀ id n, (id, n) ∈ g.leveling.left ↔ s.numbers.get? id = some n ∧ 0 < n

/-! ### What a level counts -/

/-- A node occurs among the targets of a level as often as links lead to it from there. -/
theorem count_targets {level : List String} (hd : level.Nodup) (id : String) :
    (level.flatMap g.targets).count id = Leveling.linksInto g.links level id := by
  induction level with
  | nil => simp [Leveling.linksInto]
  | cons a rest ih =>
    obtain ⟨ha, hrest⟩ := List.nodup_cons.mp hd
    rw [List.flatMap_cons, List.count_append, ih hrest, targets]
    generalize g.links = links
    induction links with
    | nil => simp [Leveling.linksInto]
    | cons l links ihl =>
      simp only [Leveling.linksInto, List.countP_cons, List.filter_cons] at ihl ⊢
      by_cases hl : l.1 = a
      · have hla : l.1 ∉ rest := hl ▸ ha
        by_cases hid : l.2 = id
        · simp_all
          omega
        · simp_all
      · by_cases hid : l.2 = id
        · simp_all
          omega
        · simp_all

/-- Nodes of the graph have one order. -/
theorem inOrder_eq {ids ids' : List String} (hd : ids.Nodup) (hsub : ids'.Sublist g.nodeIds)
    (hg : g.nodeIds.Nodup) (hmem : ∀ id, id ∈ ids ↔ id ∈ ids') : g.inOrder ids = ids' := by
  have hperm : (g.inOrder ids).Perm ids' :=
    (List.mergeSort_perm _ _).trans ((List.perm_ext_iff_of_nodup hd (hsub.nodup hg)).mpr hmem)
  have hsorted : (g.inOrder ids).Pairwise fun a b => g.nodeIds.idxOf a ≤ g.nodeIds.idxOf b := by
    refine (List.pairwise_mergeSort ?_ ?_ ids).imp fun h => of_decide_eq_true h
    · intro a b c hab hbc
      simp only [decide_eq_true_eq] at hab hbc ⊢
      exact hab.trans hbc
    · intro a b
      simpa using Nat.le_total _ _
  have hsorted' : ids'.Pairwise fun a b => g.nodeIds.idxOf a ≤ g.nodeIds.idxOf b := by
    refine List.Pairwise.sublist hsub (List.pairwise_iff_getElem.mpr fun i j hi hj hij => ?_)
    rw [hg.idxOf_getElem, hg.idxOf_getElem]
    exact hij.le
  refine List.Perm.eq_of_pairwise (fun a b ha hb hab hba => ?_) hsorted hsorted' hperm
  have ha : a ∈ g.nodeIds := hsub.subset (hperm.subset ha)
  exact List.idxOf_inj ha |>.mp (Nat.le_antisymm hab hba)

/-! ### Turn by turn -/

open Classical in
/-- The loop is about to take level `k`: the number of a node is that of the links into it from
nodes without the bound `k`. -/
structure IsAt (g : Graph) (k : Nat) (s : Countdown) : Prop where
  current_eq : s.current = g.level k
  get?_eq : ∀ id, s.numbers.get? id = if id ∈ g.nodeIds then
    some (g.links.countP fun l => ¬ g.Below k l.1 ∧ l.2 = id) else none

/-- The loop begins with level zero. -/
theorem isAt_countdown (hd : g.nodeIds.Nodup) : g.IsAt 0 g.countdown := by
  classical
  have hzero (id : String) : (Table.ofList (g.nodeIds.map fun id => (id, 0))).get? id =
      if id ∈ g.nodeIds then some 0 else none := by
    have hkeys : (g.nodeIds.map fun id => (id, 0)).map (·.1) = g.nodeIds := by
      simp [Function.comp_def]
    split
    · rename_i hid
      refine Table.get?_ofList_of_mem ?_ (List.mem_map.mpr ⟨id, hid, rfl⟩)
      rwa [hkeys]
    · rename_i hid
      refine Table.get?_ofList_eq_none_iff.mpr ?_
      rwa [hkeys]
  have hcount (id : String) : (g.links.map (·.2)).count id =
      g.links.countP fun l => ¬ g.Below 0 l.1 ∧ l.2 = id := by
    rw [List.count, List.countP_map]
    exact List.countP_congr fun l _ => by simp [not_below_zero]
  have hget (id : String) : g.linkNumbers.get? id = if id ∈ g.nodeIds then
      some (g.links.countP fun l => ¬ g.Below 0 l.1 ∧ l.2 = id) else none := by
    rw [linkNumbers, Countdown.get?_foldl_putOn, hzero, hcount]
    split <;> simp
  refine ⟨List.filter_congr fun id hid => ?_, hget⟩
  rw [hget, if_pos hid, decide_eq_decide, Option.some.injEq, countP_links_eq_zero_iff, hasDepth_iff]
  exact (and_iff_left not_below_zero).symm

/-- **A turn takes the loop from one level to the next**, and takes no link that is not there. -/
theorem IsAt.turn (hg : g.IsClosed) (hd : g.nodeIds.Nodup) {k : Nat} {s : Countdown}
    (h : g.IsAt k s) : ∃ s', g.turn? s = some s' ∧ g.IsAt (k + 1) s' := by
  classical
  obtain ⟨hcurrent, hget⟩ := h
  have hcount (id : String) :
      (s.current.flatMap g.targets).count id = Leveling.linksInto g.links (g.level k) id := by
    rw [hcurrent, count_targets (nodup_level hd k)]
  have hsplit := linksInto_level hg k
  have henough (id : String) (n : Nat) (hn : s.numbers.get? id = some n) :
      (s.current.flatMap g.targets).count id ≤ n := by
    rw [hget] at hn
    split at hn
    · cases hn
      rw [hcount, hsplit id]
      exact Nat.le_add_right _ _
    · cases hn
  obtain ⟨⟨numbers, noted⟩, htake, hnumbers, hnodup, hnoted⟩ :=
    Countdown.exists_takeOffAll? henough
  have hnext (id : String) : id ∈ noted ↔ id ∈ g.level (k + 1) := by
    rw [hnoted, hget, hcount, mem_level_iff, hasDepth_iff, ← List.count_pos_iff, hcount,
      ← countP_links_eq_zero_iff, ← countP_links_eq_zero_iff, hsplit id]
    by_cases hid : id ∈ g.nodeIds
    · simp only [hid, if_true, Option.some.injEq, true_and]
      omega
    · simp [hid]
  refine ⟨⟨numbers, g.inOrder noted⟩, by rw [turn?, htake, Option.map_some], ?_, fun id => ?_⟩
  · exact inOrder_eq hnodup List.filter_sublist hd hnext
  · rw [hnumbers, hget, hcount]
    split
    · rw [Option.map_some, hsplit id, Nat.add_sub_cancel_left]
    · rfl

/-- Before each turn, the levels so far have been taken. -/
theorem IsHead.isAt (hg : g.IsClosed) (hd : g.nodeIds.Nodup) {levels : List (List String)}
    {s : Countdown} (h : g.IsHead levels s) :
    ∃ k, g.IsAt k s ∧ levels = (List.range k).map g.level ∧ ∀ j < k, g.level j ≠ [] := by
  induction h with
  | first => exact ⟨0, isAt_countdown hd, rfl, by simp⟩
  | again _ hne ht ih =>
    obtain ⟨k, hat, rfl, hall⟩ := ih
    obtain ⟨s', hs', hnext⟩ := hat.turn hg hd
    cases ht.symm.trans hs'
    refine ⟨k + 1, hnext, ?_, fun j hj => ?_⟩
    · rw [List.range_succ, List.map_append, List.map_singleton, hat.current_eq]
    · rcases Nat.lt_succ_iff_lt_or_eq.mp hj with hj | rfl
      · exact hall j hj
      · exact hat.current_eq ▸ hne

/-- The loop comes to each level that there is, and to the empty one behind them. -/
theorem exists_isHead (hg : g.IsClosed) (hd : g.nodeIds.Nodup) {k : Nat}
    (h : ∀ j < k, g.level j ≠ []) :
    ∃ s, g.IsHead ((List.range k).map g.level) s ∧ g.IsAt k s := by
  induction k with
  | zero => exact ⟨g.countdown, .first, isAt_countdown hd⟩
  | succ k ih =>
    obtain ⟨s, hhead, hat⟩ := ih fun j hj => h j (by omega)
    obtain ⟨s', hs', hnext⟩ := hat.turn hg hd
    have hne : s.current ≠ [] := hat.current_eq ▸ h k (by omega)
    refine ⟨s', ?_, hnext⟩
    rw [List.range_succ, List.map_append, List.map_singleton, ← hat.current_eq]
    exact .again hhead hne hs'

/-! ### The levels that have been taken -/

/-- The nodes of the first `k` levels are those with the bound `k`. -/
theorem mem_flatten_levels_iff {k : Nat} {id : String} :
    id ∈ ((List.range k).map g.level).flatten ↔ id ∈ g.nodeIds ∧ g.Below k id := by
  simp only [List.mem_flatten, List.mem_map, List.mem_range]
  constructor
  · rintro ⟨_, ⟨j, hj, rfl⟩, hid⟩
    obtain ⟨hnode, hdepth⟩ := mem_level_iff.mp hid
    exact ⟨hnode, (hasDepth_iff.mp hdepth).1.mono hj⟩
  · rintro ⟨hnode, hb⟩
    obtain ⟨j, hj⟩ := exists_hasDepth_iff.mpr ⟨k, hb⟩
    exact ⟨_, ⟨j, hj.lt_of_below hb, rfl⟩, mem_level_iff.mpr ⟨hnode, hj⟩⟩

theorem nodup_flatten_levels (hd : g.nodeIds.Nodup) (k : Nat) :
    ((List.range k).map g.level).flatten.Nodup := by
  rw [List.nodup_flatten]
  refine ⟨fun l hl => ?_, ?_⟩
  · obtain ⟨j, -, rfl⟩ := List.mem_map.mp hl
    exact nodup_level hd j
  · refine List.pairwise_map.mpr (List.nodup_range.pairwise_of_forall_ne fun i _ j _ hij => ?_)
    intro id hi hj
    exact hij ((mem_level_iff.mp hi).2.unique (mem_level_iff.mp hj).2)

/-- The links into a node from nodes without the bound `k` are the connections into it from nodes
that are not in the first `k` levels. -/
theorem countP_links_eq_countP_connections (hg : g.IsClosed) {k : Nat} {id : String} :
    open Classical in
    (g.links.countP fun l => ¬ g.Below k l.1 ∧ l.2 = id) =
      g.connections.countP fun c => !c.isInitial && c.target.node = id &&
        !((List.range k).map g.level).flatten.contains c.source.node := by
  classical
  rw [links, List.countP_map, List.countP_filter]
  refine List.countP_congr fun c hc => ?_
  by_cases hi : c.isInitial = true
  · simp [hi]
  · have hnode : c.source.node ∈ g.nodeIds :=
      (hg _ _ ⟨c, hc, by simpa using hi, rfl, rfl⟩).1
    have hlevel : c.source.node ∈ ((List.range k).map g.level).flatten ↔
        g.Below k c.source.node := by
      rw [mem_flatten_levels_iff, and_iff_right hnode]
    simp only [Function.comp_apply, decide_eq_true_eq, Bool.and_eq_true, Bool.not_eq_true',
      List.contains_eq_mem, decide_eq_false_iff_not, hlevel, hi, and_true, true_and]
    exact and_comm

/-- No node is taken twice. -/
theorem IsHead.once (hg : g.IsClosed) (hd : g.nodeIds.Nodup) {levels : List (List String)}
    {s : Countdown} (h : g.IsHead levels s) :
    (levels.flatten ++ s.current).Nodup ∧ levels.flatten ++ s.current ⊆ g.nodeIds := by
  obtain ⟨k, hat, rfl, -⟩ := h.isAt hg hd
  have hsucc : ((List.range k).map g.level).flatten ++ s.current =
      ((List.range (k + 1)).map g.level).flatten := by
    rw [List.range_succ, List.map_append, List.flatten_append, hat.current_eq]
    simp
  rw [hsucc]
  exact ⟨nodup_flatten_levels hd _, fun id hid => (mem_flatten_levels_iff.mp hid).1⟩

/-- There are no more turns than nodes, as each turn takes some. -/
theorem IsHead.length_le (hg : g.IsClosed) (hd : g.nodeIds.Nodup) {levels : List (List String)}
    {s : Countdown} (h : g.IsHead levels s) : levels.length ≤ g.nodes.length := by
  obtain ⟨hnodup, hsub⟩ := h.once hg hd
  obtain ⟨k, -, hlevels, hne⟩ := h.isAt hg hd
  have hpos : ∀ n ∈ levels.map List.length, 1 ≤ n := by
    simp only [hlevels, List.mem_map, List.mem_range]
    rintro _ ⟨_, ⟨j, hj, rfl⟩, rfl⟩
    exact List.length_pos_iff.mpr (hne j hj)
  calc levels.length
    _ = (levels.map List.length).length := (List.length_map _).symm
    _ ≤ (levels.map List.length).sum := List.length_le_sum_of_one_le _ hpos
    _ = levels.flatten.length := List.length_flatten.symm
    _ ≤ g.nodeIds.length :=
      (hnodup.of_append_left.subperm fun id hid => hsub (List.mem_append_left _ hid)).length_le
    _ = g.nodes.length := List.length_map _

/-! ### Where the loop ends -/

open Classical in
theorem mem_unbounded_iff {k m : Nat} {id : String} :
    (id, m) ∈ g.unbounded k ↔ id ∈ g.nodeIds ∧ ¬ g.Below (k + 1) id ∧
      g.links.countP (fun l => ¬ g.Below k l.1 ∧ l.2 = id) = m := by
  simp only [unbounded, List.mem_map, List.mem_filter, decide_eq_true_eq, Prod.mk.injEq]
  constructor
  · rintro ⟨_, ⟨hid, hb⟩, rfl, hm⟩
    exact ⟨hid, hb, hm⟩
  · rintro ⟨hid, hb, hm⟩
    exact ⟨id, ⟨hid, hb⟩, rfl, hm⟩

/-- In the end the levels have been taken, and a number that is not zero is left to the nodes left
over. -/
theorem IsHead.leveling_eq (hg : g.IsClosed) (hd : g.nodeIds.Nodup) {levels : List (List String)}
    {s : Countdown} (h : g.IsHead levels s) (hs : s.current = []) :
    g.leveling.levels = levels ∧
      ∀ id m, (id, m) ∈ g.leveling.left ↔ s.numbers.get? id = some m ∧ 0 < m := by
  obtain ⟨n, hn, hall, hl⟩ := exists_leveling_eq hg
  obtain ⟨k, hat, rfl, hbefore⟩ := h.isAt hg hd
  have hk : g.level k = [] := hat.current_eq ▸ hs
  -- Both are the first level that is empty.
  obtain rfl : k = n := by
    rcases Nat.lt_trichotomy k n with hkn | hkn | hkn
    · exact absurd hk (hall k hkn)
    · exact hkn
    · exact absurd hn (hbefore n hkn)
  refine ⟨by rw [hl], fun id m => ?_⟩
  rw [hl, mem_unbounded_iff, hat.get?_eq, ← countP_links_eq_zero_iff]
  by_cases hid : id ∈ g.nodeIds
  · simp only [hid, if_true, Option.some.injEq, true_and]
    omega
  · simp [hid]

/-- **The count is right for every graph without structural errors.** -/
theorem isCountedDown_of_structureErrors (r : Registry β) (g : Graph)
    (h : g.structureErrors r = []) : g.IsCountedDown := by
  have hs := (structureErrors_eq_nil_iff r g).mp h
  have hg := hs.isClosed
  have hd := hs.distinct
  constructor
  case number_eq =>
    intro levels s hhead id hid
    obtain ⟨k, hat, rfl, -⟩ := hhead.isAt hg hd
    rw [hat.get?_eq, if_pos hid, countP_links_eq_countP_connections hg]
  case turns =>
    intro levels s hhead
    obtain ⟨k, hat, -, -⟩ := hhead.isAt hg hd
    obtain ⟨s', hs', -⟩ := hat.turn hg hd
    exact ⟨s', hs'⟩
  case once => exact fun levels s hhead => hhead.once hg hd
  case length_le => exact fun levels s hhead => hhead.length_le hg hd
  case ends =>
    obtain ⟨n, hn, hall, -⟩ := exists_leveling_eq hg
    obtain ⟨s, hhead, hat⟩ := exists_isHead hg hd hall
    exact ⟨_, s, hhead, hat.current_eq.trans hn⟩
  case positive_iff =>
    intro levels s hhead hs id _
    obtain ⟨-, hleft⟩ := hhead.leveling_eq hg hd hs
    rw [← mem_leftOver_iff hg, leftOver, List.mem_map]
    constructor
    · rintro ⟨m, hm⟩
      exact ⟨(id, m), (hleft id m).mpr hm, rfl⟩
    · rintro ⟨⟨_, m⟩, hm, rfl⟩
      exact ⟨m, (hleft _ m).mp hm⟩
  case leveling_eq => exact fun levels s hhead hs => hhead.leveling_eq hg hd hs

/-- The count for the ring of two sums with a source before and a sum behind it: it ends when the
source has been taken, with a link left into each node of the ring and into the sum behind it. -/
theorem isCountedDown_sampleRing :
    sampleRing.structureErrors sampleRegistry = [] ∧ sampleRing.IsCountedDown ∧
      ∃ s, sampleRing.IsHead [["p"]] s ∧ s.current = [] ∧
        s.numbers.entries = [("b", 1), ("c", 1), ("d", 1), ("p", 0)] := by
  have h : sampleRing.structureErrors sampleRegistry = [] := by decide +kernel
  have hturn : ∃ s, sampleRing.turn? sampleRing.countdown = some s ∧ s.current = [] ∧
      s.numbers.entries = [("b", 1), ("c", 1), ("d", 1), ("p", 0)] :=
    ⟨_, rfl, by decide +kernel, by decide +kernel⟩
  obtain ⟨s, hs, hcurrent, hnumbers⟩ := hturn
  exact ⟨h, isCountedDown_of_structureErrors sampleRegistry sampleRing h, s,
    .again .first (by decide +kernel) hs, hcurrent, hnumbers⟩

end Graph

end PortGraph
