import PortGraph.Proofs.Compile.Layers

/-!
# The cycle that is reported

What is reported of a graph that cannot be put into phases is a cycle of it, and not the list of all
nodes left over, which is only there in case the search finds nothing.

The search is looked at with one more list than it keeps: the nodes it has left, the last one
first. A node is left when each of its neighbours was left before, so along that list links only
lead back. This settles both halves. Coming upon a node that is neither fresh nor left is coming
upon the way, and closes a cycle. And a search that enters everything without that has put all nodes
into such a list, whose first node nothing leads to; but each of the nodes left over has one of them
as a source.

## Main definitions

* `Cycle.IsCycle`: distinct nodes, each of which leads to the next one, and the last to the first
* `Cycle.IsLeft`, `Cycle.IsWay`, `Cycle.IsSearch`: the invariant of the search

## Main results

* `Cycle.IsSearch.search`: a search from one start finds a cycle or leaves all that it has entered
* `Cycle.exists_find?_eq_some`: where every node has a source, a cycle is found
* `Graph.isCycle_of_reported`: what is reported is a cycle of the graph
-/

namespace PortGraph

namespace Cycle

/-- A cycle among nodes: distinct ones, each of which leads to the next one, and the last to the
first. -/
structure IsCycle (nodes : List String) (leads : String → String → Prop) (ids : List String) :
    Prop where
  nonempty : ids ≠ []
  subset : ids ⊆ nodes
  nodup : ids.Nodup
  chain : ids.IsChain leads
  closes : leads (ids.getLast nonempty) (ids.head nonempty)

theorem IsCycle.imp {nodes nodes' : List String} {leads leads' : String → String → Prop}
    {ids : List String} (h : IsCycle nodes leads ids) (hnodes : nodes ⊆ nodes')
    (hleads : ∀ a b, leads a b → leads' a b) : IsCycle nodes' leads' ids where
  nonempty := h.nonempty
  subset := List.Subset.trans h.subset hnodes
  nodup := h.nodup
  chain := h.chain.imp fun a b => hleads a b
  closes := hleads _ _ h.closes

/-! ### The invariant -/

/-- Nodes that were left, the last one first: whatever a node leads to was left before it. -/
def IsLeft (next : String → List String) : List String → Prop
  | [] => True
  | node :: before => (∀ n ∈ next node, n ∈ before) ∧ IsLeft next before

/-- A way that ends before the node `above?`: each node leads to the one above it, and whatever it
leads to was left, or is still to be tried, or is the one above it. -/
def IsWay (next : String → List String) (left : List String) : Option String → List Visit → Prop
  | _, [] => True
  | above?, (node, untried) :: rest =>
    (∀ n ∈ untried, n ∈ next node) ∧ (∀ n, above? = some n → n ∈ next node) ∧
      (∀ n ∈ next node, n ∈ left ∨ n ∈ untried ∨ above? = some n) ∧
      IsWay next left (some node) rest

/-- The state of a search among `nodes`: each of them was left, or is fresh, or is on the way. -/
structure IsSearch (next : String → List String) (nodes left fresh : List String)
    (way : List Visit) : Prop where
  perm : (left ++ fresh ++ way.map (·.1)).Perm nodes
  isLeft : IsLeft next left
  isWay : IsWay next left none way

variable {next : String → List String} {nodes left left' fresh : List String} {way : List Visit}

/-- What nodes that were left lead to was left. -/
theorem IsLeft.mem (h : IsLeft next left) {a n : String} (ha : a ∈ left) (hn : n ∈ next a) :
    n ∈ left := by
  induction left with
  | nil => simp at ha
  | cons node before ih =>
    rcases List.mem_cons.mp ha with rfl | ha
    · exact List.mem_cons_of_mem _ (h.1 n hn)
    · exact List.mem_cons_of_mem _ (ih h.2 ha)

/-- Nothing leads to the node that was left last. -/
theorem IsLeft.notMem_next {node : String} (h : IsLeft next (node :: left))
    (hd : (node :: left).Nodup) {a : String} (ha : a ∈ node :: left) : node ∉ next a := by
  intro hn
  refine (List.nodup_cons.mp hd).1 ?_
  rcases List.mem_cons.mp ha with rfl | ha
  · exact h.1 a hn
  · exact h.2.mem ha hn

theorem IsWay.mono {above? : Option String} (h : IsWay next left above? way)
    (hleft : left ⊆ left') : IsWay next left' above? way := by
  induction way generalizing above? with
  | nil => trivial
  | cons visit rest ih =>
    obtain ⟨huntried, habove, hdone, hrest⟩ := h
    exact ⟨huntried, habove, fun n hn => (hdone n hn).imp_left (@hleft n), ih hrest⟩

/-- The way after the node at its end has been left. -/
theorem IsWay.leave {node : String} (h : IsWay next left (some node) way) :
    IsWay next (node :: left) none way := by
  cases way with
  | nil => trivial
  | cons visit rest =>
    obtain ⟨huntried, -, hdone, hrest⟩ := h
    refine ⟨huntried, by simp, fun n hn => ?_, hrest.mono (List.subset_cons_self _ _)⟩
    rcases hdone n hn with hleft | hn | hn
    · exact .inl (List.mem_cons_of_mem _ hleft)
    · exact .inr (.inl hn)
    · exact .inl (Option.some.inj hn ▸ List.mem_cons_self)

/-! ### Closing a cycle -/

theorem closing_sublist (n : String) (way : List Visit) :
    (closing n way).Sublist (way.map (·.1)).reverse := by
  induction way with
  | nil => simp [closing]
  | cons visit rest ih =>
    rw [closing, List.map_cons, List.reverse_cons]
    split
    · exact List.sublist_append_right _ _
    · exact ih.append_right _

theorem head?_closing {n : String} (h : n ∈ way.map (·.1)) : (closing n way).head? = some n := by
  induction way with
  | nil => simp at h
  | cons visit rest ih =>
    rw [closing]
    split
    · rename_i hn
      simp [hn]
    · rename_i hn
      have hrest : n ∈ rest.map (·.1) := by simpa [Ne.symm hn] using h
      simp [List.head?_append, ih hrest]

theorem getLast?_closing {n : String} {node : String} {untried : List String} {rest : List Visit} :
    (closing n ((node, untried) :: rest)).getLast? = some node := by
  rw [closing]
  split <;> simp

/-- What is closed is a chain of links. -/
theorem IsWay.isChain_closing {n : String} {above? : Option String}
    (h : IsWay next left above? way) : (closing n way).IsChain fun a b => b ∈ next a := by
  induction way generalizing above? with
  | nil => exact .nil
  | cons visit rest ih =>
    obtain ⟨-, -, -, hrest⟩ := h
    rw [closing]
    split
    · exact .singleton _
    · refine List.isChain_append.mpr ⟨ih hrest, .singleton _, ?_⟩
      rintro last hlast _ ⟨⟩
      cases rest with
      | nil => simp [closing] at hlast
      | cons below rest =>
        rw [getLast?_closing] at hlast
        cases hlast
        exact hrest.2.1 visit.1 rfl

/-- **Coming upon a node of the way closes a cycle.** -/
theorem IsWay.isCycle_closing {n node : String} {untried : List String} {rest : List Visit}
    (h : IsWay next left none ((node, n :: untried) :: rest))
    (hsub : ((node, n :: untried) :: rest).map (·.1) ⊆ nodes)
    (hd : (((node, n :: untried) :: rest).map (·.1)).Nodup)
    (hn : n ∈ ((node, n :: untried) :: rest).map (·.1)) :
    IsCycle nodes (fun a b => b ∈ next a) (closing n ((node, n :: untried) :: rest)) := by
  have hhead := head?_closing hn
  have hsublist := closing_sublist n ((node, n :: untried) :: rest)
  have hne : closing n ((node, n :: untried) :: rest) ≠ [] := by
    intro hnil
    simp [hnil] at hhead
  refine ⟨hne, fun x hx => hsub (List.mem_reverse.mp (hsublist.subset hx)),
    hsublist.nodup (List.nodup_reverse.mpr hd), h.isChain_closing, ?_⟩
  rw [List.head?_eq_some_head hne, Option.some.injEq] at hhead
  have hlast : some _ = some node := List.getLast?_eq_some_getLast hne ▸ getLast?_closing
  rw [hhead, Option.some.inj hlast]
  exact h.1 n List.mem_cons_self

/-! ### The search -/

/-- What a search among `nodes` may end with when `fresh` had not been entered: a cycle, or fewer
fresh nodes, all others having been left. -/
def IsAnswer (next : String → List String) (nodes fresh : List String) :
    Except (List String) (List String) → Prop
  | .error ids => IsCycle nodes (fun a b => b ∈ next a) ids
  | .ok fresh' => fresh' ⊆ fresh ∧ ∃ left, (left ++ fresh').Perm nodes ∧ IsLeft next left

/-- A node with no neighbours to try is left. -/
theorem IsSearch.leave {node : String} {rest : List Visit}
    (h : IsSearch next nodes left fresh ((node, []) :: rest)) :
    IsSearch next nodes (node :: left) fresh rest := by
  obtain ⟨hperm, hleft, -, -, hdone, hrest⟩ := h
  refine ⟨?_, ⟨fun n hn => ?_, hleft⟩, hrest.leave⟩
  · rw [List.cons_append, List.cons_append]
    exact List.perm_middle.symm.trans hperm
  · simpa using hdone n hn

/-- A fresh neighbour is entered. -/
theorem IsSearch.enter {node n : String} {untried : List String} {rest : List Visit}
    (h : IsSearch next nodes left fresh ((node, n :: untried) :: rest)) (hfresh : n ∈ fresh) :
    IsSearch next nodes left (fresh.erase n) ((n, next n) :: (node, untried) :: rest) := by
  obtain ⟨hperm, hleft, huntried, -, hdone, hrest⟩ := h
  refine ⟨?_, hleft, fun _ hx => hx, by simp, fun _ hx => .inr (.inl hx),
    fun x hx => huntried x (List.mem_cons_of_mem _ hx), ?_, fun x hx => ?_, hrest⟩
  · refine List.Perm.trans ?_ hperm
    rw [List.map_cons, List.append_assoc, List.append_assoc]
    have hn := (List.perm_cons_erase hfresh).symm.append_right (node :: rest.map (·.1))
    exact (List.perm_middle.trans hn).append_left _
  · rintro _ ⟨⟩
    exact huntried n List.mem_cons_self
  · rcases hdone x hx with hx | hx | hx
    · exact .inl hx
    · exact .inr ((List.mem_cons.mp hx).symm.imp_right fun hxn => congrArg some hxn.symm)
    · cases hx

/-- A neighbour that is neither fresh nor on the way was left, so it need not be tried again. -/
theorem IsSearch.pass {node n : String} {untried : List String} {rest : List Visit}
    (h : IsSearch next nodes left fresh ((node, n :: untried) :: rest))
    (hnext : ∀ a, next a ⊆ nodes) (hfresh : n ∉ fresh)
    (hway : n ∉ ((node, n :: untried) :: rest).map (·.1)) :
    IsSearch next nodes left fresh ((node, untried) :: rest) := by
  obtain ⟨hperm, hleft, huntried, habove, hdone, hrest⟩ := h
  have hn : n ∈ left := by
    have hmem := hperm.mem_iff.mpr (hnext node (huntried n List.mem_cons_self))
    rcases List.mem_append.mp hmem with hmem | hmem
    · exact (List.mem_append.mp hmem).resolve_right hfresh
    · exact absurd hmem hway
  refine ⟨hperm, hleft, fun x hx => huntried x (List.mem_cons_of_mem _ hx), habove, fun x hx => ?_,
    hrest⟩
  rcases hdone x hx with hx | hx | hx
  · exact .inl hx
  · rcases List.mem_cons.mp hx with rfl | hx
    · exact .inl hn
    · exact .inr (.inl hx)
  · cases hx

/-- **A search from one start finds a cycle or leaves all that it has entered.** -/
theorem IsSearch.search (h : IsSearch next nodes left fresh way) (hd : nodes.Nodup)
    (hnext : ∀ a, next a ⊆ nodes) : IsAnswer next nodes fresh (search next fresh way) := by
  induction fresh, way using search.induct next generalizing left with
  | case1 fresh =>
    rw [Cycle.search]
    exact ⟨List.Subset.refl fresh, left, by simpa using h.perm, h.isLeft⟩
  | case2 fresh node rest ih =>
    rw [Cycle.search]
    exact ih h.leave
  | case3 fresh node n untried rest hway =>
    have hway : n ∈ ((node, n :: untried) :: rest).map (·.1) := by simpa using hway
    rw [Cycle.search, if_pos (List.contains_iff_mem.mpr hway)]
    have hnodup := (h.perm.nodup_iff.mpr hd).of_append_right
    exact h.isWay.isCycle_closing (fun x hx => h.perm.subset (List.mem_append_right _ hx)) hnodup
      hway
  | case4 fresh node n untried rest hfresh hway ih =>
    have hway : n ∉ ((node, n :: untried) :: rest).map (·.1) := by simpa using hway
    rw [Cycle.search, if_neg (mt List.contains_iff_mem.mp hway), dif_pos hfresh]
    have hentered := ih (h.enter hfresh)
    revert hentered
    cases Cycle.search next (fresh.erase n) ((n, next n) :: (node, untried) :: rest) with
    | error ids => exact id
    | ok fresh' => exact And.imp_left fun hsub => List.Subset.trans hsub List.erase_subset
  | case5 fresh node n untried rest hfresh hway ih =>
    have hway : n ∉ ((node, n :: untried) :: rest).map (·.1) := by simpa using hway
    rw [Cycle.search, if_neg (mt List.contains_iff_mem.mp hway), dif_neg hfresh]
    exact ih (h.pass hnext hfresh hway)

/-- The search from each start in turn finds a cycle, or in the end no start is fresh. -/
theorem findFrom?_spec (hd : nodes.Nodup) (hnext : ∀ a, next a ⊆ nodes) (starts : List String)
    (hperm : (left ++ fresh).Perm nodes) (hleft : IsLeft next left) :
    (∃ ids, findFrom? next fresh starts = some ids ∧ IsCycle nodes (fun a b => b ∈ next a) ids) ∨
      ∃ left' fresh', (left' ++ fresh').Perm nodes ∧ IsLeft next left' ∧ fresh' ⊆ fresh ∧
        ∀ start ∈ starts, start ∉ fresh' := by
  induction starts generalizing left fresh with
  | nil => exact .inr ⟨left, fresh, hperm, hleft, List.Subset.refl _, by simp⟩
  | cons start rest ih =>
    rw [findFrom?]
    split
    · rename_i hstart
      have hstart := List.contains_iff_mem.mp hstart
      have hsearch : IsSearch next nodes left (fresh.erase start) [(start, next start)] := by
        refine ⟨List.Perm.trans ?_ hperm, hleft, fun _ hx => hx, by simp,
          fun _ hx => .inr (.inl hx), trivial⟩
        rw [List.append_assoc]
        exact (List.perm_append_comm.trans (List.perm_cons_erase hstart).symm).append_left _
      have hanswer := hsearch.search hd hnext
      cases he : Cycle.search next (fresh.erase start) [(start, next start)] with
      | error ids =>
        rw [he] at hanswer
        exact .inl ⟨ids, rfl, hanswer⟩
      | ok fresh' =>
        rw [he] at hanswer
        obtain ⟨hsub, left', hperm', hleft'⟩ := hanswer
        refine (ih hperm' hleft').imp_right ?_
        rintro ⟨left'', fresh'', hperm'', hleft'', hsub', hrest⟩
        have hnodup : fresh.Nodup := (hperm.nodup_iff.mpr hd).of_append_right
        have hsub'' : fresh'' ⊆ fresh.erase start := List.Subset.trans hsub' hsub
        refine ⟨left'', fresh'', hperm'', hleft'', List.Subset.trans hsub'' List.erase_subset,
          List.forall_mem_cons.mpr ⟨fun hmem => ?_, hrest⟩⟩
        exact (hnodup.mem_erase_iff.mp (hsub'' hmem)).1 rfl
    · rename_i hstart
      refine (ih hperm hleft).imp_right ?_
      rintro ⟨left', fresh', hperm', hleft', hsub, hrest⟩
      refine ⟨left', fresh', hperm', hleft', hsub, List.forall_mem_cons.mpr ⟨fun hmem => ?_, hrest⟩⟩
      exact hstart (List.contains_iff_mem.mpr (hsub hmem))

/-- **Where every node has a source, a cycle is found.** -/
theorem exists_find?_eq_some {links : List (String × String)} (hd : nodes.Nodup)
    (hne : nodes ≠ []) (hsource : ∀ b ∈ nodes, ∃ a ∈ nodes, (a, b) ∈ links) :
    ∃ ids, find? links nodes = some ids ∧ IsCycle nodes (fun a b => (a, b) ∈ links) ids := by
  let next (id : String) := (links.filter fun l => l.1 = id && nodes.contains l.2).map (·.2)
  have hmem {a n : String} : n ∈ next a ↔ (a, n) ∈ links ∧ n ∈ nodes := by
    simp only [next, List.mem_map, List.mem_filter, Bool.and_eq_true, decide_eq_true_eq,
      List.contains_iff_mem]
    constructor
    · rintro ⟨⟨_, _⟩, ⟨hl, rfl, hn⟩, rfl⟩
      exact ⟨hl, hn⟩
    · rintro ⟨hl, hn⟩
      exact ⟨(a, n), ⟨hl, rfl, hn⟩, rfl⟩
  have hnext (a : String) : next a ⊆ nodes := fun n hn => (hmem.mp hn).2
  have hperm : ([] ++ nodes).Perm nodes := .refl nodes
  rcases findFrom?_spec hd hnext nodes hperm trivial with
    ⟨ids, hids, hcycle⟩ | ⟨left, fresh, hperm, hleft, hsub, hall⟩
  · exact ⟨ids, hids, hcycle.imp (List.Subset.refl _) fun a b hb => (hmem.mp hb).1⟩
  · -- All nodes were left, and the one that was left last has no source.
    obtain rfl : fresh = [] := List.eq_nil_iff_forall_not_mem.mpr fun x hx => hall x (hsub hx) hx
    rw [List.append_nil] at hperm
    cases left with
    | nil => exact absurd hperm.nil_eq.symm hne
    | cons last before =>
      have hlast : last ∈ nodes := hperm.subset List.mem_cons_self
      obtain ⟨a, ha, hal⟩ := hsource last hlast
      exact absurd (hmem.mpr ⟨hal, hlast⟩)
        (hleft.notMem_next (hperm.nodup_iff.mpr hd) (hperm.symm.subset ha))

end Cycle

namespace Graph

variable {β : Type} {r : Registry β} {g : Graph}

/-- The ids of the nodes left over. -/
def leftOver (g : Graph) : List String := g.leveling.left.map (·.1)

theorem leftOver_sublist (hg : g.IsClosed) : g.leftOver.Sublist g.nodeIds := by
  obtain ⟨n, -, -, hl⟩ := exists_leveling_eq hg
  rw [leftOver, hl, unbounded, List.map_map]
  simp [Function.comp_def]

/-- Each of the nodes left over has one of them as a source. -/
theorem exists_source_of_mem_leftOver (hg : g.IsClosed) {b : String} (hb : b ∈ g.leftOver) :
    ∃ a ∈ g.leftOver, (a, b) ∈ g.links := by
  obtain ⟨n, hn, -, hl⟩ := exists_leveling_eq hg
  have hmem (id : String) : id ∈ g.leftOver ↔ id ∈ g.nodeIds ∧ ¬ g.Below (n + 1) id := by
    rw [leftOver, hl, unbounded, List.map_map]
    simp [Function.comp_def]
  obtain ⟨-, hbelow⟩ := (hmem b).mp hb
  rw [below_succ_iff] at hbelow
  push Not at hbelow
  obtain ⟨a, hab, ha⟩ := hbelow
  have hnode := (hg a b hab).1
  refine ⟨a, (hmem a).mpr ⟨hnode, fun hsucc => ?_⟩, mem_links_iff.mpr hab⟩
  -- Otherwise the source would have depth `n`, and level `n` is empty.
  have : a ∈ g.level n := mem_level_iff.mpr ⟨hnode, hasDepth_iff.mpr ⟨hsucc, ha⟩⟩
  simp [hn] at this

/-- The phases of a graph are ruled out by a cycle that the search finds. -/
theorem isCycle_of_phases (h : g.IsSound r) {manifests : Table Manifest} {ids : List String}
    (hp : g.phases manifests = .error (.cycleDetected ids)) :
    Cycle.IsCycle g.nodeIds g.Feeds ids ∧ Cycle.find? g.links g.leftOver = some ids := by
  have hg := h.isClosed
  have hsub := leftOver_sublist hg
  simp only [phases] at hp
  split at hp
  · cases hp
  · rename_i hleft
    have hne : g.leftOver ≠ [] := by simpa [leftOver] using hleft
    obtain ⟨found, hfind, hcycle⟩ := Cycle.exists_find?_eq_some (hsub.nodup h.distinct) hne
      fun b hb => exists_source_of_mem_leftOver hg hb
    have hfound : g.cycleAmong g.leftOver = found := by
      rw [cycleAmong, hfind, Option.getD_some]
    cases hp
    rw [leftOver] at hfound
    rw [hfound]
    exact ⟨hcycle.imp hsub.subset fun a b hab => mem_links_iff.mp hab, hfind⟩

/-- Where a cycle is reported, the structure is sound and the phases are ruled out. -/
theorem phases_of_reported {ids : List String}
    (h : g.compile r = .error (.cycleDetected ids) ∨ .cycleDetected ids ∈ (g.diagnose r).errors) :
    g.IsSound r ∧ g.phases (g.manifests r) = .error (.cycleDetected ids) := by
  rw [← structureErrors_eq_nil_iff]
  rcases h with h | h
  · rw [compile] at h
    split at h
    · rename_i e rest he
      cases h
      exact absurd (he ▸ List.mem_cons_self) (cycleDetected_notMem_structureErrors ids)
    · rename_i he
      refine ⟨he, ?_⟩
      have hs := (structureErrors_eq_nil_iff r g).mp he
      split at h
      · rename_i e hp
        cases h
        exact hp
      · rename_i phases hp
        obtain ⟨steps, hsteps, -⟩ := hs.exists_addSteps
        rw [hsteps] at h
        cases h
  · rw [diagnose] at h
    split at h
    · rename_i he
      refine ⟨he, ?_⟩
      split at h
      · rename_i e hp
        rw [hp, List.mem_singleton.mp h]
      · simp at h
    · exact absurd h (cycleDetected_notMem_structureErrors ids)

/-- **What is reported is a cycle of the graph**: some of its nodes, each of which feeds the next
one, and the last the first. The search itself finds it, so the list of all nodes left over is never
reported in its place. -/
theorem isCycle_of_reported (r : Registry β) (g : Graph) (ids : List String)
    (h : g.compile r = .error (.cycleDetected ids) ∨ .cycleDetected ids ∈ (g.diagnose r).errors) :
    Cycle.IsCycle g.nodeIds g.Feeds ids ∧ Cycle.find? g.links g.leftOver = some ids := by
  obtain ⟨hs, hp⟩ := phases_of_reported h
  exact isCycle_of_phases hs hp

/-! ### A small ring -/

/-- Two sums `b` and `c` that feed each other, with a source `p` before and a sum `d` behind them.
The node `d` is left over as well, and the search leaves it before it enters the ring. -/
def sampleRing : Graph where
  id := "ring"
  nodes := [⟨"d", "sum", Table.empty⟩, ⟨"b", "sum", Table.empty⟩, ⟨"c", "sum", Table.empty⟩,
    ⟨"p", "source", Table.empty⟩]
  connections := [⟨⟨"p", "x"⟩, ⟨"b", "a"⟩⟩, ⟨⟨"c", "x"⟩, ⟨"b", "b"⟩⟩, ⟨⟨"b", "x"⟩, ⟨"c", "a"⟩⟩,
    ⟨⟨"c", "x"⟩, ⟨"d", "a"⟩⟩]

/-- The cycle of the ring. -/
theorem isCycle_sampleRing :
    sampleRing.compile sampleRegistry = .error (.cycleDetected ["b", "c"]) ∧
      Cycle.IsCycle sampleRing.nodeIds sampleRing.Feeds ["b", "c"] ∧
      Cycle.find? sampleRing.links sampleRing.leftOver = some ["b", "c"] := by
  have hstructure : sampleRing.structureErrors sampleRegistry = [] := by decide +kernel
  have hleft : sampleRing.leveling.left = [("d", 1), ("b", 1), ("c", 1)] := by decide +kernel
  have hfind : Cycle.find? sampleRing.links ["d", "b", "c"] = some ["b", "c"] := by
    have hlinks : sampleRing.links = [("p", "b"), ("c", "b"), ("b", "c"), ("c", "d")] := by
      decide +kernel
    simp [hlinks, Cycle.find?, Cycle.findFrom?, Cycle.search, Cycle.closing]
  have h : sampleRing.compile sampleRegistry = .error (.cycleDetected ["b", "c"]) := by
    simp [compile, hstructure, phases, hleft, cycleAmong, hfind]
  exact ⟨h, isCycle_of_reported sampleRegistry sampleRing ["b", "c"] (.inl h)⟩

end Graph

end PortGraph
