import PortGraph.Proofs.Work.Ensures
import PortGraph.Proofs.Work.Pool

/-!
# Pools of work that share a state

Pieces of work that share a state on some terms keep to them in a pool. If a pool comes to its end,
each of its results is one that its piece ensures by itself, whatever the policy chooses, however
many pieces may be under way, and whether the run is cancelled or not.

That the clock is punctual for every single piece is where the pool comes in: the clock moves only
when the turn has ended and nobody is left in the queue, and then no piece has given way, and every
piece that waits for an instant is looked at.

## Main definitions

* `Pool.IsKept`: the invariant of a pool whose pieces share a state

## Main results

* `Pool.IsKept.step`, `Pool.IsKept.leads`: steps keep to the terms
* `Pool.IsKept.run`: what the pieces ensure holds of the results
-/

namespace PortGraph

variable {ι σ ε α : Type}

/-- What is left of a piece ensures `P` on the clock `now`, when the state is `state`. A piece that
has not started may do so at any time. -/
def Piece.IsKept (T : Terms ι σ) (i : ι) (P : Nat → σ → α → Prop) (now : Nat) (state : σ)
    (p : Piece σ ε α) : Prop :=
  ∃ s, T.rely i s state ∧
    if p.stopped?.isSome then p.rest.EnsuresStopped T i P now s
    else ∀ t, now ≤ t → p.rest.Ensures T i P t s

namespace Piece

variable {T : Terms ι σ} {i : ι} {P : Nat → σ → α → Prop} {now : Nat} {state : σ}
  {p : Piece σ ε α}

theorem IsKept.of_rely (h : p.IsKept T i P now state) {state' : σ} (hs : T.rely i state state') :
    p.IsKept T i P now state' := by
  obtain ⟨s, hrely, hp⟩ := h
  exact ⟨s, T.trans i hrely hs, hp⟩

/-- A piece that is resumed ensures what it does. -/
theorem IsKept.resume (h : p.IsKept T i P now state) (hopen : p.isOpen = true) :
    ∃ s, T.rely i s state ∧ p.resume.Ensures T i P now s := by
  obtain ⟨s, hrely, hp⟩ := h
  refine ⟨s, hrely, ?_⟩
  obtain ⟨rest, stopped?⟩ := p
  cases stopped? with
  | none => exact hp now (Nat.le_refl _)
  | some k =>
    cases rest with
    | await w next => exact hp
    | yield next => exact hp
    | _ => simp [isOpen] at hopen

/-- Time may pass for a piece that has not given way, as long as it is punctual. -/
theorem IsKept.later (h : p.IsKept T i P now state) {now' : Nat} (hle : now ≤ now')
    (hyield : p.stopped?.isSome = true → ∀ next, p.rest ≠ .yield next)
    (hdue : ∀ w, p.wait? = some w → ∀ d, w.due? = some d → now' ≤ max now d) :
    p.IsKept T i P now' state := by
  obtain ⟨s, hrely, hp⟩ := h
  refine ⟨s, hrely, ?_⟩
  obtain ⟨rest, stopped?⟩ := p
  cases stopped? with
  | none => exact fun t ht => hp t (Nat.le_trans hle ht)
  | some k =>
    cases rest with
    | done a =>
      obtain ⟨t, ht, ha⟩ := hp
      exact ⟨t, Nat.le_trans ht hle, ha⟩
    | await w next => exact Work.Ensures.later hp hle (hdue w rfl)
    | yield next => exact absurd rfl (hyield rfl next)
    | _ => exact hp

end Piece

namespace Pool

/-- What holds of a pool whose piece `j` ensures `P j` under the name `who j`, at any time. -/
structure IsKept (T : Terms ι σ) (who : Nat → ι) (P : Nat → Nat → σ → α → Prop)
    (p : Pool σ ε α) : Prop where
  meets : p.world.Meets T
  kept : ∀ (j : Nat) (q : Piece σ ε α), p.pieces[j]? = some q →
    q.IsKept T (who j) (P j) p.world.now p.world.state
  /-- Whoever has given way is listed, so that the clock does not move. -/
  listed : ∀ (j : Nat) (q : Piece σ ε α) next, p.pieces[j]? = some q → q.stopped?.isSome = true →
    q.rest = .yield next → j ∈ p.queue ++ p.late

variable {T : Terms ι σ} {who : Nat → ι} {P : Nat → Nat → σ → α → Prop} {p q : Pool σ ε α}

/-! ### One drive -/

/-- Who is listed still is when another piece enters. -/
theorem mem_welcome {j : Nat} (h : j ∈ p.queue ++ p.late) :
    j ∈ p.welcome.queue ++ p.welcome.late := by
  rw [Pool.welcome]
  split
  · rcases List.mem_append.mp h with h | h <;> simp [h]
  · exact h

/-- Settling takes nobody from the queue, and the piece itself is listed if it gives way. -/
theorem mem_settle {i j : Nat} {world : World σ ε} {rest : Work σ ε α}
    (h : j ∈ p.queue ++ p.late ∨ j = i ∧ rest.givesWay world = true) :
    j ∈ (p.settle i world rest).queue ++ (p.settle i world rest).late := by
  have hlate : j ∈ p.queue ++ if rest.givesWay world then i :: p.late else p.late := by
    rcases h with h | ⟨rfl, h⟩
    · split
      · exact List.mem_append.mpr ((List.mem_append.mp h).imp_right (List.mem_cons_of_mem _))
      · exact h
    · simp [h]
  have hawaken {r : Pool σ ε α} (hr : j ∈ r.queue ++ r.late) :
      j ∈ r.awaken.queue ++ r.awaken.late := by
    rcases List.mem_append.mp hr with hr | hr <;> simp [Pool.awaken, hr]
  simp only [Pool.settle]
  split
  · refine mem_welcome ?_
    split
    · exact hawaken hlate
    · exact hlate
  · split
    · exact hawaken hlate
    · exact hlate

/-- A drive keeps to the terms. -/
theorem IsKept.drive (h : p.IsKept T who P)
    (hwho : ∀ j k, j < p.pieces.length → k < p.pieces.length → j ≠ k → who j ≠ who k) {i : Nat}
    (hq : p.drive i = .ok q) : q.IsKept T who P := by
  have hmem {j : Nat} (hj : j ∈ p.queue ++ p.late) (hne : j ≠ i) :
      j ∈ p.queue.erase i ++ p.late := by
    rcases List.mem_append.mp hj with hj | hj
    · exact List.mem_append_left _ ((List.mem_erase_of_ne hne).mpr hj)
    · exact List.mem_append_right _ hj
  obtain ⟨s, hs, rfl | ⟨hopen, hfault, rfl⟩⟩ := drive_inv hq
  · refine ⟨h.meets, h.kept, fun j r next hr hstop hrest => ?_⟩
    show j ∈ p.queue.erase i ++ i :: p.late
    rw [List.mem_append, List.mem_cons]
    by_cases hij : j = i
    · exact .inr (.inl hij)
    · have := hmem (h.listed j r next hr hstop hrest) hij
      exact (List.mem_append.mp this).imp_right .inr
  · obtain ⟨known, hrely, hens⟩ := (h.kept i s hs).resume hopen
    obtain ⟨hmeets, hnow, hothers, known', hrely', hens'⟩ := hens.drive h.meets hrely hfault
    have hlt := (List.getElem?_eq_some_iff.mp hs).1
    refine ⟨?meets, fun j r hr => ?kept, fun j r next hr hstop hyield => ?listed⟩
    case meets =>
      rw [settle_world]
      exact hmeets
    case kept =>
      rw [settle_world, hnow]
      rcases getElem?_settle hr with ⟨rfl, rfl⟩ | ⟨hne, hr⟩
      · exact ⟨known', hrely', hens'⟩
      · have hltj := (List.getElem?_eq_some_iff.mp hr).1
        exact (h.kept j r hr).of_rely (hothers _ (hwho j i hltj hlt hne))
    case listed =>
      refine mem_settle ?_
      rcases getElem?_settle hr with ⟨rfl, rfl⟩ | ⟨hne, hr⟩
      · refine .inr ⟨rfl, ?_⟩
        rw [show (s.resume.drive p.world).2 = .yield next from hyield]
        rfl
      · exact .inl (hmem (h.listed j r next hr hstop hyield) hne)

/-! ### The end of a turn -/

theorem IsKept.turn (h : p.IsKept T who P) : p.turn.IsKept T who P := by
  refine ⟨h.meets.turn, h.kept, fun j r next hr hstop hyield => ?_⟩
  have := h.listed j r next hr hstop hyield
  simp only [Pool.turn, List.append_nil, List.mem_append] at this ⊢
  tauto

/-- **The clock moves when nobody has given way**, and not beyond what anybody waits for. -/
theorem IsKept.nextTurn (h : p.IsKept T who P) (hq : p.nextTurn = some q) :
    q.IsKept T who P := by
  simp only [Pool.nextTurn] at hq
  split at hq
  · rename_i hempty
    obtain ⟨world, hskip, rfl⟩ := Option.map_eq_some_iff.mp hq
    obtain ⟨hle, hstate, hdue⟩ := World.skip_spec hskip
    have hnone {j : Nat} {r : Piece σ ε α} (hr : p.turn.pieces[j]? = some r)
        (hstop : r.stopped?.isSome = true) (next : Work σ ε α) : r.rest ≠ .yield next := by
      intro hyield
      have hmem := h.turn.listed j r next hr hstop hyield
      rw [List.isEmpty_iff.mp hempty] at hmem
      simp [Pool.turn] at hmem
    refine ⟨h.turn.meets.skip hskip, fun j r hr => ?_, fun j r next hr hstop hyield => ?_⟩
    · rw [hstate]
      refine (h.turn.kept j r hr).later hle (hnone hr) fun w hw => hdue w ?_
      exact List.mem_filterMap.mpr ⟨r, List.mem_of_getElem? hr, hw⟩
    · exact absurd hyield (hnone hr hstop next)
  · cases hq
    exact h.turn

/-! ### The run -/

/-- **A step keeps to the terms.** -/
theorem IsKept.step (h : p.IsKept T who P)
    (hwho : ∀ j k, j < p.pieces.length → k < p.pieces.length → j ≠ k → who j ≠ who k)
    {policy : Policy} (hq : p.step policy = .ok q) : q.IsKept T who P := by
  obtain ⟨r, i, rfl | hr, -, hq⟩ := step_inv hq
  · exact h.drive hwho hq
  · exact (h.nextTurn hr).drive (nextTurn_pieces hr ▸ hwho) hq

theorem IsKept.results (h : p.IsKept T who P) {rs : List (Nat × α)} (hrs : p.results? = some rs) :
    rs.length = p.pieces.length ∧ ∀ j r, rs[j]? = some r →
      ∃ t ≤ p.world.now, ∃ s, T.rely (who j) s p.world.state ∧ P j t s r.2 := by
  obtain ⟨hlen, hget⟩ := exists_piece_of_results? hrs
  refine ⟨hlen, fun j r hr => ?_⟩
  obtain ⟨s, hrely, t, ht, hP⟩ := h.kept j _ (hget j r hr)
  exact ⟨t, ht, s, hrely, hP⟩

/-- **Any number of steps keeps to the terms.** -/
theorem IsKept.leads (h : p.IsKept T who P)
    (hwho : ∀ j k, j < p.pieces.length → k < p.pieces.length → j ≠ k → who j ≠ who k)
    {policy : Policy} (hq : Leads policy p q) : q.IsKept T who P := by
  induction hq with
  | refl => exact h
  | tail hr hstep ih => exact ih.step (length_pieces_leads hr ▸ hwho) hstep

/-- **What pieces of work ensure holds of the results of a pool** that comes to its end, if they
keep to the terms on which they share its state. -/
theorem IsKept.run {policy : Policy} (h : p.IsKept T who P)
    (hwho : ∀ j k, j < p.pieces.length → k < p.pieces.length → j ≠ k → who j ≠ who k)
    {world : World σ ε} {rs : List (Nat × α)} (hrun : p.run policy = .ok (world, rs)) :
    world.Meets T ∧ rs.length = p.pieces.length ∧ ∀ j r, rs[j]? = some r →
      ∃ t ≤ world.now, ∃ s, T.rely (who j) s world.state ∧ P j t s r.2 := by
  obtain ⟨q, hq, rfl, hrs⟩ := exists_leads_of_run hrun
  have hkept := h.leads hwho hq
  rw [← length_pieces_leads hq]
  exact ⟨hkept.meets, hkept.results hrs⟩

/-- Works that have not started keep to the terms. -/
theorem isKept_start {world : World σ ε} {limit : Nat} {works : List (Work σ ε α)}
    (hworld : world.Meets T)
    (hworks : ∀ (j : Nat) w, works[j]? = some w → ∀ t, world.now ≤ t →
      w.Ensures T (who j) (P j) t world.state) :
    (start world limit works).IsKept T who P := by
  have hget {j : Nat} {s : Piece σ ε α} (hs : (Pool.start world limit works).pieces[j]? = some s) :
      works[j]? = some s.rest ∧ s.stopped? = none := by
    obtain ⟨w, hw, rfl⟩ := Option.map_eq_some_iff.mp (List.getElem?_map ▸ hs)
    exact ⟨hw, rfl⟩
  refine ⟨hworld, fun j s hs => ?_, fun j s next hs hstop _ => ?_⟩
  · refine ⟨world.state, T.refl _ _, ?_⟩
    rw [if_neg (by simp [(hget hs).2])]
    exact hworks j _ (hget hs).1
  · simp [(hget hs).2] at hstop

theorem length_pieces_start (world : World σ ε) (limit : Nat) (works : List (Work σ ε α)) :
    (start world limit works).pieces.length = works.length := by
  simp [Pool.start]

end Pool

end PortGraph
