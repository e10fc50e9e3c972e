import PortGraph.Proofs.Work.Sharing
import PortGraph.Proofs.Work.Steps

/-!
# Work that heeds cancellation

A piece of work may wait for an instant or for cancellation, whichever comes first, and have nothing
left to do but to tell of its end if cancellation does. Then it ends at the very instant at which
the run is cancelled. For whoever waits for cancellation stands in the queue from that instant on,
and the clock does not move while anybody does.

Until it ends nothing is done to the piece; and in the step in which it ends nobody does anything
else.

## Main definitions

* `Work.Heeds`: the work waits, and has but to tell of its end if it is cancelled
* `Pool.Heeds`: a piece is to end at the instant of cancellation, or has ended then
* `Pool.OnlyEnds`: nothing has been done to a piece but to end it

## Main results

* `Pool.heeds_of_step`: who waits when cancellation comes is to end at that instant
* `Pool.Heeds.step`, `Pool.Heeds.leads`: steps let it end, and nothing else happens to it
-/

namespace PortGraph

variable {σ ε α : Type}

/-! ### Work -/

namespace Work

/-- The work waits for cancellation, or for an instant after `c`. If the run is cancelled at `c`, it
tells `news` and ends with `x`, and does nothing else. -/
def Heeds (w : Work σ ε α) (c : Nat) (news : ε) (x : α) : Prop :=
  ∃ due next, w = .await (.instantOrCancelled due) next ∧ c < due ∧
    ∀ world : World σ ε, world.now = c →
      (next world.moment).drive world = (world.tell news, .done x)

variable {w : Work σ ε α} {c : Nat} {news : ε} {x : α} {world : World σ ε}

/-- Who waits cannot go on before cancellation has come. -/
theorem Heeds.drive_eq_self (h : w.Heeds c news x) (hnow : world.now = c)
    (hgo : world.cancelled = false) : w.drive world = (world, w) := by
  obtain ⟨due, next, rfl, hdue, -⟩ := h
  have hopen : (Wait.instantOrCancelled due).isOver world.moment = false := by
    simp [Wait.isOver, Wait.isDue, Wait.instantOrCancelled, World.moment, hnow, hdue, hgo]
  rw [drive, hopen]
  rfl

/-- **When cancellation has come, the work ends at once**, as soon as it is looked at. -/
theorem Heeds.drive_eq (h : w.Heeds c news x) (hnow : world.now = c)
    (hcancelled : world.cancelled = true) (hallowance : world.allowance ≠ 0) :
    w.drive world = (world.tell news, .done x) := by
  obtain ⟨due, next, rfl, hdue, hnext⟩ := h
  have hover : (Wait.instantOrCancelled due).isOver world.moment = true := by
    simp [Wait.isOver, Wait.instantOrCancelled, World.moment, hcancelled]
  have hspent : world.isSpent (.instantOrCancelled due) = false := by
    simp [World.isSpent, hallowance]
  rw [drive, hover, hspent, World.pass_of_lt (hnow ▸ hdue)]
  exact hnext world hnow

end Work

/-! ### Pools -/

namespace Pool

/-- What is left of piece `j`. -/
def rest? (p : Pool σ ε α) (j : Nat) : Option (Work σ ε α) := p.pieces[j]?.map (·.rest)

/-- How piece `j` stands, which had `w` left when the run was cancelled at the instant `c`. -/
inductive Heeds (j : Nat) (w : Work σ ε α) (c : Nat) (news : ε) (x : α) (p : Pool σ ε α) : Prop
  /-- Nothing has been done to it, and the clock does not move before it has been looked at. -/
  | waits {k} (hpiece : p.pieces[j]? = some ⟨w, some k⟩) (hcancelled : p.world.cancelled = true)
    (hnow : p.world.now = c) (hlisted : j ∈ p.queue ++ p.late)
  /-- It has ended with `x`, and told so at the instant `c`. -/
  | ended {k} (hpiece : p.pieces[j]? = some ⟨.done x, some k⟩) (htold : (c, news) ∈ p.world.log)

/-- Between `p` and `q` nothing has been done to piece `j`; or it has ended with `x`, and all that
anybody has done is to tell `news` at the instant `c`. -/
def OnlyEnds (j c : Nat) (news : ε) (x : α) (p q : Pool σ ε α) : Prop :=
  q.rest? j = p.rest? j ∨
    q.rest? j = some (.done x) ∧ q.world.state = p.world.state ∧
      q.world.log = p.world.log.push (c, news)

variable {p q : Pool σ ε α} {w : Work σ ε α} {c i j : Nat} {news : ε} {x : α} {policy : Policy}

theorem OnlyEnds.of_eq {r : Pool σ ε α} (h : OnlyEnds j c news x r q)
    (hpieces : r.pieces = p.pieces) (hstate : r.world.state = p.world.state)
    (hlog : r.world.log = p.world.log) : OnlyEnds j c news x p q := by
  rw [OnlyEnds, rest?, rest?, hpieces, hstate, hlog] at h
  exact h

/-- A piece that cannot be looked at any more in this turn gives way. -/
theorem drive_of_isSpent {s : Piece σ ε α} (hs : p.pieces[i]? = some s)
    (hspent : s.wait?.any p.world.isSpent = true) :
    p.drive i = .ok { p.taken i with late := i :: p.late } := by
  simp only [Pool.drive, hs, hspent, if_true, taken]

/-- A drive of another piece takes nobody from those that are listed. -/
theorem mem_settle_taken (hj : j ∈ p.queue ++ p.late) (hne : j ≠ i) (world : World σ ε)
    (rest : Work σ ε α) :
    j ∈ ((p.taken i).settle i world rest).queue ++ ((p.taken i).settle i world rest).late := by
  refine mem_settle (.inl ?_)
  rcases List.mem_append.mp hj with hj | hj
  · exact List.mem_append_left _ ((List.mem_erase_of_ne hne).mpr hj)
  · exact List.mem_append_right _ hj

theorem getElem?_settle_of_ne (hne : j ≠ i) (world : World σ ε) (rest : Work σ ε α) :
    (p.settle i world rest).pieces[j]? = p.pieces[j]? := by
  rw [settle_pieces, List.getElem?_set_ne (Ne.symm hne)]

/-- A drive of a piece that waits lets it end if there is time left in this turn. -/
theorem Heeds.drive_self (hw : w.Heeds c news x) {k : Nat}
    (hpiece : p.pieces[i]? = some ⟨w, some k⟩) (hcancelled : p.world.cancelled = true)
    (hnow : p.world.now = c) (hq : p.drive i = .ok q) :
    q.Heeds i w c news x ∧ OnlyEnds i c news x p q := by
  have hgivesWay {r : Pool σ ε α} (hr : r = { p.taken i with late := i :: p.late }) :
      r.Heeds i w c news x ∧ OnlyEnds i c news x p r := by
    subst hr
    exact ⟨.waits hpiece hcancelled hnow (List.mem_append_right _ List.mem_cons_self), .inl rfl⟩
  obtain ⟨due, next, rfl, -⟩ := id hw
  -- Without allowance the piece has to give way until the next turn.
  by_cases hallowance : p.world.allowance = 0
  · refine hgivesWay (Except.ok.inj (hq.symm.trans (drive_of_isSpent hpiece ?_)))
    simp [Piece.wait?, World.isSpent, Wait.instantOrCancelled, hallowance]
  · obtain ⟨s, hs, hlate | ⟨-, -, rfl⟩⟩ := drive_inv hq
    · exact hgivesWay hlate
    · cases hpiece.symm.trans hs
      have hdrive := hw.drive_eq hnow hcancelled hallowance
      rw [show Piece.resume ⟨Work.await (Wait.instantOrCancelled due) next, some k⟩ =
        .await (.instantOrCancelled due) next from rfl, hdrive]
      have hlt := (List.getElem?_eq_some_iff.mp hpiece).1
      have hget : ((p.taken i).settle i (p.world.tell news) (.done x)).pieces[i]? =
          some ⟨.done x, some p.drives⟩ := by
        rw [settle_pieces]
        exact List.getElem?_set_self hlt
      have htell : (p.world.tell news).log = p.world.log.push (c, news) := by
        rw [World.tell, hnow]
      refine ⟨.ended hget ?_, .inr ⟨by rw [rest?, hget]; rfl, ?_, ?_⟩⟩
      · rw [settle_world, htell]
        exact Array.mem_push_self
      · rw [settle_world]
        rfl
      · rw [settle_world, htell]

/-- **A drive lets a piece end that is to end**, or does nothing to it. -/
theorem Heeds.drive (h : p.Heeds j w c news x) (hw : w.Heeds c news x) (hq : p.drive i = .ok q) :
    q.Heeds j w c news x ∧ OnlyEnds j c news x p q := by
  cases h with
  | @waits k hpiece hcancelled hnow hlisted =>
    by_cases hji : j = i
    · subst hji
      exact drive_self hw hpiece hcancelled hnow hq
    -- Another piece is driven. This one stays listed, and so the clock still cannot move.
    · have hnow' := now_drive hq
      have hcancelled' := cancelled_drive hq hcancelled
      obtain ⟨s, -, rfl | ⟨-, -, rfl⟩⟩ := drive_inv hq
      · refine ⟨.waits hpiece hcancelled hnow ?_, .inl rfl⟩
        show j ∈ p.queue.erase i ++ i :: p.late
        rcases List.mem_append.mp hlisted with hj | hj
        · exact List.mem_append_left _ ((List.mem_erase_of_ne hji).mpr hj)
        · exact List.mem_append_right _ (List.mem_cons_of_mem i hj)
      · have hget := getElem?_settle_of_ne (p := p.taken i) hji (s.resume.drive p.world).1
          (s.resume.drive p.world).2
        refine ⟨.waits (hget.trans hpiece) hcancelled' (hnow'.trans hnow)
          (mem_settle_taken hlisted hji _ _), .inl ?_⟩
        rw [rest?, hget]
        rfl
  | @ended k hpiece htold =>
    obtain ⟨s, hs, rfl | ⟨hopen, -, rfl⟩⟩ := drive_inv hq
    · exact ⟨.ended hpiece htold, .inl rfl⟩
    · have hji : j ≠ i := by
        rintro rfl
        cases hpiece.symm.trans hs
        cases hopen
      have hget := getElem?_settle_of_ne (p := p.taken i) hji (s.resume.drive p.world).1
        (s.resume.drive p.world).2
      refine ⟨.ended (hget.trans hpiece) ?_, .inl ?_⟩
      · rw [settle_world]
        exact s.resume.mem_log_drive htold
      · rw [rest?, hget]
        rfl

/-- The clock does not move before a piece has ended that is to end. -/
theorem Heeds.nextTurn (h : p.Heeds j w c news x) (hq : p.nextTurn = some q) :
    q.Heeds j w c news x := by
  obtain ⟨-, hlog, hcancelled⟩ := nextTurn_keeps hq
  have hpieces := nextTurn_pieces hq
  cases h with
  | waits hpiece hp hnow hlisted =>
    have hmem : j ∈ p.turn.queue := by
      rcases List.mem_append.mp hlisted with hj | hj <;> simp [turn, hj]
    rw [Pool.nextTurn, if_neg (by simpa using List.ne_nil_of_mem hmem)] at hq
    cases hq
    exact .waits hpiece (hcancelled hp) hnow (List.mem_append_left _ hmem)
  | ended hpiece htold => exact .ended (hpieces ▸ hpiece) (hlog ▸ htold)

/-- **A step lets a piece end that is to end**, or does nothing to it. -/
theorem Heeds.step (h : p.Heeds j w c news x) (hw : w.Heeds c news x)
    (hq : p.step policy = .ok q) : q.Heeds j w c news x ∧ OnlyEnds j c news x p q := by
  obtain ⟨r, i, rfl | hr, -, hq⟩ := step_inv hq
  · exact h.drive hw hq
  · obtain ⟨hstate, hlog, -⟩ := nextTurn_keeps hr
    exact ((h.nextTurn hr).drive hw hq).imp_right (·.of_eq (nextTurn_pieces hr) hstate hlog)

theorem Heeds.leads (h : p.Heeds j w c news x) (hw : w.Heeds c news x)
    (hq : Leads policy p q) : q.Heeds j w c news x := by
  induction hq with
  | refl => exact h
  | tail _ hstep ih => exact (ih.step hw hstep).1

/-- **A piece that is to end has ended when the pool is done.** -/
theorem Heeds.of_results? (h : p.Heeds j w c news x) (hw : w.Heeds c news x)
    {rs : List (Nat × α)} (hrs : p.results? = some rs) :
    (∃ k, rs[j]? = some (k, x)) ∧ (c, news) ∈ p.world.log := by
  obtain ⟨hlen, hget⟩ := exists_piece_of_results? hrs
  have hresult {s : Piece σ ε α} (hs : p.pieces[j]? = some s) :
      ∃ r, rs[j]? = some r ∧ s = ⟨.done r.2, some r.1⟩ := by
    have hlt : j < rs.length := hlen ▸ (List.getElem?_eq_some_iff.mp hs).1
    have hr := List.getElem?_eq_getElem hlt
    exact ⟨_, hr, Option.some.inj (hs.symm.trans (hget j _ hr))⟩
  cases h with
  | waits hpiece =>
    obtain ⟨due, next, rfl, -⟩ := hw
    obtain ⟨r, -, hr⟩ := hresult hpiece
    cases hr
  | ended hpiece htold =>
    obtain ⟨⟨k, y⟩, hr, he⟩ := hresult hpiece
    cases he
    exact ⟨⟨k, hr⟩, htold⟩

/-! ### The instant of cancellation -/

/-- Who waits is woken when cancellation has come, unless they are listed. -/
theorem listed_or_woken (hw : w.Heeds c news x) {k : Nat} (hpiece : p.pieces[j]? = some ⟨w, some k⟩)
    (hcancelled : p.world.cancelled = true) : j ∈ p.queue ∨ j ∈ p.woken ∨ j ∈ p.late := by
  obtain ⟨due, next, rfl, -⟩ := hw
  by_contra hnot
  simp only [not_or] at hnot
  refine hnot.2.1 (mem_woken_iff.mpr ⟨_, hpiece, ?_, hnot.1, hnot.2.2⟩)
  simp [Piece.wait?, Wait.isOver, Wait.instantOrCancelled, World.moment, hcancelled]

/-- Who waits is listed when a turn ends with cancellation. -/
theorem mem_turn (hw : w.Heeds c news x) {k : Nat} (hpiece : p.pieces[j]? = some ⟨w, some k⟩)
    (hcancelled : p.turn.world.cancelled = true) : j ∈ p.turn.queue := by
  have hlisted := listed_or_woken (p := { p with world := p.world.turn, spell := 0, last? := none })
    hw hpiece hcancelled
  simpa [turn, or_assoc] using hlisted

/-- Who waits is listed when a turn begins in which cancellation has come. -/
theorem heeds_of_nextTurn (hq : p.nextTurn = some q) (hcancelled : q.world.cancelled = true)
    (hw : w.Heeds c news x) (hnow : q.world.now = c) {k : Nat}
    (hpiece : p.pieces[j]? = some ⟨w, some k⟩) : q.Heeds j w c news x := by
  refine .waits (nextTurn_pieces hq ▸ hpiece) hcancelled hnow (List.mem_append_left _ ?_)
  simp only [Pool.nextTurn] at hq
  split at hq
  · rename_i hempty
    obtain ⟨world, -, rfl⟩ := Option.map_eq_some_iff.mp hq
    have hlisted := listed_or_woken (p := { p.turn with world := world }) hw hpiece hcancelled
    have hnone : j ∉ p.turn.queue := List.isEmpty_iff.mp hempty ▸ List.not_mem_nil
    exact (hlisted.resolve_left hnone).resolve_right List.not_mem_nil
  · cases hq
    exact mem_turn hw hpiece hcancelled

/-- Who waits is listed when somebody else has cancelled the run. -/
theorem heeds_of_drive (hq : p.drive i = .ok q) (hgo : p.world.cancelled = false)
    (hcancelled : q.world.cancelled = true) (hw : w.Heeds c news x) (hnow : q.world.now = c)
    {k : Nat} (hpiece : p.pieces[j]? = some ⟨w, some k⟩) :
    q.Heeds j w c news x ∧ OnlyEnds j c news x p q := by
  have hsame := (now_drive hq).symm.trans hnow
  obtain ⟨s, hs, rfl | ⟨-, -, rfl⟩⟩ := drive_inv hq
  · cases hgo.symm.trans hcancelled
  · have hworld : (s.resume.drive p.world).1.cancelled = true := by rwa [settle_world] at hcancelled
    -- Who cancels is somebody else, since who waits cannot go on before.
    have hji : j ≠ i := by
      rintro rfl
      cases hpiece.symm.trans hs
      have hstay := hw.drive_eq_self hsame hgo
      obtain ⟨due, next, rfl, -⟩ := hw
      rw [show Piece.resume ⟨Work.await (Wait.instantOrCancelled due) next, some k⟩ =
        .await (.instantOrCancelled due) next from rfl, hstay] at hworld
      cases hgo.symm.trans hworld
    have hget := getElem?_settle_of_ne (p := p.taken i) hji (s.resume.drive p.world).1
      (s.resume.drive p.world).2
    refine ⟨.waits (hget.trans hpiece) hcancelled hnow ?_, .inl ?_⟩
    · have hwoke : j ∈ (p.woke i (s.resume.drive p.world).1 (s.resume.drive p.world).2).queue ++
          (p.woke i (s.resume.drive p.world).1 (s.resume.drive p.world).2).late := by
        have hlisted := listed_or_woken
          (p := p.after i (s.resume.drive p.world).1 (s.resume.drive p.world).2) hw
          ((getElem?_after_of_ne hji.symm _ _).trans hpiece) hworld
        rw [woke, hworld, hgo]
        simpa [awaken, or_assoc] using hlisted
      rw [settle_taken]
      split
      · exact mem_welcome hwoke
      · exact hwoke
    · rw [rest?, hget]
      rfl

/-- **Who waits when cancellation comes is to end at that instant.** -/
theorem heeds_of_step (hq : p.step policy = .ok q) (hgo : p.world.cancelled = false)
    (hcancelled : q.world.cancelled = true) (hw : w.Heeds c news x) (hnow : q.world.now = c)
    {k : Nat} (hpiece : p.pieces[j]? = some ⟨w, some k⟩) :
    q.Heeds j w c news x ∧ OnlyEnds j c news x p q := by
  obtain ⟨r, i, rfl | hr, -, hq⟩ := step_inv hq
  · exact heeds_of_drive hq hgo hcancelled hw hnow hpiece
  · obtain ⟨hstate, hlog, -⟩ := nextTurn_keeps hr
    have hpieces := nextTurn_pieces hr
    have hboth : q.Heeds j w c news x ∧ OnlyEnds j c news x r q := by
      cases hr' : r.world.cancelled with
      | false => exact heeds_of_drive hq hr' hcancelled hw hnow (hpieces ▸ hpiece)
      | true =>
        exact (heeds_of_nextTurn hr hr' hw ((now_drive hq).symm.trans hnow) hpiece).drive hw hq
    exact ⟨hboth.1, hboth.2.of_eq hpieces hstate hlog⟩

/-- **A request from outside is granted at its very instant** if somebody waits for it. Otherwise it
is still pending, somebody within having been first. -/
theorem cancelAt?_or_now_of_step (hq : p.step policy = .ok q) (hgo : p.world.cancelled = false)
    {u : Nat} (hu : p.world.Expects u) (hw : w.Heeds c news x) {k : Nat}
    (hpiece : p.pieces[j]? = some ⟨w, some k⟩) :
    q.world.cancelAt? = some u ∨ q.world.now = u := by
  obtain ⟨hat, hle⟩ := hu.resolve_right fun h => by cases hgo.symm.trans h.1
  obtain ⟨r, i, rfl | hr, -, hq⟩ := step_inv hq
  · exact .inl ((cancelAt?_drive hq).trans hat)
  rw [cancelAt?_drive hq, now_drive hq]
  simp only [Pool.nextTurn] at hr
  -- Before `u` the clock may jump, but not beyond `u`. At `u` whoever waits is listed.
  by_cases hlt : p.world.now < u
  · have hpending : p.turn.world.cancelAt? = some u := by simp [turn, World.turn, hat, hlt]
    split at hr
    · obtain ⟨world, hskip, rfl⟩ := Option.map_eq_some_iff.mp hr
      obtain ⟨due, next, rfl, -⟩ := hw
      have hwait : .instantOrCancelled due ∈ p.turn.waits :=
        List.mem_filterMap.mpr ⟨_, List.mem_of_getElem? hpiece, rfl⟩
      exact World.cancelAt?_or_now_of_skip hpending (Nat.le_of_lt hlt) hwait rfl hskip
    · cases hr
      exact .inl hpending
  · have hnow : p.turn.world.now = u := Nat.le_antisymm hle (Nat.le_of_not_lt hlt)
    have hturn : p.turn.world.cancelled = true := by
      simp [turn, World.turn, hat, Nat.le_of_not_lt hlt]
    rw [if_neg (by simpa using List.ne_nil_of_mem (mem_turn hw hpiece hturn))] at hr
    cases hr
    exact .inr hnow

end Pool

end PortGraph
