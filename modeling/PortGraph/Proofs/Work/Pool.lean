import PortGraph.Proofs.Work.Settles
import PortGraph.Work.Pool
import Mathlib.Data.List.Nodup
import Mathlib.Logic.Relation

/-!
# Pools that come to their end

A pool can only come to a halt if somebody is forgotten. The invariant `Pool.IsSound` says that this
does not happen: who has entered and has not ended is in the queue, or has given way, or waits, and
while there are pieces that have not entered there is one that has and can make room. It holds of
every pool that can be reached, whatever the work is, since it speaks of nothing but the
bookkeeping.

So a pool goes on as long as its pieces do. What is asked of these is that none of them comes to a
fault and that whoever waits does so for an instant, and it may be asked under conditions on the
worlds in which they are driven (`Pool.Sustains`). Then every policy leads to the end of all work,
however many pieces may be under way.

## Main definitions

* `Pool.Leads`: some steps lead from one pool to another
* `Pool.IsSound`: the invariant of a pool
* `Pool.Sustains`: what is asked of worlds and of works

## Main results

* `Pool.drive_inv`, `Pool.step_inv`: what a drive, and a step, can do
* `Pool.exists_leads_of_run`: some steps lead to the end of a run
* `Pool.IsSound.step`: a step keeps a pool sound
* `Pool.IsSound.exists_step`: a sound pool of works that are sustained makes a step unless it is
  done
* `Pool.run_start`: a pool of work that settles runs to its end
-/

namespace PortGraph

variable {σ ε α : Type}

namespace World

/-- **The clock jumps** if somebody waits for an instant, and then one of the waits is over. -/
theorem exists_skip (world : World σ ε) {waits : List Wait} {t : Nat}
    (ht : firstDue? waits = some t) :
    ∃ after, world.skip waits = some after ∧ ∃ w ∈ waits, w.isOver after.moment = true := by
  have hdue {after : World σ ε} (hnow : t ≤ after.now) :
      ∃ w ∈ waits, w.isOver after.moment = true := by
    obtain ⟨w, hw, hwt⟩ := List.mem_filterMap.mp (List.min?_mem ht)
    refine ⟨w, hw, ?_⟩
    simp [Wait.isOver, Wait.isDue, hwt, World.moment, hnow]
  rw [skip]
  dsimp only
  split
  · split
    · rename_i hover
      exact ⟨_, rfl, List.any_eq_true.mp hover⟩
    · rw [ht]
      exact ⟨_, rfl, hdue (Nat.le_max_right _ _)⟩
  · rw [ht]
    exact ⟨_, rfl, hdue (Nat.le_max_right _ _)⟩

end World

namespace Work

/-- Work stops where it has ended or cannot go on at once, unless it comes to a fault. -/
theorem isStopped_drive (w : Work σ ε α) (world : World σ ε)
    (h : ∀ cause, (w.drive world).2 ≠ .fault cause) : (w.drive world).2.IsStopped := by
  induction w generalizing world with
  | done a => trivial
  | fault cause => exact absurd rfl (h cause)
  | observe next ih => exact ih _ world h
  | tell news next ih => exact ih _ h
  | cancel next ih => exact ih _ h
  | consult change next ih => exact ih _ _ h
  | await w next ih =>
    rw [drive] at h ⊢
    split
    · rename_i hover
      rw [if_pos hover] at h
      exact ih _ _ h
    · trivial
  | yield next ih => trivial

end Work

namespace Piece

/-- A piece that stopped is open just if it is not closed. -/
theorem isOpen_eq_not_isClosed {s : Piece σ ε α} (h : s.stopped?.isSome → s.rest.IsStopped) :
    s.isOpen = !s.isClosed := by
  obtain ⟨rest, stopped?⟩ := s
  cases stopped? with
  | none => rfl
  | some t =>
    have := h rfl
    cases rest <;> first | rfl | exact this.elim

theorem isOpen_of_wait? {s : Piece σ ε α} (h : s.wait?.isSome) : s.isOpen = true := by
  obtain ⟨rest, stopped?⟩ := s
  cases stopped? with
  | none => rfl
  | some t => cases rest <;> simp_all [wait?, isOpen]

theorem isSome_stopped? {s : Piece σ ε α} (h : s.wait?.isSome) : s.stopped?.isSome := by
  obtain ⟨rest, stopped?⟩ := s
  cases stopped? <;> simp_all [wait?]

/-- What a piece waits for is where its work has come to. -/
theorem rest_of_wait? {s : Piece σ ε α} {w : Wait} (h : s.wait? = some w) :
    ∃ next, s.rest = .await w next := by
  obtain ⟨rest, stopped?⟩ := s
  cases stopped? <;> cases rest <;> simp_all [wait?]

end Piece

namespace Pool

/-! ### The results of a pool -/

theorem mapM_eq_none_iff {β γ : Type} {f : β → Option γ} {l : List β} :
    l.mapM f = none ↔ ∃ b ∈ l, f b = none := by
  induction l with
  | nil => simp
  | cons b rest ih =>
    rw [List.mapM_cons]
    cases hb : f b with
    | none => simp [hb]
    | some c => cases hr : rest.mapM f <;> simp_all

theorem mapM_eq_some_iff {β γ : Type} {f : β → Option γ} {l : List β} {m : List γ} :
    l.mapM f = some m ↔ l.map f = m.map some := by
  induction l generalizing m with
  | nil => cases m <;> simp
  | cons b rest ih =>
    rw [List.mapM_cons]
    cases m with
    | nil => cases f b <;> cases rest.mapM f <;> simp
    | cons c m => cases hb : f b <;> cases hr : rest.mapM f <;> simp_all

/-! ### What a step can do -/

variable {p q : Pool σ ε α}

/-- The pool when a piece has been taken from the queue. -/
def taken (p : Pool σ ε α) (i : Nat) : Pool σ ε α :=
  { p with queue := p.queue.erase i, last? := some i, spell := p.spell + 1 }

/-- **What a drive can do**: the piece has to give way, or else it is open, goes on without a fault,
and is settled where it stops. -/
theorem drive_inv {i : Nat} (h : p.drive i = .ok q) :
    ∃ s, p.pieces[i]? = some s ∧
      (q = { p.taken i with late := i :: p.late } ∨
        s.isOpen = true ∧ (∀ cause, (s.resume.drive p.world).2 ≠ .fault cause) ∧
          q = (p.taken i).settle i (s.resume.drive p.world).1 (s.resume.drive p.world).2) := by
  rw [drive] at h
  dsimp only at h
  split at h
  · cases h
  · rename_i s hs
    refine ⟨s, hs, ?_⟩
    split at h
    · cases h
      exact .inl rfl
    · split at h
      · rename_i hopen
        split at h
        · cases h
        · rename_i world rest hfault he
          cases h
          rw [he]
          exact .inr ⟨hopen, hfault, rfl⟩
      · cases h

/-- **What a step can do**: somebody who stands in the queue is driven, in this turn or the next. -/
theorem step_inv {policy : Policy} (h : p.step policy = .ok q) :
    ∃ r i, (r = p ∨ p.nextTurn = some r) ∧ i ∈ r.queue ∧ r.drive i = .ok q := by
  rw [step] at h
  split at h
  · rename_i i hpick
    obtain ⟨k, -, hk⟩ := Option.bind_eq_some_iff.mp hpick
    exact ⟨p, i, .inl rfl, List.mem_of_getElem? hk, h⟩
  · split at h
    · cases h
    · rename_i r hr
      split at h
      · cases h
      · rename_i i hfirst
        exact ⟨r, i, .inr hr, List.mem_of_getElem? hfirst, h⟩

theorem length_pieces_drive {i : Nat} (h : p.drive i = .ok q) :
    q.pieces.length = p.pieces.length := by
  obtain ⟨s, -, rfl | ⟨-, -, rfl⟩⟩ := drive_inv h
  · rfl
  · rw [settle_pieces, List.length_set]
    rfl

theorem length_pieces_step {policy : Policy} (h : p.step policy = .ok q) :
    q.pieces.length = p.pieces.length := by
  obtain ⟨r, i, hr, -, hq⟩ := step_inv h
  rw [length_pieces_drive hq]
  rcases hr with rfl | hr
  · rfl
  · rw [nextTurn_pieces hr]

/-! ### Any number of steps -/

/-- Some steps lead from one pool to another. -/
def Leads (policy : Policy) : Pool σ ε α → Pool σ ε α → Prop :=
  Relation.ReflTransGen fun p q => p.step policy = .ok q

theorem length_pieces_leads {policy : Policy} (h : Leads policy p q) :
    q.pieces.length = p.pieces.length := by
  induction h with
  | refl => rfl
  | tail _ hstep ih => exact (length_pieces_step hstep).trans ih

/-- **Some steps lead to the end of a run.** -/
theorem exists_leads_of_run {policy : Policy} {world : World σ ε} {rs : List (Nat × α)}
    (hrun : p.run policy = .ok (world, rs)) :
    ∃ q, Leads policy p q ∧ q.world = world ∧ q.results? = some rs := by
  induction p using wellFounded_below.induction with
  | _ p ih =>
    rw [Pool.run] at hrun
    split at hrun
    · rename_i hrs
      cases hrun
      exact ⟨p, .refl, rfl, hrs⟩
    · split at hrun
      · rename_i r hr
        obtain ⟨q, hq, hworld, hrs⟩ := ih r (step_below hr) hrun
        exact ⟨q, .head hr hq, hworld, hrs⟩
      · cases hrun

/-! ### The invariant -/

/-- What holds of the bookkeeping of a pool at any time. -/
structure IsTidy (p : Pool σ ε α) : Prop where
  stopped : ∀ (i : Nat) (s : Piece σ ε α), p.pieces[i]? = some s → s.stopped?.isSome →
    s.rest.IsStopped
  entered_le : p.entered ≤ p.pieces.length
  /-- A piece that has not entered has not started. -/
  fresh : ∀ (i : Nat) (s : Piece σ ε α), p.pieces[i]? = some s → p.entered ≤ i → s.stopped? = none
  /-- Only pieces that have entered and not ended stand in the queue or have given way. -/
  listed : ∀ i ∈ p.queue ++ p.late,
    i < p.entered ∧ ∃ s : Piece σ ε α, p.pieces[i]? = some s ∧ s.isOpen = true
  nodup : (p.queue ++ p.late).Nodup
  /-- Nobody who has entered and not ended is forgotten. -/
  covered : ∀ (i : Nat) (s : Piece σ ε α), i < p.entered → p.pieces[i]? = some s →
    s.isOpen = true → i ∈ p.queue ++ p.late ∨ s.wait?.isSome

/-- The invariant between two steps: besides, as long as there are pieces that have not entered,
somebody is under way whose end makes room for the next. -/
structure IsSound (p : Pool σ ε α) : Prop extends IsTidy p where
  entering : p.entered < p.pieces.length →
    ∃ (i : Nat) (s : Piece σ ε α), i < p.entered ∧ p.pieces[i]? = some s ∧ s.isOpen = true

/-- Moving pieces between the queue and those that gave way, and adding some that can go on, keeps a
pool tidy. -/
theorem IsTidy.of_perm (h : p.IsTidy) (hpieces : q.pieces = p.pieces)
    (hentered : q.entered = p.entered) {l : List Nat}
    (hperm : (q.queue ++ q.late).Perm (p.queue ++ p.late ++ l)) (hnodup : l.Nodup)
    (hl : ∀ i ∈ l, i ∉ p.queue ++ p.late ∧ i < p.entered ∧
      ∃ s : Piece σ ε α, p.pieces[i]? = some s ∧ s.isOpen = true) :
    q.IsTidy where
  stopped := hpieces ▸ h.stopped
  entered_le := hpieces ▸ hentered ▸ h.entered_le
  fresh := hpieces ▸ hentered ▸ h.fresh
  listed i hi := by
    rw [hpieces, hentered]
    rcases List.mem_append.mp (hperm.mem_iff.mp hi) with hold | hnew
    · exact h.listed i hold
    · exact (hl i hnew).2
  nodup := by
    rw [hperm.nodup_iff]
    exact h.nodup.append hnodup fun i hold hnew => (hl i hnew).1 hold
  covered i s hi hs ho := by
    rw [hentered] at hi
    rw [hpieces] at hs
    refine (h.covered i s hi hs ho).imp_left fun hold => ?_
    exact hperm.mem_iff.mpr (List.mem_append_left l hold)

theorem IsSound.of_isTidy (h : p.IsSound) (hq : q.IsTidy) (hpieces : q.pieces = p.pieces)
    (hentered : q.entered = p.entered) : q.IsSound :=
  ⟨hq, hpieces ▸ hentered ▸ h.entering⟩

theorem mem_woken_iff {p : Pool σ ε α} {i : Nat} :
    i ∈ p.woken ↔ ∃ s, p.pieces[i]? = some s ∧ s.wait?.any (·.isOver p.world.moment) = true ∧
      i ∉ p.queue ∧ i ∉ p.late := by
  simp only [woken, List.mem_map, List.mem_mergeSort, List.mem_filterMap]
  constructor
  · rintro ⟨⟨t, j⟩, ⟨⟨s, k⟩, hk, hj⟩, rfl⟩
    split at hj
    · rename_i hw
      obtain ⟨u, -, hu⟩ := Option.map_eq_some_iff.mp hj
      cases hu
      simp only [Bool.and_eq_true, Bool.not_eq_true', List.contains_eq_mem,
        decide_eq_false_iff_not] at hw
      exact ⟨s, List.mem_zipIdx_iff_getElem?.mp hk, hw.1.1, hw.1.2, hw.2⟩
    · simp at hj
  · rintro ⟨s, hs, hw, hq, hl⟩
    obtain ⟨w, hwait, -⟩ := (Option.any_eq_true _ _).mp hw
    obtain ⟨t, ht⟩ := Option.isSome_iff_exists.mp (Piece.isSome_stopped? (s := s) (by simp [hwait]))
    refine ⟨(t, i), ⟨(s, i), List.mem_zipIdx_iff_getElem?.mpr hs, ?_⟩, rfl⟩
    simp [hw, hq, hl, ht]

theorem nodup_woken (p : Pool σ ε α) : p.woken.Nodup := by
  have sub (l : List (Piece σ ε α × Nat)) (f : Piece σ ε α × Nat → Bool) :
      ((l.filterMap fun x => if f x then x.1.stopped?.map (·, x.2) else none).map
        (·.2)).Sublist (l.map (·.2)) := by
    induction l with
    | nil => simp
    | cons x rest ih =>
      obtain ⟨s, i⟩ := x
      cases hf : f (s, i) with
      | false => simpa [hf] using ih.cons i
      | true =>
        cases hs : s.stopped? with
        | none => simpa [hf, hs] using ih.cons i
        | some t => simpa [hf, hs] using ih.cons_cons i
  have hnodup : (p.pieces.zipIdx.map (·.2)).Nodup := by
    rw [List.zipIdx_map_snd]
    exact List.nodup_range'
  have hsub := sub p.pieces.zipIdx fun x =>
    x.1.wait?.any (·.isOver p.world.moment) && !p.queue.contains x.2 && !p.late.contains x.2
  exact (((List.mergeSort_perm _ _).map _).nodup_iff).mpr (hsub.nodup hnodup)

/-- Who is woken waits, has entered, and is not listed yet. -/
theorem IsTidy.of_mem_woken (h : p.IsTidy) {i : Nat} (hi : i ∈ p.woken) :
    i ∉ p.queue ++ p.late ∧ i < p.entered ∧
      ∃ s : Piece σ ε α, p.pieces[i]? = some s ∧ s.isOpen = true := by
  obtain ⟨s, hs, hover, hq, hl⟩ := mem_woken_iff.mp hi
  obtain ⟨w, hw, -⟩ := (Option.any_eq_true _ _).mp hover
  have hwait : s.wait?.isSome := by rw [hw]; rfl
  refine ⟨by simp [hq, hl], ?_, s, hs, Piece.isOpen_of_wait? hwait⟩
  by_contra hle
  have hstop := Piece.isSome_stopped? hwait
  rw [h.fresh i s hs (Nat.le_of_not_lt hle)] at hstop
  cases hstop

theorem IsTidy.awaken (h : p.IsTidy) : p.awaken.IsTidy := by
  refine h.of_perm rfl rfl ?_ (nodup_woken p) fun i hi => h.of_mem_woken hi
  show (p.queue ++ p.woken ++ p.late).Perm _
  rw [List.append_assoc, List.append_assoc]
  exact List.perm_append_comm.append_left p.queue

/-! ### One drive -/

/-- When a piece has ended and another one enters, somebody can make room again. -/
theorem IsTidy.welcome (h : p.IsTidy) : p.welcome.IsSound := by
  rw [Pool.welcome]
  split
  · rename_i hlt
    obtain ⟨s, hget⟩ : ∃ s, p.pieces[p.entered]? = some s := ⟨_, List.getElem?_eq_getElem hlt⟩
    have hopen : s.isOpen = true := by
      simp [Piece.isOpen, h.fresh _ _ hget (Nat.le_refl _)]
    have hperm : (p.queue ++ [p.entered] ++ p.late).Perm (p.entered :: (p.queue ++ p.late)) := by
      simp [List.perm_middle]
    refine ⟨⟨h.stopped, hlt, ?fresh, ?listed, ?nodup, ?covered⟩,
      fun _ => ⟨p.entered, _, Nat.lt_succ_self _, hget, hopen⟩⟩
    case fresh => exact fun i s hs hi => h.fresh i s hs (Nat.le_of_succ_le hi)
    case listed =>
      intro i hi
      rcases List.mem_cons.mp (hperm.mem_iff.mp hi) with rfl | hold
      · exact ⟨Nat.lt_succ_self _, _, hget, hopen⟩
      · exact (h.listed i hold).imp_left Nat.lt_succ_of_lt
    case nodup =>
      refine hperm.nodup_iff.mpr (List.nodup_cons.mpr ⟨fun hmem => ?_, h.nodup⟩)
      exact absurd (h.listed _ hmem).1 (Nat.lt_irrefl _)
    case covered =>
      intro i s hi hs ho
      rcases Nat.lt_succ_iff_lt_or_eq.mp hi with hlt' | rfl
      · refine (h.covered i s hlt' hs ho).imp_left fun hold => ?_
        exact hperm.mem_iff.mpr (List.mem_cons_of_mem _ hold)
      · exact .inl (hperm.mem_iff.mpr List.mem_cons_self)
  · rename_i hle
    exact ⟨⟨h.stopped, h.entered_le, h.fresh, h.listed, h.nodup, h.covered⟩,
      fun hlt => absurd hlt hle⟩

/-- The pool when piece `i` has been taken from the queue and driven, before anybody is woken or
enters. -/
def after (p : Pool σ ε α) (i : Nat) (world : World σ ε) (rest : Work σ ε α) : Pool σ ε α where
  world := world
  pieces := p.pieces.set i ⟨rest, some p.drives⟩
  entered := p.entered
  queue := p.queue.erase i
  late := if rest.givesWay world then i :: p.late else p.late
  drives := p.drives + 1
  spell := p.spell + 1
  last? := some i

/-- The pool when those who waited for cancellation have been woken, if it has come. -/
def woke (p : Pool σ ε α) (i : Nat) (world : World σ ε) (rest : Work σ ε α) : Pool σ ε α :=
  if world.cancelled && !p.world.cancelled then (p.after i world rest).awaken
  else p.after i world rest

/-- A piece is settled when cancellation has been seen to; if the piece has ended, another one
enters. -/
theorem settle_taken (i : Nat) (world : World σ ε) (rest : Work σ ε α) :
    (p.taken i).settle i world rest =
      if Piece.isClosed ⟨rest, some p.drives⟩ then (p.woke i world rest).welcome
      else p.woke i world rest := rfl

theorem woke_pieces (i : Nat) (world : World σ ε) (rest : Work σ ε α) :
    (p.woke i world rest).pieces = p.pieces.set i ⟨rest, some p.drives⟩ := by
  rw [woke]
  split <;> rfl

theorem woke_entered (i : Nat) (world : World σ ε) (rest : Work σ ε α) :
    (p.woke i world rest).entered = p.entered := by
  rw [woke]
  split <;> rfl

theorem getElem?_after {i : Nat} {s : Piece σ ε α} (hs : p.pieces[i]? = some s)
    (world : World σ ε) (rest : Work σ ε α) :
    (p.after i world rest).pieces[i]? = some ⟨rest, some p.drives⟩ := by
  obtain ⟨hlt, -⟩ := List.getElem?_eq_some_iff.mp hs
  exact List.getElem?_set_self hlt

theorem getElem?_after_of_ne {i j : Nat} (h : i ≠ j) (world : World σ ε) (rest : Work σ ε α) :
    (p.after i world rest).pieces[j]? = p.pieces[j]? :=
  List.getElem?_set_ne h

/-- Who is listed after a drive: everybody else who was, and the piece itself if it gives way. -/
theorem perm_after {i : Nat} (hi : i ∈ p.queue) (world : World σ ε) (rest : Work σ ε α) :
    ((p.after i world rest).queue ++ (p.after i world rest).late).Perm
      (if rest.givesWay world then p.queue ++ p.late else (p.queue ++ p.late).erase i) := by
  rw [List.erase_append_left _ hi, after]
  split
  · exact List.perm_middle.trans ((List.perm_cons_erase hi).symm.append_right p.late)
  · exact .refl _

theorem IsTidy.mem_after_iff (h : p.IsTidy) {i : Nat} (hi : i ∈ p.queue) {world : World σ ε}
    {rest : Work σ ε α} {j : Nat} :
    j ∈ (p.after i world rest).queue ++ (p.after i world rest).late ↔
      j ∈ p.queue ++ p.late ∧ (j = i → rest.givesWay world = true) := by
  rw [(perm_after hi world rest).mem_iff]
  split
  · rename_i hg
    simp [hg]
  · rename_i hg
    rw [h.nodup.mem_erase_iff]
    tauto

/-- A piece that has been driven comes back if it gives way; else it waits or has ended. -/
theorem IsTidy.after (h : p.IsTidy) {i : Nat} (hi : i ∈ p.queue) (world : World σ ε)
    {rest : Work σ ε α} (hstop : rest.IsStopped) : (p.after i world rest).IsTidy := by
  obtain ⟨hlt, s, hs, -⟩ := h.listed i (List.mem_append_left _ hi)
  have hset := getElem?_after hs world rest
  have hne {j : Nat} (hj : i ≠ j) := getElem?_after_of_ne (p := p) hj world rest
  constructor
  case stopped =>
    intro j t ht hst
    by_cases hij : i = j
    · subst hij
      cases hset.symm.trans ht
      exact hstop
    · exact h.stopped j t (hne hij ▸ ht) hst
  case entered_le => simpa [Pool.after] using h.entered_le
  case fresh =>
    intro j t ht hj
    have hij : i ≠ j := Nat.ne_of_lt (Nat.lt_of_lt_of_le hlt hj)
    exact h.fresh j t (hne hij ▸ ht) hj
  case listed =>
    intro j hj
    obtain ⟨hold, hg⟩ := (h.mem_after_iff hi).mp hj
    by_cases hij : i = j
    · subst hij
      refine ⟨hlt, _, hset, ?_⟩
      have := hg rfl
      cases rest <;> first | rfl | simp [Work.givesWay] at this
    · rw [hne hij]
      exact h.listed j hold
  case nodup =>
    rw [(perm_after hi world rest).nodup_iff]
    split
    · exact h.nodup
    · exact h.nodup.erase i
  case covered =>
    intro j t hj ht ho
    by_cases hij : i = j
    · subst hij
      cases hset.symm.trans ht
      cases rest with
      | await w next => exact .inr rfl
      | yield next =>
        exact .inl ((h.mem_after_iff hi).mpr ⟨List.mem_append_left _ hi, fun _ => rfl⟩)
      | _ => simp [Piece.isOpen] at ho
    · refine (h.covered j t hj (hne hij ▸ ht) ho).imp_left fun hold => ?_
      exact (h.mem_after_iff hi).mpr ⟨hold, fun he => absurd he.symm hij⟩

theorem IsTidy.woke (h : p.IsTidy) {i : Nat} (hi : i ∈ p.queue) (world : World σ ε)
    {rest : Work σ ε α} (hstop : rest.IsStopped) : (p.woke i world rest).IsTidy := by
  rw [Pool.woke]
  split
  · exact (h.after hi world hstop).awaken
  · exact h.after hi world hstop

/-- **A drive keeps a pool sound.** -/
theorem IsSound.drive (h : p.IsSound) {i : Nat} (hi : i ∈ p.queue) (hq : p.drive i = .ok q) :
    q.IsSound := by
  obtain ⟨s, hs, rfl | ⟨-, hfault, rfl⟩⟩ := drive_inv hq
  · refine h.of_isTidy (h.of_perm (l := []) rfl rfl ?_ List.nodup_nil (by simp)) rfl rfl
    show (p.queue.erase i ++ i :: p.late).Perm _
    rw [List.append_nil]
    exact List.perm_middle.trans ((List.perm_cons_erase hi).symm.append_right p.late)
  · have hstop := Work.isStopped_drive _ _ hfault
    have htidy := h.toIsTidy.woke hi (s.resume.drive p.world).1 hstop
    rw [settle_taken]
    split
    · exact htidy.welcome
    · rename_i hclosed
      -- the piece itself has not ended, so it can still make room
      refine ⟨htidy, fun _ => ⟨i, ⟨(s.resume.drive p.world).2, some p.drives⟩, ?_, ?_, ?_⟩⟩
      · rw [woke_entered]
        exact (h.listed i (List.mem_append_left _ hi)).1
      · rw [woke_pieces]
        exact getElem?_after hs (s.resume.drive p.world).1 _
      · rw [Piece.isOpen_eq_not_isClosed fun _ => hstop, Bool.eq_false_iff.mpr hclosed]
        rfl

/-! ### The end of a turn -/

theorem IsSound.turn (h : p.IsSound) : p.turn.IsSound := by
  let r : Pool σ ε α := { p with world := p.world.turn, spell := 0, last? := none }
  have hr : r.IsTidy := ⟨h.stopped, h.entered_le, h.fresh, h.listed, h.nodup, h.covered⟩
  refine h.of_isTidy (hr.of_perm rfl rfl ?_ (nodup_woken r) fun i hi => hr.of_mem_woken hi) rfl rfl
  show (p.queue ++ r.woken ++ p.late ++ []).Perm (p.queue ++ p.late ++ r.woken)
  rw [List.append_nil, List.append_assoc, List.append_assoc]
  exact List.perm_append_comm.append_left p.queue

theorem turn_late (p : Pool σ ε α) : p.turn.late = [] := rfl

theorem IsSound.nextTurn (h : p.IsSound) (hq : p.nextTurn = some q) : q.IsSound := by
  simp only [Pool.nextTurn] at hq
  split at hq
  · rename_i hempty
    obtain ⟨world, -, rfl⟩ := Option.map_eq_some_iff.mp hq
    let r : Pool σ ε α := { p.turn with world := world }
    have hturn := h.turn
    have hr : r.IsTidy :=
      ⟨hturn.stopped, hturn.entered_le, hturn.fresh, hturn.listed, hturn.nodup, hturn.covered⟩
    refine hturn.of_isTidy (hr.of_perm rfl rfl ?_ (nodup_woken r) fun i hi => hr.of_mem_woken hi)
      rfl rfl
    show (r.woken ++ p.turn.late).Perm (p.turn.queue ++ p.turn.late ++ r.woken)
    rw [List.isEmpty_iff.mp hempty, turn_late, List.append_nil]
    exact .refl _
  · cases hq
    exact h.turn

/-- **A step keeps a pool sound.** -/
theorem IsSound.step {policy : Policy} (h : p.IsSound) (hq : p.step policy = .ok q) :
    q.IsSound := by
  obtain ⟨r, i, hr, hi, hq⟩ := step_inv hq
  have hsound : r.IsSound := by
    rcases hr with rfl | hr
    · exact h
    · exact h.nextTurn hr
  exact hsound.drive hi hq

theorem IsSound.leads {policy : Policy} (h : p.IsSound) (hq : Leads policy p q) : q.IsSound := by
  induction hq with
  | refl => exact h
  | tail _ hstep ih => exact ih.step hstep

theorem IsSound.start (world : World σ ε) {limit : Nat} {works : List (Work σ ε α)}
    (hlimit : works ≠ [] → 1 ≤ limit) : (start world limit works).IsSound := by
  have hget {i : Nat} {s : Piece σ ε α} (hs : (Pool.start world limit works).pieces[i]? = some s) :
      s.stopped? = none := by
    obtain ⟨w, -, rfl⟩ := Option.map_eq_some_iff.mp (List.getElem?_map ▸ hs)
    rfl
  refine ⟨⟨?stopped, ?entered_le, fun i s hs _ => hget hs, ?listed, ?nodup, ?covered⟩, ?entering⟩
  case stopped =>
    intro i s hs hstop
    rw [hget hs] at hstop
    cases hstop
  case entered_le =>
    simp only [Pool.start, List.length_map]
    exact Nat.min_le_right _ _
  case listed =>
    intro i hi
    have hi : i < min limit works.length := by simpa [Pool.start] using hi
    have hlen := Nat.lt_of_lt_of_le hi (Nat.min_le_right _ _)
    exact ⟨hi, ⟨works[i], none⟩, by simp [Pool.start, hlen], rfl⟩
  case nodup => simp [Pool.start, List.nodup_range]
  case covered =>
    intro i s hi hs _
    left
    simpa [Pool.start] using hi
  case entering =>
    intro hlt
    have hpos : 0 < works.length := by
      have : min limit works.length < works.length := by simpa [Pool.start] using hlt
      omega
    have hentered : 0 < min limit works.length :=
      Nat.lt_min.mpr ⟨hlimit (List.length_pos_iff.mp hpos), hpos⟩
    exact ⟨0, ⟨works[0], none⟩, hentered, by simp [Pool.start, hpos], rfl⟩

/-! ### Works that go on -/

/-- What is asked of worlds, which are among `W`, and of works, those of piece `i` being among
`S i`, so that pools of them go on: work does not come to a fault, and waits for instants. -/
structure Sustains (W : World σ ε → Prop) (S : Nat → Work σ ε α → Prop) : Prop where
  turn : ∀ {world}, W world → W world.turn
  skip : ∀ {world waits after}, W world → world.skip waits = some after → W after
  drive : ∀ {i world w}, W world → S i w → W (w.drive world).1 ∧ S i (w.drive world).2
  due : ∀ {i wait next}, S i (.await wait next) → wait.due?.isSome = true
  yield : ∀ {i next}, S i (.yield next) → S i next
  fault : ∀ {i cause}, ¬ S i (.fault cause)

/-- The works of a pool in a world are of that kind. -/
structure IsSustained (W : World σ ε → Prop) (S : Nat → Work σ ε α → Prop) (p : Pool σ ε α) :
    Prop where
  world : W p.world
  works : ∀ (i : Nat) (s : Piece σ ε α), p.pieces[i]? = some s → S i s.rest

variable {W : World σ ε → Prop} {S : Nat → Work σ ε α → Prop}

theorem Sustains.resume (hS : Sustains W S) {i : Nat} {s : Piece σ ε α} (h : S i s.rest) :
    S i s.resume := by
  obtain ⟨rest, stopped?⟩ := s
  cases stopped? with
  | none => exact h
  | some t =>
    cases rest with
    | yield next => exact hS.yield h
    | _ => exact h

theorem welcome_world (p : Pool σ ε α) : p.welcome.world = p.world := by
  rw [Pool.welcome]
  split <;> rfl

theorem settle_world (p : Pool σ ε α) (i : Nat) (world : World σ ε) (rest : Work σ ε α) :
    (p.settle i world rest).world = world := by
  simp only [Pool.settle]
  split
  · rw [welcome_world]
    split <;> rfl
  · split <;> rfl

theorem getElem?_settle {i j : Nat} {world : World σ ε} {rest : Work σ ε α} {r : Piece σ ε α}
    (h : (p.settle i world rest).pieces[j]? = some r) :
    j = i ∧ r = ⟨rest, some p.drives⟩ ∨ j ≠ i ∧ p.pieces[j]? = some r := by
  rw [settle_pieces, List.getElem?_set] at h
  by_cases hij : i = j
  · rw [if_pos hij] at h
    split at h
    · exact .inl ⟨hij.symm, (Option.some.inj h).symm⟩
    · cases h
  · rw [if_neg hij] at h
    exact .inr ⟨Ne.symm hij, h⟩

/-- **A piece that stands in the queue of a sound pool can be driven.** -/
theorem IsSound.exists_drive (h : p.IsSound) (hS : Sustains W S) (hp : p.IsSustained W S) {i : Nat}
    (hi : i ∈ p.queue) : ∃ q, p.drive i = .ok q ∧ q.IsSustained W S := by
  obtain ⟨-, s, hs, hopen⟩ := h.listed i (List.mem_append_left _ hi)
  rw [Pool.drive]
  by_cases hspent : s.wait?.any p.world.isSpent = true
  · refine ⟨{ p.taken i with late := i :: p.late }, ?_, hp.world, hp.works⟩
    simp only [hs, hspent, if_true, taken]
  · obtain ⟨hworld, hrest⟩ := hS.drive hp.world (hS.resume (hp.works i s hs))
    cases he : s.resume.drive p.world with
    | mk world rest =>
      rw [he] at hworld hrest
      refine ⟨(p.taken i).settle i world rest, ?_, ?_, fun j t ht => ?_⟩
      · simp only [hs, hspent, hopen, he, if_true, taken]
        cases rest with
        | fault cause => exact absurd hrest hS.fault
        | _ => rfl
      · rw [settle_world]
        exact hworld
      · rcases getElem?_settle ht with ⟨rfl, rfl⟩ | ⟨-, ht⟩
        · exact hrest
        · exact hp.works j t ht

/-- Somebody can be driven, or waits for an instant, as long as there is work to do. -/
theorem IsSound.exists_open (h : p.IsSound) (hp : p.results? = none) :
    ∃ (i : Nat) (s : Piece σ ε α), i < p.entered ∧ p.pieces[i]? = some s ∧ s.isOpen = true := by
  obtain ⟨i, s, hs, hnone⟩ : ∃ (i : Nat) (s : Piece σ ε α), p.pieces[i]? = some s ∧
      s.result? = none := by
    obtain ⟨s, hs, hnone⟩ := mapM_eq_none_iff.mp hp
    obtain ⟨i, hi⟩ := List.mem_iff_getElem?.mp hs
    exact ⟨i, s, hi, hnone⟩
  by_cases hi : i < p.entered
  · refine ⟨i, s, hi, hs, ?_⟩
    rw [Piece.isOpen_eq_not_isClosed (h.stopped i s hs), Piece.isClosed, hnone]
    rfl
  · obtain ⟨hlt, -⟩ := List.getElem?_eq_some_iff.mp hs
    exact h.entering (Nat.lt_of_le_of_lt (Nat.le_of_not_lt hi) hlt)

/-- **A sound pool with work to do goes on**: when a turn has ended, there is a next one in which
somebody can be driven. -/
theorem IsSound.exists_nextTurn (h : p.IsSound) (hS : Sustains W S) (hp : p.IsSustained W S)
    (hnone : p.results? = none) :
    ∃ q, p.nextTurn = some q ∧ q.IsSustained W S ∧ q.queue ≠ [] := by
  have hturn := h.turn
  have hworld := hS.turn hp.world
  rw [Pool.nextTurn]
  by_cases hempty : p.turn.queue = []
  · -- nobody is listed, so somebody who is open waits, and for an instant
    obtain ⟨i, s, hi, hs, hopen⟩ := hturn.exists_open hnone
    have hwait : s.wait?.isSome := by
      refine (hturn.covered i s hi hs hopen).resolve_left ?_
      rw [hempty, turn_late]
      exact List.not_mem_nil
    obtain ⟨w, hw⟩ := Option.isSome_iff_exists.mp hwait
    obtain ⟨next, hrest⟩ := Piece.rest_of_wait? hw
    have hsome : w.due?.isSome = true := hS.due (hrest ▸ hp.works i s hs)
    obtain ⟨due, hdue⟩ := Option.isSome_iff_exists.mp hsome
    have hmem : due ∈ (p.turn.waits).filterMap (·.due?) :=
      List.mem_filterMap.mpr ⟨w, List.mem_filterMap.mpr ⟨s, List.mem_of_getElem? hs, hw⟩, hdue⟩
    obtain ⟨t, ht⟩ := Option.isSome_iff_exists.mp (List.isSome_min?_of_mem hmem)
    obtain ⟨world, hskip, w', hw', hover⟩ := p.turn.world.exists_skip ht
    obtain ⟨s', hs', hwait'⟩ := List.mem_filterMap.mp hw'
    obtain ⟨j, hj⟩ := List.mem_iff_getElem?.mp hs'
    have hwoken : j ∈ woken { p.turn with world := world } := by
      refine mem_woken_iff.mpr ⟨s', hj, ?_, ?_, List.not_mem_nil⟩
      · rw [hwait']
        exact hover
      · rw [hempty]
        exact List.not_mem_nil
    refine ⟨{ p.turn with world := world, queue := woken { p.turn with world := world } },
      ?_, ⟨hS.skip hworld hskip, hp.works⟩, List.ne_nil_of_mem hwoken⟩
    simp [hempty, hskip]
  · exact ⟨p.turn, by simp [hempty], ⟨hworld, hp.works⟩, hempty⟩

/-! ### The run -/

/-- **A sound pool that is not done makes a step**, whatever the policy. -/
theorem IsSound.exists_step (h : p.IsSound) (hS : Sustains W S) (hp : p.IsSustained W S)
    (hnone : p.results? = none) (policy : Policy) :
    ∃ q, p.step policy = .ok q ∧ q.IsSustained W S := by
  rw [Pool.step]
  cases hpick : p.pick? policy with
  | some i =>
    obtain ⟨k, -, hk⟩ := Option.bind_eq_some_iff.mp hpick
    exact h.exists_drive hS hp (List.mem_of_getElem? hk)
  | none =>
    obtain ⟨r, hr, hkept, hne⟩ := h.exists_nextTurn hS hp hnone
    have hpos : 0 < r.queue.length := List.length_pos_iff.mpr hne
    cases hfirst : r.first? policy with
    | none =>
      have hle := List.getElem?_eq_none_iff.mp hfirst
      exact absurd (Nat.mod_lt _ hpos) (Nat.not_lt.mpr hle)
    | some i =>
      simp only [hr, hfirst]
      exact (h.nextTurn hr).exists_drive hS hkept (List.mem_of_getElem? hfirst)

/-- The results of a pool that is done are what is left of its pieces. -/
theorem exists_piece_of_results? {rs : List (Nat × α)} (hrs : p.results? = some rs) :
    rs.length = p.pieces.length ∧ ∀ (i : Nat) r, rs[i]? = some r →
      p.pieces[i]? = some ⟨.done r.2, some r.1⟩ := by
  have hmap : p.pieces.map Piece.result? = rs.map some := mapM_eq_some_iff.mp hrs
  refine ⟨by simpa using (congrArg List.length hmap).symm, fun i r hr => ?_⟩
  have hget : (p.pieces.map Piece.result?)[i]? = some (some r) := by simp [hmap, hr]
  rw [List.getElem?_map, Option.map_eq_some_iff] at hget
  obtain ⟨⟨rest, stopped?⟩, hs, hresult⟩ := hget
  cases stopped? <;> cases rest <;>
    simp only [Piece.result?, reduceCtorEq, Option.some.injEq] at hresult
  rw [hs, ← hresult]

/-- Results are as many in the order in which the work ended, and the same. -/
theorem asEnded_perm (rs : List (Nat × α)) : (asEnded rs).Perm (rs.map (·.2)) :=
  (List.mergeSort_perm rs _).map _

/-- A sound pool runs to its end. -/
theorem IsSound.exists_run (policy : Policy) (h : p.IsSound) (hS : Sustains W S)
    (hp : p.IsSustained W S) :
    ∃ world rs, p.run policy = .ok (world, rs) ∧ W world ∧
      rs.length = p.pieces.length ∧ ∀ (i : Nat) r, rs[i]? = some r → S i (.done r.2) := by
  induction p using wellFounded_below.induction with
  | _ p ih =>
    rw [Pool.run]
    cases hrs : p.results? with
    | some rs =>
      obtain ⟨hlen, hget⟩ := exists_piece_of_results? hrs
      exact ⟨p.world, rs, rfl, hp.world, hlen, fun i r hr => hp.works i _ (hget i r hr)⟩
    | none =>
      obtain ⟨q, hq, hkept⟩ := h.exists_step hS hp hrs policy
      obtain ⟨world, rs, hrun, hworld, hlen, hP⟩ := ih q (step_below hq) (h.step hq) hkept
      refine ⟨world, rs, ?_, hworld, hlen.trans (length_pieces_step hq), hP⟩
      simp only
      split
      · rename_i r hr
        cases hq.symm.trans hr
        exact hrun
      · rename_i cause hr
        cases hq.symm.trans hr

/-- **Work that goes on, piece by piece, goes on in a pool**: with room for at least one piece,
every policy leads to the end of all work. -/
theorem Sustains.exists_run (hS : Sustains W S) {world : World σ ε} (hworld : W world) {limit : Nat}
    {works : List (Work σ ε α)} (hlimit : works ≠ [] → 1 ≤ limit)
    (hworks : ∀ (i : Nat) (w : Work σ ε α), works[i]? = some w → S i w) (policy : Policy) :
    ∃ world' rs, (start world limit works).run policy = .ok (world', rs) ∧ W world' ∧
      rs.length = works.length ∧ ∀ (i : Nat) r, rs[i]? = some r → S i (.done r.2) := by
  have hp : (start world limit works).IsSustained W S := by
    refine ⟨hworld, fun i s hs => ?_⟩
    obtain ⟨w, hw, rfl⟩ := Option.map_eq_some_iff.mp (List.getElem?_map ▸ hs)
    exact hworks i w hw
  obtain ⟨world', rs, hrun, hworld', hlen, hP⟩ :=
    (IsSound.start world hlimit).exists_run policy hS hp
  refine ⟨world', rs, hrun, hworld', ?_, hP⟩
  rw [hlen, start, List.length_map]

/-! ### Work that settles -/

variable {I : σ → Prop} {P : Nat → α → Prop}

/-- Calm worlds and works that settle sustain each other. -/
theorem sustains_settles (I : σ → Prop) (P : Nat → α → Prop) :
    Sustains (fun world : World σ ε => world.IsCalm I) (fun i w => w.Settles I (P i)) where
  turn hw := hw.turn
  skip hw hskip := hw.skip hskip
  drive hw h := ⟨(h.drive hw).1, (h.drive hw).2.1⟩
  due h := h.1
  yield h := h
  fault h := h

/-- **Work that settles, piece by piece, settles in a pool**: in a calm world, with room for at
least one piece, every policy leads to the end of all work, and each result is one that the piece
settles with. -/
theorem run_start {world : World σ ε} (hworld : world.IsCalm I) {limit : Nat}
    {works : List (Work σ ε α)} (hlimit : works ≠ [] → 1 ≤ limit)
    (hworks : ∀ (i : Nat) (w : Work σ ε α), works[i]? = some w → w.Settles I (P i))
    (policy : Policy) :
    ∃ world' rs, (start world limit works).run policy = .ok (world', rs) ∧ world'.IsCalm I ∧
      rs.length = works.length ∧ ∀ i r, rs[i]? = some r → P i r.2 :=
  (sustains_settles I P).exists_run hworld hlimit hworks policy

end Pool

end PortGraph
