import PortGraph.Proofs.Work.Settles

/-!
# What work ensures on the clock

Whether work ends is one question (`Work.Settles`), what holds when it has ended another one. The
answer given here takes the clock and the shared state along: what is known when the work begins is
the time and the state, and the result is judged by the time and the state in which it comes.

Who shares a state has to agree on terms. There is an invariant, and for everybody under way there
is a relation that says how the state may change under their eyes. Each piece of work keeps up the
invariant, and changes the state only in ways that all the others put up with; what it knows of the
state is what it has seen last, up to changes that it has to put up with itself.

The clock is punctual: work that waits for an instant goes on at that instant, or at once if it has
passed. This holds since the clock only moves while nobody can go on.

## Main definitions

* `Terms`: the terms on which a state is shared
* `Work.Ensures`: what holds when a piece of work has ended, if it ends
* `World.Meets`: the world in which work is done meets the terms

## Main results

* `Work.Ensures.bind`, `Work.Ensures.mapNews`, `Work.Ensures.within`: composition
* `Work.ensures_before_await`, `Work.Ensures.of_before`: work that is given up at a deadline
* `Work.Ensures.drive`: what a piece of work ensures it still does after it has been driven
* `Work.Ensures.run`, `Work.Settles.run`: a piece of work on its own
-/

namespace PortGraph

variable {ι σ τ ε δ α β : Type}

/-- The terms on which a state is shared by those who are named in `ι`. -/
structure Terms (ι σ : Type) where
  /-- What holds of the state at any time. -/
  invariant : σ → Prop
  /-- How the state may change while somebody does nothing. -/
  rely : ι → σ → σ → Prop
  /-- Whether the run may be cancelled. -/
  mayCancel : Prop
  refl : ∀ i s, rely i s s
  trans : ∀ i {a b c}, rely i a b → rely i b c → rely i a c

namespace Terms

/-- The only terms are an invariant. -/
def keeping (ι : Type) (I : σ → Prop) (mayCancel : Prop) : Terms ι σ where
  invariant := I
  rely _ _ _ := True
  mayCancel := mayCancel
  refl _ _ := trivial
  trans _ _ _ _ := fun _ _ => trivial

/-- There is nobody else, and the run is not cancelled. -/
def alone (σ : Type) : Terms Unit σ where
  invariant _ := True
  rely _ := Eq
  mayCancel := False
  refl _ _ := rfl
  trans _ _ _ _ := Eq.trans

end Terms

/-- The world meets the terms: the invariant holds, and the run has been cancelled, or will be from
outside, only if it may be. -/
structure World.Meets (T : Terms ι σ) (w : World σ ε) : Prop where
  state : T.invariant w.state
  cancelled : w.cancelled = true → T.mayCancel
  cancelAt : w.cancelAt?.isSome = true → T.mayCancel

namespace World

variable {T : Terms ι σ} {world after : World σ ε}

theorem Meets.turn (h : world.Meets T) : world.turn.Meets T := by
  refine ⟨h.state, fun hc => ?_, fun hc => ?_⟩
  · rcases Bool.or_eq_true_iff.mp hc with hc | hc
    · exact h.cancelled hc
    · exact h.cancelAt (by cases hat : world.cancelAt? <;> simp_all)
  · exact h.cancelAt (by cases hat : world.cancelAt? <;> simp_all [World.turn])

theorem Meets.pass (h : world.Meets T) (wait : Wait) : (world.pass wait).Meets T := by
  rw [World.pass]
  split
  · exact ⟨h.state, h.cancelled, h.cancelAt⟩
  · exact h

@[simp]
theorem now_pass (world : World σ ε) (wait : Wait) : (world.pass wait).now = world.now := by
  rw [World.pass]
  split <;> rfl

@[simp]
theorem state_pass (world : World σ ε) (wait : Wait) : (world.pass wait).state = world.state := by
  rw [World.pass]
  split <;> rfl

theorem firstDue?_le {waits : List Wait} {w : Wait} {t d : Nat} (ht : firstDue? waits = some t)
    (hw : w ∈ waits) (hd : w.due? = some d) : t ≤ d :=
  (List.min?_eq_some_iff.mp ht).2 d (List.mem_filterMap.mpr ⟨w, hw, hd⟩)

/-- **The clock is punctual**: it jumps beyond no instant that anybody waits for. -/
theorem skip_spec {waits : List Wait} (h : world.skip waits = some after) :
    world.now ≤ after.now ∧ after.state = world.state ∧
      ∀ w ∈ waits, ∀ d, w.due? = some d → after.now ≤ max world.now d := by
  have hadvance {v : World σ ε} (ha : (firstDue? waits).map v.advance = some after)
      (hle : world.now ≤ v.now) (hstate : v.state = world.state)
      (hv : ∀ w ∈ waits, ∀ d, w.due? = some d → v.now ≤ max world.now d) :
      world.now ≤ after.now ∧ after.state = world.state ∧
        ∀ w ∈ waits, ∀ d, w.due? = some d → after.now ≤ max world.now d := by
    obtain ⟨first, hfirst, rfl⟩ := Option.map_eq_some_iff.mp ha
    refine ⟨Nat.le_trans hle (Nat.le_max_left _ _), hstate, fun w hw d hd => Nat.max_le.mpr ?_⟩
    exact ⟨hv w hw d hd, Nat.le_trans (firstDue?_le hfirst hw hd) (Nat.le_max_right _ _)⟩
  have hstay : ∀ w ∈ waits, ∀ d, w.due? = some d → world.now ≤ max world.now d :=
    fun _ _ d _ => Nat.le_max_left _ d
  simp only [skip] at h
  split at h
  · rename_i t hcancel
    -- Cancellation comes before the first instant that anybody waits for.
    have hbefore : ∀ w ∈ waits, ∀ d, w.due? = some d → max world.now t ≤ max world.now d := by
      intro w hw d hd
      have hmem : d ∈ waits.filterMap (·.due?) := List.mem_filterMap.mpr ⟨w, hw, hd⟩
      obtain ⟨first, hfirst⟩ := Option.isSome_iff_exists.mp (List.isSome_min?_of_mem hmem)
      have hall := (Option.filter_eq_some_iff.mp hcancel).2
      rw [firstDue?, hfirst] at hall
      have hlt : t < first := of_decide_eq_true hall
      have hle := firstDue?_le hfirst hw hd
      omega
    split at h
    · cases h
      exact ⟨Nat.le_max_left _ _, rfl, hbefore⟩
    · exact hadvance h (Nat.le_max_left _ _) rfl hbefore
  · exact hadvance h (Nat.le_refl _) rfl hstay

/-- A wait that the clock jumps for is over then. -/
theorem isOver_of_skip {w : Wait} (h : world.skip [w] = some after) :
    w.isOver after.moment = true := by
  simp only [skip] at h
  have hadvance {v : World σ ε} (ha : (firstDue? [w]).map v.advance = some after) :
      w.isOver after.moment = true := by
    obtain ⟨first, hfirst, rfl⟩ := Option.map_eq_some_iff.mp ha
    obtain ⟨w', hw', hdue⟩ := List.mem_filterMap.mp (List.min?_mem hfirst)
    cases List.mem_singleton.mp hw'
    simp only [Wait.isOver, Wait.isDue, hdue, moment, advance, Bool.or_eq_true]
    exact .inl (decide_eq_true (Nat.le_max_right _ _))
  split at h
  · split at h
    · rename_i hover
      cases h
      simpa using hover
    · exact hadvance h
  · exact hadvance h

theorem Meets.skip (h : world.Meets T) {waits : List Wait} (hs : world.skip waits = some after) :
    after.Meets T := by
  simp only [World.skip] at hs
  split at hs
  · rename_i t hcancel
    have hmay : T.mayCancel := h.cancelAt (by simp [(Option.filter_eq_some_iff.mp hcancel).1])
    split at hs
    · cases hs
      exact ⟨h.state, fun _ => hmay, fun _ => hmay⟩
    · obtain ⟨t, -, rfl⟩ := Option.map_eq_some_iff.mp hs
      exact ⟨h.state, fun _ => hmay, fun _ => hmay⟩
  · obtain ⟨t, -, rfl⟩ := Option.map_eq_some_iff.mp hs
    exact ⟨h.state, h.cancelled, h.cancelAt⟩

end World

namespace Wait

/-- A wait with a deadline that is over, but would not be without the deadline, ends at the
deadline. -/
theorem le_of_isOver_orInstant {w : Wait} {D : Nat} {m : Moment}
    (h : (w.orInstant D).isOver m = true) (hw : w.isOver m = false) : D ≤ m.now := by
  obtain ⟨due?, orCancelled⟩ := w
  cases due? with
  | none =>
    simp only [isOver, orInstant, isDue, Bool.false_or, Bool.or_eq_true, decide_eq_true_eq] at h hw
    exact h.resolve_right (by simp [hw])
  | some d =>
    simp only [isOver, orInstant, isDue, Bool.or_eq_true, Bool.or_eq_false_iff, decide_eq_true_eq,
      decide_eq_false_iff_not] at h hw
    rcases h with h | h
    · omega
    · simp [h] at hw

/-- A wait with a deadline waits for no instant beyond it, nor beyond its own. -/
theorem due?_orInstant_le {w : Wait} {D d : Nat} (h : (w.orInstant D).due? = some d) :
    d ≤ D ∧ ∀ e, w.due? = some e → d ≤ e := by
  obtain ⟨due?, orCancelled⟩ := w
  cases due? <;> cases h
  · simp
  · exact ⟨Nat.min_le_right _ _, fun _ he => he ▸ Nat.min_le_left _ _⟩

end Wait

namespace Work

/-- If the work begins at the time `t`, when the state last seen was `s`, and the world meets the
terms, then what it ends with satisfies `P` at the time and in the state in which it ends. -/
def Ensures (T : Terms ι σ) (i : ι) (P : Nat → σ → α → Prop) : Work σ ε α → Nat → σ → Prop
  | .done a, t, s => P t s a
  | .fault _, _, _ => True
  | .observe next, t, s =>
    ∀ m : Moment, m.now = t → (m.cancelled = true → T.mayCancel) → (next m).Ensures T i P t s
  | .tell _ next, t, s => next.Ensures T i P t s
  | .cancel next, t, s => T.mayCancel ∧ next.Ensures T i P t s
  | .consult change next, t, s =>
    ∀ s', T.invariant s' → T.rely i s s' → T.invariant (change s') ∧
      (∀ j, j ≠ i → T.rely j s' (change s')) ∧ (next s').Ensures T i P t (change s')
  | .await w next, t, s =>
    ∀ m : Moment, t ≤ m.now → w.isOver m = true → (∀ d, w.due? = some d → m.now ≤ max t d) →
      (m.cancelled = true → T.mayCancel) → (next m).Ensures T i P m.now s
  | .yield next, t, s => next.Ensures T i P t s

variable {T : Terms ι σ} {i : ι} {P Q : Nat → σ → α → Prop} {t : Nat} {s : σ}

/-! ### Composition -/

theorem Ensures.mono {w : Work σ ε α} (h : w.Ensures T i P t s)
    (hPQ : ∀ t s a, P t s a → Q t s a) : w.Ensures T i Q t s := by
  induction w generalizing t s with
  | done a => exact hPQ t s a h
  | fault => trivial
  | observe next ih => exact fun m hm hc => ih m (h m hm hc)
  | tell news next ih => exact ih h
  | cancel next ih => exact ⟨h.1, ih h.2⟩
  | consult change next ih =>
    intro s' hI hrely
    obtain ⟨hI', hothers, hnext⟩ := h s' hI hrely
    exact ⟨hI', hothers, ih s' hnext⟩
  | await w next ih => exact fun m ht ho hd hc => ih m (h m ht ho hd hc)
  | yield next ih => exact ih h

/-- The state last seen satisfies the invariant if the one at the beginning does. -/
theorem Ensures.keeps {w : Work σ ε α} (h : w.Ensures T i P t s) (hs : T.invariant s) :
    w.Ensures T i (fun t s a => T.invariant s ∧ P t s a) t s := by
  induction w generalizing t s with
  | done a => exact ⟨hs, h⟩
  | fault => trivial
  | observe next ih => exact fun m hm hc => ih m (h m hm hc) hs
  | tell news next ih => exact ih h hs
  | cancel next ih => exact ⟨h.1, ih h.2 hs⟩
  | consult change next ih =>
    intro s' hI hrely
    obtain ⟨hI', hothers, hnext⟩ := h s' hI hrely
    exact ⟨hI', hothers, ih s' hnext hI'⟩
  | await w next ih => exact fun m ht ho hd hc => ih m (h m ht ho hd hc) hs
  | yield next ih => exact ih h hs

theorem Ensures.bind {w : Work σ ε α} {f : α → Work σ ε β} {R : Nat → σ → β → Prop}
    (h : w.Ensures T i P t s) (hf : ∀ t s a, P t s a → (f a).Ensures T i R t s) :
    (w.bind f).Ensures T i R t s := by
  induction w generalizing t s with
  | done a => exact hf t s a h
  | fault => trivial
  | observe next ih => exact fun m hm hc => ih m (h m hm hc)
  | tell news next ih => exact ih h
  | cancel next ih => exact ⟨h.1, ih h.2⟩
  | consult change next ih =>
    intro s' hI hrely
    obtain ⟨hI', hothers, hnext⟩ := h s' hI hrely
    exact ⟨hI', hothers, ih s' hnext⟩
  | await w next ih => exact fun m ht ho hd hc => ih m (h m ht ho hd hc)
  | yield next ih => exact ih h

theorem Ensures.mapNews {w : Work σ ε α} (h : w.Ensures T i P t s) (f : ε → δ) :
    (w.mapNews f).Ensures T i P t s := by
  induction w generalizing t s with
  | done a => exact h
  | fault => trivial
  | observe next ih => exact fun m hm hc => ih m (h m hm hc)
  | tell news next ih => exact ih h
  | cancel next ih => exact ⟨h.1, ih h.2⟩
  | consult change next ih =>
    intro s' hI hrely
    obtain ⟨hI', hothers, hnext⟩ := h s' hI hrely
    exact ⟨hI', hothers, ih s' hnext⟩
  | await w next ih => exact fun m ht ho hd hc => ih m (h m ht ho hd hc)
  | yield next ih => exact ih h

/-- Work on a part of what is shared, on terms for the whole that say of this part what the terms of
the work say. -/
theorem Ensures.within {U : Terms ι τ} {get : τ → σ} {set : σ → τ → τ} {w : Work σ ε α} {x : τ}
    (h : w.Ensures T i P t (get x)) (hget : ∀ y, U.invariant y → T.invariant (get y))
    (hrely : ∀ y z, U.rely i y z → T.rely i (get y) (get z)) (hgs : ∀ s y, get (set s y) = s)
    (hset : ∀ s y, T.invariant s → U.invariant y → U.invariant (set s y))
    (hothers : ∀ j s y, j ≠ i → T.rely j (get y) s → U.rely j y (set s y))
    (hcancel : U.mayCancel ↔ T.mayCancel) :
    (w.within get set).Ensures U i (fun t y a => P t (get y) a) t x := by
  induction w generalizing t x with
  | done a => exact h
  | fault => trivial
  | observe next ih => exact fun m hm hc => ih m (h m hm (hcancel.mp ∘ hc))
  | tell news next ih => exact ih h
  | cancel next ih => exact ⟨hcancel.mpr h.1, ih h.2⟩
  | consult change next ih =>
    intro y hI hy
    obtain ⟨hI', hrely', hnext⟩ := h (get y) (hget y hI) (hrely x y hy)
    refine ⟨hset _ y hI' hI, fun j hj => hothers j _ y hj (hrely' j hj), ih (get y) ?_⟩
    rw [hgs]
    exact hnext
  | await w next ih => exact fun m ht ho hd hc => ih m (h m ht ho hd (hcancel.mp ∘ hc))
  | yield next ih => exact ih h

/-- A wait that is given up at a deadline: either it is over by then, or it is not over at the
deadline. -/
theorem ensures_before_await {w : Wait} {next : Moment → Work σ ε α} {D : Nat}
    {Q : Nat → σ → Option α → Prop} (ht : t ≤ D)
    (hnext : ∀ m : Moment, t ≤ m.now → m.now ≤ D → w.isOver m = true →
      (∀ d, w.due? = some d → m.now ≤ max t d) → (m.cancelled = true → T.mayCancel) →
        ((next m).before D).Ensures T i Q m.now s)
    (hlate : ∀ m : Moment, m.now = D → w.isOver m = false → Q D s none) :
    ((Work.await w next).before D).Ensures T i Q t s := by
  intro m hm hover hdue hc
  obtain ⟨d, hd⟩ : ∃ d, (w.orInstant D).due? = some d := ⟨_, rfl⟩
  obtain ⟨hdD, hdw⟩ := Wait.due?_orInstant_le hd
  have hle := hdue d hd
  dsimp only
  split
  · rename_i hw
    refine hnext m hm (by omega) hw (fun e he => ?_) hc
    have := hdw e he
    omega
  · rename_i hw
    have hlast := Wait.le_of_isOver_orInstant hover (Bool.eq_false_iff.mpr hw)
    have hnow : m.now = D := by omega
    rw [hnow]
    exact hlate m hnow (Bool.eq_false_iff.mpr hw)

/-- Work does not end before it begins. -/
theorem Ensures.ensures_le {w : Work σ ε α} (h : w.Ensures T i P t s) :
    w.Ensures T i (fun t' s' a => t ≤ t' ∧ P t' s' a) t s := by
  induction w generalizing t s with
  | done a => exact ⟨Nat.le_refl t, h⟩
  | fault => trivial
  | observe next ih => exact fun m hm hc => ih m (h m hm hc)
  | tell news next ih => exact ih h
  | cancel next ih => exact ⟨h.1, ih h.2⟩
  | consult change next ih =>
    intro s' hI hrely
    obtain ⟨hI', hothers, hnext⟩ := h s' hI hrely
    exact ⟨hI', hothers, ih s' hnext⟩
  | await w next ih =>
    intro m hm hover hdue hc
    exact (ih m (h m hm hover hdue hc)).mono fun t' s' a h => ⟨Nat.le_trans hm h.1, h.2⟩
  | yield next ih => exact ih h

/-- Work that is given up at a deadline ends by then. -/
theorem Ensures.of_before {w : Work σ ε α} {D : Nat} {Q : Nat → σ → Option α → Prop}
    (h : (w.before D).Ensures T i Q t s) (ht : t ≤ D) :
    (w.before D).Ensures T i (fun t' s' r => t' ≤ D ∧ Q t' s' r) t s := by
  induction w generalizing t s with
  | done a => exact ⟨ht, h⟩
  | fault => trivial
  | observe next ih => exact fun m hm hc => ih m (h m hm hc) ht
  | tell news next ih => exact ih h ht
  | cancel next ih => exact ⟨h.1, ih h.2 ht⟩
  | consult change next ih =>
    intro s' hI hrely
    obtain ⟨hI', hothers, hnext⟩ := h s' hI hrely
    exact ⟨hI', hothers, ih s' hnext ht⟩
  | await w next ih =>
    intro m hm hover hdue hc
    obtain ⟨d, hd⟩ : ∃ d, (w.orInstant D).due? = some d := ⟨_, rfl⟩
    have hD : m.now ≤ D := by
      have := hdue d hd
      have := (Wait.due?_orInstant_le hd).1
      omega
    have hnext := h m hm hover hdue hc
    dsimp only at hnext ⊢
    split
    · rename_i hw
      rw [if_pos hw] at hnext
      exact ih m hnext hD
    · rename_i hw
      rw [if_neg hw] at hnext
      exact ⟨hD, hnext⟩
  | yield next ih =>
    intro m hm hc
    have hnext := h m hm hc
    dsimp only at hnext ⊢
    split
    · rename_i hw
      rw [if_pos hw] at hnext
      exact ⟨ht, hnext⟩
    · rename_i hw
      rw [if_neg hw] at hnext
      exact ih hnext ht

/-! ### Single steps -/

theorem ensures_sleep (ms t : Nat) (s : σ) :
    (sleep ms : Work σ ε Unit).Ensures T i (fun t' s' _ => t' = t + ms ∧ s' = s) t s := by
  rintro ⟨_, _⟩ rfl _ m hm hover hdue _
  refine ⟨Nat.le_antisymm ?_ (by simpa [Wait.isOver, Wait.isDue, Wait.instant] using hover), rfl⟩
  have := hdue _ rfl
  dsimp only at this ⊢
  omega

theorem ensures_sayAll (news : List ε) (t : Nat) (s : σ) :
    (sayAll news).Ensures T i (fun t' s' _ => t' = t ∧ s' = s) t s := by
  induction news with
  | nil => exact ⟨rfl, rfl⟩
  | cons e rest ih => exact ih

/-! ### What is ensured anyway -/

/-- On terms that allow everything, any work ensures what always holds. -/
theorem ensures_of_forall {w : Work σ ε α} (hP : ∀ t s a, P t s a) (t : Nat) (s : σ) :
    w.Ensures (.keeping ι (fun _ => True) True) i P t s := by
  induction w generalizing t s with
  | done a => exact hP t s a
  | fault => trivial
  | observe next ih => exact fun m _ _ => ih m t s
  | tell news next ih => exact ih t s
  | cancel next ih => exact ⟨trivial, ih t s⟩
  | consult change next ih => exact fun s' _ _ => ⟨trivial, fun _ _ => trivial, ih s' t _⟩
  | await w next ih => exact fun m _ _ _ _ => ih m m.now s
  | yield next ih => exact ih t s

/-- Work that settles ensures what it settles with, in a run that nobody cancels. -/
theorem Settles.ensures {I : σ → Prop} {R : α → Prop} {w : Work σ ε α} (h : w.Settles I R)
    (t : Nat) (s : σ) : w.Ensures (.keeping ι I False) i (fun _ _ a => R a) t s := by
  induction w generalizing t s with
  | done a => exact h
  | fault => trivial
  | observe next ih => exact fun m _ hc => ih m (h m (Bool.eq_false_iff.mpr hc)) t s
  | tell news next ih => exact ih h t s
  | cancel next => exact h.elim
  | consult change next ih =>
    intro s' hI _
    obtain ⟨hI', hnext⟩ := h s' hI
    exact ⟨hI', fun _ _ => trivial, ih s' hnext t _⟩
  | await w next ih =>
    exact fun m _ ho _ hc => ih m (h.2 m (Bool.eq_false_iff.mpr hc) ho) m.now s
  | yield next ih => exact ih h t s

/-! ### Doing work -/

/-- Work that waits may as well have begun to wait later, as long as the clock has not passed what
it waits for. -/
theorem Ensures.later {w : Wait} {next : Moment → Work σ ε α} {now : Nat}
    (h : (Work.await w next).Ensures T i P t s) (ht : t ≤ now)
    (hnow : ∀ d, w.due? = some d → now ≤ max t d) : (Work.await w next).Ensures T i P now s := by
  intro m hm hover hdue hc
  refine h m (Nat.le_trans ht hm) hover (fun d hd => ?_) hc
  have := hdue d hd
  have := hnow d hd
  omega

/-- Work that has ended or cannot go on at once, and ensures what it does on the clock `now`. Once
it has ended, time goes on without it. -/
def EnsuresStopped (T : Terms ι σ) (i : ι) (P : Nat → σ → α → Prop) (now : Nat) (s : σ) :
    Work σ ε α → Prop
  | .done a => ∃ t ≤ now, P t s a
  | .await w next => (Work.await w next).Ensures T i P now s
  | .yield next => next.Ensures T i P now s
  | _ => False

/-- **What a piece of work ensures it still does after it has been driven**, unless it faults. The
world still meets the terms, and all others put up with what has changed. -/
theorem Ensures.drive {w : Work σ ε α} {world : World σ ε}
    (h : w.Ensures T i P world.now s) (hw : world.Meets T) (hs : T.rely i s world.state)
    (hfault : ∀ cause, (w.drive world).2 ≠ .fault cause) :
    (w.drive world).1.Meets T ∧ (w.drive world).1.now = world.now ∧
      (∀ j, j ≠ i → T.rely j world.state (w.drive world).1.state) ∧
      ∃ s, T.rely i s (w.drive world).1.state ∧
        (w.drive world).2.EnsuresStopped T i P world.now s := by
  induction w generalizing world s with
  | done a => exact ⟨hw, rfl, fun j _ => T.refl j _, s, hs, world.now, Nat.le_refl _, h⟩
  | fault cause => exact absurd rfl (hfault cause)
  | observe next ih => exact ih _ (h _ rfl hw.cancelled) hw hs hfault
  | tell news next ih => exact @ih s (world.tell news) h ⟨hw.1, hw.2, hw.3⟩ hs hfault
  | cancel next ih =>
    exact @ih s { world with cancelled := true } h.2 ⟨hw.1, fun _ => h.1, hw.3⟩ hs hfault
  | consult change next ih =>
    obtain ⟨hI, hothers, hnext⟩ := h world.state hw.state hs
    obtain ⟨hmeets, hnow, hrely, hrest⟩ := @ih world.state _
      { world with state := change world.state } hnext ⟨hI, hw.2, hw.3⟩ (T.refl i _) hfault
    exact ⟨hmeets, hnow, fun j hj => T.trans j (hothers j hj) (hrely j hj), hrest⟩
  | await w next ih =>
    rw [Work.drive] at hfault ⊢
    split
    · rename_i hover
      simp only [hover, if_true] at hfault
      rw [Bool.and_eq_true] at hover
      have hnext := h world.moment (Nat.le_refl _) hover.1 (fun d _ => Nat.le_max_left _ d)
        hw.cancelled
      have hgo := @ih world.moment s (world.pass w)
      rw [World.now_pass, World.state_pass] at hgo
      exact hgo hnext (hw.pass w) hs hfault
    · exact ⟨hw, rfl, fun j _ => T.refl j _, s, hs, h⟩
  | yield next ih => exact ⟨hw, rfl, fun j _ => T.refl j _, s, hs, h⟩

/-- What a piece of work ensures holds when it has been done on its own. -/
theorem Ensures.run {w : Work σ ε α} {world after : World σ ε} {a : α}
    (h : w.Ensures T i P world.now s) (hw : world.Meets T) (hs : T.rely i s world.state)
    (hrun : w.run world = .ok (after, a)) :
    after.Meets T ∧ ∃ s, T.rely i s after.state ∧ P after.now s a := by
  induction w generalizing world s with
  | done b =>
    cases hrun
    exact ⟨hw, s, hs, h⟩
  | fault cause => cases hrun
  | observe next ih => exact ih _ (h _ rfl hw.cancelled) hw hs hrun
  | tell news next ih => exact @ih s (world.tell news) h ⟨hw.1, hw.2, hw.3⟩ hs hrun
  | cancel next ih =>
    exact @ih s { world with cancelled := true } h.2 ⟨hw.1, fun _ => h.1, hw.3⟩ hs hrun
  | consult change next ih =>
    obtain ⟨hI, -, hnext⟩ := h world.state hw.state hs
    exact @ih world.state _ { world with state := change world.state } hnext
      ⟨hI, hw.2, hw.3⟩ (T.refl i _) hrun
  | await w next ih =>
    obtain ⟨begun, hbegun, hmeets, hnow, hstate⟩ : ∃ begun : World σ ε,
        begun = (if world.isSpent w then world.turn else world) ∧ begun.Meets T ∧
          begun.now = world.now ∧ begun.state = world.state := by
      split
      · exact ⟨_, rfl, hw.turn, rfl, rfl⟩
      · exact ⟨_, rfl, hw, rfl, rfl⟩
    have hgo (there : World σ ε) (hthere : there.Meets T) (hle : begun.now ≤ there.now)
        (hsame : there.state = begun.state) (hover : w.isOver there.moment = true)
        (hdue : ∀ d, w.due? = some d → there.now ≤ max begun.now d)
        (hr : (next there.moment).run (there.pass w) = .ok (after, a)) :
        after.Meets T ∧ ∃ s, T.rely i s after.state ∧ P after.now s a := by
      refine @ih there.moment s (there.pass w) ?_ (hthere.pass w) ?_ hr
      · rw [World.now_pass]
        exact h there.moment (hnow ▸ hle) hover (fun d hd => hnow ▸ hdue d hd) hthere.cancelled
      · rw [World.state_pass, hsame, hstate]
        exact hs
    simp only [Work.run, ← hbegun] at hrun
    split at hrun
    · rename_i hover
      exact hgo begun hmeets (Nat.le_refl _) rfl hover (fun d _ => Nat.le_max_left _ d) hrun
    · split at hrun
      · rename_i there hskip
        obtain ⟨hle, hsame, hdue⟩ := World.skip_spec hskip
        refine hgo there (hmeets.skip hskip) hle hsame ?_ (hdue w List.mem_cons_self) hrun
        exact World.isOver_of_skip hskip
      · cases hrun
  | yield next ih => exact @ih s world.turn h hw.turn hs hrun

/-- **Work that settles comes to its end on its own**, in a run that nobody cancels. -/
theorem Settles.run {I : σ → Prop} {R : α → Prop} {w : Work σ ε α} (h : w.Settles I R)
    {world : World σ ε} (hw : world.IsCalm I) :
    ∃ after a, w.run world = .ok (after, a) ∧ after.IsCalm I ∧ R a := by
  induction w generalizing world with
  | done a => exact ⟨world, a, rfl, hw, h⟩
  | fault => exact h.elim
  | observe next ih => exact ih _ (h _ hw.cancelled_eq) hw
  | tell news next ih => exact @ih h (world.tell news) ⟨hw.1, hw.2, hw.3⟩
  | cancel next => exact h.elim
  | consult change next ih =>
    obtain ⟨hI, hnext⟩ := h world.state hw.state
    exact @ih world.state hnext { world with state := change world.state } ⟨hw.1, hw.2, hI⟩
  | await w next ih =>
    obtain ⟨begun, hbegun, hcalm⟩ : ∃ begun : World σ ε,
        begun = (if world.isSpent w then world.turn else world) ∧ begun.IsCalm I := by
      split
      · exact ⟨_, rfl, hw.turn⟩
      · exact ⟨_, rfl, hw⟩
    simp only [Work.run, ← hbegun]
    split
    · rename_i hover
      exact ih _ (h.2 _ hcalm.cancelled_eq hover) (hcalm.pass w)
    · obtain ⟨d, hd⟩ := Option.isSome_iff_exists.mp h.1
      obtain ⟨there, hskip, hthere, hle⟩ := hcalm.exists_skip
        (show World.firstDue? [w] = some d by simp [World.firstDue?, hd])
      rw [hskip]
      refine ih _ (h.2 _ hthere.cancelled_eq ?_) (hthere.pass w)
      simp [Wait.isOver, Wait.isDue, hd, World.moment, hle]
  | yield next ih => exact @ih h world.turn hw.turn

end Work

end PortGraph
