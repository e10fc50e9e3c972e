import PortGraph.Work.World

/-!
# Work that settles

A piece of work settles if, in a run that nobody cancels, it comes to its end whatever it sees. What
it sees of the clock is not restricted at all, and of the shared state only that it satisfies an
invariant, which the work keeps up in turn. So the notion does not depend on who else does what in
the meantime: pieces of work that settle, each on its own, settle side by side as well.

Waiting for nothing but cancellation does not settle, as in such a run it never comes.

## Main definitions

* `Work.Settles I P`: the work ends with a value that satisfies `P`, and keeps up `I`
* `World.IsCalm`: nobody has cancelled the run, or will from outside

## Main results

* `Work.Settles.bind`, `Work.Settles.mapNews`, `Work.Settles.within`: composition
* `Work.Settles.drive`: work that settles still does after it has been driven
-/

namespace PortGraph

variable {σ τ ε δ α β : Type}

/-- A world in which nobody has cancelled the run, or will from outside, and in which what is shared
satisfies an invariant. -/
structure World.IsCalm (I : σ → Prop) (w : World σ ε) : Prop where
  cancelled_eq : w.cancelled = false
  cancelAt?_eq : w.cancelAt? = none
  state : I w.state

namespace World

variable {I : σ → Prop} {world : World σ ε}

theorem IsCalm.turn (h : world.IsCalm I) : world.turn.IsCalm I := by
  refine ⟨?_, ?_, h.state⟩ <;> simp [World.turn, h.cancelled_eq, h.cancelAt?_eq]

theorem IsCalm.pass (h : world.IsCalm I) (wait : Wait) : (world.pass wait).IsCalm I := by
  rw [World.pass]
  split
  · exact ⟨h.cancelled_eq, h.cancelAt?_eq, h.state⟩
  · exact h

theorem IsCalm.skip (h : world.IsCalm I) {waits : List Wait} {after : World σ ε}
    (hskip : world.skip waits = some after) : after.IsCalm I := by
  simp only [World.skip, h.cancelAt?_eq, Option.filter_none] at hskip
  obtain ⟨t, -, rfl⟩ := Option.map_eq_some_iff.mp hskip
  exact ⟨h.cancelled_eq, rfl, h.state⟩

/-- The clock of a calm world jumps to the first instant that somebody waits for. -/
theorem IsCalm.exists_skip (h : world.IsCalm I) {waits : List Wait} {t : Nat}
    (ht : firstDue? waits = some t) :
    ∃ after, world.skip waits = some after ∧ after.IsCalm I ∧ t ≤ after.now := by
  refine ⟨advance { world with allowance := fullAllowance } t, ?_,
    ⟨h.cancelled_eq, h.cancelAt?_eq, h.state⟩, Nat.le_max_right _ _⟩
  simp [World.skip, h.cancelAt?_eq, ht]

end World

namespace Work

/-- The work ends with a value that satisfies `P`, in a run that is not cancelled and as long as
everybody keeps what is shared within `I`. -/
def Settles (I : σ → Prop) (P : α → Prop) : Work σ ε α → Prop
  | .done a => P a
  | .fault _ => False
  | .observe next => ∀ m, m.cancelled = false → (next m).Settles I P
  | .tell _ next => next.Settles I P
  | .cancel _ => False
  | .consult change next => ∀ s, I s → I (change s) ∧ (next s).Settles I P
  | .await w next =>
    w.due?.isSome = true ∧ ∀ m, m.cancelled = false → w.isOver m = true → (next m).Settles I P
  | .yield next => next.Settles I P

/-- Work that has ended or cannot go on at once. -/
def IsStopped : Work σ ε α → Prop
  | .done _ => True
  | .await .. => True
  | .yield _ => True
  | _ => False

variable {I : σ → Prop} {P Q : α → Prop}

/-! ### Composition -/

theorem Settles.mono {w : Work σ ε α} (h : w.Settles I P) (hPQ : ∀ a, P a → Q a) :
    w.Settles I Q := by
  induction w with
  | done a => exact hPQ a h
  | fault => exact h
  | observe next ih => exact fun m hm => ih m (h m hm)
  | tell news next ih => exact ih h
  | cancel next => exact h
  | consult change next ih => exact fun s hs => ⟨(h s hs).1, ih s (h s hs).2⟩
  | await w next ih => exact ⟨h.1, fun m hm ho => ih m (h.2 m hm ho)⟩
  | yield next ih => exact ih h

theorem Settles.bind {w : Work σ ε α} {f : α → Work σ ε β} {R : β → Prop} (h : w.Settles I P)
    (hf : ∀ a, P a → (f a).Settles I R) : (w.bind f).Settles I R := by
  induction w with
  | done a => exact hf a h
  | fault => exact h
  | observe next ih => exact fun m hm => ih m (h m hm)
  | tell news next ih => exact ih h
  | cancel next => exact h
  | consult change next ih => exact fun s hs => ⟨(h s hs).1, ih s (h s hs).2⟩
  | await w next ih => exact ⟨h.1, fun m hm ho => ih m (h.2 m hm ho)⟩
  | yield next ih => exact ih h

theorem Settles.mapNews {w : Work σ ε α} (h : w.Settles I P) (f : ε → δ) :
    (w.mapNews f).Settles I P := by
  induction w with
  | done a => exact h
  | fault => exact h
  | observe next ih => exact fun m hm => ih m (h m hm)
  | tell news next ih => exact ih h
  | cancel next => exact h
  | consult change next ih => exact fun s hs => ⟨(h s hs).1, ih s (h s hs).2⟩
  | await w next ih => exact ⟨h.1, fun m hm ho => ih m (h.2 m hm ho)⟩
  | yield next ih => exact ih h

/-- Work on a part of what is shared keeps up an invariant of the whole that speaks of that part as
the work does. -/
theorem Settles.within {w : Work σ ε α} (h : w.Settles I P) {J : τ → Prop} {get : τ → σ}
    {set : σ → τ → τ} (hget : ∀ t, J t → I (get t)) (hset : ∀ s t, I s → J t → J (set s t)) :
    (w.within get set).Settles J P := by
  induction w with
  | done a => exact h
  | fault => exact h
  | observe next ih => exact fun m hm => ih m (h m hm)
  | tell news next ih => exact ih h
  | cancel next => exact h
  | consult change next ih =>
    intro t ht
    obtain ⟨hs, hn⟩ := h (get t) (hget t ht)
    exact ⟨hset _ t hs ht, ih (get t) hn⟩
  | await w next ih => exact ⟨h.1, fun m hm ho => ih m (h.2 m hm ho)⟩
  | yield next ih => exact ih h

/-- It does not matter whether work is given up in its own words. -/
theorem before_mapNews (w : Work σ ε α) (f : ε → δ) (deadline : Nat) :
    (w.mapNews f).before deadline = (w.before deadline).mapNews f := by
  induction w with
  | done | fault => rfl
  | observe next ih | consult change next ih => simp only [mapNews, before, ih]
  | tell news next ih | cancel next ih => simp only [mapNews, before, ih]
  | await w next ih =>
    simp only [mapNews, before, ih]
    congr 1
    funext m
    split <;> rfl
  | yield next ih =>
    simp only [mapNews, before, ih]
    congr 1
    funext m
    split <;> rfl

theorem settles_sleep (ms : Nat) : (sleep ms : Work σ ε Unit).Settles I fun _ => True :=
  fun _ _ => ⟨rfl, fun _ _ _ => trivial⟩

theorem settles_sayAll (news : List ε) : (sayAll news).Settles I fun _ : Unit => True := by
  induction news with
  | nil => trivial
  | cons e rest ih => exact ih

/-! ### Driving -/

/-- **Work that settles still does after it has been driven**, and the world is as calm as
before. -/
theorem Settles.drive {w : Work σ ε α} (h : w.Settles I P) {world : World σ ε}
    (hw : world.IsCalm I) :
    (w.drive world).1.IsCalm I ∧ (w.drive world).2.Settles I P ∧ (w.drive world).2.IsStopped := by
  induction w generalizing world with
  | done a => exact ⟨hw, h, trivial⟩
  | fault => exact h.elim
  | observe next ih => exact ih _ (h _ hw.cancelled_eq) hw
  | tell news next ih => exact ih h ⟨hw.cancelled_eq, hw.cancelAt?_eq, hw.state⟩
  | cancel next => exact h.elim
  | consult change next ih =>
    obtain ⟨hs, hn⟩ := h _ hw.state
    exact ih _ hn ⟨hw.cancelled_eq, hw.cancelAt?_eq, hs⟩
  | await w next ih =>
    rw [Work.drive]
    split
    · rename_i hover
      rw [Bool.and_eq_true] at hover
      exact ih _ (h.2 _ hw.cancelled_eq hover.1) (hw.pass w)
    · exact ⟨hw, h, trivial⟩
  | yield next ih => exact ⟨hw, h, trivial⟩

end Work

end PortGraph
