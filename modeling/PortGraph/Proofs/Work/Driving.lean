import PortGraph.Proofs.Work.Ensures

/-!
# Driving composed work

How far work gets when it is driven, in terms of how far its parts get. Driving takes no time, so
the clock stands still and a run that has been cancelled stays so. Work that goes on with other work
gets as far as that if the first part comes to its end, and otherwise waits where the first part
does. Work on a part of a larger state does the same there as it does on its own.

## Main definitions

* `World.withState`: the same world with another shared state

## Main results

* `Work.now_drive`, `Work.cancelled_drive`: driving takes no time and undoes no cancellation
* `Work.drive_bind_of_done`, `Work.drive_bind_of_left`: how far work gets that goes on with other
  work
* `Work.drive_within`: how far work gets on a part of a larger state
-/

namespace PortGraph

variable {σ τ ε δ α β : Type}

/-- The same world with another shared state. -/
def World.withState (w : World σ ε) (s : τ) : World τ ε where
  now := w.now
  cancelled := w.cancelled
  cancelAt? := w.cancelAt?
  allowance := w.allowance
  state := s
  log := w.log

theorem World.pass_withState (w : World σ ε) (s : τ) (wait : Wait) :
    (w.withState s).pass wait = (w.pass wait).withState s := by
  by_cases h : Wait.isDue wait.due? w.now <;> simp [pass, withState, h]

theorem World.cancelled_pass (w : World σ ε) (wait : Wait) :
    (w.pass wait).cancelled = w.cancelled := by
  rw [pass]
  split <;> rfl

namespace Work

/-! ### Instants -/

/-- **Driving takes no time.** -/
theorem now_drive (w : Work σ ε α) (world : World σ ε) : (w.drive world).1.now = world.now := by
  induction w generalizing world with
  | done a => rfl
  | fault cause => rfl
  | observe next ih => exact ih _ _
  | tell news next ih => exact ih _
  | cancel next ih => exact ih _
  | consult change next ih => exact ih _ _
  | await w next ih =>
    rw [drive]
    split
    · rw [ih, World.now_pass]
    · rfl
  | yield next ih => rfl

/-- A run that has been cancelled stays so. -/
theorem cancelled_drive (w : Work σ ε α) {world : World σ ε} (h : world.cancelled = true) :
    (w.drive world).1.cancelled = true := by
  induction w generalizing world with
  | done a => exact h
  | fault cause => exact h
  | observe next ih => exact ih _ h
  | tell news next ih => exact ih h
  | cancel next ih => exact ih rfl
  | consult change next ih => exact ih _ h
  | await w next ih =>
    rw [drive]
    split
    · exact ih _ ((world.cancelled_pass w).trans h)
    · exact h
  | yield next ih => exact h

/-! ### Composition -/

theorem mapNews_bind (f : ε → δ) (w : Work σ ε α) (g : α → Work σ ε β) :
    (w.bind g).mapNews f = (w.mapNews f).bind fun a => (g a).mapNews f := by
  induction w <;> simp_all [bind, mapNews]

theorem mapNews_within (f : ε → δ) (w : Work σ ε α) (get : τ → σ) (set : σ → τ → τ) :
    (w.within get set).mapNews f = (w.mapNews f).within get set := by
  induction w <;> simp_all [within, mapNews]

theorem within_bind (get : τ → σ) (set : σ → τ → τ) (w : Work σ ε α) (f : α → Work σ ε β) :
    (w.bind f).within get set = (w.within get set).bind fun a => (f a).within get set := by
  induction w <;> simp_all [bind, within]

/-- It does not matter whether work is given up on a larger state. -/
theorem before_within (w : Work σ ε α) (get : τ → σ) (set : σ → τ → τ) (deadline : Nat) :
    (w.within get set).before deadline = (w.before deadline).within get set := by
  induction w with
  | done | fault => rfl
  | observe next ih | consult change next ih => simp only [within, before, ih]
  | tell news next ih | cancel next ih => simp only [within, before, ih]
  | await w next ih =>
    simp only [within, before, ih]
    congr 1
    funext m
    split <;> rfl
  | yield next ih =>
    simp only [within, before, ih]
    congr 1
    funext m
    split <;> rfl

theorem sayAll_within (news : List ε) (get : τ → σ) (set : σ → τ → τ) :
    (sayAll news).within get set = sayAll news := by
  induction news with
  | nil => rfl
  | cons e rest ih => rw [sayAll, within, ih, sayAll]

/-- Work whose first part comes to its end goes on with the rest. -/
theorem drive_bind_of_done {w : Work σ ε α} {world : World σ ε} {a : α} (f : α → Work σ ε β)
    (h : (w.drive world).2 = .done a) :
    (w.bind f).drive world = (f a).drive (w.drive world).1 := by
  induction w generalizing world with
  | done b =>
    cases h
    rfl
  | fault cause => cases h
  | observe next ih => exact ih _ h
  | tell news next ih => exact ih h
  | cancel next ih => exact ih h
  | consult change next ih => exact ih _ h
  | await w next ih =>
    rw [bind, drive, drive]
    rw [drive] at h
    split at h
    · rename_i hover
      rw [if_pos hover, if_pos hover]
      exact ih _ h
    · cases h
  | yield next ih => cases h

/-- Work whose first part has to wait, waits there. -/
theorem drive_bind_of_left {w : Work σ ε α} {world : World σ ε} (f : α → Work σ ε β)
    (h : ∀ a, (w.drive world).2 ≠ .done a) :
    (w.bind f).drive world = ((w.drive world).1, (w.drive world).2.bind f) := by
  induction w generalizing world with
  | done b => exact absurd rfl (h b)
  | fault cause => rfl
  | observe next ih => exact ih _ h
  | tell news next ih => exact ih h
  | cancel next ih => exact ih h
  | consult change next ih => exact ih _ h
  | await w next ih =>
    rw [bind, drive, drive]
    rw [drive] at h
    split
    · rename_i hover
      rw [if_pos hover] at h
      exact ih _ h
    · rfl
  | yield next ih => rfl

/-- **Work on a part of a larger state** gets there as far as it gets on its own, and leaves the
rest of the state as it is. -/
theorem drive_within (get : τ → σ) (set : σ → τ → τ) (hget : ∀ s t, get (set s t) = s)
    (hset : ∀ s s' t, set s (set s' t) = set s t) (hself : ∀ t, set (get t) t = t)
    (w : Work σ ε α) (world : World τ ε) :
    (w.within get set).drive world =
      ((w.drive (world.withState (get world.state))).1.withState
          (set (w.drive (world.withState (get world.state))).1.state world.state),
        (w.drive (world.withState (get world.state))).2.within get set) := by
  have hstay : ∀ world : World τ ε, world = (world.withState (get world.state)).withState
      (set (get world.state) world.state) := by
    intro world
    rw [hself]
    rfl
  induction w generalizing world with
  | done a => exact congrArg (·, _) (hstay world)
  | fault cause => exact congrArg (·, _) (hstay world)
  | observe next ih => exact ih _ world
  | tell news next ih => exact ih (world.tell news)
  | cancel next ih => exact ih { world with cancelled := true }
  | consult change next ih =>
    have := ih (get world.state) { world with state := set (change (get world.state)) world.state }
    simp only [hget, hset] at this
    exact this
  | await w next ih =>
    have hpass := ih world.moment (world.pass w)
    rw [World.state_pass, ← World.pass_withState] at hpass
    rw [within, drive, drive]
    split
    · rename_i hover
      rw [if_pos (by exact hover)]
      exact hpass
    · rename_i hover
      rw [if_neg (by exact hover)]
      exact congrArg (·, _) (hstay world)
  | yield next ih => exact congrArg (·, _) (hstay world)

end Work

end PortGraph
