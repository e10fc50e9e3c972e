import PortGraph.Proofs.Work.Pool

/-!
# Work that ends in any event

Work that settles does so in a run that nobody cancels, and as long as everybody keeps to an
invariant. Here nothing is asked of the run: a piece of work ends in any event if it comes to its
end whatever it sees of the clock, of cancellation, and of what is shared. Besides faults, what
keeps a piece of work from that is a wait for nothing but cancellation, which may never come. Work
that is given up at a deadline need not come to its end by itself; it must not come to a fault.

## Main definitions

* `Work.Ends`: the work comes to its end
* `Work.IsFaultless`: the work comes to no fault

## Main results

* `Work.Ends.bind`, `Work.Ends.mapNews`, `Work.Ends.within`: composition
* `Work.IsFaultless.ends_before`: faultless work ends when it is given up at a deadline
* `Work.Ends.run`: work that ends comes to its end on its own
* `Pool.exists_run_of_ends`: a pool of works that end runs to its end
-/

namespace PortGraph

variable {σ τ ε δ α β : Type}

namespace Work

/-- The work comes to its end, whatever it sees. -/
def Ends : Work σ ε α → Prop
  | .done _ => True
  | .fault _ => False
  | .observe next => ∀ m, (next m).Ends
  | .tell _ next => next.Ends
  | .cancel next => next.Ends
  | .consult _ next => ∀ s, (next s).Ends
  | .await w next => w.due?.isSome = true ∧ ∀ m, w.isOver m = true → (next m).Ends
  | .yield next => next.Ends

/-! ### Composition -/

theorem Ends.bind {w : Work σ ε α} {f : α → Work σ ε β} (h : w.Ends) (hf : ∀ a, (f a).Ends) :
    (w.bind f).Ends := by
  induction w with
  | done a => exact hf a
  | fault => exact h
  | observe next ih => exact fun m => ih m (h m)
  | tell news next ih => exact ih h
  | cancel next ih => exact ih h
  | consult change next ih => exact fun s => ih s (h s)
  | await w next ih => exact ⟨h.1, fun m hm => ih m (h.2 m hm)⟩
  | yield next ih => exact ih h

theorem Ends.mapNews {w : Work σ ε α} (h : w.Ends) (f : ε → δ) : (w.mapNews f).Ends := by
  induction w with
  | done a => trivial
  | fault => exact h
  | observe next ih => exact fun m => ih m (h m)
  | tell news next ih => exact ih h
  | cancel next ih => exact ih h
  | consult change next ih => exact fun s => ih s (h s)
  | await w next ih => exact ⟨h.1, fun m hm => ih m (h.2 m hm)⟩
  | yield next ih => exact ih h

theorem Ends.within {w : Work σ ε α} (h : w.Ends) (get : τ → σ) (set : σ → τ → τ) :
    (w.within get set).Ends := by
  induction w with
  | done a => trivial
  | fault => exact h
  | observe next ih => exact fun m => ih m (h m)
  | tell news next ih => exact ih h
  | cancel next ih => exact ih h
  | consult change next ih => exact fun t => ih (get t) (h (get t))
  | await w next ih => exact ⟨h.1, fun m hm => ih m (h.2 m hm)⟩
  | yield next ih => exact ih h

theorem ends_sayAll (news : List ε) : (sayAll news : Work σ ε Unit).Ends := by
  induction news with
  | nil => trivial
  | cons e rest ih => exact ih

/-! ### Deadlines -/

/-- The work comes to no fault, whatever it sees. It need not come to its end. -/
def IsFaultless : Work σ ε α → Prop
  | .done _ => True
  | .fault _ => False
  | .observe next => ∀ m, (next m).IsFaultless
  | .tell _ next => next.IsFaultless
  | .cancel next => next.IsFaultless
  | .consult _ next => ∀ s, (next s).IsFaultless
  | .await w next => ∀ m, w.isOver m = true → (next m).IsFaultless
  | .yield next => next.IsFaultless

/-- **Faultless work ends when it is given up at a deadline.** -/
theorem IsFaultless.ends_before {w : Work σ ε α} (h : w.IsFaultless) (deadline : Nat) :
    (w.before deadline).Ends := by
  induction w with
  | done a => trivial
  | fault => exact h
  | observe next ih => exact fun m => ih m (h m)
  | tell news next ih => exact ih h
  | cancel next ih => exact ih h
  | consult change next ih => exact fun s => ih s (h s)
  | await w next ih =>
    refine ⟨rfl, fun m _ => ?_⟩
    dsimp only
    split
    · rename_i hover
      exact ih m (h m hover)
    · trivial
  | yield next ih =>
    intro m
    dsimp only
    split
    · trivial
    · exact ih h

/-! ### Driving -/

/-- Work that ends still does after it has been driven. -/
theorem Ends.drive {w : Work σ ε α} (h : w.Ends) (world : World σ ε) : (w.drive world).2.Ends := by
  induction w generalizing world with
  | done a => trivial
  | fault => exact h
  | observe next ih => exact ih _ (h _) world
  | tell news next ih => exact ih h _
  | cancel next ih => exact ih h _
  | consult change next ih => exact ih _ (h _) _
  | await w next ih =>
    rw [Work.drive]
    split
    · rename_i hover
      rw [Bool.and_eq_true] at hover
      exact ih _ (h.2 _ hover.1) _
    · exact h
  | yield next ih => exact h

/-- **Work that ends comes to its end on its own**, whoever cancels the run and whenever. -/
theorem Ends.run {w : Work σ ε α} (h : w.Ends) (world : World σ ε) :
    ∃ after a, w.run world = .ok (after, a) := by
  induction w generalizing world with
  | done a => exact ⟨world, a, rfl⟩
  | fault => exact h.elim
  | observe next ih => exact ih _ (h _) world
  | tell news next ih => exact ih h _
  | cancel next ih => exact ih h _
  | consult change next ih => exact ih _ (h _) _
  | await w next ih =>
    simp only [Work.run]
    generalize (if world.isSpent w = true then world.turn else world) = begun
    split
    · rename_i hover
      exact ih _ (h.2 _ hover) _
    · obtain ⟨due, hdue⟩ := Option.isSome_iff_exists.mp h.1
      obtain ⟨there, hskip, wait, hwait, hover⟩ := begun.exists_skip
        (show World.firstDue? [w] = some due by simp [World.firstDue?, hdue])
      cases List.mem_singleton.mp hwait
      rw [hskip]
      exact ih _ (h.2 _ hover) _
  | yield next ih => exact ih h _

end Work

namespace Pool

/-- Nothing is asked of the worlds in which work ends. -/
theorem sustains_ends : Sustains (fun _ : World σ ε => True) fun _ (w : Work σ ε α) => w.Ends where
  turn _ := trivial
  skip _ _ := trivial
  drive _ h := ⟨trivial, h.drive _⟩
  due h := h.1
  yield h := h
  fault h := h

/-- **Work that ends, piece by piece, ends in a pool**, whoever cancels the run and whenever: with
room for at least one piece, every policy leads to the end of all work. -/
theorem exists_run_of_ends (world : World σ ε) {limit : Nat} {works : List (Work σ ε α)}
    (hlimit : works ≠ [] → 1 ≤ limit) (hworks : ∀ w ∈ works, w.Ends) (policy : Policy) :
    ∃ after rs, (start world limit works).run policy = .ok (after, rs) := by
  have hworld : (fun _ : World σ ε => True) world := trivial
  obtain ⟨after, rs, hrun, -⟩ := sustains_ends.exists_run hworld hlimit
    (fun i w hw => hworks w (List.mem_of_getElem? hw)) policy
  exact ⟨after, rs, hrun⟩

end Pool

end PortGraph
