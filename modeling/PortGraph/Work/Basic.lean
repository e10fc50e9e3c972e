/-!
# Work that takes time

A piece of work is a program that may look at the clock, tell something, change what it shares with
others, and wait. It says what to do and not when: everything that happens between two waits
happens at one instant, and who goes on first when several pieces of work can is not its business.

A piece of work is a finite tree whose branches are what it may see, so it always ends, but how long
it takes depends on what it sees.

## Main definitions

* `Work σ ε α`: work on a shared state `σ` that tells `ε` and ends with `α`
* `Wait`, `Moment`: what is waited for, and what is seen at an instant
* `Work.bind`, `Work.mapNews`, `Work.within`: composition
* `Work.before`: work that is given up at a deadline
-/

namespace PortGraph

/-- What is seen at an instant: the time in milliseconds, and whether the run has been cancelled. -/
structure Moment where
  now : Nat
  cancelled : Bool
deriving DecidableEq, Inhabited

/-- What is waited for: an instant, cancellation, whichever comes first, or, with neither, nothing
that ever comes. -/
structure Wait where
  due? : Option Nat
  orCancelled : Bool
deriving DecidableEq, Inhabited

namespace Wait

/-- Whether an instant has come. -/
def isDue (t? : Option Nat) (now : Nat) : Bool :=
  match t? with
  | some t => t ≤ now
  | none => false

/-- Whether the wait is over. -/
def isOver (w : Wait) (m : Moment) : Bool := isDue w.due? m.now || (w.orCancelled && m.cancelled)

/-- Wait until an instant. -/
def instant (t : Nat) : Wait := ⟨some t, false⟩

/-- Wait until an instant or until cancellation. -/
def instantOrCancelled (t : Nat) : Wait := ⟨some t, true⟩

/-- Wait for cancellation. -/
def cancellation : Wait := ⟨none, true⟩

/-- The same wait, but not beyond an instant. -/
def orInstant (w : Wait) (t : Nat) : Wait :=
  { w with due? := some (match w.due? with
    | some due => min due t
    | none => t) }

end Wait

/-- Why work cannot go on. -/
inductive Fault where
  /-- A delay is longer than can be counted. -/
  | delayOverflow
  /-- Everyone waits for what never comes. -/
  | stalled
deriving DecidableEq, Inhabited

/-- Work on a shared state `σ` that tells `ε` and ends with `α`. -/
inductive Work (σ ε α : Type) where
  | done (value : α)
  | fault (cause : Fault)
  /-- Look at the clock. -/
  | observe (next : Moment → Work σ ε α)
  /-- Tell something. -/
  | tell (news : ε) (next : Work σ ε α)
  /-- Cancel the run. -/
  | cancel (next : Work σ ε α)
  /-- Change the shared state, and go on with what it was before. -/
  | consult (change : σ → σ) (next : σ → Work σ ε α)
  /-- Wait, if there is anything to wait for. -/
  | await (wait : Wait) (next : Moment → Work σ ε α)
  /-- Let others go first. -/
  | yield (next : Work σ ε α)

namespace Work

variable {σ τ ε δ α β : Type}

instance [Inhabited α] : Inhabited (Work σ ε α) := ⟨.done default⟩

/-! ### Composition -/

/-- Go on with `f` when the work ends. -/
def bind : Work σ ε α → (α → Work σ ε β) → Work σ ε β
  | .done a, f => f a
  | .fault c, _ => .fault c
  | .observe next, f => .observe fun m => (next m).bind f
  | .tell e next, f => .tell e (next.bind f)
  | .cancel next, f => .cancel (next.bind f)
  | .consult change next, f => .consult change fun s => (next s).bind f
  | .await w next, f => .await w fun m => (next m).bind f
  | .yield next, f => .yield (next.bind f)

instance : Monad (Work σ ε) where
  pure := .done
  bind := .bind

@[simp]
theorem pure_eq (a : α) : (pure a : Work σ ε α) = .done a := rfl

@[simp]
theorem bind_eq (w : Work σ ε α) (f : α → Work σ ε β) : (w >>= f) = w.bind f := rfl

theorem bind_done (w : Work σ ε α) : w.bind .done = w := by
  induction w <;> simp_all [bind]

theorem bind_assoc {γ : Type} (w : Work σ ε α) (f : α → Work σ ε β) (g : β → Work σ ε γ) :
    (w.bind f).bind g = w.bind fun a => (f a).bind g := by
  induction w <;> simp_all [bind]

/-- The same work, telling its news in other words. -/
def mapNews (f : ε → δ) : Work σ ε α → Work σ δ α
  | .done a => .done a
  | .fault c => .fault c
  | .observe next => .observe fun m => (next m).mapNews f
  | .tell e next => .tell (f e) (next.mapNews f)
  | .cancel next => .cancel (next.mapNews f)
  | .consult change next => .consult change fun s => (next s).mapNews f
  | .await w next => .await w fun m => (next m).mapNews f
  | .yield next => .yield (next.mapNews f)

/-- The same work on a part of a larger shared state. -/
def within (get : τ → σ) (set : σ → τ → τ) : Work σ ε α → Work τ ε α
  | .done a => .done a
  | .fault c => .fault c
  | .observe next => .observe fun m => (next m).within get set
  | .tell e next => .tell e (next.within get set)
  | .cancel next => .cancel (next.within get set)
  | .consult change next =>
    .consult (fun t => set (change (get t)) t) fun t => (next (get t)).within get set
  | .await w next => .await w fun m => (next m).within get set
  | .yield next => .yield (next.within get set)

/-- The work, given up at a deadline. It is looked at before the clock is: what it can still do at
the deadline counts. -/
def before (deadline : Nat) : Work σ ε α → Work σ ε (Option α)
  | .done a => .done (some a)
  | .fault c => .fault c
  | .observe next => .observe fun m => (next m).before deadline
  | .tell e next => .tell e (next.before deadline)
  | .cancel next => .cancel (next.before deadline)
  | .consult change next => .consult change fun s => (next s).before deadline
  | .await w next =>
    .await (w.orInstant deadline) fun m => if w.isOver m then (next m).before deadline else .done none
  | .yield next =>
    .observe fun m => if deadline ≤ m.now then .done none else .yield (next.before deadline)

/-! ### Single steps -/

/-- The present instant. -/
def moment : Work σ ε Moment := .observe .done

/-- Tell something. -/
def say (news : ε) : Work σ ε Unit := .tell news (.done ())

/-- Tell several things in order. -/
def sayAll : List ε → Work σ ε Unit
  | [] => .done ()
  | e :: rest => .tell e (sayAll rest)

/-- Wait; the answer is what is seen when the wait is over. -/
def wait (w : Wait) : Work σ ε Moment := .await w .done

/-- Wait for some milliseconds. -/
def sleep (ms : Nat) : Work σ ε Unit :=
  .observe fun m => .await (.instant (m.now + ms)) fun _ => .done ()

end Work

end PortGraph
