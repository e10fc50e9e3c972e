import PortGraph.Work.Basic

/-!
# Work on a clock

The world in which work is done: a clock that stands still while anyone can go on, and otherwise
jumps to the first instant at which somebody can. Work is done in turns. In one turn only so many
waits for an instant are passed; work that meets another one gives way until the next turn.
Cancellation may come from within, or from outside at an instant fixed beforehand: then it comes at
the end of the first turn at or after that instant.

## Main definitions

* `World`: the clock, the shared state and the log
* `World.turn`: the end of a turn
* `World.skip`: the jump to the next instant
* `Work.drive`: work up to its next unmet wait
* `Work.run`: one piece of work on its own, to its end
* `Work.Below`: what is left of work after some of it has been done

## Main results

* `Work.wellFounded_below`: work ends
* `Work.drive_below`: driving changes nothing at all, or leaves less of the work
-/

namespace PortGraph

/-- The clock, what is shared, and what has been told when. -/
structure World (σ ε : Type) where
  now : Nat
  cancelled : Bool
  /-- The instant at which the run will be cancelled from outside. -/
  cancelAt? : Option Nat
  /-- How many more waits for an instant may be passed in this turn. -/
  allowance : Nat
  state : σ
  log : Array (Nat × ε)

namespace World

variable {σ ε : Type}

/-- How many waits for an instant may be passed in one turn. -/
def fullAllowance : Nat := 128

/-- A world at an instant. -/
def start (now : Nat) (state : σ) : World σ ε := ⟨now, false, none, fullAllowance, state, #[]⟩

/-- What is seen now. -/
def moment (w : World σ ε) : Moment := ⟨w.now, w.cancelled⟩

/-- The same world before another run: nothing is told yet, and cancellation comes at the given
instant, at once if that has passed. -/
def renew (w : World σ ε) (cancelAt? : Option Nat) : World σ ε where
  now := w.now
  cancelled := cancelAt?.any (· ≤ w.now)
  cancelAt? := cancelAt?.filter (w.now < ·)
  allowance := w.allowance
  state := w.state
  log := #[]

/-- Enter something into the log. -/
def tell (w : World σ ε) (news : ε) : World σ ε := { w with log := w.log.push (w.now, news) }

/-- The same world with the clock at `t`, if that is later. -/
def advance (w : World σ ε) (t : Nat) : World σ ε := { w with now := max w.now t }

/-- The same world when nothing has been done for some milliseconds. -/
def idle (w : World σ ε) (ms : Nat) : World σ ε :=
  { w.advance (w.now + ms) with allowance := fullAllowance }

/-- Whether a wait cannot be looked at in this turn any more. -/
def isSpent (w : World σ ε) (wait : Wait) : Bool := wait.due?.isSome && w.allowance = 0

/-- Pass a wait that is over. One that is over by cancellation costs nothing. -/
def pass (w : World σ ε) (wait : Wait) : World σ ε :=
  if Wait.isDue wait.due? w.now then { w with allowance := w.allowance - 1 } else w

/-- The same world at the beginning of the next turn: cancellation from outside has come if its
instant has. -/
def turn (w : World σ ε) : World σ ε :=
  { w with
    cancelled := w.cancelled || w.cancelAt?.any (· ≤ w.now)
    cancelAt? := w.cancelAt?.filter (w.now < ·)
    allowance := fullAllowance }

/-- The first instant at which one of the waits is over by time. -/
def firstDue? (waits : List Wait) : Option Nat := (waits.filterMap (·.due?)).min?

/-- The world at the next instant at which one of `waits` is over, none of them being over now;
`none` if there is no such instant. A new turn begins then, and what is due at the very instant of
cancellation comes before it. -/
def skip (w : World σ ε) (waits : List Wait) : Option (World σ ε) :=
  let w := { w with allowance := fullAllowance }
  let due? := firstDue? waits
  match w.cancelAt?.filter fun t => due?.all (t < ·) with
  | some t =>
    let w := { w.advance t with cancelled := true, cancelAt? := none }
    if waits.any (·.isOver w.moment) then some w else due?.map w.advance
  | none => due?.map w.advance

theorem skip_allowance {w v : World σ ε} {waits : List Wait} (h : w.skip waits = some v) :
    v.allowance = fullAllowance := by
  simp only [skip] at h
  split at h
  · split at h
    · cases h
      rfl
    · obtain ⟨_, _, rfl⟩ := Option.map_eq_some_iff.1 h
      rfl
  · obtain ⟨_, _, rfl⟩ := Option.map_eq_some_iff.1 h
    rfl

end World

namespace Work

variable {σ ε α : Type}

/-! ### Doing work -/

/-- Do work up to the next wait that is not over, and give what is left. -/
def drive (world : World σ ε) : Work σ ε α → World σ ε × Work σ ε α
  | .done a => (world, .done a)
  | .fault c => (world, .fault c)
  | .observe next => (next world.moment).drive world
  | .tell news next => next.drive (world.tell news)
  | .cancel next => next.drive { world with cancelled := true }
  | .consult change next =>
    (next world.state).drive { world with state := change world.state }
  | .await w next =>
    if w.isOver world.moment && !world.isSpent w then (next world.moment).drive (world.pass w)
    else (world, .await w next)
  | .yield next => (world, .yield next)

/-- Whether what is left of work after driving it waits for nothing but the next turn. -/
def givesWay (world : World σ ε) : Work σ ε α → Bool
  | .await w _ => world.isSpent w
  | .yield _ => true
  | _ => false

/-- Do a single piece of work to its end. -/
def run (world : World σ ε) : Work σ ε α → Except Fault (World σ ε × α)
  | .done a => .ok (world, a)
  | .fault c => .error c
  | .observe next => (next world.moment).run world
  | .tell news next => next.run (world.tell news)
  | .cancel next => next.run { world with cancelled := true }
  | .consult change next =>
    (next world.state).run { world with state := change world.state }
  | .await w next =>
    let world := if world.isSpent w then world.turn else world
    if w.isOver world.moment then (next world.moment).run (world.pass w)
    else
      match world.skip [w] with
      | some world => (next world.moment).run (world.pass w)
      | none => .error .stalled
  | .yield next => next.run world.turn

/-! ### What is left of work -/

/-- What may be left of work after its first step. -/
inductive Part : Work σ ε α → Work σ ε α → Prop
  | observe (next : Moment → Work σ ε α) (m : Moment) : Part (next m) (.observe next)
  | tell (news : ε) (next : Work σ ε α) : Part next (.tell news next)
  | cancel (next : Work σ ε α) : Part next (.cancel next)
  | consult (change : σ → σ) (next : σ → Work σ ε α) (s : σ) : Part (next s) (.consult change next)
  | await (w : Wait) (next : Moment → Work σ ε α) (m : Moment) : Part (next m) (.await w next)
  | yield (next : Work σ ε α) : Part next (.yield next)

/-- What may be left of work after one or more steps. -/
def Below : Work σ ε α → Work σ ε α → Prop := Relation.TransGen Part

/-- A piece of work cannot go on for ever. -/
theorem wellFounded_part : WellFounded (Part : Work σ ε α → Work σ ε α → Prop) := by
  constructor
  intro w
  induction w with
  | done | fault => exact ⟨_, fun _ h => nomatch h⟩
  | observe next ih => exact ⟨_, fun _ h => by cases h; exact ih _⟩
  | tell news next ih => exact ⟨_, fun _ h => by cases h; exact ih⟩
  | cancel next ih => exact ⟨_, fun _ h => by cases h; exact ih⟩
  | consult change next ih => exact ⟨_, fun _ h => by cases h; exact ih _⟩
  | await w next ih => exact ⟨_, fun _ h => by cases h; exact ih _⟩
  | yield next ih => exact ⟨_, fun _ h => by cases h; exact ih⟩

theorem wellFounded_below : WellFounded (Below : Work σ ε α → Work σ ε α → Prop) :=
  wellFounded_part.transGen

/-- What is left after a step and some more is less than the whole. -/
theorem Below.of_part {a b c : Work σ ε α} (h : a = b ∨ Below a b) (p : Part b c) : Below a c :=
  match h with
  | .inl e => e ▸ .single p
  | .inr h => .tail h p

/-- Driving changes nothing at all, or leaves less of the work. -/
theorem drive_below (world : World σ ε) (w : Work σ ε α) :
    w.drive world = (world, w) ∨ Below (w.drive world).2 w := by
  induction w generalizing world with
  | done | fault | yield => exact .inl rfl
  | observe next ih => exact .inr (.of_part ((ih _ _).imp_left (congrArg Prod.snd)) (.observe next _))
  | tell news next ih => exact .inr (.of_part ((ih _).imp_left (congrArg Prod.snd)) (.tell news next))
  | cancel next ih => exact .inr (.of_part ((ih _).imp_left (congrArg Prod.snd)) (.cancel next))
  | consult change next ih => exact .inr (.of_part ((ih _ _).imp_left (congrArg Prod.snd)) (.consult change next _))
  | await w next ih =>
    simp only [drive]
    split
    · exact .inr (.of_part ((ih _ _).imp_left (congrArg Prod.snd)) (.await w next _))
    · exact .inl rfl

end Work

end PortGraph
