import PortGraph.Work.World

/-!
# Work side by side

A pool is several pieces of work on one clock, of which at most so many are under way at a time; the
next one enters when one ends. One piece at a time is driven up to its next unmet wait, and the
clock moves only when no piece can go on.

The pieces that can go on stand in a queue: those that enter, and those whose wait is over, in the
order in which they stopped. Which of them goes on is left to a policy, any function at all, which
may also end the turn. A piece that gives way leaves the queue until the turn has ended; then the
one that gave way last comes first. Two policies are in use: in rounds, each turn being one pass
through the pool in its order, and in a queue, each turn being at most one drive of as many pieces
as are under way.

## Main definitions

* `Piece`, `Pool`: what is left of each piece, and how they stand
* `Pool.Policy`: the choice, with `Policy.rounds` and `Policy.queue`
* `Pool.step`, `Pool.run`: one piece driven once, and all of them to the end
* `Pool.asEnded`: the results in the order in which the pieces ended

## Main results

* `Pool.step_below`: every step uses up some work, or else one of the drives that do nothing, so a
  pool comes to its end
-/

namespace PortGraph

/-- A piece of work in a pool: what is left of it, and, once it has started, the number of drives
that came before the one after which it stopped. -/
structure Piece (σ ε α : Type) where
  rest : Work σ ε α
  stopped? : Option Nat

namespace Piece

variable {σ ε α : Type}

/-- The result, if the work has been done, with the number of drives that came before the one that
ended it. -/
def result? (s : Piece σ ε α) : Option (Nat × α) :=
  match s.stopped?, s.rest with
  | some t, .done a => some (t, a)
  | _, _ => none

/-- Whether there is nothing left to do. -/
def isClosed (s : Piece σ ε α) : Bool := s.result?.isSome

/-- What is waited for. -/
def wait? (s : Piece σ ε α) : Option Wait :=
  match s.stopped?, s.rest with
  | some _, .await w _ => some w
  | _, _ => none

/-- Whether the work can go on, the turn allowing. -/
def isReady (s : Piece σ ε α) (m : Moment) : Bool :=
  match s.stopped?, s.rest with
  | none, _ => true
  | some _, .await w _ => w.isOver m
  | some _, .yield _ => true
  | some _, _ => false

/-- The work to go on with: having given way, it goes on behind that point. -/
def resume (s : Piece σ ε α) : Work σ ε α :=
  match s.stopped?, s.rest with
  | some _, .yield next => next
  | _, w => w

/-- Whether there is anything to drive. A piece that waits may be driven in vain. -/
def isOpen (s : Piece σ ε α) : Bool :=
  match s.stopped?, s.rest with
  | none, _ => true
  | some _, .await .. => true
  | some _, .yield _ => true
  | some _, _ => false

/-- What is left counts by the work, and then by whether it has yet to start. -/
def left (s : Piece σ ε α) : Work σ ε α × Nat := (s.rest, if s.stopped?.isSome then 0 else 1)

/-- Less is left. -/
def Less : Work σ ε α × Nat → Work σ ε α × Nat → Prop := Prod.Lex Work.Below (· < ·)

theorem wellFounded_less : WellFounded (Less : Work σ ε α × Nat → Work σ ε α × Nat → Prop) :=
  (Prod.lex ⟨_, Work.wellFounded_below⟩ ⟨_, Nat.lt_wfRel.wf⟩).wf

/-- Driving a piece that can go on, and may in this turn, leaves less of it. -/
theorem less_of_drive {s : Piece σ ε α} {world : World σ ε} (h : s.isReady world.moment = true)
    (hw : s.wait?.any world.isSpent = false) (t : Nat) :
    Less (left ⟨(s.resume.drive world).2, some t⟩) s.left := by
  obtain ⟨rest, stopped?⟩ := s
  cases stopped? with
  | none =>
    rcases Work.drive_below world rest with e | e
    · simp only [left, resume, e]
      exact .right _ (by simp)
    · exact .left _ _ e
  | some u =>
    cases rest with
    | await w next =>
      simp only [isReady] at h
      simp only [wait?, Option.any_some] at hw
      refine .left _ _ ?_
      simp only [resume, Work.drive, h, hw]
      exact .of_part ((Work.drive_below _ _).imp_left (congrArg Prod.snd)) (.await w next _)
    | yield next =>
      exact .left _ _ (.of_part ((Work.drive_below _ _).imp_left (congrArg Prod.snd)) (.yield next))
    | done | fault | observe | tell | cancel | consult => simp [isReady] at h

/-- A piece that is open and cannot go on waits, and driving it changes nothing. -/
theorem drive_of_not_isReady {s : Piece σ ε α} {world : World σ ε} (ho : s.isOpen = true)
    (h : s.isReady world.moment = false) :
    s.stopped?.isSome ∧ s.wait?.isSome ∧ s.resume.drive world = (world, s.rest) := by
  obtain ⟨rest, stopped?⟩ := s
  cases stopped? with
  | none => simp [isReady] at h
  | some u =>
    cases rest with
    | await w next =>
      simp only [isReady] at h
      simp [wait?, resume, Work.drive, h]
    | yield next => simp [isReady] at h
    | done | fault | observe | tell | cancel | consult => simp [isOpen] at ho

/-- Of two lists of equal length, one is less in one place. -/
inductive SomeLess : List (Work σ ε α × Nat) → List (Work σ ε α × Nat) → Prop
  | head {a b : Work σ ε α × Nat} (rest : List (Work σ ε α × Nat)) :
    Less a b → SomeLess (a :: rest) (b :: rest)
  | tail (a : Work σ ε α × Nat) {l m : List (Work σ ε α × Nat)} :
    SomeLess l m → SomeLess (a :: l) (a :: m)

theorem wellFounded_someLess :
    WellFounded (SomeLess : List (Work σ ε α × Nat) → List (Work σ ε α × Nat) → Prop) := by
  constructor
  intro l
  induction l with
  | nil => exact ⟨_, fun _ h => nomatch h⟩
  | cons a rest ih =>
    induction a using wellFounded_less.induction generalizing rest with
    | _ a iha =>
      induction ih with
      | intro rest hacc ihr =>
        refine ⟨_, fun l h => ?_⟩
        cases h with
        | head _ hb => exact iha _ hb rest ⟨_, hacc⟩
        | tail _ ht => exact ihr _ ht

theorem someLess_set {l : List (Piece σ ε α)} {i : Nat} {s t : Piece σ ε α} (hi : l[i]? = some s)
    (h : Less t.left s.left) : SomeLess ((l.set i t).map left) (l.map left) := by
  induction l generalizing i with
  | nil => simp at hi
  | cons head rest ih =>
    cases i with
    | zero =>
      simp only [List.getElem?_cons_zero, Option.some.injEq] at hi
      exact hi ▸ .head _ h
    | succ i => exact .tail head.left (ih (by simpa using hi))

theorem map_left_set {l : List (Piece σ ε α)} {i : Nat} {s t : Piece σ ε α} (hi : l[i]? = some s)
    (h : t.left = s.left) : (l.set i t).map left = l.map left := by
  induction l generalizing i with
  | nil => rfl
  | cons head rest ih =>
    cases i with
    | zero =>
      simp only [List.getElem?_cons_zero, Option.some.injEq] at hi
      simp [h, hi]
    | succ i => simpa using ih (by simpa using hi)

end Piece

/-- Several pieces of work on one clock. The pieces are named by their places. -/
structure Pool (σ ε α : Type) where
  world : World σ ε
  pieces : List (Piece σ ε α)
  /-- How many pieces have entered, the first ones of the pool. -/
  entered : Nat
  /-- The pieces that can go on in this turn. -/
  queue : List Nat
  /-- The pieces that gave way in this turn, the last one first. -/
  late : List Nat
  /-- How often a piece has been driven. -/
  drives : Nat
  /-- How often a piece has been driven since this turn began or a piece ended in it. -/
  spell : Nat
  /-- The piece driven last in this turn. -/
  last? : Option Nat

namespace Pool

variable {σ ε α : Type}

/-- A pool of work not yet started, of which the first `limit` pieces enter. -/
def start (world : World σ ε) (limit : Nat) (works : List (Work σ ε α)) : Pool σ ε α where
  world := world
  pieces := works.map (⟨·, none⟩)
  entered := min limit works.length
  queue := List.range (min limit works.length)
  late := []
  drives := 0
  spell := 0
  last? := none

/-! ### Policies -/

/-- What a policy goes by. -/
structure View where
  /-- The pieces that can go on in this turn. -/
  queue : List Nat
  /-- The piece driven last in this turn. -/
  last? : Option Nat
  /-- How often a piece has been driven since this turn began or a piece ended in it. -/
  spell : Nat
  /-- How many pieces have entered and not ended. -/
  underWay : Nat
deriving DecidableEq, Inhabited

/-- A choice among the pieces that can go on, by the position in the queue, or the end of the turn.
The position is taken modulo the length of the queue, and the first choice of a turn is always a
piece, so any function will do. -/
abbrev Policy := View → Option Nat

/-- In rounds: the first piece after the last one driven, in the order of the pool. -/
def Policy.rounds : Policy := fun v =>
  let next := match v.last? with
    | some i => v.queue.filter (i < ·)
    | none => v.queue
  next.min?.map fun i => v.queue.idxOf i

/-- In a queue: the piece that has stood in it longest, as long as no more pieces have been driven
in vain than are under way. -/
def Policy.queue : Policy := fun v => if v.spell < v.underWay then some 0 else none

/-! ### Who can go on -/

/-- What the pieces wait for. -/
def waits (p : Pool σ ε α) : List Wait := p.pieces.filterMap (·.wait?)

/-- The pieces whose wait is over and which have yet to be put into the queue, in the order in which
they stopped. -/
def woken (p : Pool σ ε α) : List Nat :=
  let found := p.pieces.zipIdx.filterMap fun (s, i) =>
    if s.wait?.any (·.isOver p.world.moment) && !p.queue.contains i && !p.late.contains i then
      s.stopped?.map (·, i)
    else none
  (found.mergeSort fun a b => a.1 ≤ b.1).map (·.2)

/-- What a policy sees of the pool. -/
def view (p : Pool σ ε α) : View where
  queue := p.queue
  last? := p.last?
  spell := p.spell
  underWay := (p.pieces.take p.entered).countP (!·.isClosed)

/-- The pool when the turn has ended. The pieces that gave way can go on again, after those that
cancellation has woken. -/
def turn (p : Pool σ ε α) : Pool σ ε α :=
  let p := { p with world := p.world.turn, spell := 0, last? := none }
  { p with queue := p.queue ++ p.woken ++ p.late, late := [] }

/-- The pool in its next turn, in which somebody can go on: the clock moves if nobody can now. -/
def nextTurn (p : Pool σ ε α) : Option (Pool σ ε α) :=
  let p := p.turn
  if p.queue.isEmpty then
    (p.world.skip p.waits).map fun world =>
      let p := { p with world := world }
      { p with queue := p.woken }
  else some p

/-! ### Going on -/

/-- The piece that is chosen to go on in this turn. -/
def pick? (policy : Policy) (p : Pool σ ε α) : Option Nat :=
  (policy p.view).bind fun k => p.queue[k % p.queue.length]?

/-- The piece that is chosen to go on first in a turn. -/
def first? (policy : Policy) (p : Pool σ ε α) : Option Nat :=
  p.queue[(policy p.view).getD 0 % p.queue.length]?

/-- The pool when cancellation has come: whoever waits for it can go on. -/
def awaken (p : Pool σ ε α) : Pool σ ε α := { p with queue := p.queue ++ p.woken }

/-- The pool when a piece has ended: the next one enters. -/
def welcome (p : Pool σ ε α) : Pool σ ε α :=
  let p := { p with spell := 0 }
  if p.entered < p.pieces.length then
    { p with queue := p.queue ++ [p.entered], entered := p.entered + 1 }
  else p

/-- The pool when a piece that has left the queue has been driven. -/
def settle (p : Pool σ ε α) (i : Nat) (world : World σ ε) (rest : Work σ ε α) : Pool σ ε α :=
  let piece : Piece σ ε α := ⟨rest, some p.drives⟩
  let q := { p with
    world := world
    pieces := p.pieces.set i piece
    drives := p.drives + 1
    late := if rest.givesWay world then i :: p.late else p.late }
  let q := if world.cancelled && !p.world.cancelled then q.awaken else q
  if piece.isClosed then q.welcome else q

/-- Take a piece from the queue and drive it up to its next unmet wait. A piece that has given way
before its wait was over is driven in vain, and waits on from there. -/
def drive (p : Pool σ ε α) (i : Nat) : Except Fault (Pool σ ε α) :=
  let p := { p with queue := p.queue.erase i, last? := some i, spell := p.spell + 1 }
  match p.pieces[i]? with
  | none => .error .stalled
  | some s =>
    if s.wait?.any p.world.isSpent then .ok { p with late := i :: p.late }
    else if s.isOpen then
      match s.resume.drive p.world with
      | (_, .fault cause) => .error cause
      | (world, rest) => .ok (p.settle i world rest)
    else .error .stalled

/-- Drive the piece that is chosen, in the next turn if this one has ended. -/
def step (policy : Policy) (p : Pool σ ε α) : Except Fault (Pool σ ε α) :=
  match p.pick? policy with
  | some i => p.drive i
  | none =>
    match p.nextTurn with
    | none => .error .stalled
    | some p =>
      match p.first? policy with
      | none => .error .stalled
      | some i => p.drive i

/-! ### Every step leads on -/

/-- Whether a piece of the pool would be driven in vain. -/
def isVain (p : Pool σ ε α) (i : Nat) : Bool := p.pieces[i]?.any fun s => !s.isReady p.world.moment

/-- How many drives there may be before one that leaves less of a piece: those in vain, and, while
everybody has to give way, one for each piece of the queue and one for the end of the turn. -/
def idleDrives (p : Pool σ ε α) : Nat :=
  (p.queue ++ p.late).countP p.isVain + if p.world.allowance = 0 then p.queue.length + 1 else 0

/-- What is left to do in a pool counts by its pieces, and then by the drives that do nothing. -/
def Below : Pool σ ε α → Pool σ ε α → Prop :=
  InvImage (Prod.Lex Piece.SomeLess (· < ·)) fun p => (p.pieces.map Piece.left, p.idleDrives)

theorem wellFounded_below : WellFounded (Below : Pool σ ε α → Pool σ ε α → Prop) :=
  InvImage.wf _ (Prod.lex ⟨_, Piece.wellFounded_someLess⟩ ⟨_, Nat.lt_wfRel.wf⟩).wf

theorem Below.of_less {p q : Pool σ ε α}
    (h : Piece.SomeLess (q.pieces.map Piece.left) (p.pieces.map Piece.left)) : Below q p :=
  .left _ _ h

theorem Below.of_idle {p q : Pool σ ε α} (hs : q.pieces.map Piece.left = p.pieces.map Piece.left)
    (h : q.idleDrives < p.idleDrives) : Below q p := by
  show Prod.Lex _ _ (q.pieces.map Piece.left, _) _
  rw [hs]
  exact .right _ h

theorem welcome_pieces (p : Pool σ ε α) : p.welcome.pieces = p.pieces := by
  simp only [welcome]
  split <;> rfl

@[simp]
theorem settle_pieces (p : Pool σ ε α) (i : Nat) (world : World σ ε) (rest : Work σ ε α) :
    (p.settle i world rest).pieces = p.pieces.set i ⟨rest, some p.drives⟩ := by
  simp only [settle]
  split
  · rw [welcome_pieces]
    split <;> rfl
  · split <;> rfl

/-- Settling a piece that was driven in vain puts nothing but a later number on it. -/
theorem settle_of_wait {p : Pool σ ε α} {i : Nat} {w : Wait} {next : Moment → Work σ ε α}
    (hw : p.world.isSpent w = false) :
    p.settle i p.world (.await w next) =
      { p with pieces := p.pieces.set i ⟨.await w next, some p.drives⟩, drives := p.drives + 1 } := by
  simp [settle, Work.givesWay, hw, Piece.isClosed, Piece.result?]

/-- Driving a piece leaves less of it, or it has to give way, or it is driven in vain. -/
theorem drive_cases {p q : Pool σ ε α} {i : Nat} (h : p.drive i = .ok q) :
    Piece.SomeLess (q.pieces.map Piece.left) (p.pieces.map Piece.left) ∨
      (p.world.allowance = 0 ∧ q.world = p.world ∧ q.pieces = p.pieces ∧
        q.queue = p.queue.erase i ∧ q.late = i :: p.late) ∨
      (p.isVain i = true ∧ q.world = p.world ∧ q.queue = p.queue.erase i ∧ q.late = p.late ∧
        q.pieces.map Piece.left = p.pieces.map Piece.left ∧ q.isVain = p.isVain) := by
  simp only [drive] at h
  split at h
  · exact nomatch h
  · rename_i s hs
    split at h
    · rename_i hw
      cases h
      obtain ⟨w, _, hw⟩ := (Option.any_eq_true _ _).1 hw
      simp only [World.isSpent, Bool.and_eq_true, decide_eq_true_eq] at hw
      exact .inr (.inl ⟨hw.2, rfl, rfl, rfl, rfl⟩)
    · rename_i hw
      split at h
      · rename_i ho
        split at h
        · exact nomatch h
        · rename_i world rest _ he
          cases h
          cases hr : s.isReady p.world.moment with
          | true =>
            refine .inl ?_
            rw [settle_pieces]
            have := Piece.less_of_drive hr (Bool.eq_false_iff.2 hw) p.drives
            rw [he] at this
            exact Piece.someLess_set hs this
          | false =>
            obtain ⟨hstop, hwait, hd⟩ := Piece.drive_of_not_isReady ho hr
            rw [he] at hd
            obtain ⟨rest, stopped?⟩ := s
            cases hd
            obtain ⟨w, next, rfl⟩ : ∃ w next, rest = .await w next := by
              simp only [Piece.wait?] at hwait
              split at hwait <;> simp_all
            obtain ⟨u, rfl⟩ := Option.isSome_iff_exists.1 hstop
            rw [settle_of_wait (by simpa [Piece.wait?] using hw)]
            refine .inr (.inr ⟨?_, rfl, rfl, rfl, Piece.map_left_set hs rfl, ?_⟩)
            · simp [isVain, hs, hr]
            · funext j
              simp only [isVain, List.getElem?_set]
              by_cases hj : i = j
              · subst hj
                obtain ⟨hi, hget⟩ := List.getElem?_eq_some_iff.1 hs
                simp [hi, hget, Piece.isReady]
              · simp [hj]
      · exact nomatch h

theorem turn_pieces (p : Pool σ ε α) : p.turn.pieces = p.pieces := rfl

theorem nextTurn_pieces {p q : Pool σ ε α} (h : p.nextTurn = some q) : q.pieces = p.pieces := by
  simp only [nextTurn] at h
  split at h
  · obtain ⟨_, _, rfl⟩ := Option.map_eq_some_iff.1 h
    rfl
  · cases h
    rfl

theorem nextTurn_allowance {p q : Pool σ ε α} (h : p.nextTurn = some q) :
    q.world.allowance = World.fullAllowance := by
  simp only [nextTurn] at h
  split at h
  · obtain ⟨_, hw, rfl⟩ := Option.map_eq_some_iff.1 h
    exact World.skip_allowance hw
  · cases h
    rfl

/-- What has been woken will not be driven in vain. -/
theorem isVain_of_mem_woken {p : Pool σ ε α} {i : Nat} (h : i ∈ p.woken) : p.isVain i = false := by
  simp only [woken, List.mem_map, List.mem_mergeSort, List.mem_filterMap] at h
  obtain ⟨⟨t, j⟩, ⟨⟨s, k⟩, hk, hj⟩, rfl⟩ := h
  split at hj
  · rename_i hw
    obtain ⟨u, hu, hui⟩ := Option.map_eq_some_iff.1 hj
    cases hui
    have hs : p.pieces[k]? = some s := by simpa using List.mem_zipIdx_iff_getElem?.1 hk
    simp only [Bool.and_eq_true] at hw
    obtain ⟨w, hwait, hover⟩ := (Option.any_eq_true _ _).1 hw.1.1
    obtain ⟨rest, stopped?⟩ := s
    cases hu
    cases rest <;> simp_all [isVain, Piece.wait?, Piece.isReady]
  · simp at hj

/-- Nobody who could go on before the turn has ended is kept from it afterwards. -/
theorem isVain_of_turn {p : Pool σ ε α} {i : Nat} (h : p.turn.isVain i = true) :
    p.isVain i = true := by
  simp only [isVain, Option.any_eq_true, turn_pieces] at h ⊢
  obtain ⟨s, hs, hr⟩ := h
  refine ⟨s, hs, ?_⟩
  obtain ⟨rest, stopped?⟩ := s
  cases stopped? with
  | none => exact hr
  | some u =>
    cases rest with
    | await w next =>
      simp only [Piece.isReady, Wait.isOver, turn, World.turn, World.moment] at hr ⊢
      revert hr
      cases Wait.isDue w.due? p.world.now <;> cases w.orCancelled <;> cases p.world.cancelled <;> simp
    | _ => exact hr

/-- The end of a turn adds nobody who would be driven in vain. -/
theorem countP_isVain_nextTurn {p q : Pool σ ε α} (h : p.nextTurn = some q) :
    (q.queue ++ q.late).countP q.isVain ≤ (p.queue ++ p.late).countP p.isVain := by
  have woken_none (r : Pool σ ε α) : r.woken.countP r.isVain = 0 :=
    List.countP_eq_zero.2 fun i hi => by simp [isVain_of_mem_woken hi]
  simp only [nextTurn] at h
  split at h
  · obtain ⟨world, _, rfl⟩ := Option.map_eq_some_iff.1 h
    show (woken { p.turn with world := world } ++ []).countP (isVain { p.turn with world := world }) ≤ _
    rw [List.append_nil, woken_none]
    exact Nat.zero_le _
  · cases h
    have hw : p.turn.late = [] := rfl
    have hq : p.turn.queue = p.queue ++
      woken { p with world := p.world.turn, spell := 0, last? := none } ++ p.late := rfl
    have := woken_none { p with world := p.world.turn, spell := 0, last? := none }
    rw [hw, hq, List.append_nil, List.countP_append, List.countP_append, List.countP_append]
    have hle (l : List Nat) : l.countP p.turn.isVain ≤ l.countP p.isVain :=
      List.countP_mono_left fun i _ => isVain_of_turn
    have h1 := hle p.queue
    have h2 := hle p.late
    have h3 : (woken { p with world := p.world.turn, spell := 0, last? := none }).countP
        p.turn.isVain = 0 := this
    omega

/-- A drive in vain takes one from those that would be. -/
theorem countP_erase_add_one {p : Pool σ ε α} {i : Nat} (hi : i ∈ p.queue)
    (hv : p.isVain i = true) :
    (p.queue.erase i ++ p.late).countP p.isVain + 1 = (p.queue ++ p.late).countP p.isVain := by
  have := (List.perm_cons_erase hi).countP_eq p.isVain
  rw [List.countP_cons, if_pos hv] at this
  simp only [List.countP_append]
  omega

/-- Every step leaves less of some piece, or as much of all pieces and fewer drives that do
nothing. -/
theorem step_below {policy : Policy} {p q : Pool σ ε α} (h : p.step policy = .ok q) :
    Below q p := by
  simp only [step] at h
  split at h
  · rename_i i hp
    obtain ⟨k, _, hk⟩ := Option.bind_eq_some_iff.1 hp
    have hi : i ∈ p.queue := List.mem_of_getElem? hk
    rcases drive_cases h with hb | ⟨ha, hw, hs, hq, hl⟩ | ⟨hv, hw, hq, hl, hs, hqv⟩
    · exact .of_less hb
    · refine .of_idle (by rw [hs]) ?_
      have hpos : 0 < p.queue.length := List.length_pos_of_mem hi
      have hlen := List.length_erase_of_mem hi
      have hvain : q.isVain = p.isVain := by funext j; simp only [isVain, hs, hw]
      have hperm : (p.queue.erase i ++ i :: p.late).Perm (p.queue ++ p.late) :=
        List.perm_middle.trans ((List.perm_cons_erase hi).symm.append_right p.late)
      simp only [idleDrives, hvain, hw, hq, hl, ha, hlen, hperm.countP_eq, if_true]
      omega
    · refine .of_idle hs ?_
      have := countP_erase_add_one hi hv
      have hlen := List.length_erase_of_mem hi
      simp only [idleDrives, hqv, hw, hq, hl]
      split <;> omega
  · split at h
    · exact nomatch h
    · rename_i r hn
      split at h
      · exact nomatch h
      · rename_i i hf
        have hi : i ∈ r.queue := List.mem_of_getElem? hf
        have ha := nextTurn_allowance hn
        rcases drive_cases h with hb | ⟨hz, _⟩ | ⟨hv, hw, hq, hl, hs, hqv⟩
        · exact .of_less (nextTurn_pieces hn ▸ hb)
        · simp [ha, World.fullAllowance] at hz
        · refine .of_idle (nextTurn_pieces hn ▸ hs) ?_
          have h1 := countP_erase_add_one hi hv
          have h2 := countP_isVain_nextTurn hn
          have hfull : ¬ World.fullAllowance = 0 := by decide
          simp only [idleDrives, hqv, hw, hq, hl, ha, if_neg hfull]
          omega

/-- The results, in the order of the pool, if all work has been done. -/
def results? (p : Pool σ ε α) : Option (List (Nat × α)) := p.pieces.mapM Piece.result?

/-- The values of results, in the order in which the work ended. -/
def asEnded (results : List (Nat × α)) : List α :=
  (results.mergeSort fun a b => a.1 ≤ b.1).map (·.2)

/-- A pool ends as its pieces do. -/
instance : WellFoundedRelation (Pool σ ε α) where
  rel := Below
  wf := wellFounded_below

/-- Go on until all work has been done. -/
def run (policy : Policy) (p : Pool σ ε α) : Except Fault (World σ ε × List (Nat × α)) :=
  match p.results? with
  | some results => .ok (p.world, results)
  | none =>
    match _h : p.step policy with
    | .ok q => run policy q
    | .error cause => .error cause
termination_by p
decreasing_by exact step_below _h

end Pool

end PortGraph
