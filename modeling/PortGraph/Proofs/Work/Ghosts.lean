import PortGraph.Proofs.Work.Driving
import PortGraph.Proofs.Work.Pool

/-!
# State that does not show

Work on a state of which only a part shows. Whatever is changed besides that part is kept for those
who reason about the work, and has no influence on it: the work that shows sees the same, tells the
same and ends the same, alone or in a pool.

## Main definitions

* `World.seen`: the world of which a part of the state shows
* `Work.Shows`: the work that shows
* `Pool.seen`: the pool that shows
* `EndAlike`: two runs fault alike, or both end

## Main results

* `Work.Shows.bind`, `Work.Shows.mapNews`, `Work.Shows.within`: composition
* `Work.Shows.drive`, `Work.Shows.run`: work goes as what shows of it does
* `Pool.run_seen`: a pool runs as the one that shows does
-/

namespace PortGraph

variable {ρ σ τ ε δ α β : Type} {get : τ → σ}

/-! ### Worlds -/

namespace World

/-- The world of which a part of the state shows. -/
def seen (get : τ → σ) (w : World τ ε) : World σ ε := w.withState (get w.state)

theorem seen_pass (w : World τ ε) (wait : Wait) : (w.seen get).pass wait = (w.pass wait).seen get := by
  rw [seen, pass_withState, seen, state_pass]

theorem seen_skip (w : World τ ε) (waits : List Wait) :
    (w.seen get).skip waits = (w.skip waits).map (·.seen get) := by
  have hadvance (v : World τ ε) (t? : Option Nat) :
      t?.map (v.seen get).advance = (t?.map v.advance).map (·.seen get) := by
    cases t? <;> rfl
  have hcancel : (w.seen get).cancelAt? = w.cancelAt? := rfl
  simp only [skip, hcancel]
  cases w.cancelAt?.filter fun t => (firstDue? waits).all (t < ·) with
  | none => exact hadvance { w with allowance := fullAllowance } _
  | some t =>
    let v : World τ ε := { ({ w with allowance := fullAllowance } : World τ ε).advance t with
      cancelled := true
      cancelAt? := none }
    show (if waits.any (·.isOver v.moment) then some (v.seen get)
        else (firstDue? waits).map (v.seen get).advance) =
      (if waits.any (·.isOver v.moment) then some v
        else (firstDue? waits).map v.advance).map (·.seen get)
    split
    · rfl
    · exact hadvance v _

end World

/-! ### Work -/

namespace Work

/-- What shows of `w` is `v`: work on the part of the state that shows, without the changes that do
not, and without looking at the clock for their sake. -/
inductive Shows (get : τ → σ) : Work τ ε α → Work σ ε α → Prop
  | done (a : α) : Shows get (.done a) (.done a)
  | fault (cause : Fault) : Shows get (.fault cause) (.fault cause)
  | observe {next next'} (h : ∀ m, Shows get (next m) (next' m)) :
    Shows get (.observe next) (.observe next')
  | tell {news next next'} (h : Shows get next next') :
    Shows get (.tell news next) (.tell news next')
  | cancel {next next'} (h : Shows get next next') : Shows get (.cancel next) (.cancel next')
  | consult {change change' next next'} (hchange : ∀ t, get (change t) = change' (get t))
    (h : ∀ t, Shows get (next t) (next' (get t))) :
    Shows get (.consult change next) (.consult change' next')
  /-- A change that does not show. -/
  | hidden {change next v} (hchange : ∀ t, get (change t) = get t) (h : ∀ t, Shows get (next t) v) :
    Shows get (.consult change next) v
  /-- A look at the clock that makes no difference to what shows. -/
  | glance {next v} (h : ∀ m, Shows get (next m) v) : Shows get (.observe next) v
  | await {wait next next'} (h : ∀ m, Shows get (next m) (next' m)) :
    Shows get (.await wait next) (.await wait next')
  | yield {next next'} (h : Shows get next next') : Shows get (.yield next) (.yield next')

namespace Shows

variable {w : Work τ ε α} {v : Work σ ε α}

theorem bind (h : w.Shows get v) {f : α → Work τ ε β} {g : α → Work σ ε β}
    (hf : ∀ a, (f a).Shows get (g a)) : (w.bind f).Shows get (v.bind g) := by
  induction h with
  | done a => exact hf a
  | fault cause => exact .fault cause
  | observe _ ih => exact .observe ih
  | tell _ ih => exact .tell ih
  | cancel _ ih => exact .cancel ih
  | consult hchange _ ih => exact .consult hchange ih
  | hidden hchange _ ih => exact .hidden hchange ih
  | glance _ ih => exact .glance ih
  | await _ ih => exact .await ih
  | yield _ ih => exact .yield ih

theorem mapNews (h : w.Shows get v) (f : ε → δ) : (w.mapNews f).Shows get (v.mapNews f) := by
  induction h with
  | done a => exact .done a
  | fault cause => exact .fault cause
  | observe _ ih => exact .observe ih
  | tell _ ih => exact .tell ih
  | cancel _ ih => exact .cancel ih
  | consult hchange _ ih => exact .consult hchange ih
  | hidden hchange _ ih => exact .hidden hchange ih
  | glance _ ih => exact .glance ih
  | await _ ih => exact .await ih
  | yield _ ih => exact .yield ih

/-- Work on a part of a state of which a part shows. -/
theorem within (h : w.Shows get v) {ρ' : Type} {Get : ρ' → ρ} {get' : ρ' → τ}
    {set' : τ → ρ' → ρ'} {get₀ : ρ → σ} {set₀ : σ → ρ → ρ}
    (hget : ∀ x, get (get' x) = get₀ (Get x))
    (hset : ∀ t x, Get (set' t x) = set₀ (get t) (Get x)) (hself : ∀ x, set₀ (get₀ x) x = x) :
    (w.within get' set').Shows Get (v.within get₀ set₀) := by
  induction h with
  | done a => exact .done a
  | fault cause => exact .fault cause
  | observe _ ih => exact .observe ih
  | tell _ ih => exact .tell ih
  | cancel _ ih => exact .cancel ih
  | consult hchange _ ih =>
    refine .consult (fun x => ?_) fun x => hget x ▸ ih (get' x)
    rw [hset, hchange, hget]
  | hidden hchange _ ih =>
    refine .hidden (fun x => ?_) fun x => ih (get' x)
    rw [hset, hchange, hget, hself]
  | glance _ ih => exact .glance ih
  | await _ ih => exact .await ih
  | yield _ ih => exact .yield ih

/-- Work on the part that shows. -/
theorem of_within {set : σ → τ → τ} (hset : ∀ s t, get (set s t) = s) (w : Work σ ε α) :
    (w.within get set).Shows get w := by
  induction w with
  | done a => exact .done a
  | fault cause => exact .fault cause
  | observe next ih => exact .observe ih
  | tell news next ih => exact .tell ih
  | cancel next ih => exact .cancel ih
  | consult change next ih => exact .consult (fun t => hset _ t) fun t => ih (get t)
  | await w next ih => exact .await ih
  | yield next ih => exact .yield ih

/-- Work that is given up at a deadline, and what shows of it. -/
theorem before (h : w.Shows get v) (deadline : Nat) :
    (w.before deadline).Shows get (v.before deadline) := by
  induction h with
  | done a => exact .done (some a)
  | fault cause => exact .fault cause
  | observe _ ih => exact .observe ih
  | tell _ ih => exact .tell ih
  | cancel _ ih => exact .cancel ih
  | consult hchange _ ih => exact .consult hchange ih
  | hidden hchange _ ih => exact .hidden hchange ih
  | glance _ ih => exact .glance ih
  | await _ ih =>
    refine .await fun m => ?_
    split
    · exact ih m
    · exact .done none
  | yield _ ih =>
    refine .observe fun m => ?_
    split
    · exact .done none
    · exact .yield ih

/-- **Work that is done on its own goes as what shows of it does.** -/
theorem run (h : w.Shows get v) (world : World τ ε) :
    v.run (world.seen get) = (w.run world).map fun x => (x.1.seen get, x.2) := by
  induction h generalizing world with
  | done | fault => rfl
  | observe _ ih => exact ih world.moment world
  | @tell news _ _ _ ih => exact ih (world.tell news)
  | cancel _ ih => exact ih { world with cancelled := true }
  | @consult change _ _ _ hchange _ ih =>
    have := ih world.state { world with state := change world.state }
    rw [World.seen, World.withState, hchange] at this
    exact this
  | @hidden change _ _ hchange _ ih =>
    have := ih world.state { world with state := change world.state }
    rw [World.seen, World.withState, hchange] at this
    exact this
  | glance _ ih => exact ih world.moment world
  | @await wait next next' hnext ih =>
    have hbegun : (if (world.seen get).isSpent wait = true then (world.seen get).turn
        else world.seen get) = (if world.isSpent wait = true then world.turn else world).seen get := by
      by_cases hspent : world.isSpent wait = true
      · rw [if_pos hspent, if_pos (show (world.seen get).isSpent wait = true from hspent)]
        rfl
      · rw [if_neg hspent, if_neg (show ¬ (world.seen get).isSpent wait = true from hspent)]
    simp only [Work.run, hbegun]
    generalize (if world.isSpent wait = true then world.turn else world) = begun
    by_cases hover : wait.isOver begun.moment = true
    · rw [if_pos hover, if_pos (show wait.isOver (begun.seen get).moment = true from hover),
        World.seen_pass]
      exact ih begun.moment (begun.pass wait)
    · rw [if_neg hover, if_neg (show ¬ wait.isOver (begun.seen get).moment = true from hover),
        World.seen_skip]
      cases begun.skip [wait] with
      | none => rfl
      | some there =>
        simp only [Option.map_some, World.seen_pass]
        exact ih there.moment (there.pass wait)
  | yield _ ih => exact ih world.turn

/-- What shows of work comes to its end as the work does. -/
theorem exists_of_run (h : w.Shows get v) (world : World τ ε) {after : World σ ε} {a : α}
    (hrun : v.run (world.seen get) = .ok (after, a)) :
    ∃ there, w.run world = .ok (there, a) ∧ after = there.seen get := by
  rw [h.run] at hrun
  cases hw : w.run world with
  | error cause =>
    rw [hw] at hrun
    cases hrun
  | ok result =>
    rw [hw] at hrun
    cases hrun
    exact ⟨result.1, rfl, rfl⟩

/-- **Driving work drives what shows of it.** -/
theorem drive (h : w.Shows get v) (world : World τ ε) :
    (v.drive (world.seen get)).1 = (w.drive world).1.seen get ∧
      (w.drive world).2.Shows get (v.drive (world.seen get)).2 := by
  induction h generalizing world with
  | done a => exact ⟨rfl, .done a⟩
  | fault cause => exact ⟨rfl, .fault cause⟩
  | observe _ ih => exact ih world.moment world
  | @tell news _ _ _ ih => exact ih (world.tell news)
  | cancel _ ih => exact ih { world with cancelled := true }
  | @consult change _ _ _ hchange _ ih =>
    have := ih world.state { world with state := change world.state }
    rw [World.seen, World.withState, hchange] at this
    exact this
  | @hidden change _ _ hchange _ ih =>
    have := ih world.state { world with state := change world.state }
    rw [World.seen, World.withState, hchange] at this
    exact this
  | glance _ ih => exact ih world.moment world
  | @await wait next next' hnext ih =>
    rw [Work.drive, Work.drive]
    by_cases hover : (wait.isOver world.moment && !world.isSpent wait) = true
    · have hseen : (wait.isOver (world.seen get).moment && !(world.seen get).isSpent wait) = true :=
        hover
      rw [if_pos hover, if_pos hseen, World.seen_pass]
      exact ih world.moment (world.pass wait)
    · have hseen : ¬ (wait.isOver (world.seen get).moment && !(world.seen get).isSpent wait) = true :=
        hover
      rw [if_neg hover, if_neg hseen]
      exact ⟨rfl, .await hnext⟩
  | yield hnext => exact ⟨rfl, .yield hnext⟩

end Shows

/-- To tell something takes no state. -/
theorem shows_sayAll (get : τ → σ) (news : List ε) : (sayAll news).Shows get (sayAll news) := by
  induction news with
  | nil => exact .done ()
  | cons e rest ih => exact .tell ih

end Work

/-! ### Pieces -/

namespace Piece

/-- What shows of a piece stands where the piece does. -/
structure Shows (get : τ → σ) (s : Piece τ ε α) (q : Piece σ ε α) : Prop where
  stopped : q.stopped? = s.stopped?
  rest : s.rest.Shows get q.rest
  isStopped : s.stopped?.isSome → s.rest.IsStopped

variable {s : Piece τ ε α} {q : Piece σ ε α}

/-- Where a piece stands, and what it goes on with. -/
theorem Shows.front (h : s.Shows get q) :
    q.wait? = s.wait? ∧ q.result? = s.result? ∧ q.isOpen = s.isOpen ∧
      s.resume.Shows get q.resume := by
  obtain ⟨rest, stopped?⟩ := s
  obtain ⟨rest', stopped?'⟩ := q
  obtain ⟨hstopped, hrest, hisStopped⟩ := h
  cases hstopped
  cases stopped? with
  | none => exact ⟨rfl, rfl, rfl, hrest⟩
  | some t =>
    have hstop := hisStopped rfl
    cases hrest with
    | done a => exact ⟨rfl, rfl, rfl, .done a⟩
    | await h => exact ⟨rfl, rfl, rfl, .await h⟩
    | yield h => exact ⟨rfl, rfl, rfl, h⟩
    | _ => exact hstop.elim

end Piece

/-! ### Lists of pieces -/

section

variable {γ : Type} {R : α → β → Prop} {l : List α} {m : List β}

theorem filterMap_zipIdx_congr (h : List.Forall₂ R l m) {f : α × Nat → Option γ}
    {g : β × Nat → Option γ} (hfg : ∀ a b, R a b → ∀ i, g (b, i) = f (a, i)) (n : Nat) :
    (m.zipIdx n).filterMap g = (l.zipIdx n).filterMap f := by
  induction h generalizing n with
  | nil => rfl
  | cons hab _ ih =>
    rw [List.zipIdx_cons, List.zipIdx_cons, List.filterMap_cons, List.filterMap_cons, hfg _ _ hab,
      ih (n + 1)]

theorem forall₂_set (h : List.Forall₂ R l m) (i : Nat) {a : α} {b : β} (hab : R a b) :
    List.Forall₂ R (l.set i a) (m.set i b) := by
  induction h generalizing i with
  | nil => exact .nil
  | cons hcd hrest ih =>
    cases i with
    | zero => exact .cons hab hrest
    | succ i => exact .cons hcd (ih i)

theorem exists_getElem?_of_forall₂ (h : List.Forall₂ R l m) {i : Nat} {a : α} (ha : l[i]? = some a) :
    ∃ b, m[i]? = some b ∧ R a b := by
  induction h generalizing i with
  | nil => simp at ha
  | cons hcd _ ih =>
    cases i with
    | zero =>
      cases ha
      exact ⟨_, rfl, hcd⟩
    | succ i => exact ih ha

/-- What is computed member by member from two lists whose members are related. -/
theorem map_congr_of_forall₂ (h : List.Forall₂ R l m) {f : α → γ} {g : β → γ}
    (hfg : ∀ a b, R a b → g b = f a) : m.map g = l.map f := by
  induction h with
  | nil => rfl
  | cons hab _ ih => rw [List.map_cons, List.map_cons, hfg _ _ hab, ih]

end

/-! ### Pools -/

namespace Pool

/-- The pool that shows, with these pieces. -/
def seen (get : τ → σ) (p : Pool τ ε α) (pieces : List (Piece σ ε α)) : Pool σ ε α where
  world := p.world.seen get
  pieces := pieces
  entered := p.entered
  queue := p.queue
  late := p.late
  drives := p.drives
  spell := p.spell
  last? := p.last?

variable {p : Pool τ ε α} {qs : List (Piece σ ε α)}

theorem woken_seen (h : List.Forall₂ (Piece.Shows get) p.pieces qs) :
    (p.seen get qs).woken = p.woken := by
  rw [woken, woken]
  refine congrArg (fun l => (List.mergeSort l _).map _) (filterMap_zipIdx_congr h ?_ 0)
  intro s q hs i
  simp only [hs.front.1, hs.stopped]
  rfl

theorem waits_seen (h : List.Forall₂ (Piece.Shows get) p.pieces qs) :
    (p.seen get qs).waits = p.waits := by
  have hmap := map_congr_of_forall₂ h (f := Piece.wait?) (g := Piece.wait?)
    fun s q hs => hs.front.1
  have hwaits {σ' : Type} (r : Pool σ' ε α) : r.waits = (r.pieces.map Piece.wait?).filterMap id := by
    rw [List.filterMap_map]
    rfl
  rw [hwaits, hwaits]
  exact congrArg _ hmap

theorem results?_seen (h : List.Forall₂ (Piece.Shows get) p.pieces qs) :
    (p.seen get qs).results? = p.results? := by
  have hmap := map_congr_of_forall₂ h (f := Piece.result?) (g := Piece.result?)
    fun s q hs => hs.front.2.1
  have hresults (rs : List (Nat × α)) :
      (p.seen get qs).results? = some rs ↔ p.results? = some rs := by
    rw [results?, results?, mapM_eq_some_iff, mapM_eq_some_iff]
    exact hmap ▸ Iff.rfl
  exact Option.ext fun rs => hresults rs

theorem view_seen (h : List.Forall₂ (Piece.Shows get) p.pieces qs) :
    (p.seen get qs).view = p.view := by
  have hmap := map_congr_of_forall₂ h (f := Piece.isClosed) (g := Piece.isClosed)
    fun s q hs => by rw [Piece.isClosed, Piece.isClosed, hs.front.2.1]
  have hview {σ' : Type} (r : Pool σ' ε α) : r.view = ⟨r.queue, r.last?, r.spell,
      ((r.pieces.map Piece.isClosed).take r.entered).countP (!·)⟩ := by
    rw [view, ← List.map_take, List.countP_map]
    rfl
  rw [hview, hview]
  exact congrArg (fun l => View.mk p.queue p.last? p.spell ((l.take p.entered).countP (!·))) hmap

theorem turn_seen (h : List.Forall₂ (Piece.Shows get) p.pieces qs) :
    (p.seen get qs).turn = p.turn.seen get qs := by
  have hwoken := woken_seen (p := { p with world := p.world.turn, spell := 0, last? := none }) h
  rw [turn, turn]
  exact congrArg (fun l => seen get { p with
    world := p.world.turn
    spell := 0
    last? := none
    queue := p.queue ++ l ++ p.late
    late := [] } qs) hwoken

theorem nextTurn_seen (h : List.Forall₂ (Piece.Shows get) p.pieces qs) :
    (p.seen get qs).nextTurn = p.nextTurn.map (·.seen get qs) := by
  have hturn : List.Forall₂ (Piece.Shows get) p.turn.pieces qs := h
  simp only [nextTurn]
  rw [turn_seen h, waits_seen hturn]
  have hqueue : (p.turn.seen get qs).queue = p.turn.queue := rfl
  have hworld : (p.turn.seen get qs).world = p.turn.world.seen get := rfl
  rw [hqueue, hworld, World.seen_skip]
  split
  · cases p.turn.world.skip p.turn.waits with
    | none => rfl
    | some world =>
      have hwoken := woken_seen (p := { p.turn with world := world }) h
      exact congrArg (fun l => some (seen get { p.turn with world := world, queue := l } qs)) hwoken
  · rfl

theorem awaken_seen (h : List.Forall₂ (Piece.Shows get) p.pieces qs) :
    (p.seen get qs).awaken = p.awaken.seen get qs := by
  rw [awaken, woken_seen h]
  rfl

theorem welcome_seen (h : List.Forall₂ (Piece.Shows get) p.pieces qs) :
    (p.seen get qs).welcome = p.welcome.seen get qs := by
  have hlength : (p.seen get qs).pieces.length = p.pieces.length := h.length_eq.symm
  simp only [welcome, hlength]
  have hentered : (p.seen get qs).entered = p.entered := rfl
  rw [hentered]
  split <;> rfl

theorem after_seen (i : Nat) (world : World τ ε) {rest : Work τ ε α} {rest' : Work σ ε α}
    (hway : rest'.givesWay (world.seen get) = rest.givesWay world) :
    (p.seen get qs).after i (world.seen get) rest' =
      (p.after i world rest).seen get (qs.set i ⟨rest', some p.drives⟩) := by
  rw [after, hway]
  rfl

/-- Settling a piece settles what shows of it. -/
theorem settle_seen (h : List.Forall₂ (Piece.Shows get) p.pieces qs) (i : Nat) (world : World τ ε)
    {rest : Work τ ε α} {rest' : Work σ ε α} (hrest : rest.Shows get rest')
    (hstop : rest.IsStopped) :
    ∃ qs', ((p.seen get qs).taken i).settle i (world.seen get) rest' =
        ((p.taken i).settle i world rest).seen get qs' ∧
      List.Forall₂ (Piece.Shows get) ((p.taken i).settle i world rest).pieces qs' := by
  have hpiece : Piece.Shows get (⟨rest, some p.drives⟩ : Piece τ ε α) ⟨rest', some p.drives⟩ :=
    ⟨rfl, hrest, fun _ => hstop⟩
  have hafter : List.Forall₂ (Piece.Shows get) (p.after i world rest).pieces
      (qs.set i ⟨rest', some p.drives⟩) := forall₂_set h i hpiece
  have hway : rest'.givesWay (world.seen get) = rest.givesWay world := by
    cases hrest with
    | done | await | yield => rfl
    | _ => exact hstop.elim
  have hclosed : Piece.isClosed ⟨rest', some p.drives⟩ = Piece.isClosed ⟨rest, some p.drives⟩ := by
    rw [Piece.isClosed, Piece.isClosed, hpiece.front.2.1]
  have hwoke : (p.seen get qs).woke i (world.seen get) rest' =
      (p.woke i world rest).seen get (qs.set i ⟨rest', some p.drives⟩) := by
    rw [woke, after_seen i world hway, awaken_seen hafter, woke]
    show (if world.cancelled && !p.world.cancelled then _ else _) = _
    split <;> rfl
  have hpieces : List.Forall₂ (Piece.Shows get) (p.woke i world rest).pieces
      (qs.set i ⟨rest', some p.drives⟩) := by
    rw [woke_pieces]
    exact hafter
  have hdrives : (p.seen get qs).drives = p.drives := rfl
  refine ⟨qs.set i ⟨rest', some p.drives⟩, ?_, ?_⟩
  · rw [settle_taken, settle_taken, hdrives, hclosed, hwoke, welcome_seen hpieces]
    split <;> rfl
  · rw [settle_pieces]
    exact hafter

end Pool

/-! ### Runs -/

/-- Two runs fault alike, or both end, with results that are related. -/
inductive EndAlike {γ : Type} (R : α → β → Prop) : Except γ α → Except γ β → Prop
  | error (cause : γ) : EndAlike R (.error cause) (.error cause)
  | ok {a b} (h : R a b) : EndAlike R (.ok a) (.ok b)

namespace Pool

variable {p : Pool τ ε α} {qs : List (Piece σ ε α)}

/-- What shows of a pool is one of these. -/
def Shows (get : τ → σ) (p : Pool τ ε α) (q : Pool σ ε α) : Prop :=
  ∃ qs, q = p.seen get qs ∧ List.Forall₂ (Piece.Shows get) p.pieces qs

/-- Driving a piece drives what shows of it. -/
theorem drive_seen (h : List.Forall₂ (Piece.Shows get) p.pieces qs) (i : Nat) :
    EndAlike (Shows get) (p.drive i) ((p.seen get qs).drive i) := by
  have hpieces : (p.seen get qs).pieces = qs := rfl
  simp only [drive, hpieces]
  cases hs : p.pieces[i]? with
  | none =>
    have hnone : qs[i]? = none := by
      rw [List.getElem?_eq_none_iff] at hs ⊢
      rwa [← h.length_eq]
    rw [hnone]
    exact .error _
  | some s =>
    obtain ⟨q, hq, hsq⟩ := exists_getElem?_of_forall₂ h hs
    obtain ⟨hwait, -, hopen, hresume⟩ := hsq.front
    have hspent : (p.seen get qs).world.isSpent = p.world.isSpent := rfl
    simp only [hq, hwait, hopen, hspent]
    split
    · exact .ok ⟨qs, rfl, h⟩
    · split
      · obtain ⟨hworld, hrest⟩ := hresume.drive p.world
        have hstop := Work.isStopped_drive s.resume p.world
        have hseen : (p.seen get qs).world = p.world.seen get := rfl
        rw [hseen]
        generalize s.resume.drive p.world = there at hworld hrest hstop ⊢
        generalize q.resume.drive (p.world.seen get) = there' at hworld hrest ⊢
        obtain ⟨world, rest⟩ := there
        obtain ⟨_, rest'⟩ := there'
        cases hworld
        cases hrest with
        | fault cause => exact .error cause
        | done a => exact .ok (settle_seen h i world (.done a) trivial)
        | await hnext => exact .ok (settle_seen h i world (.await hnext) trivial)
        | yield hnext => exact .ok (settle_seen h i world (.yield hnext) trivial)
        | _ => exact (hstop fun cause hfault => by cases hfault).elim
      · exact .error _

/-- A step of a pool is one of what shows of it. -/
theorem step_seen (h : List.Forall₂ (Piece.Shows get) p.pieces qs) (policy : Policy) :
    EndAlike (Shows get) (p.step policy) ((p.seen get qs).step policy) := by
  have hpick : (p.seen get qs).pick? policy = p.pick? policy := by
    rw [pick?, view_seen h]
    rfl
  rw [step, step, hpick]
  cases p.pick? policy with
  | some i => exact drive_seen h i
  | none =>
    rw [nextTurn_seen h]
    cases hnext : p.nextTurn with
    | none => exact .error _
    | some r =>
      have hr : List.Forall₂ (Piece.Shows get) r.pieces qs := nextTurn_pieces hnext ▸ h
      have hfirst : (r.seen get qs).first? policy = r.first? policy := by
        rw [first?, view_seen hr]
        rfl
      simp only [Option.map_some, hfirst]
      cases r.first? policy with
      | some i => exact drive_seen hr i
      | none => exact .error _

/-- How a run goes on while there is work left. -/
theorem run_eq_of_step (policy : Policy) (hnone : p.results? = none) :
    (∀ cause, p.step policy = .error cause → p.run policy = .error cause) ∧
      ∀ q, p.step policy = .ok q → p.run policy = q.run policy := by
  refine ⟨fun cause hstep => ?_, fun q hstep => ?_⟩
  · rw [run, hnone]
    dsimp only
    split
    · rename_i hok
      cases hstep.symm.trans hok
    · rename_i herror
      cases hstep.symm.trans herror
      rfl
  · rw [run, hnone]
    dsimp only
    split
    · rename_i hok
      cases hstep.symm.trans hok
      rfl
    · rename_i herror
      cases hstep.symm.trans herror

/-- **A pool runs as the one that shows does.** -/
theorem run_seen (h : List.Forall₂ (Piece.Shows get) p.pieces qs) (policy : Policy) :
    EndAlike (fun x y => y = (x.1.seen get, x.2)) (p.run policy)
      ((p.seen get qs).run policy) := by
  induction p using wellFounded_below.induction generalizing qs with
  | _ p ih =>
    have hresults := results?_seen h
    cases hrs : p.results? with
    | some rs =>
      rw [hrs] at hresults
      rw [run, run, hrs, hresults]
      exact .ok rfl
    | none =>
      rw [hrs] at hresults
      obtain ⟨hfault, hgo⟩ := run_eq_of_step policy hrs
      obtain ⟨hfault', hgo'⟩ := run_eq_of_step policy hresults
      have hsteps := step_seen h policy
      generalize hp : p.step policy = step at hsteps
      generalize hq : (p.seen get qs).step policy = step' at hsteps
      cases hsteps with
      | error cause =>
        rw [hfault cause hp, hfault' cause hq]
        exact .error cause
      | ok hshows =>
        obtain ⟨qs', rfl, h'⟩ := hshows
        rw [hgo _ hp, hgo' _ hq]
        exact ih _ (step_below hp) h'

/-- A pool that has not started shows as one. -/
theorem start_seen (world : World τ ε) (limit : Nat) {works : List (Work τ ε α)}
    {works' : List (Work σ ε α)} (h : List.Forall₂ (Work.Shows get) works works') :
    start (world.seen get) limit works' =
        (start world limit works).seen get (works'.map (⟨·, none⟩)) ∧
      List.Forall₂ (Piece.Shows get) (start world limit works).pieces
        (works'.map (⟨·, none⟩)) := by
  refine ⟨?_, ?_⟩
  · rw [start, ← h.length_eq]
    rfl
  · refine List.forall₂_map_left_iff.mpr (List.forall₂_map_right_iff.mpr (h.imp ?_))
    exact fun w v hwv => ⟨rfl, hwv, fun hnone => absurd hnone Bool.false_ne_true⟩

end Pool

end PortGraph
