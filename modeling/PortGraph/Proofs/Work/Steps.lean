import PortGraph.Proofs.Work.Driving
import PortGraph.Proofs.Work.Pool

/-!
# What steps keep

What a step of a pool leaves as it is, whatever the pieces do: nothing that has been told is lost, a
run that has been cancelled stays so, and what is shared changes in drives only. A pool that can
make a step is not done, so wherever a run is left off, it comes to the same end from there.

A request from outside to cancel a run is pending until its instant. The clock does not go beyond
that instant before the run has been cancelled.

## Main definitions

* `World.Expects`: a request for an instant is pending, or has been granted

## Main results

* `Pool.IsSound.run_of_leads`: a run comes to the same end wherever it is left off
* `Pool.expects_leads`: a request is granted at its instant
-/

namespace PortGraph

variable {σ ε α : Type}

/-! ### Worlds -/

namespace World

/-- Passing a wait that is not over by time costs nothing. -/
theorem pass_of_lt {world : World σ ε} {due : Nat} (h : world.now < due) :
    world.pass (.instantOrCancelled due) = world :=
  if_neg (by simp [Wait.isDue, Wait.instantOrCancelled, h])

/-- What holds of the world when the clock has jumped. -/
theorem skip_keeps {world after : World σ ε} {waits : List Wait}
    (h : world.skip waits = some after) :
    after.log = world.log ∧ (world.cancelled = true → after.cancelled = true) := by
  simp only [skip] at h
  split at h
  · split at h
    · cases h
      exact ⟨rfl, fun _ => rfl⟩
    · obtain ⟨_, -, rfl⟩ := Option.map_eq_some_iff.mp h
      exact ⟨rfl, fun _ => rfl⟩
  · obtain ⟨_, -, rfl⟩ := Option.map_eq_some_iff.mp h
    exact ⟨rfl, fun h => h⟩

/-- The clock does not jump beyond a request if anybody waits for it. -/
theorem cancelAt?_or_now_of_skip {u : Nat} {world after : World σ ε} {waits : List Wait}
    (hat : world.cancelAt? = some u) (hle : world.now ≤ u) {wait : Wait} (hwait : wait ∈ waits)
    (hcancel : wait.orCancelled = true) (hskip : world.skip waits = some after) :
    after.cancelAt? = some u ∨ after.now = u := by
  simp only [skip] at hskip
  split at hskip
  · rename_i v hv
    obtain ⟨hv, -⟩ := Option.filter_eq_some_iff.mp hv
    cases hat.symm.trans hv
    rw [if_pos] at hskip
    · cases hskip
      exact .inr (Nat.max_eq_right hle)
    · exact List.any_eq_true.mpr ⟨wait, hwait, by simp [Wait.isOver, hcancel, moment]⟩
  · obtain ⟨due, -, rfl⟩ := Option.map_eq_some_iff.mp hskip
    exact .inl hat

/-- A request to cancel the run at the instant `t` is pending, and `t` has not passed; or the run
has been cancelled, and `t` has come. -/
def Expects (t : Nat) (world : World σ ε) : Prop :=
  (world.cancelAt? = some t ∧ world.now ≤ t) ∨ (world.cancelled = true ∧ t ≤ world.now)

theorem Expects.turn {t : Nat} {world : World σ ε} (h : world.Expects t) :
    world.turn.Expects t := by
  rcases h with ⟨hat, hle⟩ | ⟨hcancelled, hle⟩
  · by_cases hlt : world.now < t
    · exact .inl ⟨by simp [World.turn, hat, hlt], hle⟩
    · have hge := Nat.le_of_not_lt hlt
      exact .inr ⟨by simp [World.turn, hat, hge], hge⟩
  · exact .inr ⟨by simp [World.turn, hcancelled], hle⟩

/-- **The clock does not jump beyond a request** that is pending. -/
theorem Expects.skip {t : Nat} {world after : World σ ε} {waits : List Wait}
    (h : world.Expects t) (hskip : world.skip waits = some after) : after.Expects t := by
  have hnow := (skip_spec hskip).1
  rcases h with ⟨hat, hle⟩ | ⟨hcancelled, hle⟩
  · simp only [World.skip] at hskip
    split at hskip
    · rename_i u hu
      obtain ⟨hu, -⟩ := Option.filter_eq_some_iff.mp hu
      cases hat.symm.trans hu
      split at hskip
      · cases hskip
        exact .inr ⟨rfl, Nat.le_max_right _ _⟩
      · obtain ⟨due, -, rfl⟩ := Option.map_eq_some_iff.mp hskip
        exact .inr ⟨rfl, Nat.le_trans (Nat.le_max_right _ _) (Nat.le_max_left _ _)⟩
    · rename_i hu
      obtain ⟨due, hdue, rfl⟩ := Option.map_eq_some_iff.mp hskip
      rw [hat, Option.filter_eq_none_iff] at hu
      have hle' : due ≤ t := by simpa [hdue] using hu t
      exact .inl ⟨hat, Nat.max_le.mpr ⟨hle, hle'⟩⟩
  · exact .inr ⟨(skip_keeps hskip).2 hcancelled, Nat.le_trans hle hnow⟩

end World

namespace Work

theorem cancelAt?_drive (w : Work σ ε α) (world : World σ ε) :
    (w.drive world).1.cancelAt? = world.cancelAt? := by
  induction w generalizing world with
  | done a => rfl
  | fault cause => rfl
  | observe next ih => exact ih _ _
  | tell news next ih => exact ih _
  | cancel next ih => exact ih _
  | consult change next ih => exact ih _ _
  | await w next ih =>
    rw [drive]
    split
    · rw [ih, World.pass]
      split <;> rfl
    · rfl
  | yield next ih => rfl

/-- What has been told is not lost. -/
theorem mem_log_drive (w : Work σ ε α) {world : World σ ε} {x : Nat × ε} (h : x ∈ world.log) :
    x ∈ (w.drive world).1.log := by
  induction w generalizing world with
  | done a => exact h
  | fault cause => exact h
  | observe next ih => exact ih _ h
  | tell news next ih => exact ih (Array.mem_push.mpr (.inl h))
  | cancel next ih => exact ih h
  | consult change next ih => exact ih _ h
  | await w next ih =>
    rw [drive]
    split
    · refine ih _ ?_
      rw [World.pass]
      split <;> exact h
    · exact h
  | yield next ih => exact h

end Work

/-! ### Pools -/

/-- A piece that can be driven has no result yet. -/
theorem Piece.result?_of_isOpen {s : Piece σ ε α} (h : s.isOpen = true) : s.result? = none := by
  obtain ⟨rest, stopped?⟩ := s
  cases stopped? with
  | none => rfl
  | some k => cases rest <;> first | rfl | cases h

namespace Pool

variable {p q : Pool σ ε α} {policy : Policy}

/-- What the next turn keeps. -/
theorem nextTurn_keeps (h : p.nextTurn = some q) :
    q.world.state = p.world.state ∧ q.world.log = p.world.log ∧
      (p.world.cancelled = true → q.world.cancelled = true) := by
  have hturn : p.world.cancelled = true → p.turn.world.cancelled = true := fun hp => by
    simp [turn, World.turn, hp]
  simp only [nextTurn] at h
  split at h
  · obtain ⟨world, hskip, rfl⟩ := Option.map_eq_some_iff.mp h
    obtain ⟨hlog, hcancelled⟩ := World.skip_keeps hskip
    exact ⟨(World.skip_spec hskip).2.1, hlog, fun hp => hcancelled (hturn hp)⟩
  · cases h
    exact ⟨rfl, rfl, hturn⟩

/-- What a drive does to the world is done by the piece. -/
theorem drive_world {i : Nat} (h : p.drive i = .ok q) :
    q.world = p.world ∨ ∃ w : Work σ ε α, q.world = (w.drive p.world).1 := by
  obtain ⟨s, -, rfl | ⟨-, -, rfl⟩⟩ := drive_inv h
  · exact .inl rfl
  · exact .inr ⟨s.resume, settle_world _ _ _ _⟩

/-- **A drive takes no time.** -/
theorem now_drive {i : Nat} (h : p.drive i = .ok q) : q.world.now = p.world.now := by
  rcases drive_world h with he | ⟨w, he⟩
  · rw [he]
  · rw [he, Work.now_drive]

theorem cancelled_drive {i : Nat} (h : p.drive i = .ok q) (hp : p.world.cancelled = true) :
    q.world.cancelled = true := by
  rcases drive_world h with he | ⟨w, he⟩
  · rw [he, hp]
  · rw [he, Work.cancelled_drive w hp]

theorem cancelAt?_drive {i : Nat} (h : p.drive i = .ok q) :
    q.world.cancelAt? = p.world.cancelAt? := by
  rcases drive_world h with he | ⟨w, he⟩
  · rw [he]
  · rw [he, Work.cancelAt?_drive]

/-- A run that has been cancelled stays so. -/
theorem cancelled_step (h : p.step policy = .ok q) (hp : p.world.cancelled = true) :
    q.world.cancelled = true := by
  obtain ⟨r, i, rfl | hr, -, hq⟩ := step_inv h
  · exact cancelled_drive hq hp
  · exact cancelled_drive hq ((nextTurn_keeps hr).2.2 hp)

theorem cancelled_leads (h : Leads policy p q) (hp : p.world.cancelled = true) :
    q.world.cancelled = true := by
  induction h with
  | refl => exact hp
  | tail _ hstep ih => exact cancelled_step hstep ih

/-- What has been told is not lost. -/
theorem mem_log_step (h : p.step policy = .ok q) {x : Nat × ε} (hx : x ∈ p.world.log) :
    x ∈ q.world.log := by
  obtain ⟨r, i, hr, -, hq⟩ := step_inv h
  have hxr : x ∈ r.world.log := by
    rcases hr with rfl | hr
    · exact hx
    · rwa [(nextTurn_keeps hr).2.1]
  rcases drive_world hq with he | ⟨w, he⟩
  · rwa [he]
  · rw [he]
    exact w.mem_log_drive hxr

theorem mem_log_leads (h : Leads policy p q) {x : Nat × ε} (hx : x ∈ p.world.log) :
    x ∈ q.world.log := by
  induction h with
  | refl => exact hx
  | tail _ hstep ih => exact mem_log_step hstep ih

/-! ### Requests from outside -/

theorem expects_drive {t i : Nat} (h : p.drive i = .ok q) (hp : p.world.Expects t) :
    q.world.Expects t := by
  rw [World.Expects, cancelAt?_drive h, now_drive h]
  exact hp.imp_right fun ⟨hcancelled, hle⟩ => ⟨cancelled_drive h hcancelled, hle⟩

theorem expects_nextTurn {t : Nat} (h : p.nextTurn = some q) (hp : p.world.Expects t) :
    q.world.Expects t := by
  simp only [nextTurn] at h
  split at h
  · obtain ⟨world, hskip, rfl⟩ := Option.map_eq_some_iff.mp h
    exact hp.turn.skip hskip
  · cases h
    exact hp.turn

/-- **A request is granted at its instant**: until then the clock does not go beyond it. -/
theorem expects_leads {t : Nat} (h : Leads policy p q) (hp : p.world.Expects t) :
    q.world.Expects t := by
  induction h with
  | refl => exact hp
  | tail _ hstep ih =>
    obtain ⟨r, i, rfl | hr, -, hq⟩ := step_inv hstep
    · exact expects_drive hq ih
    · exact expects_drive hq (expects_nextTurn hr ih)

/-! ### Runs that are left off -/

/-- A pool that makes a step is not done. -/
theorem IsSound.results?_eq_none (h : p.IsSound) (hq : p.step policy = .ok q) :
    p.results? = none := by
  obtain ⟨r, i, hr, hi, -⟩ := step_inv hq
  have hsound : r.IsSound ∧ r.pieces = p.pieces := by
    rcases hr with rfl | hr
    · exact ⟨h, rfl⟩
    · exact ⟨h.nextTurn hr, nextTurn_pieces hr⟩
  obtain ⟨-, s, hs, hopen⟩ := hsound.1.listed i (List.mem_append_left _ hi)
  rw [hsound.2] at hs
  exact mapM_eq_none_iff.mpr ⟨s, List.mem_of_getElem? hs, Piece.result?_of_isOpen hopen⟩

/-- **A run comes to the same end wherever it is left off.** -/
theorem IsSound.run_of_leads (h : p.IsSound) (hq : Leads policy p q) :
    q.run policy = p.run policy := by
  induction hq with
  | refl => rfl
  | @tail r q hr hstep ih =>
    rw [← ih, run.eq_def policy r, (h.leads hr).results?_eq_none hstep]
    dsimp only
    split
    · rename_i s hs
      cases hstep.symm.trans hs
      rfl
    · rename_i cause hs
      cases hstep.symm.trans hs

end Pool

end PortGraph
