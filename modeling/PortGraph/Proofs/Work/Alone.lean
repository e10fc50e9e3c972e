import PortGraph.Proofs.Work.Ensures

/-!
# Work on its own

What a piece of work comes to when nobody else is at work and nobody cancels the run: when it ends
and with what, what has become of the shared state, and what has been told at which instants. A wait
ends at the instant that is waited for, or at once if that has passed; everything else takes no time.

This says more of a run than `Work.Settles` and `Work.Ensures` do, which leave open how the log
grows, and it says it of one run rather than of all. There is no rule for work that cancels the run,
comes to a fault, or waits for cancellation alone.

## Main definitions

* `Work.Takes`: the course of a piece of work on its own

## Main results

* `Work.Takes.bind`, `Work.Takes.mapNews`: composition
* `Work.Takes.run`: work that is done on its own takes its course
-/

namespace PortGraph

variable {σ ε δ α β : Type}

@[simp]
theorem World.log_pass (world : World σ ε) (wait : Wait) : (world.pass wait).log = world.log := by
  rw [World.pass]
  split <;> rfl

namespace Work

/-- The work begins at one instant in one state and ends at another instant in another state, and
has told some news, each at its instant. -/
inductive Takes : Work σ ε α → Nat → σ → List (Nat × ε) → Nat → σ → α → Prop
  | done {a t s} : Takes (.done a) t s [] t s a
  | observe {next t s told t' s' a} (h : Takes (next ⟨t, false⟩) t s told t' s' a) :
    Takes (.observe next) t s told t' s' a
  | tell {news next t s told t' s' a} (h : Takes next t s told t' s' a) :
    Takes (.tell news next) t s ((t, news) :: told) t' s' a
  | consult {change next t s told t' s' a} (h : Takes (next s) t (change s) told t' s' a) :
    Takes (.consult change next) t s told t' s' a
  | await {w next t due s told t' s' a} (hdue : w.due? = some due)
    (h : Takes (next ⟨max t due, false⟩) (max t due) s told t' s' a) :
    Takes (.await w next) t s told t' s' a
  | yield {next t s told t' s' a} (h : Takes next t s told t' s' a) :
    Takes (.yield next) t s told t' s' a

/-! ### Composition -/

theorem Takes.bind {w : Work σ ε α} {f : α → Work σ ε β} {t t' t'' : Nat} {s s' s'' : σ}
    {told more : List (Nat × ε)} {a : α} {b : β} (h : w.Takes t s told t' s' a)
    (hf : (f a).Takes t' s' more t'' s'' b) : (w.bind f).Takes t s (told ++ more) t'' s'' b := by
  induction h with
  | done => exact hf
  | observe _ ih => exact .observe (ih hf)
  | tell _ ih => exact .tell (ih hf)
  | consult _ ih => exact .consult (ih hf)
  | await hdue _ ih => exact .await hdue (ih hf)
  | yield _ ih => exact .yield (ih hf)

theorem Takes.mapNews {w : Work σ ε α} {t t' : Nat} {s s' : σ} {told : List (Nat × ε)} {a : α}
    (h : w.Takes t s told t' s' a) (f : ε → δ) :
    (w.mapNews f).Takes t s (told.map fun x => (x.1, f x.2)) t' s' a := by
  induction h with
  | done => exact .done
  | observe _ ih => exact .observe ih
  | tell _ ih => exact .tell ih
  | consult _ ih => exact .consult ih
  | await hdue _ ih => exact .await hdue ih
  | yield _ ih => exact .yield ih

theorem takes_sleep (ms t : Nat) (s : σ) :
    (sleep ms : Work σ ε Unit).Takes t s [] (t + ms) s () := by
  refine .observe (.await rfl ?_)
  rw [Nat.max_eq_right (Nat.le_add_right t ms)]
  exact .done

theorem takes_sayAll (news : List ε) (t : Nat) (s : σ) :
    (sayAll news).Takes t s (news.map (t, ·)) t s () := by
  induction news with
  | nil => exact .done
  | cons e rest ih => exact .tell ih

/-! ### Doing the work -/

/-- **Work that is done on its own takes its course.** -/
theorem Takes.run {w : Work σ ε α} {t t' : Nat} {s s' : σ} {told : List (Nat × ε)} {a : α}
    (h : w.Takes t s told t' s' a) {world : World σ ε} (hw : world.IsCalm fun _ => True)
    (ht : world.now = t) (hs : world.state = s) :
    ∃ after, w.run world = .ok (after, a) ∧ after.now = t' ∧ after.state = s' ∧
      after.log.toList = world.log.toList ++ told := by
  induction h generalizing world with
  | done => exact ⟨world, rfl, ht, hs, (List.append_nil _).symm⟩
  | observe _ ih =>
    obtain rfl := ht
    obtain ⟨after, hrun, hafter⟩ := ih hw rfl hs
    refine ⟨after, ?_, hafter⟩
    rwa [Work.run, World.moment, hw.cancelled_eq]
  | @tell news next t s told t' s' a _ ih =>
    obtain rfl := ht
    obtain ⟨after, hrun, hnow, hstate, hlog⟩ :=
      @ih (world.tell news) ⟨hw.cancelled_eq, hw.cancelAt?_eq, trivial⟩ rfl hs
    exact ⟨after, hrun, hnow, hstate, by simp [hlog, World.tell]⟩
  | @consult change next t s told t' s' a _ ih =>
    obtain rfl := hs
    exact @ih { world with state := change world.state }
      ⟨hw.cancelled_eq, hw.cancelAt?_eq, trivial⟩ ht rfl
  | @await w next t due s told t' s' a hdue _ ih =>
    obtain ⟨begun, hbegun, hcalm, hnow, hstate, hlog⟩ : ∃ begun : World σ ε,
        begun = (if world.isSpent w then world.turn else world) ∧
          begun.IsCalm (fun _ => True) ∧ begun.now = t ∧ begun.state = s ∧
          begun.log = world.log := by
      split
      · exact ⟨_, rfl, hw.turn, ht, hs, rfl⟩
      · exact ⟨_, rfl, hw, ht, hs, rfl⟩
    -- Whether the clock has to jump or not, the work goes on in a world of this kind.
    have hgo (there : World σ ε) (hthere : there.IsCalm fun _ => True)
        (hnow' : there.now = max t due) (hstate' : there.state = s)
        (hlog' : there.log = world.log) :
        ∃ after, (next there.moment).run (there.pass w) = .ok (after, a) ∧ after.now = t' ∧
          after.state = s' ∧ after.log.toList = world.log.toList ++ told := by
      rw [World.moment, hthere.cancelled_eq, hnow', ← hlog', ← World.log_pass there w]
      exact ih (hthere.pass w) ((World.now_pass there w).trans hnow')
        ((World.state_pass there w).trans hstate')
    simp only [Work.run, ← hbegun]
    by_cases hover : w.isOver begun.moment = true
    · rw [if_pos hover]
      have hle : due ≤ t := by
        simpa [Wait.isOver, Wait.isDue, hdue, World.moment, hcalm.cancelled_eq, hnow] using hover
      exact hgo begun hcalm (by omega) hstate hlog
    · have hskip : begun.skip [w] =
          some (World.advance { begun with allowance := World.fullAllowance } due) := by
        simp [World.skip, hcalm.cancelAt?_eq, World.firstDue?, hdue]
      rw [if_neg hover, hskip]
      refine hgo _ ⟨hcalm.cancelled_eq, hcalm.cancelAt?_eq, trivial⟩ ?_ hstate hlog
      rw [World.advance, hnow]
  | yield _ ih => exact @ih world.turn hw.turn ht hs

end Work

end PortGraph
