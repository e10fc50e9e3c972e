import PortGraph.Proofs.InProcess
import PortGraph.Proofs.Work.Alone
import Mathlib.Algebra.BigOperators.Group.Finset.Basic
import Mathlib.Data.Nat.Find

/-!
# Attempts and the waits between them

How a node that runs in process is attempted, for any sequence of things that may become of its
attempts. There is exactly one attempt that ought to be the last: the first one that succeeds, or
fails in a way that does not allow for another one, or uses up what is allowed. The node has its
outcome, and the attempts, the news of them and the waits between them are as many as that takes.

What becomes of the attempts is a script. The body that follows it counts in the shared state how
often it has been started, and that is how it knows which attempt it is.

## Main definitions

* `InProcess.Trial`, `InProcess.Script`: what becomes of an attempt, and of all of them
* `InProcess.Script.body`: the body that follows a script
* `InProcess.Script.IsLast`: the attempt with which a node ends
* `InProcess.Script.endsAt`: when an attempt ends

## Main results

* `InProcess.Script.existsUnique_isLast`: there is one last attempt
* `InProcess.takes_attemptFrom`: attempts go on up to the last one
* `InProcess.run_dispatch`: a node is attempted up to the last attempt
-/

namespace PortGraph.InProcess

open Work

/-! ### Scripts -/

/-- What becomes of an attempt: it reports progress, takes its time and has an outcome. -/
structure Trial where
  reports : List Report
  duration : Nat
  outcome : Outcome

/-- What becomes of the attempts by number, the first one being number 1. -/
abbrev Script := Nat → Trial

namespace Trial

/-- What a body does in an attempt. -/
def work {κ : Type} (t : Trial) : Work κ Report Outcome :=
  (sayAll t.reports).bind fun _ => (sleep t.duration).bind fun _ => .done t.outcome

/-- The attempt has failed, and another one may be made. -/
def isRepeatable (t : Trial) : Bool :=
  match t.outcome with
  | .ok _ => false
  | .error e => e.isRetryable

/-- What is said of the attempt if another one is made. -/
def complaint (t : Trial) : String :=
  match t.outcome with
  | .ok _ => ""
  | .error e => e.message

end Trial

namespace Script

variable (script : Script)

/-- The body that follows the script. It keeps how often it has been started. -/
def body : Body Nat := fun _ _ _ => .consult (· + 1) fun starts => (script (starts + 1)).work

/-- The last attempt of a node that may be repeated `retry` times: all attempts before may be
repeated, and this one may not, or there are no more. -/
structure IsLast (retry : UInt32) (a : Nat) : Prop where
  pos : 1 ≤ a
  le : a ≤ min (retry.toNat + 1) (2 ^ 32 - 1)
  before : ∀ k, 1 ≤ k → k < a → (script k).isRepeatable = true
  stops : a = min (retry.toNat + 1) (2 ^ 32 - 1) ∨ (script a).isRepeatable = false

/-- When attempt number `k` ends, the first one being made at `now`: so far there have been the
attempts themselves, and a wait of `base * j` after attempt number `j`. -/
def endsAt (base : UInt64) (now k : Nat) : Nat :=
  now + ∑ j ∈ Finset.range k, (script (j + 1)).duration + ∑ j ∈ Finset.range k, base.toNat * j

/-- What is told when attempt number `k` is to be followed by another one, and when. -/
def repetition (base : UInt64) (now k : Nat) : Nat × DispatchNews :=
  (script.endsAt base now k,
    .retrying (UInt32.ofNat k) (UInt64.ofNat (base.toNat * k)) (script k).complaint)

variable {script} {retry : UInt32} {base : UInt64} {now : Nat}

/-- **There is one last attempt.** -/
theorem existsUnique_isLast (script : Script) (retry : UInt32) : ∃! a, script.IsLast retry a := by
  have hsome : ∃ a, 1 ≤ a ∧
      (a = min (retry.toNat + 1) (2 ^ 32 - 1) ∨ (script a).isRepeatable = false) :=
    ⟨_, by omega, .inl rfl⟩
  classical
  refine ⟨Nat.find hsome, ⟨(Nat.find_spec hsome).1, ?_, fun k hk hlt => ?_,
    (Nat.find_spec hsome).2⟩, fun a ha => ?_⟩
  · exact Nat.find_min' hsome ⟨by omega, .inl rfl⟩
  · have hmin := Nat.find_min hsome hlt
    simp only [not_and_or, not_or, Bool.not_eq_false] at hmin
    exact (hmin.resolve_left (not_not_intro hk)).2
  · refine Nat.le_antisymm (Nat.le_of_not_lt fun hlt => ?_) (Nat.find_min' hsome ⟨ha.pos, ha.stops⟩)
    obtain ⟨hpos, hstops⟩ := Nat.find_spec hsome
    have hle := ha.le
    rcases hstops with hmost | hstops
    · omega
    · exact absurd (ha.before _ hpos hlt) (by rw [hstops]; exact Bool.false_ne_true)

/-- An attempt begins after the wait that follows the one before, and takes its time. -/
theorem endsAt_succ (script : Script) (base : UInt64) (now n : Nat) :
    script.endsAt base now (n + 1) =
      script.endsAt base now n + base.toNat * n + (script (n + 1)).duration := by
  simp only [endsAt, Finset.sum_range_succ]
  omega

end Script

/-! ### Attempts -/

section Attempts

variable {base : UInt64}

/-- What attempt number `n + 1` tells, beginning at `t`. -/
def Script.told (script : Script) (t n : Nat) : List (Nat × DispatchNews) :=
  (script (n + 1)).reports.map fun report => (t, .progress report)

/-- Before attempt number `n + 1` the body has been started `n` times. -/
theorem takes_attempt (script : Script) (scope : Scope) (inputs config : Fields) (base : UInt64)
    (now n : Nat) :
    ((script.body scope inputs config).mapNews .progress).Takes
      (script.endsAt base now n + base.toNat * n) n
      (script.told (script.endsAt base now n + base.toNat * n) n) (script.endsAt base now (n + 1))
      (n + 1) (script (n + 1)).outcome := by
  have hbody (t : Nat) : (script.body scope inputs config).Takes t n
      ((script (n + 1)).reports.map (t, ·)) (t + (script (n + 1)).duration) (n + 1)
      (script (n + 1)).outcome := by
    refine .consult ?_
    rw [← List.append_nil (List.map _ _)]
    refine (takes_sayAll _ t (n + 1)).bind ?_
    exact (takes_sleep _ t (n + 1)).bind .done
  rw [script.endsAt_succ]
  have hattempt := (hbody (script.endsAt base now n + base.toNat * n)).mapNews DispatchNews.progress
  rw [List.map_map] at hattempt
  exact hattempt

theorem filter_marksAttempt_told (script : Script) (t n : Nat) :
    (script.told t n).filter (·.2.marksAttempt) = [] := by
  simp [Script.told, List.filter_eq_nil_iff, DispatchNews.marksAttempt]

/-- An attempt that may not be repeated is the end, and so is the last one that is allowed. -/
theorem afterAttempt_eq_done {κ : Type} {work : Work κ Report Outcome} {left : Nat} {t : Trial}
    (h : left = 0 ∨ t.isRepeatable = false) (attempt : Nat) :
    afterAttempt base work left attempt t.outcome = .done ⟨t.outcome, UInt32.ofNat attempt⟩ := by
  rw [Trial.isRepeatable] at h
  cases houtcome : t.outcome with
  | ok outputs => rfl
  | error e =>
    cases left with
    | zero => rfl
    | succ left =>
      rw [houtcome] at h
      simp [afterAttempt, h.resolve_left (Nat.succ_ne_zero left)]

/-- Any other attempt is followed by the next one, after a wait. -/
theorem afterAttempt_eq_tell {κ : Type} {work : Work κ Report Outcome} {t : Trial}
    (h : t.isRepeatable = true) (left : Nat) {attempt : Nat}
    (hdelay : (delayMs? base attempt).isSome = true) :
    afterAttempt base work (left + 1) attempt t.outcome =
      .tell (.retrying (UInt32.ofNat attempt) (UInt64.ofNat (base.toNat * attempt)) t.complaint)
        (.observe fun m => backoff base work left attempt (m.now + base.toNat * attempt)) := by
  have hsome : delayMs? base attempt = some (base.toNat * attempt) := by
    rw [delayMs?] at hdelay ⊢
    split at hdelay
    · exact if_pos ‹_›
    · cases hdelay
  rw [Trial.isRepeatable] at h
  rw [Trial.complaint]
  cases houtcome : t.outcome with
  | ok outputs =>
    rw [houtcome] at h
    cases h
  | error e =>
    rw [houtcome] at h
    simp [afterAttempt, h, hsome]

/-- **Attempts go on up to the last one.** After `n` attempts and the wait that follows them, the
next ones are made until the last one has ended. -/
theorem takes_attemptFrom {script : Script} (scope : Scope) (inputs config : Fields)
    {retry : UInt32} {a : Nat} (ha : script.IsLast retry a)
    (hdelay : (delayMs? base (a - 1)).isSome = true) (now : Nat) {n left : Nat} (hn : n < a)
    (hleft : n + 1 + left = mostAttempts retry) :
    ∃ told, (attemptFrom base (script.body scope inputs config) left (n + 1)).Takes
        (script.endsAt base now n + base.toNat * n) n told (script.endsAt base now a) a
        ⟨(script a).outcome, UInt32.ofNat a⟩ ∧
      told.filter (·.2.marksAttempt) =
        (List.range' (n + 1) (a - (n + 1))).map (script.repetition base now) := by
  induction hrest : a - (n + 1) generalizing n left with
  | zero =>
    have hlast : n + 1 = a := by omega
    have hstop : left = 0 ∨ (script (n + 1)).isRepeatable = false := by
      rw [hlast]
      refine ha.stops.imp_left fun hmost => ?_
      have : mostAttempts retry = a := hmost.symm
      omega
    have hattempt := takes_attempt script scope inputs config base now n
    rw [attemptFrom_eq]
    refine ⟨_, hattempt.bind ?_, by rw [List.append_nil, filter_marksAttempt_told]; rfl⟩
    rw [afterAttempt_eq_done hstop, hlast]
    exact .done
  | succ rest ih =>
    have hagain : n + 1 < a := by omega
    have hmost : a ≤ mostAttempts retry := ha.le
    obtain ⟨fewer, rfl⟩ : ∃ fewer, left = fewer + 1 := ⟨left - 1, by omega⟩
    have hfewer : n + 1 + 1 + fewer = mostAttempts retry := by omega
    obtain ⟨told, htold, hmarks⟩ := ih hagain hfewer (by omega)
    have hnext : (afterAttempt base (script.body scope inputs config) (fewer + 1) (n + 1)
        (script (n + 1)).outcome).Takes (script.endsAt base now (n + 1)) (n + 1)
        (script.repetition base now (n + 1) :: told) (script.endsAt base now a) a
        ⟨(script a).outcome, UInt32.ofNat a⟩ := by
      rw [afterAttempt_eq_tell (ha.before (n + 1) (by omega) hagain) fewer
        (isSome_delayMs?_of_le hdelay (by omega))]
      refine .tell (.observe (.await rfl ?_))
      rw [Nat.max_eq_right (Nat.le_add_right _ _), if_pos (Nat.le_refl _)]
      exact htold
    rw [attemptFrom_eq]
    refine ⟨_, (takes_attempt script scope inputs config base now n).bind hnext, ?_⟩
    rw [List.filter_append, filter_marksAttempt_told, List.nil_append, List.range'_succ,
      List.map_cons, ← hmarks, List.filter_cons_of_pos rfl]

end Attempts

/-- **A node that runs in process is attempted up to the last attempt**, whatever becomes of its
attempts, if nobody cancels the run and the waits that are needed can be counted. There is one
attempt that ought to be the last; the node ends with its outcome and its number, which fits. The
body has been started that often. Each attempt but the last has been told of, in order, at the
instant at which it failed. The time taken is that of the attempts and of the waits, which have been
`base`, twice `base`, and so on. -/
theorem run_dispatch (registry : Registry (Body Nat)) (base : UInt64) (i : Invocation)
    (script : Script) (now : Nat) (hbody : registry.body? i.manifest.type = some script.body) :
    (∃! a, script.IsLast i.manifest.retry a) ∧
    ∀ a, script.IsLast i.manifest.retry a → (delayMs? base (a - 1)).isSome = true →
      ∃ after, (dispatch registry base i).run (.start now 0) =
          .ok (after, ⟨(script a).outcome, UInt32.ofNat a⟩) ∧
        (UInt32.ofNat a).toNat = a ∧ after.state = a ∧
        after.log.toList.filter (·.2.marksAttempt) =
          (List.range' 1 (a - 1)).map (script.repetition base now) ∧
        after.now = now + ∑ k ∈ Finset.range a, (script (k + 1)).duration +
          ∑ k ∈ Finset.range a, base.toNat * k := by
  refine ⟨script.existsUnique_isLast _, fun a ha hdelay => ?_⟩
  have hmost : a ≤ mostAttempts i.manifest.retry := ha.le
  have hpos := ha.pos
  have hleft : 0 + 1 + (mostAttempts i.manifest.retry - 1) = mostAttempts i.manifest.retry := by
    omega
  obtain ⟨told, htakes, hmarks⟩ :=
    takes_attemptFrom i.scope i.inputs i.config ha hdelay now hpos hleft
  have hcalm : (World.start now 0 : World Nat DispatchNews).IsCalm fun _ => True :=
    ⟨rfl, rfl, trivial⟩
  obtain ⟨after, hrun, hnow, hstate, hlog⟩ := htakes.run hcalm (by simp [World.start, Script.endsAt])
    rfl
  refine ⟨after, ?_, UInt32.toNat_ofNat_of_lt' ?_, hstate, ?_, hnow⟩
  · rw [dispatch, hbody]
    exact hrun
  · have hword : mostAttempts i.manifest.retry ≤ UInt32.size - 1 := Nat.min_le_right _ _
    have : 0 < UInt32.size := by decide
    omega
  · rw [hlog]
    exact hmarks

/-! ### A node that panics, fails, and succeeds -/

/-- What becomes of the attempts: a panic after 5 ms, a failure after 7 ms, and then success. -/
def flaky : Script
  | 1 => ⟨[], 5, .error (.panicked "boom" none)⟩
  | 2 => ⟨[⟨.finite Single.hundred, none⟩], 7, .error (.failed "not yet" none)⟩
  | _ => ⟨[], 0, .ok .empty⟩

/-- A type that may be repeated four times. -/
def flakyManifest : Manifest where
  type := "flaky"
  version := "1"
  category := .transform
  retry := 4

/-- One run of it, with a base delay of 100 ms: the third attempt is the last one, and there are
waits of 100 and 200 ms. -/
theorem run_dispatch_flaky :
    let registry : Registry (Body Nat) := ⟨.ofList [("flaky", ⟨flakyManifest, some flaky.body⟩)]⟩
    let i : Invocation := ⟨⟨"exec", "g", "n", none⟩, flakyManifest, .empty, .empty⟩
    ∃ after, (dispatch registry 100 i).run (.start 1000 0) = .ok (after, ⟨.ok .empty, 3⟩) ∧
      after.state = 3 ∧ after.now = 1000 + (5 + 100) + (7 + 200) ∧
      after.log.toList.filter (·.2.marksAttempt) =
        [(1005, .retrying 1 100 "Node panicked: boom"),
          (1112, .retrying 2 200 "Node execution failed: not yet")] := by
  intro registry i
  have hbody : registry.body? i.manifest.type = some flaky.body := rfl
  have hlast : flaky.IsLast i.manifest.retry 3 := by
    refine ⟨by decide, by decide, fun k hk hlt => ?_, .inr rfl⟩
    obtain rfl | rfl : k = 1 ∨ k = 2 := by omega
    all_goals rfl
  obtain ⟨-, hrun⟩ := run_dispatch registry 100 i flaky 1000 hbody
  obtain ⟨after, hrun, -, hstate, hlog, hnow⟩ := hrun 3 hlast (by decide)
  refine ⟨after, hrun, hstate, hnow, hlog.trans ?_⟩
  decide

end PortGraph.InProcess
