import Mathlib.Algebra.Ring.Nat
import PortGraph.Proofs.InProcess

/-!
# Delays between attempts

The delay after a failed attempt is the base delay times the number of the attempt. It is counted in
seconds and milliseconds, which fails from `2 ^ 64` seconds on, and it is told in milliseconds as a
word of 64 bits, which does without what is beyond them. So there are two limits. Up to the first
one, `2 ^ 64` milliseconds, a delay is told as it is; up to the second one, a thousand times as
long, it is told as what is left of it; and a node that is to wait longer has come to a fault.

## Main results

* `InProcess.delayMs?_eq`: when a delay can be counted
* `InProcess.delays_of_tells_attemptFrom`: the delays that are told, and the faults
* `InProcess.retrying_delays`: the delays of a node that runs in process
-/

namespace PortGraph.InProcess

open Work

variable {κ : Type} {base : UInt64} {work : Work κ Report Outcome}

/-- **When a delay can be counted.** -/
theorem delayMs?_eq (base : UInt64) (k : Nat) :
    delayMs? base k =
      if base.toNat * k < 1000 * 2 ^ 64 then some (base.toNat * k) else none := by
  have hiff : base.toNat * k / 1000 < UInt64.size ↔ base.toNat * k < 1000 * 2 ^ 64 := by
    rw [Nat.div_lt_iff_lt_mul (by decide), Nat.mul_comm UInt64.size,
      show UInt64.size = 2 ^ 64 by decide]
  simp only [delayMs?, hiff]

/-- The delay after attempt number `n` has been told: one of those from number `attempt` on and
before number `last`. -/
def IsDelay (base : UInt64) (attempt last : Nat) (k : UInt32) (ms : UInt64) : Prop :=
  ∃ n, attempt ≤ n ∧ n < last ∧ base.toNat * n < 1000 * 2 ^ 64 ∧ k = .ofNat n ∧
    ms = .ofNat (base.toNat * n)

/-- There is a delay among those from number `attempt` on and before number `last` that cannot be
counted. -/
def Overflows (base : UInt64) (attempt last : Nat) : Prop :=
  ∃ n, attempt ≤ n ∧ n < last ∧ 1000 * 2 ^ 64 ≤ base.toNat * n

/-- What follows a failed attempt: nothing is told, or the delay is, and then what the next attempt
tells. -/
theorem cases_of_tells_next {left attempt : Nat} {o : Outcome} {told : List DispatchNews}
    {v : Work κ DispatchNews Dispatch} (h : (afterAttempt base work left attempt o).Tells told v) :
    told = [] ∧ (∀ c, v = .fault c → c = .delayOverflow ∧ 0 < left ∧
        1000 * 2 ^ 64 ≤ base.toNat * attempt) ∨
      ∃ rest message more, left = rest + 1 ∧ base.toNat * attempt < 1000 * 2 ^ 64 ∧
        told = .retrying (.ofNat attempt) (.ofNat (base.toNat * attempt)) message :: more ∧
        (more = [] ∧ (∀ c, v ≠ .fault c) ∨
          (attemptFrom base work rest (attempt + 1)).Tells more v) := by
  have hended (d : Dispatch) (c : Fault) : (.done d : Work κ DispatchNews Dispatch) ≠ .fault c := by
    intro hc
    cases hc
  cases o with
  | ok outputs =>
    cases h
    exact .inl ⟨rfl, fun c hc => absurd hc (hended _ c)⟩
  | error e =>
    cases left with
    | zero =>
      cases h
      exact .inl ⟨rfl, fun c hc => absurd hc (hended _ c)⟩
    | succ rest =>
      rw [afterAttempt] at h
      split at h
      · cases h
        exact .inl ⟨rfl, fun c hc => absurd hc (hended _ c)⟩
      rw [delayMs?_eq] at h
      by_cases hcount : base.toNat * attempt < 1000 * 2 ^ 64
      · rw [if_pos hcount] at h
        cases h with
        | stay => exact .inl ⟨rfl, fun c hc => by cases hc⟩
        | tell h =>
          refine .inr ⟨rest, _, _, rfl, hcount, rfl, ?_⟩
          cases h with
          | stay => exact .inl ⟨rfl, fun c hc => by cases hc⟩
          | observe h =>
            obtain ⟨rfl, rfl⟩ | h | ⟨rfl, d, rfl⟩ := cases_of_tells_backoff h
            · exact .inl ⟨rfl, fun c hc => by cases hc⟩
            · exact .inr h
            · exact .inl ⟨rfl, hended d⟩
      · rw [if_neg hcount] at h
        cases h
        refine .inl ⟨rfl, fun c hc => ?_⟩
        cases hc
        exact ⟨rfl, Nat.succ_pos _, Nat.le_of_not_lt hcount⟩

/-- **The delays that are told, and the faults**, of all attempts that follow one another: by
induction on how many are left. -/
theorem delays_of_tells_attemptFrom {left attempt : Nat} {told : List DispatchNews}
    {v : Work κ DispatchNews Dispatch} (h : (attemptFrom base work left attempt).Tells told v) :
    (∀ k ms message, .retrying k ms message ∈ told → IsDelay base attempt (attempt + left) k ms) ∧
      ∀ c, v = .fault c → (∃ l, work.Tells l (.fault c)) ∨
        c = .delayOverflow ∧ Overflows base attempt (attempt + left) := by
  induction left using Nat.strongRecOn generalizing attempt told with
  | ind left ih =>
    have hbody {l : List DispatchNews} {r : Work κ DispatchNews Outcome}
        (h : (work.mapNews .progress).Tells l r) (k : UInt32) (ms : UInt64) (message : String) :
        .retrying k ms message ∉ l := by
      obtain ⟨reports, -, rfl, -⟩ := h.exists_of_mapNews
      simp
    rw [attemptFrom_eq] at h
    obtain ⟨r, hr, hwork, rfl⟩ | ⟨o, l, m, rfl, hwork, h⟩ := h.cases_bind
    · -- in the body
      refine ⟨fun k ms message hmem => absurd hmem (hbody hwork k ms message), fun c hc => .inl ?_⟩
      obtain ⟨reports, w, -, rfl, hreports⟩ := hwork.exists_of_mapNews
      cases w with
      | fault cause =>
        cases hc
        exact ⟨reports, hreports⟩
      | done o => exact absurd rfl (hr o)
      | _ => cases hc
    -- after the body
    obtain ⟨rfl, hfault⟩ | ⟨rest, message, more, rfl, hcount, rfl, hmore⟩ := cases_of_tells_next h
    · refine ⟨fun k ms message hmem => ?_, fun c hc => .inr ?_⟩
      · rw [List.append_nil] at hmem
        exact absurd hmem (hbody hwork k ms message)
      · obtain ⟨hcause, hleft, hover⟩ := hfault c hc
        exact ⟨hcause, attempt, Nat.le_refl _, by omega, hover⟩
    · have hfirst : IsDelay base attempt (attempt + (rest + 1)) (.ofNat attempt)
          (.ofNat (base.toNat * attempt)) :=
        ⟨attempt, Nat.le_refl _, by omega, hcount, rfl, rfl⟩
      have hrest : (∀ k ms message, .retrying k ms message ∈ more →
            IsDelay base attempt (attempt + (rest + 1)) k ms) ∧
          ∀ c, v = .fault c → (∃ l, work.Tells l (.fault c)) ∨
            c = .delayOverflow ∧ Overflows base attempt (attempt + (rest + 1)) := by
        obtain ⟨rfl, hnone⟩ | hmore := hmore
        · exact ⟨fun _ _ _ hmem => absurd hmem List.not_mem_nil, fun c hc => absurd hc (hnone c)⟩
        · obtain ⟨hdelays, hfaults⟩ := ih rest (Nat.lt_succ_self rest) hmore
          refine ⟨fun k ms message hmem => ?_, fun c hc => (hfaults c hc).imp_right ?_⟩
          · obtain ⟨n, hle, hlt, hn⟩ := hdelays k ms message hmem
            exact ⟨n, by omega, by omega, hn⟩
          · rintro ⟨hcause, n, hle, hlt, hover⟩
            exact ⟨hcause, n, by omega, by omega, hover⟩
      refine ⟨fun k ms message hmem => ?_, hrest.2⟩
      rcases List.mem_append.mp hmem with hmem | hmem
      · exact absurd hmem (hbody hwork k ms message)
      · rcases List.mem_cons.mp hmem with heq | hmem
        · cases heq
          exact hfirst
        · exact hrest.1 k ms message hmem

/-- An attempt may fail, and the next one be made after a delay that can be counted. -/
theorem tells_attemptFrom_succ {e : NodeError} {l : List Report}
    (hwork : work.Tells l (.done (.error e))) (hretry : e.isRetryable = true) {left attempt : Nat}
    (hcount : base.toNat * attempt < 1000 * 2 ^ 64) {told : List DispatchNews}
    {v : Work κ DispatchNews Dispatch}
    (h : (attemptFrom base work left (attempt + 1)).Tells told v) :
    (attemptFrom base work (left + 1) attempt).Tells (l.map .progress ++
      .retrying (.ofNat attempt) (.ofNat (base.toNat * attempt)) e.message :: told) v := by
  rw [attemptFrom_eq]
  refine (hwork.mapNews DispatchNews.progress).bind ?_
  simp only [afterAttempt, hretry, Bool.not_true, Bool.false_eq_true, if_false, delayMs?_eq,
    if_pos hcount]
  refine .tell (.observe (m := ⟨0, false⟩) (.await (m := ⟨base.toNat * attempt, false⟩) ?_))
  rw [Nat.zero_add, if_pos (Nat.le_refl _)]
  exact h

/-- Attempts that keep failing may come to a fault if there is a delay that cannot be counted. -/
theorem exists_tells_fault {e : NodeError} {l : List Report}
    (hwork : work.Tells l (.done (.error e))) (hretry : e.isRetryable = true) {left attempt : Nat}
    (hover : Overflows base attempt (attempt + left)) :
    ∃ told, (attemptFrom base work left attempt).Tells told (.fault .delayOverflow) := by
  obtain ⟨n, hle, hlt, hn⟩ := hover
  induction left generalizing attempt with
  | zero => omega
  | succ left ih =>
    by_cases hcount : base.toNat * attempt < 1000 * 2 ^ 64
    · have hne : n ≠ attempt := by
        rintro rfl
        omega
      obtain ⟨told, htold⟩ : ∃ told,
          (attemptFrom base work left (attempt + 1)).Tells told (.fault .delayOverflow) :=
        ih (by omega) (by omega)
      exact ⟨_, tells_attemptFrom_succ hwork hretry hcount htold⟩
    · rw [attemptFrom_eq]
      refine ⟨_, (hwork.mapNews DispatchNews.progress).bind (m := []) ?_⟩
      simp only [afterAttempt, hretry, Bool.not_true, Bool.false_eq_true, if_false, delayMs?_eq,
        if_neg hcount]
      exact .stay _

/-- **The delays of a node that runs in process.** A delay can be counted if it is less than
`1000 * 2 ^ 64` milliseconds. What is told after attempt number `k`, which is one that may be
repeated, is the base delay times `k`, modulo `2 ^ 64`: that is the delay itself if and only if it
is less than `2 ^ 64`. No delay leads to a fault unless it cannot be counted; but then attempts that
keep failing come to one. -/
theorem retrying_delays {κ : Type} (registry : Registry (Body κ)) (base : UInt64) (i : Invocation) :
    (∀ k, delayMs? base k =
      if base.toNat * k < 1000 * 2 ^ 64 then some (base.toNat * k) else none) ∧
    (∀ told v, (dispatch registry base i).Tells told v →
      (∀ k ms message, .retrying k ms message ∈ told →
        1 ≤ k ∧ k ≤ i.manifest.retry ∧ ms.toNat = base.toNat * k.toNat % 2 ^ 64 ∧
          (ms.toNat = base.toNat * k.toNat ↔ base.toNat * k.toNat < 2 ^ 64)) ∧
      ∀ c, v = .fault c →
        (∃ body l, registry.body? i.manifest.type = some body ∧
          (body i.scope i.inputs i.config).Tells l (.fault c)) ∨
        c = .delayOverflow ∧ 1000 * 2 ^ 64 ≤ base.toNat * i.manifest.retry.toNat) ∧
    ∀ body e l k, registry.body? i.manifest.type = some body →
      (body i.scope i.inputs i.config).Tells l (.done (.error e)) → e.isRetryable = true →
      1 ≤ k → k < mostAttempts i.manifest.retry → 1000 * 2 ^ 64 ≤ base.toNat * k →
      ∃ told, (dispatch registry base i).Tells told (.fault .delayOverflow) := by
  refine ⟨delayMs?_eq base, fun told v h => ?_,
    fun body e l k hbody hwork hretry hpos hlt hover => ?_⟩
  · rw [dispatch] at h
    cases hbody : registry.body? i.manifest.type with
    | none =>
      simp only [hbody] at h
      cases h
      exact ⟨fun _ _ _ hmem => absurd hmem List.not_mem_nil, fun c hc => by cases hc⟩
    | some body =>
      simp only [hbody] at h
      have hmost : mostAttempts i.manifest.retry ≤ i.manifest.retry.toNat + 1 := Nat.min_le_left _ _
      obtain ⟨hdelays, hfaults⟩ := delays_of_tells_attemptFrom h
      refine ⟨fun k ms message hmem => ?_, fun c hc => (hfaults c hc).imp ?_ ?_⟩
      · obtain ⟨n, hpos, hlt, -, rfl, rfl⟩ := hdelays k ms message hmem
        have hretry := i.manifest.retry.toNat_lt_size
        have hn : (UInt32.ofNat n).toNat = n := UInt32.toNat_ofNat_of_lt' (by omega)
        rw [UInt32.le_iff_toNat_le, UInt32.le_iff_toNat_le, hn, UInt64.toNat_ofNat']
        refine ⟨hpos, by omega, rfl, fun heq => ?_, Nat.mod_eq_of_lt⟩
        rw [← heq]
        exact Nat.mod_lt _ (by decide)
      · rintro ⟨l, hl⟩
        exact ⟨body, l, rfl, hl⟩
      · rintro ⟨hcause, n, -, hlt, hover⟩
        exact ⟨hcause, Nat.le_trans hover (Nat.mul_le_mul_left _ (by omega))⟩
  · rw [dispatch, hbody]
    exact exists_tells_fault hwork hretry ⟨k, hpos, by omega, hover⟩

/-- A type that may be repeated 1001 times. -/
def stubbornManifest : Manifest where
  type := "stubborn"
  version := "1"
  category := .transform
  retry := 1001

/-- **Delays that are not told as they are, and one that cannot be counted**: after the longest base
delay and with a body that keeps failing. What is told after the second attempt is less than twice
the base delay, and after attempt number 1001 there is a fault. -/
theorem stubborn_delays_not_exact :
    let base : UInt64 := 18446744073709551615
    let body : Body Unit := fun _ _ _ => .done (.error (.failed "x" none))
    let registry : Registry (Body Unit) :=
      ⟨.ofList [("stubborn", ⟨stubbornManifest, some body⟩)]⟩
    let i : Invocation := ⟨⟨"exec", "g", "n", none⟩, stubbornManifest, .empty, .empty⟩
    (∃ told v, (dispatch registry base i).Tells told v ∧
        .retrying 2 18446744073709551614 "Node execution failed: x" ∈ told) ∧
      (18446744073709551614 : UInt64).toNat ≠ base.toNat * 2 ∧
      ∃ told, (dispatch registry base i).Tells told (.fault .delayOverflow) := by
  intro base body registry i
  have hfailing : (body i.scope i.inputs i.config).Tells [] (.done (.error (.failed "x" none))) :=
    .stay _
  have hdispatch : dispatch registry base i =
      attemptFrom base (body i.scope i.inputs i.config) 1001 1 := rfl
  rw [hdispatch]
  refine ⟨?_, by decide, exists_tells_fault hfailing rfl ⟨1001, by decide, by decide, by decide⟩⟩
  have hsecond : (attemptFrom base (body i.scope i.inputs i.config) 1000 2).Tells _ _ :=
    tells_attemptFrom_succ hfailing rfl (by decide) (.stay _)
  have hfirst : (attemptFrom base (body i.scope i.inputs i.config) 1001 1).Tells _ _ :=
    tells_attemptFrom_succ hfailing rfl (by decide) hsecond
  exact ⟨_, _, hfirst, by decide +kernel⟩

end PortGraph.InProcess
