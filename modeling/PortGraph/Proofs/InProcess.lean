import PortGraph.InProcess
import PortGraph.Proofs.Work.Ends
import PortGraph.Proofs.Work.Ensures
import PortGraph.Proofs.Work.Telling

/-!
# Bodies in process

Repeating a failed attempt makes no difference to a body that computes a function: it fails again.
So a node that runs in process has the outcome of its body, as long as the delays between the
attempts can be counted. Beyond that, a node whose body keeps failing never comes to its end.

A node that has stopped on its way is in its body, or else between two attempts, of which it has
told as many as have failed.

## Main definitions

* `InProcess.backoff`: the wait between two attempts
* `DispatchNews.marksAttempt`: what is told of attempts
* `InProcess.IsOutcome`: what may come of a node

## Main results

* `InProcess.settles_dispatch`: a node has the outcome of its body
* `InProcess.ends_dispatch`: a node comes to its end, whoever cancels the run
* `InProcess.ensures_dispatch_of_eq_none`: no outcome at all after a delay that cannot be counted
* `InProcess.cases_of_tells`: where a node may have stopped
* `InProcess.attempts_of_tells`: how often a node is attempted
* `InProcess.isOutcome_of_tells`: where the outputs of a node come from
-/

namespace PortGraph

/-- Told of an attempt: one that has failed and will be repeated, or a task that was submitted. -/
def DispatchNews.marksAttempt : DispatchNews → Bool
  | .retrying .. | .submitted .. => true
  | .progress .. => false

namespace InProcess

open Work

variable {κ ι : Type} {J : κ → Prop} {base : UInt64}

/-- Shorter delays can be counted if longer ones can. -/
theorem isSome_delayMs?_of_le {j k : Nat} (hk : (delayMs? base k).isSome = true) (hjk : j ≤ k) :
    (delayMs? base j).isSome = true := by
  simp only [delayMs?] at hk ⊢
  have hle : base.toNat * j / 1000 ≤ base.toNat * k / 1000 :=
    Nat.div_le_div_right (Nat.mul_le_mul_left _ hjk)
  split at hk
  · rw [if_pos (by omega)]
    rfl
  · cases hk

/-- After a base delay of up to some `2 ^ 32` seconds, all delays can be counted. -/
theorem isSome_delayMs?_of_base_le (hbase : base.toNat ≤ 1000 * UInt32.size) (retry : UInt32) :
    (delayMs? base retry.toNat).isSome = true := by
  have hretry : retry.toNat < UInt32.size := retry.toNat_lt_size
  have hms : base.toNat * retry.toNat ≤ 1000 * UInt32.size * (UInt32.size - 1) :=
    Nat.mul_le_mul hbase (by omega)
  rw [delayMs?, if_pos]
  · rfl
  · simp only [UInt32.size, UInt64.size] at hms ⊢
    omega

/-- Attempts end with the outcome of the work if the delays between them can be counted. -/
theorem settles_attemptFrom {work : Work κ Report Outcome} {o : Outcome}
    (hwork : work.Settles J (· = o)) (left attempt : Nat)
    (hdelay : ∀ k, attempt ≤ k → k < attempt + left → (delayMs? base k).isSome = true) :
    (attemptFrom base work left attempt).Settles J fun d => d.result = o := by
  induction left generalizing attempt with
  | zero =>
    rw [attemptFrom]
    refine (hwork.mapNews _).bind ?_
    rintro result rfl
    cases result with
    | ok outputs => rfl
    | error e => rfl
  | succ left ih =>
    rw [attemptFrom]
    refine (hwork.mapNews _).bind ?_
    rintro result rfl
    cases result with
    | ok outputs => rfl
    | error e =>
      dsimp only
      split
      · rfl
      · obtain ⟨delay, hsome⟩ := Option.isSome_iff_exists.mp
          (hdelay attempt (Nat.le_refl _) (by omega))
        rw [hsome]
        refine fun m _ => ⟨rfl, fun m' hcalm hover => ?_⟩
        have hdue : m.now + delay ≤ m'.now := by
          simpa [Wait.isOver, Wait.isDue, Wait.instantOrCancelled, hcalm] using hover
        dsimp only
        rw [if_pos hdue]
        exact ih (attempt + 1) fun k hk hlt => hdelay k (by omega) (by omega)

/-- **A node that runs in process has the outcome of its body**, if the delays between as many
attempts as its type allows can be counted. -/
theorem settles_dispatch {registry : Registry (Body κ)} {i : Invocation} {body : Body κ}
    {o : Outcome} (hbody : registry.body? i.manifest.type = some body)
    (hwork : (body i.scope i.inputs i.config).Settles J (· = o))
    (hdelay : (delayMs? base i.manifest.retry.toNat).isSome = true) :
    (dispatch registry base i).Settles J fun d => d.result = o := by
  rw [dispatch, hbody]
  refine settles_attemptFrom hwork _ _ fun k _ hlt => isSome_delayMs?_of_le hdelay ?_
  have hmost : mostAttempts i.manifest.retry ≤ i.manifest.retry.toNat + 1 := Nat.min_le_left _ _
  omega

/-! ### Runs that may be cancelled -/

/-- Attempts come to an end, by cancellation between them or without, if the delays between them can
be counted. -/
theorem ends_attemptFrom {work : Work κ Report Outcome} (hwork : work.Ends) (left attempt : Nat)
    (hdelay : ∀ k, attempt ≤ k → k < attempt + left → (delayMs? base k).isSome = true) :
    (attemptFrom base work left attempt).Ends := by
  induction left generalizing attempt with
  | zero =>
    rw [attemptFrom]
    refine (hwork.mapNews _).bind fun result => ?_
    cases result with
    | ok outputs => trivial
    | error e => trivial
  | succ left ih =>
    rw [attemptFrom]
    refine (hwork.mapNews _).bind fun result => ?_
    cases result with
    | ok outputs => trivial
    | error e =>
      dsimp only
      split
      · trivial
      · obtain ⟨delay, hsome⟩ := Option.isSome_iff_exists.mp
          (hdelay attempt (Nat.le_refl _) (by omega))
        rw [hsome]
        refine fun m => ⟨rfl, fun m' _ => ?_⟩
        dsimp only
        split
        · exact ih (attempt + 1) fun k hk hlt => hdelay k (by omega) (by omega)
        · trivial

/-- **A node that runs in process comes to its end**, whoever cancels the run and whenever, if its
body does and the delays between as many attempts as its type allows can be counted. -/
theorem ends_dispatch {registry : Registry (Body κ)} {i : Invocation}
    (hbody : ∀ body, registry.body? i.manifest.type = some body →
      (body i.scope i.inputs i.config).Ends)
    (hdelay : (delayMs? base i.manifest.retry.toNat).isSome = true) :
    (dispatch registry base i).Ends := by
  rw [dispatch]
  split
  · trivial
  · rename_i body hsome
    refine ends_attemptFrom (hbody body hsome) _ _ fun k _ hlt => isSome_delayMs?_of_le hdelay ?_
    have hmost : mostAttempts i.manifest.retry ≤ i.manifest.retry.toNat + 1 := Nat.min_le_left _ _
    omega

/-! ### Delays that cannot be counted -/

/-- Attempts that all fail lead to no outcome if there is a delay among those between them that
cannot be counted. -/
theorem ensures_attemptFrom_of_eq_none {work : Work κ Report Outcome} {e : NodeError}
    (hwork : work.Settles J (· = .error e)) (hretry : e.isRetryable = true) {k : Nat}
    (hk : delayMs? base k = none) (left attempt : Nat) (hle : attempt ≤ k)
    (hlt : k < attempt + left) (i : ι) (t : Nat) (s : κ) :
    (attemptFrom base work left attempt).Ensures (.keeping ι J False) i (fun _ _ _ => False)
      t s := by
  induction left generalizing attempt t s with
  | zero => omega
  | succ left ih =>
    rw [attemptFrom]
    refine ((hwork.ensures t s).mapNews _).bind ?_
    rintro t s _ rfl
    dsimp only
    rw [hretry]
    cases hdelay : delayMs? base attempt with
    | none => trivial
    | some delay =>
      have hne : attempt ≠ k := by
        rintro rfl
        cases hk.symm.trans hdelay
      rintro m rfl -
      intro m' _ hover _ hc
      have hcalm : m'.cancelled = false := Bool.eq_false_iff.mpr hc
      have hdue : m.now + delay ≤ m'.now := by
        simpa [Wait.isOver, Wait.isDue, Wait.instantOrCancelled, hcalm] using hover
      dsimp only
      rw [if_pos hdue]
      exact ih (attempt + 1) (by omega) (by omega) _ _

/-- **A node whose body keeps failing never comes to its end** if there is a delay between its
attempts that cannot be counted, and nobody cancels the run. -/
theorem ensures_dispatch_of_eq_none {registry : Registry (Body κ)} {i : Invocation}
    {body : Body κ} {e : NodeError} (hbody : registry.body? i.manifest.type = some body)
    (hwork : (body i.scope i.inputs i.config).Settles J (· = .error e))
    (hretry : e.isRetryable = true) {k : Nat} (hpos : 1 ≤ k)
    (hlt : k < mostAttempts i.manifest.retry) (hk : delayMs? base k = none) (j : ι) (t : Nat)
    (s : κ) :
    (dispatch registry base i).Ensures (.keeping ι J False) j (fun _ _ _ => False) t s := by
  rw [dispatch, hbody]
  exact ensures_attemptFrom_of_eq_none hwork hretry hk _ _ hpos (by omega) j t s

/-! ### Where a node may have stopped -/

/-- The wait after attempt number `attempt` has failed, until the next one is due. -/
def backoff (base : UInt64) (work : Work κ Report Outcome) (left attempt due : Nat) :
    Work κ DispatchNews Dispatch :=
  .await (.instantOrCancelled due) fun m =>
    if due ≤ m.now then attemptFrom base work left (attempt + 1)
    else .done ⟨.error .cancelled, UInt32.ofNat attempt⟩

/-- What follows attempt number `attempt`. -/
def afterAttempt (base : UInt64) (work : Work κ Report Outcome) (left attempt : Nat) :
    Outcome → Work κ DispatchNews Dispatch
  | .ok outputs => .done ⟨.ok outputs, UInt32.ofNat attempt⟩
  | .error e =>
    match left with
    | 0 => .done ⟨.error e, UInt32.ofNat attempt⟩
    | left + 1 =>
      if !e.isRetryable then .done ⟨.error e, UInt32.ofNat attempt⟩
      else
        match delayMs? base attempt with
        | none => .fault .delayOverflow
        | some delay =>
          .tell (.retrying (UInt32.ofNat attempt) (UInt64.ofNat delay) e.message) <|
            .observe fun m => backoff base work left attempt (m.now + delay)

theorem attemptFrom_eq (base : UInt64) (work : Work κ Report Outcome) (left attempt : Nat) :
    attemptFrom base work left attempt =
      (work.mapNews .progress).bind (afterAttempt base work left attempt) := by
  cases left <;>
  · rw [attemptFrom]
    rfl

/-- A body tells of no attempts. -/
theorem countP_marksAttempt_of_tells {work : Work κ Report Outcome} {told : List DispatchNews}
    {v : Work κ DispatchNews Outcome} (h : (work.mapNews .progress).Tells told v) :
    told.countP (·.marksAttempt) = 0 := by
  obtain ⟨l, r, rfl, -, -⟩ := h.exists_of_mapNews
  simp [List.countP_map, Function.comp_def, DispatchNews.marksAttempt]

/-- What follows an attempt has come to its end, or tells of the attempt before it waits for the
next one. -/
theorem cases_of_tells_afterAttempt {work : Work κ Report Outcome} {left attempt : Nat}
    {o : Outcome} {told : List DispatchNews} {v : Work κ DispatchNews Dispatch}
    (h : (afterAttempt base work left attempt o).Tells told v) (hstop : v.IsStopped) :
    (∃ d, v = .done d) ∨ ∃ rest due news more, left = rest + 1 ∧ told = news :: more ∧
      news.marksAttempt = true ∧ (backoff base work rest attempt due).Tells more v := by
  cases o with
  | ok outputs =>
    cases h
    exact .inl ⟨_, rfl⟩
  | error e =>
    cases left with
    | zero =>
      cases h
      exact .inl ⟨_, rfl⟩
    | succ rest =>
      rw [afterAttempt] at h
      split at h
      · cases h
        exact .inl ⟨_, rfl⟩
      · split at h
        · cases h
          exact hstop.elim
        · cases h with
          | stay => exact hstop.elim
          | tell h =>
            cases h with
            | stay => exact hstop.elim
            | observe h => exact .inr ⟨rest, _, _, _, rfl, rfl, rfl, h⟩

/-- After a wait the next attempt is made, unless the run has been cancelled. -/
theorem cases_of_tells_backoff {work : Work κ Report Outcome} {left attempt due : Nat}
    {told : List DispatchNews} {v : Work κ DispatchNews Dispatch}
    (h : (backoff base work left attempt due).Tells told v) :
    told = [] ∧ v = backoff base work left attempt due ∨
      (attemptFrom base work left (attempt + 1)).Tells told v ∨ told = [] ∧ ∃ d, v = .done d := by
  unfold backoff at h
  cases h with
  | stay => exact .inl ⟨rfl, rfl⟩
  | await h =>
    dsimp only at h
    split at h
    · exact .inr (.inl h)
    · cases h
      exact .inr (.inr ⟨rfl, _, rfl⟩)

/-- **Where attempts may have stopped**: in an attempt, or between two, of which as many have been
told as have been made; or they have ended. -/
theorem cases_of_tells {work : Work κ Report Outcome} {left attempt : Nat}
    {told : List DispatchNews} {v : Work κ DispatchNews Dispatch}
    (h : (attemptFrom base work left attempt).Tells told v) (hstop : v.IsStopped) :
    (∃ k rest l r, (∀ o, r ≠ .done o) ∧ (work.mapNews .progress).Tells l r ∧
      v = r.bind (afterAttempt base work rest k)) ∨
    (∃ k rest due, k + rest < attempt + left ∧ told.countP (·.marksAttempt) + attempt = k + 1 ∧
      v = backoff base work rest k due) ∨
    ∃ d, v = .done d := by
  induction left using Nat.strongRecOn generalizing attempt told with
  | ind left ih =>
    rw [attemptFrom_eq] at h
    obtain ⟨r, hr, hwork, rfl⟩ | ⟨o, l, m, rfl, hwork, h⟩ := h.cases_bind
    · exact .inl ⟨attempt, left, told, r, hr, hwork, rfl⟩
    obtain hdone | ⟨rest, due, news, more, rfl, rfl, hnews, h⟩ :=
      cases_of_tells_afterAttempt h hstop
    · exact .inr (.inr hdone)
    have hcount : (l ++ news :: more).countP (·.marksAttempt) =
        more.countP (·.marksAttempt) + 1 := by
      rw [List.countP_append, countP_marksAttempt_of_tells hwork, Nat.zero_add,
        List.countP_cons_of_pos hnews]
    obtain ⟨rfl, rfl⟩ | h | ⟨-, hdone⟩ := cases_of_tells_backoff h
    · exact .inr (.inl ⟨attempt, rest, due, by omega, by rw [hcount, List.countP_nil]; omega, rfl⟩)
    · obtain hbody | ⟨k, others, due, hlt, hk, hv⟩ | hdone := ih rest (Nat.lt_succ_self rest) h
      · exact .inl hbody
      · exact .inr (.inl ⟨k, others, due, by omega, by omega, hv⟩)
      · exact .inr (.inr hdone)
    · exact .inr (.inr hdone)

/-! ### How a node has ended -/

/-- **How attempts have ended**: the last one that was made is one of those allowed, and what became
of it is the outcome of the work, unless the run was cancelled between two attempts. -/
theorem ended_of_tells_attemptFrom {work : Work κ Report Outcome} {left attempt : Nat}
    {told : List DispatchNews} {d : Dispatch}
    (h : (attemptFrom base work left attempt).Tells told (.done d)) :
    (∃ k, attempt ≤ k ∧ k ≤ attempt + left ∧ d.attempts = .ofNat k) ∧
      (d.result = .error .cancelled ∨ ∃ l, work.Tells l (.done d.result)) := by
  induction left generalizing attempt told with
  | zero =>
    rw [attemptFrom] at h
    obtain ⟨o, _, _, -, hwork, h⟩ := h.of_bind
    obtain ⟨l, -, hwork⟩ := hwork.of_mapNews
    cases o <;>
    · cases h
      exact ⟨⟨attempt, Nat.le_refl _, Nat.le_add_right _ _, rfl⟩, .inr ⟨l, hwork⟩⟩
  | succ left ih =>
    rw [attemptFrom] at h
    obtain ⟨o, _, _, -, hwork, h⟩ := h.of_bind
    obtain ⟨l, -, hwork⟩ := hwork.of_mapNews
    cases o with
    | ok outputs =>
      cases h
      exact ⟨⟨attempt, Nat.le_refl _, Nat.le_add_right _ _, rfl⟩, .inr ⟨l, hwork⟩⟩
    | error err =>
      dsimp only at h
      split at h
      · cases h
        exact ⟨⟨attempt, Nat.le_refl _, Nat.le_add_right _ _, rfl⟩, .inr ⟨l, hwork⟩⟩
      · split at h
        · cases h
        · cases h with
          | tell h =>
            cases h with
            | observe h =>
              cases h with
              | await h =>
                dsimp only at h
                split at h
                · obtain ⟨⟨k, hle, hge, hk⟩, hresult⟩ := ih h
                  exact ⟨⟨k, by omega, by omega, hk⟩, hresult⟩
                · cases h
                  exact ⟨⟨attempt, Nat.le_refl _, Nat.le_add_right _ _, rfl⟩, .inl rfl⟩

/-- **How often a node is attempted in process**: never if its type has no body, and otherwise at
least once and at most once more than it may be repeated. -/
theorem attempts_of_tells {registry : Registry (Body κ)} {i : Invocation}
    {told : List DispatchNews} {d : Dispatch}
    (h : (dispatch registry base i).Tells told (.done d)) :
    registry.body? i.manifest.type = none ∧ d = ⟨.error (.runtimeNotFound i.manifest.type), 0⟩ ∨
      (registry.body? i.manifest.type).isSome = true ∧ 1 ≤ d.attempts.toNat ∧
        d.attempts.toNat ≤ i.manifest.retry.toNat + 1 := by
  rw [dispatch] at h
  split at h
  · rename_i hnone
    cases h
    exact .inl ⟨hnone, rfl⟩
  · rename_i body hbody
    have hmost : mostAttempts i.manifest.retry ≤ i.manifest.retry.toNat + 1 := Nat.min_le_left _ _
    have hsize : mostAttempts i.manifest.retry ≤ UInt32.size - 1 := Nat.min_le_right _ _
    have hword : 1 < UInt32.size := by decide
    obtain ⟨⟨k, hle, hge, hk⟩, -⟩ := ended_of_tells_attemptFrom h
    rw [hk, UInt32.toNat_ofNat_of_lt' (by omega)]
    exact .inr ⟨by rw [hbody]; rfl, hle, by omega⟩

/-- The outputs are those of a body that is registered for the type. -/
def IsOutcome (registry : Registry (Body κ)) (m : Manifest) (inputs config : Fields)
    (o : Outcome) : Prop :=
  ∀ outputs, o = .ok outputs → ∃ body scope l, registry.body? m.type = some body ∧
    (body scope inputs config).Tells l (.done (.ok outputs))

/-- **A node that runs in process has no outputs but those of its body.** -/
theorem isOutcome_of_tells {registry : Registry (Body κ)} {i : Invocation}
    {told : List DispatchNews} {d : Dispatch}
    (h : (dispatch registry base i).Tells told (.done d)) :
    IsOutcome registry i.manifest i.inputs i.config d.result := by
  intro outputs hok
  rw [dispatch] at h
  split at h
  · cases h
    cases hok
  · rename_i body hbody
    obtain ⟨-, hcancelled | ⟨l, hwork⟩⟩ := ended_of_tells_attemptFrom h
    · cases hok.symm.trans hcancelled
    · exact ⟨body, i.scope, l, hbody, hok ▸ hwork⟩

end InProcess

end PortGraph
