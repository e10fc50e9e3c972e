import PortGraph.Proofs.Remote.Intervals
import PortGraph.Proofs.Remote.Pauses
import PortGraph.Proofs.Remote.Polling
import PortGraph.Proofs.Work.Ghosts
import Mathlib.Data.Rat.Floor

/-!
# How often a task service is polled

How often a client with one task polls the service, and when, for any configuration of the timing
and whatever the service does: it may take any time, change its state, fail, not answer at all, or
even cancel the run, as may others. A client that is to be watched is given a timesheet, which notes
when it polls and when it is answered.

A poll is made before the deadline, and but for the first one it follows the answer to the one before
after an interval. That alone bounds the number of polls, since an interval that is followed by
another poll is shorter than a day and so does not shrink.

## Main definitions

* `Timed`: a state with a timesheet
* `TaskService.timed`: a service that keeps a timesheet of its polls
* `Timed.IsSheet`: when polls are made
* `Timed.IsUnhurried`: how often polls are made

## Main results

* `Timed.IsSheet.isUnhurried`: when polls are made bounds how often
* `Polling.ensures_timed`: a client polls as its timesheet says
* `Polling.isUnhurried_of_run`: polling cannot spin
-/

namespace PortGraph

open Work Polling

variable {κ ε α : Type}

/-! ### Timesheets -/

/-- A state with a timesheet: when polls have been made, and when they have been answered. -/
structure Timed (κ : Type) where
  host : κ
  polls : List Nat
  answers : List Nat

namespace Timed

/-- The same timesheet beside another state. -/
def withHost (host : κ) (s : Timed κ) : Timed κ := { s with host := host }

/-- Note a poll. -/
def polled (t : Nat) (s : Timed κ) : Timed κ := { s with polls := s.polls ++ [t] }

/-- Note an answer. -/
def answered (t : Nat) (s : Timed κ) : Timed κ := { s with answers := s.answers ++ [t] }

end Timed

/-- Note an answer when it comes. -/
def Work.noteAnswer (answer : α) : Work (Timed κ) ε α :=
  .observe fun m => .consult (·.answered m.now) fun _ => .done answer

/-- The same service with a timesheet of its polls. -/
def TaskService.timed (service : TaskService κ) : TaskService (Timed κ) where
  submit r := (service.submit r).within Timed.host Timed.withHost
  status taskId :=
    .observe fun m =>
      .consult (·.polled m.now) fun _ =>
        ((service.status taskId).within Timed.host Timed.withHost).bind noteAnswer

/-! ### When polls are made -/

namespace Timed

variable {c : RemoteConfig} {begun interval t : Nat} {w : Timed κ}

/-- When polls are made: before the deadline, and one after the other, an interval after the answer
to the one before. -/
structure IsSheet (c : RemoteConfig) (begun : Nat) (w : Timed κ) : Prop where
  inTime : ∀ s ∈ w.polls, begun ≤ s ∧ s < begun + c.limit
  follows : ∀ k t, w.polls[k + 1]? = some t → ∃ s e, w.polls[k]? = some s ∧
    w.answers[k]? = some e ∧ s ≤ e ∧ t = e + wholeMs (c.waitAt k)

/-- How often polls are made. The interval of the wait after poll number `k`, which the wait takes
rounded up to whole milliseconds, is between the two that are configured, and the intervals do not
decrease; polls begin at least the least interval apart; and there are no more of them than such
intervals in the time that a task may take. -/
structure IsUnhurried (c : RemoteConfig) (w : Timed κ) : Prop where
  interval_ge : ∀ k < w.polls.length, max c.pollIntervalMs.toNat 1 * perMs ≤ c.waitAt k
  interval_le : ∀ k < w.polls.length,
    c.waitAt k ≤ max c.maxPollIntervalMs.toNat (max c.pollIntervalMs.toNat 1) * perMs
  interval_mono : ∀ k, k + 1 < w.polls.length → c.waitAt k ≤ c.waitAt (k + 1)
  waited : ∀ k t, w.polls[k + 1]? = some t →
    ∃ e, w.answers[k]? = some e ∧ t = e + wholeMs (c.waitAt k)
  apart : ∀ k s t, w.polls[k]? = some s → w.polls[k + 1]? = some t →
    s + max c.pollIntervalMs.toNat 1 ≤ t
  few : w.polls.length ≤
    ⌈((min c.timeoutMs.toNat 86400000 : Nat) : ℚ) / (max c.pollIntervalMs.toNat 1 : Nat)⌉₊

/-- A wait is no shorter than its interval. -/
theorem le_wholeMs (ns : Nat) : ns ≤ wholeMs ns * perMs := by
  have hdiv := Nat.div_add_mod (ns - 1) perMs
  have hmod := Nat.mod_lt (ns - 1) (show 0 < perMs by decide)
  rw [wholeMs, Nat.add_mul, Nat.mul_comm]
  omega

namespace IsSheet

/-- An interval that another poll follows is shorter than a day. -/
theorem waitAt_le (h : w.IsSheet c begun) {k : Nat} (hk : k + 1 < w.polls.length) :
    c.waitAt k ≤ RemoteConfig.longestMs * perMs := by
  obtain ⟨s, e, hs, -, hse, ht⟩ := h.follows k _ (List.getElem?_eq_getElem hk)
  have hbegun := (h.inTime s (List.mem_of_getElem? hs)).1
  have hend := (h.inTime _ (List.getElem_mem hk)).2
  have hlimit : c.limit ≤ RemoteConfig.longestMs := Nat.min_le_right _ _
  exact (le_wholeMs _).trans (Nat.mul_le_mul_right _ (by omega))

theorem interval_ge (h : w.IsSheet c begun) {k : Nat} (hk : k < w.polls.length) :
    max c.pollIntervalMs.toNat 1 * perMs ≤ c.waitAt k := by
  induction k with
  | zero => exact c.waitAt_zero.ge
  | succ k ih => exact (ih (by omega)).trans (c.waitAt_le_succ (h.waitAt_le hk))

theorem apart (h : w.IsSheet c begun) {k s t : Nat} (hs : w.polls[k]? = some s)
    (ht : w.polls[k + 1]? = some t) : s + max c.pollIntervalMs.toNat 1 ≤ t := by
  obtain ⟨s', e, hs', -, hse, rfl⟩ := h.follows k t ht
  cases hs.symm.trans hs'
  have hk : k < w.polls.length := (List.getElem?_eq_some_iff.mp hs).1
  have hle := (h.interval_ge hk).trans (le_wholeMs _)
  have := Nat.le_of_mul_le_mul_right hle (show 0 < perMs by decide)
  omega

/-- The polls made so far take up as many intervals of the time. -/
theorem begun_add_le (h : w.IsSheet c begun) {k s : Nat} (hs : w.polls[k]? = some s) :
    begun + k * max c.pollIntervalMs.toNat 1 ≤ s := by
  induction k generalizing s with
  | zero =>
    rw [Nat.zero_mul]
    exact (h.inTime s (List.mem_of_getElem? hs)).1
  | succ k ih =>
    obtain ⟨r, -, hr, -⟩ := h.follows k s hs
    have hle := ih hr
    have hapart := h.apart hr hs
    rw [Nat.succ_mul]
    omega

/-- **When polls are made bounds how often.** -/
theorem isUnhurried (h : w.IsSheet c begun) : w.IsUnhurried c where
  interval_ge _ hk := h.interval_ge hk
  interval_le k _ := c.waitAt_le k
  interval_mono _ hk := c.waitAt_le_succ (h.waitAt_le hk)
  waited k t ht :=
    have ⟨_, e, _, he, _, ht⟩ := h.follows k t ht
    ⟨e, he, ht⟩
  apart _ _ _ hs ht := h.apart hs ht
  few := by
    obtain hnil | hpos := Nat.eq_zero_or_pos w.polls.length
    · rw [hnil]
      exact Nat.zero_le _
    obtain ⟨n, hn⟩ : ∃ n, w.polls.length = n + 1 := ⟨w.polls.length - 1, by omega⟩
    have hlast : w.polls[n]? = some w.polls[n] := List.getElem?_eq_getElem (by omega)
    have hle := h.begun_add_le hlast
    have hlt := (h.inTime _ (List.mem_of_getElem? hlast)).2
    have hinterval : 0 < max c.pollIntervalMs.toNat 1 := by omega
    rw [hn, Nat.succ_le_iff, Nat.lt_ceil, lt_div_iff₀ (Nat.cast_pos.mpr hinterval)]
    have hlimit : n * max c.pollIntervalMs.toNat 1 < c.limit := by omega
    exact_mod_cast hlimit

end IsSheet

/-- What is known when a poll is due. -/
structure IsDue (c : RemoteConfig) (begun interval t : Nat) (w : Timed κ) : Prop where
  isSheet : w.IsSheet c begun
  length_answers : w.answers.length = w.polls.length
  interval_eq : interval = c.waitAt w.polls.length
  begun_le : begun ≤ t
  last : ∀ k, w.polls.length = k + 1 → ∃ s e, w.polls[k]? = some s ∧ w.answers[k]? = some e ∧
    s ≤ e ∧ t = wake (begun + c.limit) e (c.waitAt k)

/-- Before the first poll. -/
theorem isDue_nil (host : κ) (h : begun ≤ t) :
    IsDue c begun (ofConfig c).interval t ⟨host, [], []⟩ where
  isSheet := ⟨fun _ h => (nomatch h), fun _ _ h => (nomatch h)⟩
  length_answers := rfl
  interval_eq := rfl
  begun_le := h
  last _ h := (nomatch h)

namespace IsDue

variable {host : κ} {e : Nat}

/-- A poll that is made before the deadline. -/
theorem isSheet_polled (h : w.IsDue c begun interval t) (ht : t < begun + c.limit) :
    IsSheet c begun ⟨host, w.polls ++ [t], w.answers⟩ where
  inTime s hs := by
    rcases List.mem_append.mp hs with hs | hs
    · exact h.isSheet.inTime s hs
    · cases List.mem_singleton.mp hs
      exact ⟨h.begun_le, ht⟩
  follows k u hu := by
    have hk : k + 1 < w.polls.length + 1 := by
      have := (List.getElem?_eq_some_iff.mp hu).1
      rwa [List.length_append, List.length_singleton] at this
    have hbefore : (w.polls ++ [t])[k]? = w.polls[k]? := List.getElem?_append_left (by omega)
    rw [hbefore]
    obtain hlt | hlast := Nat.lt_or_ge (k + 1) w.polls.length
    · rw [List.getElem?_append_left hlt] at hu
      exact h.isSheet.follows k u hu
    · -- The wait has come to its end before the deadline, so it was not cut short.
      have hlen : w.polls.length = k + 1 := by omega
      obtain ⟨s, e, hs, he, hse, hwake⟩ := h.last k hlen
      rw [← hlen, List.getElem?_concat_length, Option.some.injEq] at hu
      refine ⟨s, e, hs, he, hse, ?_⟩
      rw [wake] at hwake
      omega

/-- Another answer makes no difference to when the polls have been made. -/
theorem isSheet_answered (h : IsSheet c begun ⟨host, w.polls ++ [t], w.answers⟩) :
    IsSheet c begun ⟨host, w.polls ++ [t], w.answers ++ [e]⟩ where
  inTime := h.inTime
  follows k u hu := by
    obtain ⟨s, e', hs, he, hse, hu⟩ := h.follows k u hu
    exact ⟨s, e', hs, List.getElem?_append_left (List.getElem?_eq_some_iff.mp he).1 ▸ he, hse, hu⟩

/-- Before the next poll. -/
theorem next (h : w.IsDue c begun interval t) (ht : t < begun + c.limit) (hte : t ≤ e) :
    IsDue c begun ((ofConfig c).grow interval) (wake (begun + c.limit) e interval)
      ⟨host, w.polls ++ [t], w.answers ++ [e]⟩ where
  isSheet := isSheet_answered (h.isSheet_polled ht)
  length_answers := by simp [h.length_answers]
  interval_eq := by rw [h.interval_eq, ← c.waitAt_succ, List.length_append, List.length_singleton]
  begun_le := by
    have := h.begun_le
    rw [wake]
    omega
  last k hk := by
    have hlen : w.polls.length = k := by simpa using hk
    refine ⟨t, e, ?_, ?_, hte, by rw [h.interval_eq, hlen]⟩
    · rw [← hlen, List.getElem?_concat_length]
    · rw [← hlen, ← h.length_answers, List.getElem?_concat_length]

end IsDue

end Timed

/-! ### What a client does -/

namespace Polling

/-- There is nobody else, and the run may be cancelled. -/
def atWill (σ : Type) : Terms Unit σ where
  invariant _ := True
  rely _ := Eq
  mayCancel := True
  refl _ _ := rfl
  trans _ _ _ _ := Eq.trans

/-- What a service does makes no difference to the timesheet. -/
theorem ensures_within (w : Work κ ε α) (t : Nat) (x : Timed κ) :
    (w.within Timed.host Timed.withHost).Ensures (atWill _) () (fun _ x' _ =>
      x'.polls = x.polls ∧ x'.answers = x.answers) t x := by
  induction w generalizing t x with
  | done a => exact ⟨rfl, rfl⟩
  | fault => trivial
  | observe next ih => exact fun m _ _ => ih m t x
  | tell news next ih => exact ih t x
  | cancel next ih => exact ⟨trivial, ih t x⟩
  | consult change next ih =>
    rintro x' - rfl
    exact ⟨trivial, fun j hj => absurd rfl hj, ih x.host t (x.withHost (change x.host))⟩
  | await w next ih => exact fun m _ _ _ _ => ih m m.now x
  | yield next ih => exact ih t x

/-- Nor does it when it is given up at a deadline, but that the answer is noted if it comes. -/
theorem ensures_noteAnswer (w : Work κ ε α) {t deadline : Nat} (ht : t ≤ deadline) (x : Timed κ) :
    (((w.within Timed.host Timed.withHost).bind noteAnswer).before deadline).Ensures (atWill _) ()
      (fun t' x' answer? => x'.polls = x.polls ∧
        x'.answers = if answer?.isSome then x.answers ++ [t'] else x.answers) t x := by
  induction w generalizing t x with
  | done a =>
    rintro m rfl - x' - rfl
    exact ⟨trivial, fun j hj => absurd rfl hj, rfl, rfl⟩
  | fault => trivial
  | observe next ih => exact fun m _ _ => ih m ht x
  | tell news next ih => exact ih ht x
  | cancel next ih => exact ⟨trivial, ih ht x⟩
  | consult change next ih =>
    rintro x' - rfl
    exact ⟨trivial, fun j hj => absurd rfl hj, ih x.host ht (x.withHost (change x.host))⟩
  | await w next ih =>
    exact ensures_before_await ht (fun m _ hdeadline _ _ _ => ih m hdeadline x) fun _ _ _ =>
      ⟨rfl, rfl⟩
  | yield next ih =>
    intro m _ _
    dsimp only
    split
    · exact ⟨rfl, rfl⟩
    · exact ih ht x

/-- **A client polls as its timesheet says.** -/
theorem ensures_timed (service : TaskService κ) (c : RemoteConfig) (i : Invocation) (t : Nat)
    (host : κ) :
    (runTask service.timed (ofConfig c) i).Ensures (atWill _) ()
      (fun _ x _ => x.IsSheet c t) t ⟨host, [], []⟩ := by
  rintro m rfl -
  refine ((ensures_within _ _ _).ensures_le.mapNews _).bind ?_
  rintro t ⟨host, polls, answers⟩ receipt ⟨hle, rfl, rfl⟩
  have hdue : Timed.IsDue c m.now (ofConfig c).interval t ⟨host, [], []⟩ := Timed.isDue_nil host hle
  cases receipt with
  | error e => exact hdue.isSheet
  | ok receipt =>
    refine ensures_pollFrom_of (K := Timed.IsDue c m.now) (fun _ _ _ _ _ h => h.isSheet)
      (fun _ _ _ h _ => h.isSheet) ?_ _ hle rfl hdue
    rintro interval t x h ht m' rfl - _ - rfl
    refine ⟨trivial, fun j hj => absurd rfl hj, ?_⟩
    refine (ensures_noteAnswer _ (Nat.le_of_lt ht) (x.polled m'.now)).ensures_le.mono ?_
    rintro e ⟨host', polls', answers'⟩ answer? ⟨hle', rfl, rfl⟩
    cases answer? with
    | none => exact h.isSheet_polled ht
    | some answer =>
      exact ⟨fun _ _ _ _ => Timed.IsDue.isSheet_answered (h.isSheet_polled ht),
        fun _ => h.next ht hle'⟩

/-! ### What the timesheet changes -/

/-- To be polled with a timesheet is to be polled. -/
theorem shows_status (service : TaskService κ) (taskId : String) :
    (service.timed.status taskId).Shows Timed.host (service.status taskId) := by
  have hnote (answer : Except TransportError Task.Reply) :
      (noteAnswer answer : Work (Timed κ) Empty _).Shows Timed.host (.done answer) :=
    .glance fun _ => .hidden (fun _ => rfl) fun _ => .done answer
  have hstatus : ((service.status taskId).within Timed.host Timed.withHost).Shows Timed.host
      (service.status taskId) := .of_within (fun _ _ => rfl) _
  have hpoll := hstatus.bind hnote
  rw [bind_done] at hpoll
  exact .glance fun _ => .hidden (fun _ => rfl) fun _ => hpoll

theorem shows_pollFrom (service : TaskService κ) (p : Polling) (taskId : String)
    (deadline start interval : Nat) (state : Task.State) :
    (pollFrom service.timed p taskId deadline start interval state).Shows Timed.host
      (pollFrom service p taskId deadline start interval state) := by
  induction hleft : deadline - start using Nat.strongRecOn generalizing start interval state with
  | ind left ih =>
    rcases Nat.lt_or_ge start deadline with hlt | hle
    · rw [pollFrom_eq_of_lt hlt, pollFrom_eq_of_lt hlt]
      refine .observe fun m => ?_
      split
      · exact .done _
      refine (((shows_status service taskId).mapNews _).before deadline).bind fun reply? => ?_
      refine (shows_sayAll _ _).bind fun _ => ?_
      split
      · exact .done _
      refine .observe fun m' => .await fun m'' => ?_
      split
      · exact ih _ (hleft ▸ wake_bound hlt (Nat.le_max_right _ _)) _ _ _ rfl
      · exact .done _
    · rw [pollFrom_eq_of_le hle, pollFrom_eq_of_le hle]
      exact .done _

/-- **A client with a timesheet does what it would do without.** -/
theorem shows_timed (service : TaskService κ) (p : Polling) (i : Invocation) :
    (runTask service.timed p i).Shows Timed.host (runTask service p i) := by
  refine .observe fun m => ((Shows.of_within (fun _ _ => rfl) _).mapNews _).bind fun receipt => ?_
  cases receipt with
  | error e => exact .done _
  | ok receipt => exact .tell (shows_pollFrom service p _ _ _ _ _)

/-! ### How often a service is polled -/

/-- **Polling cannot spin.** Whatever the timing that is asked for, whatever the task service does,
whoever cancels the run and whenever: a timesheet beside the run shows at its end that polls have
been made an interval apart at least, that there are no more of them than such intervals fit into
the time of the task, and that the intervals have kept within their bounds and never decreased. And
the run does come to its end if the submission does and no poll comes to a fault. -/
theorem isUnhurried_of_run (service : TaskService κ) (c : RemoteConfig) (i : Invocation)
    (world : World κ DispatchNews) :
    (∀ after o, (runTask service (ofConfig c) i).run world = .ok (after, o) →
      ∃ sheet, (runTask service.timed (ofConfig c) i).run (world.withState ⟨world.state, [], []⟩) =
          .ok (after.withState sheet, o) ∧ sheet.host = after.state ∧ sheet.IsUnhurried c) ∧
    ((service.submit (request i)).Ends → (∀ taskId, (service.status taskId).IsFaultless) →
      ∃ after o, (runTask service (ofConfig c) i).run world = .ok (after, o)) := by
  refine ⟨fun after o hrun => ?_, fun hsubmit hstatus => (ends_runTask hsubmit hstatus _).run world⟩
  obtain ⟨timed, htimed, rfl⟩ :=
    (shows_timed service (ofConfig c) i).exists_of_run (world.withState ⟨world.state, [], []⟩) hrun
  have hmeets : (world.withState (⟨world.state, [], []⟩ : Timed κ)).Meets (atWill _) :=
    ⟨trivial, fun _ => trivial, fun _ => trivial⟩
  obtain ⟨-, x, rfl, hsheet⟩ := (ensures_timed service c i world.now world.state).run hmeets rfl htimed
  exact ⟨timed.state, htimed, rfl, hsheet.isUnhurried⟩

/-! ### A service whose tasks stay pending -/

/-- A service that answers a poll after 10 ms: the task is still pending. -/
def idleService : TaskService Unit where
  submit _ := .done (.ok { taskId := "task", status := .pending })
  status _ := (sleep 10).bind fun _ => .done (.ok { status := .pending })

/-- Intervals of 250 ms that double with every poll, up to 300 ms, for a second. -/
def briskConfig : RemoteConfig where
  pollIntervalMs := 250
  timeoutMs := 1000
  pollBackoff := .finite ⟨false, Nat.pow 2 52, -51, by decide⟩
  maxPollIntervalMs := 300

/-- Such a task is polled four times, of which the last three follow waits of 250, 300 and
300 ms. -/
theorem isUnhurried_idleService :
    let i : Invocation := ⟨⟨"exec", "g", "n", none⟩, default, .empty, .empty⟩
    ∃ after o sheet, (runTask idleService (ofConfig briskConfig) i).run (.start 0 ()) =
        .ok (after, o) ∧
      (runTask idleService.timed (ofConfig briskConfig) i).run (.start 0 ⟨(), [], []⟩) =
        .ok (after.withState sheet, o) ∧
      sheet.polls = [0, 260, 570, 880] ∧ sheet.IsUnhurried briskConfig := by
  intro i
  obtain ⟨hsheet, hends⟩ := isUnhurried_of_run idleService briskConfig i (.start 0 ())
  obtain ⟨after, o, hrun⟩ := hends trivial fun _ m m' _ => trivial
  obtain ⟨sheet, htimed, -, hunhurried⟩ := hsheet after o hrun
  refine ⟨after, o, sheet, hrun, htimed, ?_, hunhurried⟩
  have hpolls : ((runTask idleService.timed (ofConfig briskConfig) i).run
      (.start 0 ⟨(), [], []⟩)).map (·.1.state.polls) = .ok [0, 260, 570, 880] := by decide +kernel
  rw [show World.start 0 (⟨(), [], []⟩ : Timed Unit) =
    (World.start 0 () : World Unit DispatchNews).withState ⟨(), [], []⟩ from rfl, htimed] at hpolls
  injection hpolls

end Polling

end PortGraph
