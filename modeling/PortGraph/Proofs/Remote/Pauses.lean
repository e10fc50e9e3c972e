import PortGraph.Proofs.InProcess
import PortGraph.Proofs.Work.Settles
import PortGraph.Remote.Polling

/-!
# Between two polls

Where the talk about a task may stop, whoever cancels the run: while the task is being submitted, in
a poll, or between two polls. A wait between two polls ends at the deadline at the latest, and a
poll is given up there. So the talk comes to its end if the submission does; of the polls it is only
asked that they come to no fault.

## Main definitions

* `Polling.pause`: the wait between two polls

## Main results

* `Polling.ends_dispatch`: a node that is run as a task comes to its end
* `Polling.cases_of_tells`: where it may have stopped
-/

namespace PortGraph.Polling

open Work

variable {κ : Type} {service : TaskService κ} {p : Polling} {taskId : String}
  {deadline start interval : Nat} {state : Task.State}

/-- The wait between two polls, until the next one is due. -/
def pause (service : TaskService κ) (p : Polling) (taskId : String) (deadline interval : Nat)
    (state : Task.State) (due : Nat) : Work κ DispatchNews Outcome :=
  .await (.instantOrCancelled due) fun m =>
    if due ≤ m.now then pollFrom service p taskId deadline due (p.grow interval) state
    else .done (.error .cancelled)

/-- What follows a poll that was due at `start`. -/
def afterPoll (service : TaskService κ) (p : Polling) (taskId : String)
    (deadline start interval : Nat) (state : Task.State)
    (reply? : Option (Except TransportError Task.Reply)) : Work κ DispatchNews Outcome :=
  (sayAll (progressAfter state reply?)).bind fun _ =>
    match p.outcome? taskId (stateAfter state reply?) with
    | some outcome => .done outcome
    | none =>
      .observe fun m => pause service p taskId deadline interval (stateAfter state reply?)
        (wake deadline (max m.now start) interval)

/-- A poll, given up at the deadline. -/
def poll (service : TaskService κ) (taskId : String) (deadline : Nat) :
    Work κ DispatchNews (Option (Except TransportError Task.Reply)) :=
  ((service.status taskId).mapNews Empty.elim).before deadline

theorem pollFrom_eq_of_lt (h : start < deadline) (interval : Nat) (state : Task.State) :
    pollFrom service p taskId deadline start interval state =
      .observe fun m =>
        if deadline ≤ m.now then .done (.error (.timeout taskId (UInt64.ofNat p.limit)))
        else (poll service taskId deadline).bind
          (afterPoll service p taskId deadline start interval state) := by
  rw [pollFrom, dif_pos h]
  rfl

theorem pollFrom_eq_of_le (h : deadline ≤ start) (interval : Nat) (state : Task.State) :
    pollFrom service p taskId deadline start interval state =
      .done (.error (.timeout taskId (UInt64.ofNat p.limit))) := by
  rw [pollFrom, dif_neg (Nat.not_lt.mpr h)]

/-! ### Runs that may be cancelled -/

/-- A poll ends at the deadline. -/
theorem ends_poll (hstatus : (service.status taskId).IsFaultless) (deadline : Nat) :
    (poll service taskId deadline).Ends := by
  rw [poll, before_mapNews]
  exact (hstatus.ends_before deadline).mapNews _

/-- Polling comes to its end if no poll comes to a fault. -/
theorem ends_pollFrom (hstatus : (service.status taskId).IsFaultless) (p : Polling)
    (deadline start interval : Nat) (state : Task.State) :
    (pollFrom service p taskId deadline start interval state).Ends := by
  -- The next poll is due later, and none after the deadline.
  induction hleft : deadline - start using Nat.strongRecOn generalizing start interval state with
  | ind left ih =>
    by_cases hlt : start < deadline
    · rw [pollFrom_eq_of_lt hlt]
      intro m
      dsimp only
      split
      · trivial
      · refine (ends_poll hstatus deadline).bind fun reply? => (ends_sayAll _).bind fun _ => ?_
        split
        · trivial
        · refine fun m' => ⟨rfl, fun m'' _ => ?_⟩
          dsimp only
          split
          · exact ih _ (hleft ▸ wake_bound hlt (Nat.le_max_right _ _)) _ _ _ rfl
          · trivial
    · rw [pollFrom_eq_of_le (Nat.le_of_not_lt hlt)]
      trivial

/-- The talk about a task comes to its end if the submission does and no poll comes to a fault. -/
theorem ends_runTask {i : Invocation} (hsubmit : (service.submit (request i)).Ends)
    (hstatus : ∀ taskId, (service.status taskId).IsFaultless) (p : Polling) :
    (runTask service p i).Ends := by
  intro m
  refine (hsubmit.mapNews _).bind fun receipt => ?_
  cases receipt with
  | error e => trivial
  | ok receipt => exact ends_pollFrom (hstatus receipt.taskId) _ _ _ _ _

/-- **A node that is run as a task comes to its end**, whoever cancels the run and whenever, if its
submission does and no poll comes to a fault. Polls need not be answered. -/
theorem ends_dispatch {c : RemoteConfig} {i : Invocation}
    (hsubmit : (service.submit (request i)).Ends)
    (hstatus : ∀ taskId, (service.status taskId).IsFaultless) :
    ((Backend.remote service c).dispatch i).Ends :=
  (ends_runTask hsubmit hstatus _).bind fun _ => trivial

/-! ### Where a node may have stopped -/

/-- What the service does is not told by itself. -/
theorem told_of_mapNews_elim {α : Type} {w : Work κ Empty α} {told : List DispatchNews}
    {v : Work κ DispatchNews α} (h : (w.mapNews Empty.elim).Tells told v) : told = [] := by
  obtain ⟨l, r, rfl, -, -⟩ := h.exists_of_mapNews
  cases l with
  | nil => rfl
  | cons news => exact news.elim

theorem told_poll {told : List DispatchNews}
    {v : Work κ DispatchNews (Option (Except TransportError Task.Reply))}
    (h : (poll service taskId deadline).Tells told v) : told = [] := by
  rw [poll, before_mapNews] at h
  exact told_of_mapNews_elim h

/-- A poll may tell of progress, but of no attempt. -/
theorem countP_progressAfter (state : Task.State)
    (reply? : Option (Except TransportError Task.Reply)) :
    (progressAfter state reply?).countP (·.marksAttempt) = 0 := by
  simp only [progressAfter]
  split
  · split <;> rfl
  · rfl

/-- What follows a poll has come to its end, or waits for the next poll. -/
theorem cases_of_tells_afterPoll {reply? : Option (Except TransportError Task.Reply)}
    {told : List DispatchNews} {v : Work κ DispatchNews Outcome}
    (h : (afterPoll service p taskId deadline start interval state reply?).Tells told v)
    (hstop : v.IsStopped) :
    (∃ o, v = .done o) ∨ ∃ state' now more, start ≤ now ∧
      told.countP (·.marksAttempt) = more.countP (·.marksAttempt) ∧
      (pause service p taskId deadline interval state' (wake deadline now interval)).Tells
        more v := by
  obtain ⟨r, hr, hsay, rfl⟩ | ⟨u, l, m, rfl, hsay, hmore⟩ := Tells.cases_bind h
  · exact absurd (told_sayAll hsay (hstop.of_bind hr)).2 (hr _)
  · obtain ⟨rfl, -⟩ := told_sayAll hsay trivial
    split at hmore
    · cases hmore
      exact .inl ⟨_, rfl⟩
    · cases hmore with
      | stay => exact hstop.elim
      | observe hpause =>
        refine .inr ⟨_, _, _, Nat.le_max_right _ _, ?_, hpause⟩
        rw [List.countP_append, countP_progressAfter, Nat.zero_add]

/-- After a wait the next poll is made, unless the run has been cancelled. -/
theorem cases_of_tells_pause {due : Nat} {told : List DispatchNews}
    {v : Work κ DispatchNews Outcome}
    (h : (pause service p taskId deadline interval state due).Tells told v) :
    told = [] ∧ v = pause service p taskId deadline interval state due ∨
      (pollFrom service p taskId deadline due (p.grow interval) state).Tells told v ∨
      ∃ o, v = .done o := by
  unfold pause at h
  cases h with
  | stay => exact .inl ⟨rfl, rfl⟩
  | await h =>
    dsimp only at h
    split at h
    · exact .inr (.inl h)
    · cases h
      exact .inr (.inr ⟨_, rfl⟩)

/-- **Where polling may have stopped**: in a poll, or between two, and no attempt has been told of;
or it has ended. -/
theorem cases_of_tells_pollFrom {told : List DispatchNews} {v : Work κ DispatchNews Outcome}
    (h : (pollFrom service p taskId deadline start interval state).Tells told v)
    (hstop : v.IsStopped) :
    (∃ l r K, (∀ a, r ≠ .done a) ∧ (poll service taskId deadline).Tells l r ∧ v = r.bind K) ∨
    (∃ interval state due, told.countP (·.marksAttempt) = 0 ∧
      v = pause service p taskId deadline interval state due) ∨
    ∃ o, v = .done o := by
  induction hleft : deadline - start using Nat.strongRecOn
    generalizing start interval state told with
  | ind left ih =>
    by_cases hlt : start < deadline
    · rw [pollFrom_eq_of_lt hlt] at h
      cases h with
      | stay => exact hstop.elim
      | observe h =>
        dsimp only at h
        split at h
        · cases h
          exact .inr (.inr ⟨_, rfl⟩)
        obtain ⟨r, hr, hpoll, rfl⟩ | ⟨reply?, l, m, rfl, hpoll, hafter⟩ := h.cases_bind
        · exact .inl ⟨_, r, _, hr, hpoll, rfl⟩
        obtain rfl := told_poll hpoll
        obtain hdone | ⟨state', now, more, hnow, hcount, hpause⟩ :=
          cases_of_tells_afterPoll hafter hstop
        · exact .inr (.inr hdone)
        rw [List.nil_append, hcount]
        obtain ⟨rfl, hv⟩ | hagain | hdone := cases_of_tells_pause hpause
        · exact .inr (.inl ⟨_, _, _, rfl, hv⟩)
        · exact ih _ (hleft ▸ wake_bound hlt hnow) hagain rfl
        · exact .inr (.inr hdone)
    · rw [pollFrom_eq_of_le (Nat.le_of_not_lt hlt)] at h
      cases h
      exact .inr (.inr ⟨_, rfl⟩)

/-- **Where a node that is run as a task may have stopped**: in the submission or in a poll, or
between two polls, the one submission being told of; or it has ended. -/
theorem cases_of_tells {i : Invocation} {told : List DispatchNews} {v : Work κ DispatchNews Outcome}
    (h : (runTask service p i).Tells told v) (hstop : v.IsStopped) :
    (∃ l r K, (∀ a, r ≠ .done a) ∧
      ((service.submit (request i)).mapNews Empty.elim).Tells l r ∧ v = r.bind K) ∨
    (∃ taskId deadline l r K, (∀ a, r ≠ .done a) ∧
      (poll service taskId deadline).Tells l r ∧ v = r.bind K) ∨
    (∃ taskId deadline interval state due, told.countP (·.marksAttempt) = 1 ∧
      v = pause service p taskId deadline interval state due) ∨
    ∃ o, v = .done o := by
  cases h with
  | stay => exact hstop.elim
  | observe h =>
    obtain ⟨r, hr, hsubmit, rfl⟩ | ⟨receipt, l, m, rfl, hsubmit, hreceipt⟩ := Tells.cases_bind h
    · exact .inl ⟨_, r, _, hr, hsubmit, rfl⟩
    obtain rfl := told_of_mapNews_elim hsubmit
    cases receipt with
    | error e =>
      cases hreceipt
      exact .inr (.inr (.inr ⟨_, rfl⟩))
    | ok receipt =>
      cases hreceipt with
      | stay => exact hstop.elim
      | tell hpolls =>
        obtain ⟨l, r, K, hr, hpoll, hv⟩ | ⟨interval, state, due, hcount, hv⟩ | hdone :=
          cases_of_tells_pollFrom hpolls hstop
        · exact .inr (.inl ⟨_, _, l, r, K, hr, hpoll, hv⟩)
        · refine .inr (.inr (.inl ⟨_, _, interval, state, due, ?_, hv⟩))
          rw [List.nil_append, List.countP_cons_of_pos rfl, hcount]
        · exact .inr (.inr (.inr hdone))

end PortGraph.Polling
