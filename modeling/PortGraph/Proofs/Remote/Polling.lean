import PortGraph.Remote.Polling
import PortGraph.Proofs.Table
import PortGraph.Proofs.Work.Ensures
import Mathlib.Logic.Function.Iterate

/-!
# The talk with a task service

How the talk about one task goes, for any behaviour of the task service: after any time it may
answer a poll with any status, fail to be reached, or not answer at all. Polls are made before the
deadline only, one after the other. The first reply with which the task ends, if it comes by the
deadline, is the end of the talk; without one the time runs out, at the deadline, or when the task
has been submitted if that takes longer. Nothing else ends the talk.

The behaviour of a service is a script. It may take into account at which instants it has been
polled, and that is all that one client shows to it.

## Main definitions

* `Task.Reply.EndsAs`: the outcome of a node whose task has ended with a reply
* `Polling.Script`: a behaviour of the task service
* `Polling.Talk`: the talk, poll by poll
* `Polling.Script.IsTalk`: what is said of a talk as a whole

## Main results

* `Polling.ensures_pollFrom_of`: the rule for polling, with what is known before each poll
* `Polling.ensures_pollFrom`: polling goes on as the talk does
* `Polling.Talk.isTalk`: what a talk comes to
* `Polling.run_runTask`: a node that is run as a task ends as the talk does
-/

namespace PortGraph

/-! ### Replies -/

namespace Task

/-- The task has ended. -/
def Reply.IsFinal (r : Reply) : Prop := r.status = .completed ∨ r.status = .failed

/-- The outcome of a node whose task has ended with the reply. -/
inductive Reply.EndsAs (taskId : String) (r : Reply) : Outcome → Prop
  /-- The members of an object are the output ports; of members with one name the last counts. -/
  | ports {members outputs} (hs : r.status = .completed) (hr : r.result = some (.obj members))
    (ho : ∀ port, outputs.get? port = Table.find? port members.reverse) :
    EndsAs taskId r (.ok outputs)
  | nothing (hs : r.status = .completed) (hr : r.result = none ∨ r.result = some .null) :
    EndsAs taskId r (.ok Table.empty)
  /-- Any other value is the port `result`. -/
  | value {v outputs} (hs : r.status = .completed) (hr : r.result = some v) (hnull : v ≠ .null)
    (hobj : ∀ members, v ≠ .obj members) (ho : outputs.entries = [("result", v)]) :
    EndsAs taskId r (.ok outputs)
  | failed (hs : r.status = .failed) :
    EndsAs taskId r (.error (.remoteFailed taskId
      (r.error.getD "task failed without an error message")))

theorem Reply.EndsAs.isFinal {taskId : String} {r : Reply} {o : Outcome} (h : r.EndsAs taskId o) :
    r.IsFinal := by
  cases h with
  | failed hs => exact .inr hs
  | ports hs | nothing hs | value hs => exact .inl hs

theorem Reply.endsAs_outputsOf {r : Reply} (taskId : String) (h : r.status = .completed) :
    r.EndsAs taskId (.ok (outputsOf r.result)) := by
  cases hr : r.result with
  | none => exact .nothing h (.inl hr)
  | some v =>
    cases v with
    | obj members => exact .ports h hr fun port => Table.get?_ofList members port
    | null => exact .nothing h (.inr hr)
    | bool | num | str | arr =>
      exact .value h hr (fun he => nomatch he) (fun _ he => nomatch he) rfl

end Task

namespace Polling

open Work

/-- A reply with which the task ends is the end of the node. -/
theorem outcome?_advance (p : Polling) (taskId : String) {s : Task.State} {r : Task.Reply}
    (hs : s.isTerminal = false) (hr : r.IsFinal) :
    ∃ o, p.outcome? taskId (s.advance r) = some o ∧ r.EndsAs taskId o := by
  simp only [Task.State.advance, hs, Bool.false_eq_true, if_false, Task.State.ofReply]
  rcases hr with hr | hr
  · simp only [hr, outcome?]
    exact ⟨_, rfl, Task.Reply.endsAs_outputsOf taskId hr⟩
  · simp only [hr, outcome?]
    exact ⟨_, rfl, .failed hr⟩

/-- Any other reply leaves the task open. -/
theorem isTerminal_advance {s : Task.State} {r : Task.Reply} (hs : s.isTerminal = false)
    (hr : ¬ r.IsFinal) : (s.advance r).isTerminal = false := by
  simp only [Task.Reply.IsFinal, not_or] at hr
  simp only [Task.State.advance, hs, Bool.false_eq_true, if_false, Task.State.ofReply]
  cases h : r.status <;> simp_all [Task.State.isTerminal]

theorem outcome?_eq_none (p : Polling) (taskId : String) {s : Task.State}
    (hs : s.isTerminal = false) : p.outcome? taskId s = none := by
  cases s <;> simp_all [Task.State.isTerminal, outcome?]

theorem outcome?_expire (p : Polling) (taskId : String) {s : Task.State}
    (hs : s.isTerminal = false) :
    p.outcome? taskId s.expire = some (.error (.timeout taskId (UInt64.ofNat p.limit))) := by
  simp [Task.State.expire, hs, outcome?]

/-- **What a poll leads to**: the deadline has come, or the task has ended, or polling goes on. -/
theorem outcome?_stateAfter (p : Polling) (taskId : String) {s : Task.State}
    (hs : s.isTerminal = false) (answer? : Option (Except TransportError Task.Reply)) :
    (answer? = none ∧ p.outcome? taskId (stateAfter s answer?) =
      some (.error (.timeout taskId (UInt64.ofNat p.limit)))) ∨
    (∃ reply o, answer? = some (.ok reply) ∧ reply.EndsAs taskId o ∧
      p.outcome? taskId (stateAfter s answer?) = some o) ∨
    ∃ answer, answer? = some answer ∧ (∀ reply, answer = .ok reply → ¬ reply.IsFinal) ∧
      (stateAfter s answer?).isTerminal = false ∧
      p.outcome? taskId (stateAfter s answer?) = none := by
  match answer? with
  | none => exact .inl ⟨rfl, outcome?_expire p taskId hs⟩
  | some (.error e) =>
    refine .inr (.inr ⟨_, rfl, ?_, hs, outcome?_eq_none p taskId hs⟩)
    exact fun _ h => nomatch h
  | some (.ok reply) =>
    by_cases hfinal : reply.IsFinal
    · obtain ⟨o, ho, hends⟩ := outcome?_advance p taskId hs hfinal
      exact .inr (.inl ⟨reply, o, rfl, hends, ho⟩)
    · have hopen := isTerminal_advance hs hfinal
      refine .inr (.inr ⟨_, rfl, ?_, hopen, outcome?_eq_none p taskId hopen⟩)
      rintro _ ⟨⟩
      exact hfinal

/-! ### Scripts -/

/-- A behaviour of the task service towards a client with one task. -/
structure Script where
  /-- How long the submission takes. -/
  submitDelay : Nat
  receipt : Task.Receipt
  /-- How long the answer to a poll takes and what it is, `none` if it never comes, given the
  instants of the polls so far, this one being the last. -/
  answer : List Nat → Option (Nat × Except TransportError Task.Reply)

namespace Script

variable (script : Script)

/-- The service that follows the script. It keeps the instants at which it has been polled. -/
def service : TaskService (List Nat) where
  submit _ := (sleep script.submitDelay).bind fun _ => .done (.ok script.receipt)
  status _ :=
    .observe fun m =>
      .consult (· ++ [m.now]) fun polls =>
        match script.answer (polls ++ [m.now]) with
        | some (delay, reply) => (sleep delay).bind fun _ => .done reply
        | none => .await ⟨none, false⟩ fun _ => .fault .stalled

/-- When poll number `k` is answered, and how. -/
def reply? (polls : List Nat) (k : Nat) : Option (Nat × Except TransportError Task.Reply) :=
  polls[k]?.bind fun instant =>
    (script.answer (polls.take (k + 1))).map fun a => (instant + a.1, a.2)

theorem reply?_append (polls : List Nat) (t : Nat) :
    script.reply? (polls ++ [t]) polls.length =
      (script.answer (polls ++ [t])).map fun a => (t + a.1, a.2) := by
  rw [reply?, List.getElem?_concat_length, Option.bind_some,
    List.take_of_length_le (Nat.le_of_eq (by simp))]

/-- Later polls make no difference to the answers before. -/
theorem reply?_of_isPrefix {polls polls' : List Nat} (h : polls <+: polls') {k : Nat}
    (hk : k < polls.length) : script.reply? polls' k = script.reply? polls k := by
  obtain ⟨rest, rfl⟩ := h
  rw [reply?, reply?, List.getElem?_append_left hk, List.take_append_of_le_length (by omega)]

end Script

/-! ### The talk, poll by poll -/

/-- The talk from the time `t` on, when there have been the polls `polls` and the next interval is
`interval`: the time at which it ends, all polls, and the outcome of the node. -/
inductive Talk (script : Script) (p : Polling) (taskId : String) (deadline : Nat) :
    Nat → Nat → List Nat → Nat → List Nat → Outcome → Prop
  /-- There is no time for another poll. -/
  | late {interval t polls} (h : deadline ≤ t) :
    Talk script p taskId deadline interval t polls t polls
      (.error (.timeout taskId (UInt64.ofNat p.limit)))
  /-- No answer comes in time. -/
  | silent {interval t polls} (h : t < deadline)
    (hreply : ∀ arrival reply, script.reply? (polls ++ [t]) polls.length = some (arrival, reply) →
      deadline < arrival) :
    Talk script p taskId deadline interval t polls deadline (polls ++ [t])
      (.error (.timeout taskId (UInt64.ofNat p.limit)))
  /-- The task has ended. -/
  | ended {interval t polls arrival reply o} (h : t < deadline)
    (hreply : script.reply? (polls ++ [t]) polls.length = some (arrival, .ok reply))
    (harrival : arrival ≤ deadline) (hends : reply.EndsAs taskId o) :
    Talk script p taskId deadline interval t polls arrival (polls ++ [t]) o
  /-- The task has not ended, or the service was not reached. -/
  | more {interval t polls arrival answer t' polls' o} (h : t < deadline)
    (hreply : script.reply? (polls ++ [t]) polls.length = some (arrival, answer))
    (harrival : arrival ≤ deadline) (hopen : ∀ reply, answer = .ok reply → ¬ reply.IsFinal)
    (rest : Talk script p taskId deadline (p.grow interval) (wake deadline arrival interval)
      (polls ++ [t]) t' polls' o) :
    Talk script p taskId deadline interval t polls t' polls' o

/-- A poll of a scripted service brings the answer if it comes by the deadline, and otherwise
nothing at the deadline. -/
theorem Script.ensures_status (script : Script) (taskId : String) {deadline t : Nat}
    {polls : List Nat} (ht : t < deadline) :
    ((script.service.status taskId).before deadline).Ensures (.alone _) () (fun t' polls' answer? =>
      polls' = polls ++ [t] ∧ match answer? with
        | some answer =>
          script.reply? (polls ++ [t]) polls.length = some (t', answer) ∧ t' ≤ deadline
        | none => t' = deadline ∧ ∀ arrival answer,
          script.reply? (polls ++ [t]) polls.length = some (arrival, answer) →
            deadline < arrival) t polls := by
  have hle := Nat.le_of_lt ht
  rintro m rfl - _ - rfl
  refine ⟨trivial, fun j hj => absurd rfl hj, ?_⟩
  rw [script.reply?_append]
  dsimp only
  cases script.answer (polls ++ [m.now]) with
  | none =>
    refine ensures_before_await hle (fun m _ _ hover => nomatch hover) fun _ _ _ => ?_
    exact ⟨rfl, rfl, fun _ _ h => nomatch h⟩
  | some a =>
    rintro m' hm' -
    refine ensures_before_await hle (fun m'' hm'' hle'' hover hdue _ => ?_) fun m'' hm'' hover => ?_
    · have hnow : m''.now = m.now + a.1 := by
        have := hdue _ rfl
        simp only [Wait.isOver, Wait.isDue, Wait.instant, Bool.or_false, Bool.false_and,
          decide_eq_true_eq] at this hover
        omega
      exact ⟨rfl, by rw [hnow]; rfl, hle''⟩
    · refine ⟨rfl, rfl, ?_⟩
      rintro _ _ ⟨⟩
      simpa [Wait.isOver, Wait.isDue, Wait.instant, hm', hm''] using hover

/-! ### The loop -/

section Loop

variable {ι κ : Type} {T : Terms ι κ} {i : ι} {P : Nat → κ → Outcome → Prop} {deadline t : Nat}
  {s : κ}

/-- After an interval, and at the deadline at the latest, polling goes on, unless the run is
cancelled before. -/
theorem ensures_wait (next : Nat → Work κ DispatchNews Outcome) {start interval : Nat}
    (hstart : start ≤ t) (ht : t ≤ deadline)
    (hcancel : T.mayCancel → ∀ t', P t' s (.error .cancelled))
    (hnext : (next (wake deadline t interval)).Ensures T i P (wake deadline t interval) s) :
    (Work.observe fun m =>
      let due := wake deadline (max m.now start) interval
      .await (.instantOrCancelled due) fun m =>
        if due ≤ m.now then next due else .done (.error .cancelled)).Ensures T i P t s := by
  rintro m rfl -
  dsimp only
  rw [Nat.max_eq_left hstart]
  intro m' hm' hover hdue hc
  dsimp only
  split
  · rename_i hle
    have hnow : m'.now = wake deadline m.now interval := by
      have hwake : m.now ≤ wake deadline m.now interval := by
        rw [wake]
        omega
      have := hdue _ rfl
      omega
    rw [hnow]
    exact hnext
  · rename_i hearly
    have hcancelled : m'.cancelled = true := by
      simpa [Wait.isOver, Wait.isDue, Wait.instantOrCancelled, hearly] using hover
    exact hcancel (hc hcancelled) m'.now

/-- **The rule for polling.** Let `K interval t s` be what is known when a poll is due at the time
`t` in the state `s`. If it is enough for what is to be ensured when there is no time for that poll
or when the run is cancelled before, and if the poll, given up at the deadline, brings what is to be
ensured or what is to be known before the next one, then polling ensures it. -/
theorem ensures_pollFrom_of {service : TaskService κ} {p : Polling} {taskId : String}
    {K : Nat → Nat → κ → Prop}
    (hcancel : T.mayCancel → ∀ interval due t s, K interval due s → P t s (.error .cancelled))
    (hlate : ∀ interval t s, K interval t s → deadline ≤ t →
      P t s (.error (.timeout taskId (UInt64.ofNat p.limit))))
    (hpoll : ∀ interval t s, K interval t s → t < deadline →
      ((service.status taskId).before deadline).Ensures T i (fun t' s' answer? =>
        match answer? with
        | some answer =>
          (∀ reply o, answer = .ok reply → reply.EndsAs taskId o → P t' s' o) ∧
            ((∀ reply, answer = .ok reply → ¬ reply.IsFinal) →
              K (p.grow interval) (wake deadline t' interval) s')
        | none => P t' s' (.error (.timeout taskId (UInt64.ofNat p.limit)))) t s)
    {start : Nat} (interval : Nat) {state : Task.State} (hstart : start ≤ t)
    (hstate : state.isTerminal = false) (hK : K interval t s) :
    (pollFrom service p taskId deadline start interval state).Ensures T i P t s := by
  induction hleft : deadline - start using Nat.strongRecOn
    generalizing start t s interval state with
  | ind left ih =>
    rw [pollFrom]
    split
    · rename_i hlt
      rintro m rfl -
      dsimp only
      split
      · rename_i hover
        exact hlate interval m.now s hK hover
      · rename_i hearly
        have ht := Nat.lt_of_not_le hearly
        rw [before_mapNews]
        have hthis := ((hpoll interval m.now s hK ht).of_before (Nat.le_of_lt ht)).ensures_le
        refine (hthis.mapNews _).bind fun t' s' answer? ⟨hle, ht', hanswer⟩ => ?_
        -- What is left to do when the poll has not ended the talk.
        have hmore {state' : Task.State} (hstate' : state'.isTerminal = false)
            (hK' : K (p.grow interval) (wake deadline t' interval) s') :=
          ensures_wait (fun due =>
            pollFrom service p taskId deadline due (p.grow interval) state')
            (Nat.le_trans hstart hle) ht' (fun hmay _ => hcancel hmay _ _ _ _ hK')
            (ih _ (hleft ▸ wake_bound hlt (Nat.le_trans hstart hle)) _ (Nat.le_refl _) hstate' hK'
              rfl)
        refine (ensures_sayAll _ _ _).bind ?_
        rintro _ _ ⟨⟩ ⟨rfl, rfl⟩
        obtain ⟨rfl, ho⟩ | ⟨reply, o, rfl, hends, ho⟩ | ⟨answer, rfl, hopen, hstate', ho⟩ :=
          outcome?_stateAfter p taskId hstate answer?
        · rw [ho]
          exact hanswer
        · rw [ho]
          exact hanswer.1 reply o rfl hends
        · rw [ho]
          exact hmore hstate' (hanswer.2 hopen)
    · rename_i hnot
      exact hlate interval t s hK (Nat.le_trans (Nat.le_of_not_lt hnot) hstart)

end Loop

/-- **Polling goes on as the talk does.** -/
theorem ensures_pollFrom (script : Script) (p : Polling) (taskId : String) {deadline start t : Nat}
    (interval : Nat) (polls : List Nat) {state : Task.State} (hstart : start ≤ t)
    (hstate : state.isTerminal = false) :
    (pollFrom script.service p taskId deadline start interval state).Ensures (.alone _) ()
      (Talk script p taskId deadline interval t polls) t polls := by
  -- Before each poll, the rest of the talk makes up for the whole of it.
  refine ensures_pollFrom_of
    (K := fun interval' t' polls' => ∀ ended made o,
      Talk script p taskId deadline interval' t' polls' ended made o →
        Talk script p taskId deadline interval t polls ended made o)
    (fun h => False.elim h) (fun _ t' _ hrest hlate => hrest _ _ _ (.late hlate))
    (fun interval' t' polls' hrest ht => ?_) interval hstart hstate fun _ _ _ h => h
  refine (script.ensures_status taskId ht).mono fun arrival _ answer? ⟨hpolls, hanswer⟩ => ?_
  subst hpolls
  match answer?, hanswer with
  | none, ⟨hnow, hsilent⟩ =>
    subst hnow
    exact hrest _ _ _ (.silent ht hsilent)
  | some answer, ⟨hreply, harrival⟩ =>
    refine ⟨fun reply o hok hends => ?_, fun hopen ended made o htalk => ?_⟩
    · subst hok
      exact hrest _ _ _ (.ended ht hreply harrival hends)
    · exact hrest _ _ _ (.more ht hreply harrival hopen htalk)

/-- A node that is run as a task ends as the talk does. -/
theorem ensures_runTask (script : Script) (p : Polling) (i : Invocation) (t : Nat) :
    (runTask script.service p i).Ensures (.alone _) ()
      (Talk script p script.receipt.taskId (t + p.limit) p.interval (t + script.submitDelay) [])
      t [] := by
  rintro m rfl -
  have hsubmit : (script.service.submit (request i)).Ensures (.alone _) () (fun t polls receipt =>
      t = m.now + script.submitDelay ∧ polls = [] ∧ receipt = .ok script.receipt) m.now [] := by
    refine (ensures_sleep _ _ _).bind ?_
    rintro _ _ _ ⟨rfl, rfl⟩
    exact ⟨rfl, rfl, rfl⟩
  refine (hsubmit.mapNews _).bind ?_
  rintro _ _ _ ⟨rfl, rfl, rfl⟩
  exact ensures_pollFrom script p _ _ _ (Nat.le_add_right _ _) rfl

/-! ### The end of the talk -/

section Settles

variable {κ : Type} {service : TaskService κ} {I : κ → Prop}

/-- Polling comes to its end if each poll does when it is given up at the deadline. -/
theorem settles_pollFrom (p : Polling) {taskId : String} {deadline : Nat}
    (hstatus : ((service.status taskId).before deadline).Settles I fun _ => True)
    (start interval : Nat) (state : Task.State) :
    (pollFrom service p taskId deadline start interval state).Settles I fun _ => True := by
  induction hleft : deadline - start using Nat.strongRecOn generalizing start interval state with
  | ind left ih =>
    rw [pollFrom]
    split
    · rename_i hlt
      intro m _
      dsimp only
      split
      · trivial
      · rw [before_mapNews]
        refine (hstatus.mapNews _).bind fun answer? _ => ?_
        refine (settles_sayAll _).bind fun _ _ => ?_
        split
        · trivial
        · refine fun m' _ => ⟨rfl, fun m'' hm'' hover => ?_⟩
          have hdue : wake deadline (max m'.now start) interval ≤ m''.now := by
            simpa [Wait.isOver, Wait.isDue, Wait.instantOrCancelled, hm''] using hover
          dsimp only
          rw [if_pos hdue]
          refine ih _ ?_ _ _ _ rfl
          rw [← hleft]
          exact wake_bound hlt (Nat.le_max_right _ _)
    · trivial

/-- A node that is run as a task comes to its end if its submission and each poll do. -/
theorem settles_runTask (p : Polling) (i : Invocation)
    (hsubmit : (service.submit (request i)).Settles I fun _ => True)
    (hstatus : ∀ taskId deadline,
      ((service.status taskId).before deadline).Settles I fun _ => True) :
    (runTask service p i).Settles I fun _ => True := by
  intro m _
  refine (hsubmit.mapNews _).bind fun receipt _ => ?_
  cases receipt with
  | error e => trivial
  | ok receipt => exact settles_pollFrom p (hstatus _ _) _ _ _

theorem Script.settles_status (script : Script) (taskId : String) (deadline : Nat) :
    ((script.service.status taskId).before deadline).Settles (fun _ => True) fun _ => True := by
  intro m _ polls _
  refine ⟨trivial, ?_⟩
  dsimp only
  cases script.answer (polls ++ [m.now]) with
  | none => exact ⟨rfl, fun m' _ _ => trivial⟩
  | some a =>
    refine fun m' _ => ⟨rfl, fun m'' _ _ => ?_⟩
    dsimp only
    split <;> trivial

end Settles

/-! ### The talk as a whole -/

/-- What is said of a talk from poll number `n` on, which is due at `t` and followed by the interval
`interval`: of all polls, of the time at which the talk ends, and of the outcome of the node. -/
structure Script.IsTalk (script : Script) (p : Polling) (taskId : String)
    (deadline n interval t : Nat) (polls : List Nat) (ended : Nat) (o : Outcome) : Prop where
  /-- Polls are made before the deadline only. -/
  poll_lt : ∀ k instant, n ≤ k → polls[k]? = some instant → instant < deadline
  first : polls[n]? = if t < deadline then some t else none
  /-- If a poll is answered, but not with the end of the task, the next one is made after the
  interval, which has grown with each poll. -/
  next : ∀ k arrival answer, n ≤ k → script.reply? polls k = some (arrival, answer) →
    arrival ≤ deadline → (∀ reply, answer = .ok reply → ¬ reply.IsFinal) →
      polls[k + 1]? = if arrival + wholeMs (p.grow^[k - n] interval) < deadline
        then some (arrival + wholeMs (p.grow^[k - n] interval)) else none
  /-- A poll that is not answered by the deadline is the last one. -/
  silent : ∀ k, n ≤ k → k < polls.length →
    (∀ arrival answer, script.reply? polls k = some (arrival, answer) → deadline < arrival) →
      polls.length = k + 1
  /-- The end of the task is the end of the talk, when it is known. -/
  answered : ∀ k arrival reply, n ≤ k → script.reply? polls k = some (arrival, .ok reply) →
    arrival ≤ deadline → reply.IsFinal →
      ended = arrival ∧ reply.EndsAs taskId o ∧ polls.length = k + 1
  /-- If it does not become known, the time runs out. -/
  timeout : (∀ k arrival reply, n ≤ k → script.reply? polls k = some (arrival, .ok reply) →
    reply.IsFinal → deadline < arrival) →
      ended = max t deadline ∧ o = .error (.timeout taskId (UInt64.ofNat p.limit))

section Talk

variable {script : Script} {p : Polling} {taskId : String} {deadline interval t t' : Nat}
  {polls polls' : List Nat} {o : Outcome}

theorem Talk.isPrefix (h : Talk script p taskId deadline interval t polls t' polls' o) :
    polls <+: polls' := by
  induction h with
  | late => exact List.prefix_refl _
  | silent | ended => exact List.prefix_append _ _
  | more _ _ _ _ _ ih => exact (List.prefix_append _ _).trans ih

namespace Script

/-- Only polls that have been made are answered. -/
theorem lt_of_reply?_eq_some {k : Nat} {a : Nat × Except TransportError Task.Reply}
    (h : script.reply? polls k = some a) : k < polls.length := by
  obtain ⟨instant, hget, -⟩ := Option.bind_eq_some_iff.mp h
  exact (List.getElem?_eq_some_iff.mp hget).1

theorem eq_length_of_concat {k : Nat} (hk : polls.length ≤ k) (hlt : k < (polls ++ [t]).length) :
    k = polls.length := by
  rw [List.length_append, List.length_singleton] at hlt
  omega

/-- A talk without any more polls. -/
theorem isTalk_late (h : deadline ≤ t) : script.IsTalk p taskId deadline polls.length interval t
    polls t (.error (.timeout taskId (UInt64.ofNat p.limit))) where
  poll_lt k instant hk hget := absurd (List.getElem?_eq_some_iff.mp hget).1 (Nat.not_lt.mpr hk)
  first := by rw [List.getElem?_eq_none (Nat.le_refl _), if_neg (Nat.not_lt.mpr h)]
  next k arrival answer hk hreply := absurd (lt_of_reply?_eq_some hreply) (Nat.not_lt.mpr hk)
  silent k hk hlt := absurd hlt (Nat.not_lt.mpr hk)
  answered k arrival reply hk hreply := absurd (lt_of_reply?_eq_some hreply) (Nat.not_lt.mpr hk)
  timeout _ := ⟨(Nat.max_eq_left h).symm, rfl⟩

/-- A talk with one more poll. -/
theorem isTalk_last (ht : t < deadline)
    (hclosed : ∀ arrival answer,
      script.reply? (polls ++ [t]) polls.length = some (arrival, answer) → arrival ≤ deadline →
        ∃ reply, answer = .ok reply ∧ reply.EndsAs taskId o ∧ t' = arrival)
    (htimeout : (∀ arrival reply,
      script.reply? (polls ++ [t]) polls.length = some (arrival, .ok reply) → reply.IsFinal →
        deadline < arrival) →
          t' = deadline ∧ o = .error (.timeout taskId (UInt64.ofNat p.limit))) :
    script.IsTalk p taskId deadline polls.length interval t (polls ++ [t]) t' o where
  poll_lt k instant hk hget := by
    obtain rfl := eq_length_of_concat hk (List.getElem?_eq_some_iff.mp hget).1
    rw [List.getElem?_concat_length] at hget
    cases hget
    exact ht
  first := by rw [List.getElem?_concat_length, if_pos ht]
  next k arrival answer hk hreply harrival hopen := by
    obtain rfl := eq_length_of_concat hk (lt_of_reply?_eq_some hreply)
    obtain ⟨reply, hanswer, hends, -⟩ := hclosed _ _ hreply harrival
    exact absurd hends.isFinal (hopen reply hanswer)
  silent k hk hlt _ := by
    rw [eq_length_of_concat hk hlt, List.length_append, List.length_singleton]
  answered k arrival reply hk hreply harrival _ := by
    obtain rfl := eq_length_of_concat hk (lt_of_reply?_eq_some hreply)
    obtain ⟨_, ⟨⟩, hends, hended⟩ := hclosed _ _ hreply harrival
    exact ⟨hended, hends, by rw [List.length_append, List.length_singleton]⟩
  timeout h := by
    rw [Nat.max_eq_right (Nat.le_of_lt ht)]
    exact htimeout fun arrival reply hreply hfinal =>
      h polls.length arrival reply (Nat.le_refl _) hreply hfinal

/-- A poll that does not end the talk, and then the rest of it. -/
theorem IsTalk.cons {arrival : Nat} {answer : Except TransportError Task.Reply} (ht : t < deadline)
    (hbegins : polls ++ [t] <+: polls')
    (hreply : script.reply? (polls ++ [t]) polls.length = some (arrival, answer))
    (harrival : arrival ≤ deadline) (hopen : ∀ reply, answer = .ok reply → ¬ reply.IsFinal)
    (h : script.IsTalk p taskId deadline (polls ++ [t]).length (p.grow interval)
      (wake deadline arrival interval) polls' t' o) :
    script.IsTalk p taskId deadline polls.length interval t polls' t' o := by
  rw [List.length_append, List.length_singleton] at h
  have hlen : polls.length < (polls ++ [t]).length := by simp
  have hthis : script.reply? polls' polls.length = some (arrival, answer) := by
    rw [reply?_of_isPrefix script hbegins hlen, hreply]
  have hpoll : polls'[polls.length]? = some t := by
    obtain ⟨rest, rfl⟩ := hbegins
    rw [List.getElem?_append_left hlen, List.getElem?_concat_length]
  have hsplit {k : Nat} (hk : polls.length ≤ k) : k = polls.length ∨ polls.length + 1 ≤ k := by
    omega
  constructor
  case poll_lt =>
    intro k instant hk hget
    obtain rfl | hk := hsplit hk
    · cases hpoll.symm.trans hget
      exact ht
    · exact h.poll_lt k instant hk hget
  case first => rw [hpoll, if_pos ht]
  case next =>
    intro k arrival' answer' hk hreply' harrival' hopen'
    obtain rfl | hk := hsplit hk
    · cases hthis.symm.trans hreply'
      rw [h.first, Nat.sub_self, Function.iterate_zero_apply, wake]
      by_cases hdue : arrival + wholeMs interval < deadline
      · rw [Nat.min_eq_left (Nat.le_of_lt hdue)]
      · rw [if_neg (by omega), if_neg hdue]
    · have hgrown : k - polls.length = (k - (polls.length + 1)).succ := by omega
      rw [h.next k arrival' answer' hk hreply' harrival' hopen', hgrown,
        Function.iterate_succ_apply]
  case silent =>
    intro k hk hlt hsilent
    obtain rfl | hk := hsplit hk
    · exact absurd harrival (Nat.not_le.mpr (hsilent _ _ hthis))
    · exact h.silent k hk hlt hsilent
  case answered =>
    intro k arrival' reply hk hreply' harrival' hfinal
    obtain rfl | hk := hsplit hk
    · cases hthis.symm.trans hreply'
      exact absurd hfinal (hopen reply rfl)
    · exact h.answered k arrival' reply hk hreply' harrival' hfinal
  case timeout =>
    intro hnone
    obtain ⟨hended, ho⟩ := h.timeout fun k arrival reply hk => hnone k arrival reply (by omega)
    refine ⟨?_, ho⟩
    rw [hended, wake]
    omega

end Script

/-- **What a talk comes to.** -/
theorem Talk.isTalk (h : Talk script p taskId deadline interval t polls t' polls' o) :
    script.IsTalk p taskId deadline polls.length interval t polls' t' o := by
  induction h with
  | late hlate => exact Script.isTalk_late hlate
  | silent ht hsilent =>
    refine Script.isTalk_last ht (fun arrival answer hreply harrival => ?_) fun _ => ⟨rfl, rfl⟩
    exact absurd harrival (Nat.not_le.mpr (hsilent _ _ hreply))
  | ended ht hreply harrival hends =>
    refine Script.isTalk_last ht (fun arrival' answer hreply' _ => ?_) fun hnone => ?_
    · cases hreply.symm.trans hreply'
      exact ⟨_, rfl, hends, rfl⟩
    · exact absurd harrival (Nat.not_le.mpr (hnone _ _ hreply hends.isFinal))
  | more ht hreply harrival hopen rest ih => exact .cons ht rest.isPrefix hreply harrival hopen ih

end Talk

/-- **A node that is run as a task ends as the talk does.** Whatever the timing that is asked for,
and however the task service behaves once it has accepted the submission: if nobody cancels the run,
the node comes to its end, at the time and with the outcome that the first reply with the end of the
task leads to, or else by running out of time. -/
theorem run_runTask (script : Script) (c : RemoteConfig) (i : Invocation) (now : Nat) :
    ∃ after o, (runTask script.service (.ofConfig c) i).run (.start now []) = .ok (after, o) ∧
      script.IsTalk (.ofConfig c) script.receipt.taskId (now + c.limit) 0
        (Polling.ofConfig c).interval (now + script.submitDelay) after.state after.now o := by
  have hcalm : (World.start now [] : World (List Nat) DispatchNews).IsCalm fun _ => True :=
    ⟨rfl, rfl, trivial⟩
  have hsubmit : (script.service.submit (request i)).Settles (fun _ => True) fun _ => True :=
    (settles_sleep _).bind fun _ _ => trivial
  obtain ⟨after, o, hrun, -, -⟩ :=
    (settles_runTask (.ofConfig c) i hsubmit script.settles_status).run hcalm
  have hmeets : (World.start now [] : World (List Nat) DispatchNews).Meets (.alone _) :=
    ⟨trivial, (nomatch ·), (nomatch ·)⟩
  obtain ⟨-, _, rfl, htalk⟩ := (ensures_runTask script (.ofConfig c) i now).run hmeets rfl hrun
  exact ⟨after, o, hrun, htalk.isTalk⟩

end Polling

end PortGraph
