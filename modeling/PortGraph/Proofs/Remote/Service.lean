import PortGraph.Proofs.Remote.Polling

/-!
# Task services that answer in time

A node that is run as a task has the outcome that the task service computes, if the service accepts
the task and, polled as it is, tells how the task has ended before the time is up. On the way there
it may say that the task is still pending or running, or fail to be reached, as often as it likes.

Other nodes use the service at the same time. So what is known of its state between two polls is
only what the others put up with, by the terms on which they share it.

## Main definitions

* `Task.Reply.Tells`: the reply tells of an outcome
* `TaskService.WillTell`: the service, when polled, will tell of an outcome in time
* `TaskService.Serves`: the service computes an outcome for an invocation

## Main results

* `TaskService.Serves.ensures_runTask`: the node has that outcome
* `TaskService.Serves.settles_runTask`: it comes to its end
-/

namespace PortGraph

open Work Polling

variable {ι κ : Type}

/-! ### Outcomes that are told of -/

/-- The reply tells that the task has ended with the outcome: outputs as the members of an object,
and a failure as such. -/
def Task.Reply.Tells (r : Task.Reply) : Outcome → Prop
  | .ok outputs => r.status = .completed ∧
    ∃ members, r.result = some (.obj members) ∧ Table.ofList members = outputs
  | .error _ => r.status = .failed

/-- The outcomes that a node may have when its task has ended with the outcome: the same outputs, or
the failure of the task. -/
def RemoteOutcome : Outcome → Outcome → Prop
  | .ok outputs, o => o = .ok outputs
  | .error _, o => ∃ taskId message, o = .error (.remoteFailed taskId message)

/-- A node has the outcome that is told of. -/
theorem Task.Reply.Tells.remoteOutcome {r : Task.Reply} {taskId : String} {o o' : Outcome}
    (h : r.Tells o) (hends : r.EndsAs taskId o') : RemoteOutcome o o' := by
  cases o with
  | error err =>
    have hfailed : r.status = .failed := h
    cases hends with
    | failed => exact ⟨_, _, rfl⟩
    | ports hs | nothing hs | value hs => simp [hs] at hfailed
  | ok outputs =>
    obtain ⟨hcompleted, members, hresult, rfl⟩ := h
    cases hends with
    | failed hs => simp [hs] at hcompleted
    | nothing _ hr => simp [hresult] at hr
    | value _ hr _ hobj =>
      cases hresult.symm.trans hr
      exact absurd rfl (hobj members)
    | ports _ hr ho =>
      cases hresult.symm.trans hr
      refine congrArg Except.ok (Table.ext_get? fun port => ?_)
      rw [ho, Table.get?_ofList]

/-! ### Services -/

/-- What a poll may bring on the way to a reply that tells of `o`: that reply, or else, in time, an
answer after which `next` is known. -/
def Leads (o : Outcome) (next : Prop) : Option (Except TransportError Task.Reply) → Prop
  | some (.ok reply) => reply.Tells o ∨ (¬ reply.IsFinal ∧ next)
  | some (.error _) => next
  | none => False

/-- The service will tell of `o` by the deadline, if it is polled for `i` from the time `t` on, when
the state last seen was `s`, the next interval being `interval`. -/
inductive TaskService.WillTell (service : TaskService κ) (T : Terms ι κ) (i : ι) (p : Polling)
    (taskId : String) (deadline : Nat) (o : Outcome) : Nat → Nat → κ → Prop
  | poll {interval t s} (next : Nat → κ → Prop) (ht : t < deadline)
    (hpoll : ((service.status taskId).before deadline).Ensures T i
      (fun t' s' answer? => Leads o (next (wake deadline t' interval) s') answer?) t s)
    (hnext : ∀ t s, next t s → WillTell service T i p taskId deadline o (p.grow interval) t s) :
    WillTell service T i p taskId deadline o interval t s

/-- The service computes the outcome `o` for an invocation: the submission and each poll come to
their end, the submission is accepted, and after it the service will tell of `o` before the time of
the task is up. -/
structure TaskService.Serves (service : TaskService κ) (T : Terms String κ) (p : Polling)
    (i : Invocation) (o : Outcome) : Prop where
  submit : (service.submit (request i)).Settles T.invariant fun _ => True
  status : ∀ taskId deadline,
    ((service.status taskId).before deadline).Settles T.invariant fun _ => True
  tells : ∀ t s, T.invariant s → (service.submit (request i)).Ensures T i.scope.nodeId
    (fun t' s' receipt => ∃ r, receipt = .ok r ∧
      service.WillTell T i.scope.nodeId p r.taskId (t + p.limit) o p.interval t' s') t s

namespace TaskService

variable {service : TaskService κ} {p : Polling} {o : Outcome}

/-- Polling a service that will tell of an outcome ends with it. -/
theorem WillTell.ensures_pollFrom {T : Terms ι κ} {i : ι} (hcalm : ¬ T.mayCancel)
    {taskId : String} {deadline interval start t : Nat} {s : κ} {state : Task.State}
    (h : service.WillTell T i p taskId deadline o interval t s) (hstart : start ≤ t)
    (hstate : state.isTerminal = false) :
    (pollFrom service p taskId deadline start interval state).Ensures T i
      (fun _ _ o' => RemoteOutcome o o') t s := by
  refine ensures_pollFrom_of
    (K := fun interval t s => service.WillTell T i p taskId deadline o interval t s)
    (fun hmay => absurd hmay hcalm)
    (fun interval t s h hlate => ?_) (fun interval t s h _ => ?_) interval hstart hstate h
  · obtain ⟨_, ht, -, -⟩ := h
    exact absurd hlate (Nat.not_le.mpr ht)
  · obtain ⟨next, ht, hpoll, hnext⟩ := h
    refine hpoll.mono fun t' s' answer? hleads => ?_
    match answer?, hleads with
    | some (.error e), hknown => exact ⟨fun _ _ h => (nomatch h), fun _ => hnext _ _ hknown⟩
    | some (.ok reply), hleads =>
      constructor
      · rintro _ o' ⟨⟩ hends
        exact (hleads.resolve_right fun h => h.1 hends.isFinal).remoteOutcome hends
      · intro hopen
        obtain htells | ⟨-, hknown⟩ := hleads
        · refine absurd ?_ (hopen reply rfl)
          cases o with
          | error => exact .inr htells
          | ok => exact .inl htells.1
        · exact hnext _ _ hknown

variable {T : Terms String κ} {i : Invocation}

/-- **A node that is run as a task has the outcome that the service computes.** -/
theorem Serves.ensures_runTask (h : service.Serves T p i o) (hcalm : ¬ T.mayCancel) (t : Nat)
    {s : κ} (hs : T.invariant s) :
    (runTask service p i).Ensures T i.scope.nodeId (fun _ _ o' => RemoteOutcome o o') t s := by
  rintro m rfl -
  refine (((h.tells m.now s hs).ensures_le).mapNews _).bind ?_
  rintro t' s' _ ⟨hle, receipt, rfl, htell⟩
  exact htell.ensures_pollFrom hcalm hle rfl

/-- It comes to its end. -/
theorem Serves.settles_runTask (h : service.Serves T p i o) :
    (runTask service p i).Settles T.invariant fun _ => True :=
  Polling.settles_runTask p i h.submit h.status

end TaskService

/-! ### A small service -/

/-- The reply that tells of an outcome. -/
def Task.Reply.ofOutcome : Outcome → Task.Reply
  | .ok outputs => { status := .completed, result := some (.ofFields outputs) }
  | .error err => { status := .failed, error := some err.message }

theorem Task.Reply.tells_ofOutcome (o : Outcome) : (Task.Reply.ofOutcome o).Tells o := by
  cases o with
  | error err => rfl
  | ok outputs => exact ⟨rfl, outputs.entries, rfl, outputs.ofList_entries⟩

namespace TaskService

/-- A service that keeps the outcome of each task under the id of its node, and whether it has been
asked for it. It says that a task is running when it is asked for the first time. -/
def sample (f : String → Fields → Fields → Outcome) : TaskService (Table (Outcome × Bool)) where
  submit r := .consult (·.insert r.nodeId (f r.type r.inputs r.config, false)) fun _ =>
    .done (.ok ⟨r.nodeId, .pending, none⟩)
  status taskId := .consult
    (fun s => match s.get? taskId with
      | some (o, _) => s.insert taskId (o, true)
      | none => s)
    fun s => .done (.ok (match s.get? taskId with
      | some (o, true) => .ofOutcome o
      | _ => { status := .running }))

/-- Each node is left its own task. -/
def sampleTerms : Terms String (Table (Outcome × Bool)) where
  invariant _ := True
  rely id s s' := s'.get? id = s.get? id
  mayCancel := False
  refl _ _ := rfl
  trans _ _ _ _ hab hbc := hbc.trans hab

/-- What a poll of the small service brings, and what it leaves behind. -/
theorem ensures_status_sample {f : String → Fields → Fields → Outcome} {id : String} {o : Outcome}
    {asked : Bool} {t D : Nat} {s : Table (Outcome × Bool)} (hs : s.get? id = some (o, asked)) :
    (((sample f).status id).before D).Ensures sampleTerms id (fun t' s' answer? =>
      t' = t ∧ s'.get? id = some (o, true) ∧
        answer? = some (.ok (if asked then .ofOutcome o else { status := .running }))) t s := by
  intro s' _ hrely
  have hs' : s'.get? id = some (o, asked) := hrely.trans hs
  simp only [hs']
  refine ⟨trivial, fun j hj => ?_, rfl, ?_, ?_⟩
  · show (s'.insert id (o, true)).get? j = s'.get? j
    rw [Table.get?_insert, if_neg hj]
  · rw [Table.get?_insert, if_pos rfl]
  · cases asked <;> rfl

/-- **The small service computes a function**, if there is time for a second poll. -/
theorem serves_sample (f : String → Fields → Fields → Outcome) {p : Polling}
    (hp : wholeMs p.interval < p.limit) (i : Invocation) :
    (sample f).Serves sampleTerms p i (f i.manifest.type i.inputs i.config) := by
  refine ⟨fun _ _ => ⟨trivial, trivial⟩, fun _ _ _ _ => ⟨trivial, trivial⟩, fun t s _ => ?_⟩
  intro s' _ _
  let id := i.scope.nodeId
  let o := f i.manifest.type i.inputs i.config
  have hsecond : wake (t + p.limit) t p.interval < t + p.limit := by
    rw [wake]
    omega
  refine ⟨trivial, fun j hj => ?_, _, rfl, ?_⟩
  · show (s'.insert id (o, false)).get? j = s'.get? j
    rw [Table.get?_insert, if_neg hj]
  · have hstart : (s'.insert id (o, false)).get? id = some (o, false) := by
      rw [Table.get?_insert, if_pos rfl]
    -- The first poll leaves the task as one that has been asked for, and the second one tells.
    refine .poll (fun t' s => t' = wake (t + p.limit) t p.interval ∧ s.get? id = some (o, true))
      (by omega) ((ensures_status_sample hstart).mono ?_) ?_
    · rintro _ s _ ⟨rfl, hs, rfl⟩
      exact .inr ⟨by simp [Task.Reply.IsFinal], rfl, hs⟩
    · rintro _ s ⟨rfl, hs⟩
      refine .poll (fun _ _ => False) hsecond ((ensures_status_sample hs).mono ?_)
        fun _ _ => False.elim
      rintro _ s _ ⟨-, -, rfl⟩
      exact .inl (Task.Reply.tells_ofOutcome o)

end TaskService

end PortGraph
