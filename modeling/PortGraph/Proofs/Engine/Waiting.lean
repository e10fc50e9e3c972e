import PortGraph.Proofs.Engine.Stages
import PortGraph.Proofs.Engine.Story
import PortGraph.Proofs.Remote.Pauses
import PortGraph.Proofs.Work.Heeding

/-!
# Where a node may wait

Nodes run in process or as tasks of a service. A node that has been dispatched and has stopped is
either inside, that is in its body or in a request to the service, or it waits: in process between
two attempts, and else between two polls. Inside it is not for the engine to say what cancellation
does. Where it waits it heeds cancellation: it has but to end, with as many attempts as it has told
of by then.

## Main definitions

* `Site`: where nodes run
* `Site.IsInside`: a node is in its body, or in a request
* `Site.IsWaiting`: a node waits between two attempts, or between two polls

## Main results

* `Site.cases_of_tells`: there is nowhere else to stop
* `Engine.heeds_of_isWaiting`: who waits heeds cancellation
* `Engine.cases_of_tells_execute`: where an execution may have stopped
-/

namespace PortGraph

variable {κ : Type}

/-! ### What has been dispatched -/

/-- Where nodes run: in process, with a delay after a first failed attempt, or as tasks. -/
inductive Site (κ : Type) where
  | inProcess (registry : Registry (Body κ)) (base : UInt64)
  | remote (service : TaskService κ) (c : RemoteConfig)

namespace Site

/-- The backend that runs nodes there. -/
def backend : Site κ → Backend κ
  | .inProcess registry base => .inProcess registry base
  | .remote service c => .remote service c

/-- A node that has been dispatched is in its body, in a submission or in a poll, of which `r` is
left. -/
inductive IsInside : Site κ → Invocation → Work κ DispatchNews Dispatch → Prop
  | body {registry base i body l r K} (hbody : registry.body? i.manifest.type = some body)
    (hr : ∀ o, r ≠ .done o)
    (h : ((body i.scope i.inputs i.config).mapNews .progress).Tells l r) :
    IsInside (.inProcess registry base) i (r.bind K)
  | submission {service c i l r K} (hr : ∀ a, r ≠ .done a)
    (h : ((service.submit (Polling.request i)).mapNews Empty.elim).Tells l r) :
    IsInside (.remote service c) i (r.bind K)
  | poll {service c i taskId deadline l r K} (hr : ∀ a, r ≠ .done a)
    (h : (Polling.poll service taskId deadline).Tells l r) :
    IsInside (.remote service c) i (r.bind K)

/-- A node that has been dispatched waits until `due` after so many attempts: for the next attempt,
or for the next poll of its task, which is the one attempt then. -/
inductive IsWaiting : Site κ → Invocation → (attempts due : Nat) →
    Work κ DispatchNews Dispatch → Prop
  | backoff {registry base i body left attempts due}
    (hbody : registry.body? i.manifest.type = some body) (hcount : attempts < UInt32.size) :
    IsWaiting (.inProcess registry base) i attempts due
      (InProcess.backoff base (body i.scope i.inputs i.config) left attempts due)
  | pause {service c i taskId deadline interval state due} :
    IsWaiting (.remote service c) i 1 due
      ((Polling.pause service (.ofConfig c) taskId deadline interval state due).bind fun result =>
        .done ⟨result, 1⟩)

variable {site : Site κ} {i : Invocation}

theorem IsWaiting.lt {attempts due : Nat} {w : Work κ DispatchNews Dispatch}
    (h : site.IsWaiting i attempts due w) : attempts < UInt32.size := by
  cases h with
  | backoff _ hcount => exact hcount
  | pause => decide

/-- **Who waits has but to end if the run is cancelled before the wait is over.** -/
theorem IsWaiting.exists_eq_await {attempts due : Nat} {w : Work κ DispatchNews Dispatch}
    (h : site.IsWaiting i attempts due w) :
    ∃ next, w = .await (.instantOrCancelled due) next ∧
      ∀ m, m.now < due → next m = .done ⟨.error .cancelled, UInt32.ofNat attempts⟩ := by
  cases h with
  | backoff => exact ⟨_, rfl, fun m hm => if_neg (Nat.not_le.mpr hm)⟩
  | pause =>
    refine ⟨_, rfl, fun m hm => ?_⟩
    dsimp only
    rw [if_neg (Nat.not_le.mpr hm)]
    rfl

theorem cases_of_tells_inProcess {registry : Registry (Body κ)} {base : UInt64}
    {told : List DispatchNews} {v : Work κ DispatchNews Dispatch}
    (h : (InProcess.dispatch registry base i).Tells told v) (hstop : v.IsStopped) :
    (inProcess registry base).IsInside i v ∨
      (∃ due, (inProcess registry base).IsWaiting i (told.countP (·.marksAttempt)) due v) ∨
      ∃ d, v = .done d := by
  rw [InProcess.dispatch] at h
  split at h
  · cases h
    exact .inr (.inr ⟨_, rfl⟩)
  rename_i body hbody
  obtain ⟨k, rest, l, r, hr, hwork, rfl⟩ | ⟨k, rest, due, hlt, hcount, rfl⟩ | hdone :=
    InProcess.cases_of_tells h hstop
  · exact .inl (.body hbody hr hwork)
  · refine .inr (.inl ⟨due, ?_⟩)
    have hk : told.countP (·.marksAttempt) = k := by omega
    have hmost : InProcess.mostAttempts i.manifest.retry ≤ UInt32.size - 1 := Nat.min_le_right _ _
    rw [hk]
    refine .backoff hbody ?_
    simp only [UInt32.size] at hmost ⊢
    omega
  · exact .inr (.inr hdone)

theorem cases_of_tells_remote {service : TaskService κ} {c : RemoteConfig}
    {told : List DispatchNews} {v : Work κ DispatchNews Dispatch}
    (h : ((Backend.remote service c).dispatch i).Tells told v) (hstop : v.IsStopped) :
    (remote service c).IsInside i v ∨
      (∃ due, (remote service c).IsWaiting i (told.countP (·.marksAttempt)) due v) ∨
      ∃ d, v = .done d := by
  obtain ⟨r, hr, hrun, rfl⟩ | ⟨o, l, m, rfl, hrun, hmore⟩ := Work.Tells.cases_bind h
  · obtain ⟨l, s, K, hs, hsubmit, rfl⟩ | ⟨taskId, deadline, l, s, K, hs, hpoll, rfl⟩ |
        ⟨taskId, deadline, interval, state, due, hcount, rfl⟩ | ⟨o, rfl⟩ :=
      Polling.cases_of_tells hrun (hstop.of_bind hr)
    · rw [Work.bind_assoc]
      exact .inl (.submission hs hsubmit)
    · rw [Work.bind_assoc]
      exact .inl (.poll hs hpoll)
    · rw [hcount]
      exact .inr (.inl ⟨due, .pause⟩)
    · exact absurd rfl (hr o)
  · cases hmore
    exact .inr (.inr ⟨_, rfl⟩)

/-- **There is nowhere else to stop** for what has been dispatched: it is inside, or it waits after
as many attempts as have been told of, or it has ended. -/
theorem cases_of_tells {told : List DispatchNews} {v : Work κ DispatchNews Dispatch}
    (h : (site.backend.dispatch i).Tells told v) (hstop : v.IsStopped) :
    site.IsInside i v ∨ (∃ due, site.IsWaiting i (told.countP (·.marksAttempt)) due v) ∨
      ∃ d, v = .done d := by
  cases site with
  | inProcess registry base => exact cases_of_tells_inProcess h hstop
  | remote service c => exact cases_of_tells_remote h hstop

/-- What is dispatched there for the steps of a plan comes to its end: bodies do, and the delays
between attempts can be counted; or submissions do, and no poll comes to a fault. -/
def Completes (plan : Plan) (scope : Scope) : Site κ → Prop
  | .inProcess registry base => ∀ id step, plan.step? id = some step →
      (InProcess.delayMs? base step.manifest.retry.toNat).isSome = true ∧
      ∀ body, registry.body? step.manifest.type = some body →
        ∀ inputs config, (body { scope with nodeId := step.node.id } inputs config).Ends
  | .remote service _ => (∀ request, (service.submit request).Ends) ∧
      ∀ taskId, (service.status taskId).IsFaultless

theorem Completes.ends_dispatch {plan : Plan} {scope : Scope} (h : site.Completes plan scope)
    {id : String} {step : Step} (hstep : plan.step? id = some step) (inputs config : Fields) :
    (site.backend.dispatch
      ⟨{ scope with nodeId := step.node.id }, step.manifest, inputs, config⟩).Ends := by
  cases site with
  | inProcess registry base =>
    obtain ⟨hdelay, hbody⟩ := h id step hstep
    exact InProcess.ends_dispatch (fun body hfound => hbody body hfound _ _) hdelay
  | remote service c => exact Polling.ends_dispatch (h.1 _) h.2

end Site

/-! ### Executions -/

namespace Engine

variable {e : Engine κ} {f : NodeNews → Event} {scope : Scope} {c : Call}

/-- What is left of an execution as long as `w` is left of what was dispatched. -/
def dispatched (e : Engine κ) (f : NodeNews → Event) (scope : Scope) (c : Call) (start : Nat)
    (w : Work κ DispatchNews Dispatch) : Work (Shared κ) Event Result :=
  e.underway f scope c start ((w.mapNews DispatchNews.news).mapNews f)

/-- When what was dispatched has ended, the execution does not stop there. -/
theorem not_isStopped_dispatched (e : Engine κ) (f : NodeNews → Event) (scope : Scope) (c : Call)
    (start : Nat) (d : Dispatch) : ¬ (e.dispatched f scope c start (.done d)).IsStopped := by
  obtain ⟨next, hnext⟩ :=
    e.exists_afterwards_eq f scope c start (checked c.step.manifest d)
  have hdone : e.dispatched f scope c start (.done d) = .observe next := hnext
  rw [hdone]
  exact id

/-- **Who waits heeds cancellation**: it ends with a record of it, and tells of that. -/
theorem heeds_of_isWaiting {site : Site κ} {i : Invocation} {start attempts due now : Nat}
    {w : Work κ DispatchNews Dispatch} (h : site.IsWaiting i attempts due w) (hdue : now < due) :
    (e.dispatched f scope c start w).Heeds now
      (f (closing false (UInt64.ofNat (now - start)) (.error .cancelled)))
      (record scope c.step (UInt64.ofNat (now - start)) false (UInt32.ofNat attempts)
        (.error .cancelled)) := by
  obtain ⟨next, rfl, hnext⟩ := h.exists_eq_await
  refine ⟨due, fun m => e.dispatched f scope c start (next m), rfl, hdue, fun world hnow => ?_⟩
  dsimp only
  rw [hnext world.moment (show world.now < due by rwa [hnow])]
  subst hnow
  exact e.drive_afterwards f scope c start ⟨.error .cancelled, UInt32.ofNat attempts⟩ world

theorem isPrompt_remembered (e : Engine κ) (step : Step) (inputs : Fields) :
    (e.remembered step inputs).IsPrompt := by
  rw [remembered]
  split
  · exact fun m s => trivial
  · trivial

theorem isPrompt_remember (e : Engine κ) (step : Step) (inputs : Fields) (o : Outcome) :
    (e.remember step inputs o).IsPrompt := by
  cases o with
  | error err => trivial
  | ok outputs =>
    simp only [remember]
    split
    · exact fun m s => trivial
    · trivial

theorem isPrompt_close (scope : Scope) (step : Step) (start : Nat) (cached : Bool)
    (attempts : UInt32) (o : Outcome) :
    (close (κ := κ) scope step start cached attempts o).IsPrompt := fun _ => trivial

/-- What has been validated and dispatched stops where what was dispatched does. -/
theorem exists_of_tells_invoke {l : List NodeNews} {r : Work (Shared κ) NodeNews Dispatch}
    (h : (e.invoke scope c.step c.inputs).Tells l r) (hr : ∀ d, r ≠ .done d)
    (hstop : r.IsStopped) :
    ∃ config l' w,
      (e.backend.dispatch ⟨scope, c.step.manifest, c.inputs, config⟩).Tells l' w ∧ w.IsStopped ∧
      l = l'.map DispatchNews.news ∧
      r = ((w.mapNews DispatchNews.news).within Shared.host Shared.withHost).bind
        fun d => .done (checked c.step.manifest d) := by
  rw [invoke] at h
  split at h
  · cases h
    exact absurd rfl (hr _)
  split at h
  · cases h
    exact absurd rfl (hr _)
  rename_i config _
  obtain ⟨s, hs, hwithin, rfl⟩ | ⟨d, _, _, -, -, hdone⟩ := h.cases_bind
  · obtain ⟨t, rfl, hnews⟩ := hwithin.exists_of_within
    obtain ⟨l', w, rfl, rfl, hdispatch⟩ := hnews.exists_of_mapNews
    refine ⟨config, l', w, hdispatch, ?_, rfl, rfl⟩
    have := hstop.of_bind hs
    cases w <;> trivial
  · cases hdone
    exact absurd rfl (hr _)

/-- **Where an execution may have stopped**: where what was dispatched has, or it has ended. -/
theorem cases_of_tells_execute {told : List Event} {v : Work (Shared κ) Event Result}
    (h : ((e.execute scope c.step c.inputs).mapNews f).Tells told v) (hstop : v.IsStopped) :
    (∃ config start l w,
      (e.backend.dispatch ⟨scope, c.step.manifest, c.inputs, config⟩).Tells l w ∧ w.IsStopped ∧
      told = (.started c.step.manifest.type :: l.map DispatchNews.news).map f ∧
      v = e.dispatched f scope c start w) ∨
    ∃ x, v = .done x := by
  obtain ⟨l, r, rfl, rfl, hexecute⟩ := h.exists_of_mapNews
  have hr : r.IsStopped := by cases r <;> trivial
  -- Before the dispatch and after it there is nowhere to stop.
  have hdone {w : Work (Shared κ) NodeNews Result} (hw : w.IsPrompt) {l : List NodeNews}
      (hl : w.Tells l r) : ∃ x, r.mapNews f = .done x := by
    obtain ⟨x, rfl⟩ := hw.exists_eq_done hl hr
    exact ⟨x, rfl⟩
  rw [execute] at hexecute
  cases hexecute with
  | stay => exact hr.elim
  | @observe _ m _ _ htell =>
    cases htell with
    | stay => exact hr.elim
    | tell hrest =>
      obtain ⟨s, hs, hfound, rfl⟩ | ⟨found, l, l', rfl, hfound, hrest⟩ :=
        Work.Tells.cases_bind hrest
      · obtain ⟨x, rfl⟩ := (isPrompt_remembered e _ _).exists_eq_done hfound (hr.of_bind hs)
        exact absurd rfl (hs x)
      rw [told_remembered hfound, List.nil_append]
      cases found with
      | some outputs => exact .inr (hdone (isPrompt_close _ _ _ _ _ _) hrest)
      | none =>
        obtain ⟨s, hs, hinvoke, rfl⟩ | ⟨d, _, _, rfl, -, hclose⟩ := Work.Tells.cases_bind hrest
        · obtain ⟨config, l, w, hdispatch, hw, rfl, rfl⟩ :=
            exists_of_tells_invoke hinvoke hs (hr.of_bind hs)
          refine .inl ⟨config, m.now, l, w, hdispatch, hw, rfl, ?_⟩
          rw [dispatched, underway, Work.mapNews_bind, Work.mapNews_bind, Work.mapNews_within,
            Work.bind_assoc]
          rfl
        · exact .inr (hdone ((isPrompt_remember e c.step c.inputs d.result).bind
            fun _ => isPrompt_close _ _ _ _ _ _) hclose)

end Engine

end PortGraph
