import PortGraph.Proofs.Engine.Session
import PortGraph.Proofs.Work.Driving

/-!
# The stages of an execution

A node that runs comes to one of two ends the moment it begins: its outputs are found in the cache,
or its inputs or its configuration are not valid. Otherwise something is dispatched for it, and it
waits where that waits. When that has ended, the node ends at the same instant, and what has
succeeded is stored.

In between nobody but the other nodes touches the cache. What a node reads of it and writes to it
is therefore settled at two instants, the first and the last.

## Main definitions

* `Call.triple`: what a call is known by in the cache
* `Engine.found`, `Engine.stored`: what a call finds in the cache, and what it leaves there
* `Engine.afterwards`: what is left of an execution when what was dispatched has ended
* `Engine.underway`: what is left of it before

## Main results

* `Engine.drive_execute`: how an execution begins
* `Engine.invoked_cases`: what it goes on with if nothing is found
* `Engine.drive_underway`, `Engine.drive_afterwards`: how it goes on, and how it ends
-/

namespace PortGraph

variable {κ : Type}

/-- What a call is known by in the cache: the type, the inputs and the configuration as written. -/
def Call.triple (c : Call) : String × Fields × Fields :=
  (c.step.manifest.type, c.inputs, c.step.node.config)

/-- Calls have the same bytes just if they have the same triple. -/
theorem Call.bytes_eq_iff {c d : Call} : c.bytes = d.bytes ↔ c.triple = d.triple := by
  rw [bytes, bytes, CacheKey.bytes_inj, triple, triple, Prod.mk.injEq, Prod.mk.injEq]

namespace Engine

variable {e : Engine κ} {scope : Scope} {c : Call} {f : NodeNews → Event}

/-- The key of a call in the cache. -/
def callKey (e : Engine κ) (c : Call) : String := e.digest c.bytes

/-- What a call finds in the cache, and what is shared after that. -/
def found (e : Engine κ) (c : Call) (now : Nat) (s : Shared κ) : Option Fields × Shared κ :=
  if c.cacheable then s.lookup now (e.callKey c) else (none, s)

/-- What is shared when a call that was not found has ended. -/
def stored (e : Engine κ) (c : Call) (now : Nat) (s : Shared κ) : Outcome → Shared κ
  | .ok outputs => if c.cacheable then s.store now (e.callKey c) outputs else s
  | .error _ => s

/-! ### What is left of an execution -/

/-- What is left of an execution that began at `start` when what was dispatched has ended. -/
def afterwards (e : Engine κ) (f : NodeNews → Event) (scope : Scope) (c : Call) (start : Nat)
    (d : Dispatch) : Work (Shared κ) Event Result :=
  ((e.remember c.step c.inputs d.result).bind fun _ =>
    close scope c.step start false d.attempts d.result).mapNews f

/-- What is left of it as long as `w` is left of what was dispatched. -/
def underway (e : Engine κ) (f : NodeNews → Event) (scope : Scope) (c : Call) (start : Nat)
    (w : Work κ Event Dispatch) : Work (Shared κ) Event Result :=
  (w.within Shared.host Shared.withHost).bind fun d =>
    e.afterwards f scope c start (checked c.step.manifest d)

/-- What an execution goes on with if nothing is found in the cache. -/
def invoked (e : Engine κ) (f : NodeNews → Event) (scope : Scope) (c : Call) (start : Nat) :
    Work (Shared κ) Event Result :=
  ((e.invoke scope c.step c.inputs).mapNews f).bind (e.afterwards f scope c start)

/-- **Nothing found, a call is invalid or is dispatched.** -/
theorem invoked_cases (e : Engine κ) (f : NodeNews → Event) (scope : Scope) (c : Call)
    (start : Nat) :
    (∃ err, e.invoked f scope c start = e.afterwards f scope c start ⟨.error err, 0⟩) ∨
      ∃ config, e.invoked f scope c start = e.underway f scope c start
        (((e.backend.dispatch ⟨scope, c.step.manifest, c.inputs, config⟩).mapNews
          DispatchNews.news).mapNews f) := by
  rw [invoked, invoke]
  split
  · rename_i err _
    exact .inl ⟨err, rfl⟩
  · split
    · rename_i err _
      exact .inl ⟨err, rfl⟩
    · rename_i config _
      refine .inr ⟨config, ?_⟩
      rw [underway, Work.mapNews_bind, Work.mapNews_within, Work.bind_assoc]
      rfl

/-! ### Driving it -/

/-- **How an execution begins**: what is found in the cache ends it at once. -/
theorem drive_execute (e : Engine κ) (f : NodeNews → Event) (scope : Scope) (c : Call)
    (world : World (Shared κ) Event) :
    ((e.execute scope c.step c.inputs).mapNews f).drive world =
      let told := world.tell (f (.started c.step.manifest.type))
      let there := { told with state := (e.found c world.now world.state).2 }
      match (e.found c world.now world.state).1 with
      | some outputs => (there.tell (f (closing true 0 (.ok outputs))),
          .done (record scope c.step 0 true 0 (.ok outputs)))
      | none => (e.invoked f scope c world.now).drive there := by
  have hnone : (((e.invoke scope c.step c.inputs).bind fun d =>
      (e.remember c.step c.inputs d.result).bind fun _ =>
        close scope c.step world.now false d.attempts d.result).mapNews f) =
      e.invoked f scope c world.now := by
    rw [Work.mapNews_bind]
    rfl
  have hzero : UInt64.ofNat (world.now - world.now) = 0 := by rw [Nat.sub_self]; rfl
  rw [execute, found]
  by_cases hc : c.cacheable
  · simp only [Work.mapNews, Work.drive, remembered, if_pos hc, if_pos (show
      c.step.manifest.capabilities.cacheable = true from hc), Work.bind]
    cases hfound : (Shared.lookup world.now (e.callKey c) world.state).1 with
    | none =>
      rw [show (Shared.lookup (world.tell (f (.started c.step.manifest.type))).moment.now
        (e.keyOf c.step c.inputs) (world.tell _).state).1 = none from hfound]
      exact congrArg _ hnone
    | some outputs =>
      rw [show (Shared.lookup (world.tell (f (.started c.step.manifest.type))).moment.now
        (e.keyOf c.step c.inputs) (world.tell _).state).1 = some outputs from hfound]
      show (World.tell _ (f (closing true (UInt64.ofNat (world.now - world.now)) _)),
        Work.done (record scope c.step (UInt64.ofNat (world.now - world.now)) true 0 _)) = _
      rw [hzero]
      rfl
  · simp only [Work.mapNews, Work.drive, remembered, if_neg hc, if_neg (show
      ¬ c.step.manifest.capabilities.cacheable = true from hc)]
    exact congrArg _ hnone

/-- **How an execution ends** that was not found in the cache. -/
theorem drive_afterwards (e : Engine κ) (f : NodeNews → Event) (scope : Scope) (c : Call)
    (start : Nat) (d : Dispatch) (world : World (Shared κ) Event) :
    (e.afterwards f scope c start d).drive world =
      let duration := UInt64.ofNat (world.now - start)
      (({ world with state := e.stored c world.now world.state d.result }).tell
        (f (closing false duration d.result)),
        .done (record scope c.step duration false d.attempts d.result)) := by
  rw [afterwards]
  cases d.result with
  | error err => rfl
  | ok outputs =>
    by_cases hc : c.cacheable
    · simp only [stored, if_pos hc, remember, if_pos (show c.step.manifest.capabilities.cacheable
        = true from hc)]
      rfl
    · simp only [stored, if_neg hc, remember, if_neg (show ¬ c.step.manifest.capabilities.cacheable
        = true from hc)]
      rfl

/-- An execution ends with a look at the clock, whatever it has come to. -/
theorem exists_afterwards_eq (e : Engine κ) (f : NodeNews → Event) (scope : Scope) (c : Call)
    (start : Nat) (d : Dispatch) : ∃ next, e.afterwards f scope c start d = .observe next := by
  rw [afterwards]
  cases d.result with
  | error err => exact ⟨_, rfl⟩
  | ok outputs =>
    rw [remember]
    split <;> exact ⟨_, rfl⟩

/-- **How an execution goes on**: as what was dispatched does, which leaves the cache alone. -/
theorem drive_underway (e : Engine κ) (f : NodeNews → Event) (scope : Scope) (c : Call)
    (start : Nat) (w : Work κ Event Dispatch) (world : World (Shared κ) Event) :
    (e.underway f scope c start w).drive world =
      let inner := w.drive (world.withState world.state.host)
      let there := inner.1.withState (world.state.withHost inner.1.state)
      match inner.2 with
      | .done d => (e.afterwards f scope c start (checked c.step.manifest d)).drive there
      | rest => (there, e.underway f scope c start rest) := by
  have hwithin := Work.drive_within Shared.host Shared.withHost (fun _ _ => rfl)
    (fun _ _ _ => rfl) (fun _ => rfl) w world
  dsimp only
  split
  · rename_i d hd
    rw [hd] at hwithin
    rw [underway, Work.drive_bind_of_done _ (congrArg Prod.snd hwithin), hwithin]
  · rename_i rest hrest
    rw [underway, Work.drive_bind_of_left _ ?_, hwithin]
    · rfl
    · rw [hwithin]
      intro a ha
      cases hv : (w.drive (world.withState world.state.host)).2 with
      | done d => exact hrest d hv
      | _ => simp [hv, Work.within] at ha

end Engine

end PortGraph
