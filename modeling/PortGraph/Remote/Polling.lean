import PortGraph.Backend
import PortGraph.Config
import PortGraph.Remote.Task

/-!
# Running as a task

A node is submitted to a task service once and then polled until its task ends or its time has run
out. What the service does in between is its own work; a failure to reach it while polling only
costs that poll.

The time is counted from before the submission. A poll is made only while there is time left, and
its reply counts if it arrives by the deadline. Between two polls there is an interval, which grows
up to a limit; a wait never goes beyond the deadline, and cancellation cuts it short.

Where cancellation comes at the very instant at which a wait ends, nothing says which of the two is
seen first, and a host may decide this tie either way. Here the wait always counts as over: the next
poll is made, or the time has run out if the deadline has come. What is proved of a task is proved
for a host that does the same.

## Main definitions

* `TaskService`: the other side of the talk
* `Polling`: the timing, with `Polling.grow` for the next interval
* `Polling.pollFrom`: a poll and those that follow it
* `Backend.remote`: the backend

## Main results

* `Polling.wake_bound`: every wait takes the talk on, so that it ends
-/

namespace PortGraph

/-- A task service as its clients see it. -/
structure TaskService (κ : Type) where
  submit : Task.Request → Work κ Empty (Except TransportError Task.Receipt)
  status : String → Work κ Empty (Except TransportError Task.Reply)

/-- The timing of polls: intervals in nanoseconds, the time of a task in milliseconds. -/
structure Polling where
  interval : Nat
  greatest : Nat
  backoff : Double
  limit : Nat

namespace Polling

/-- How many nanoseconds a millisecond has. -/
def perMs : Nat := 1000000

/-- How many nanoseconds a second has. -/
def perSecond : Nat := 1000000000

/-- The timing that a configuration asks for. -/
def ofConfig (c : RemoteConfig) : Polling where
  interval := c.interval * perMs
  greatest := c.greatestInterval * perMs
  backoff := c.backoff
  limit := c.limit

/-! ### Intervals -/

/-- An interval in seconds: whole seconds and the rest of a second, each rounded, and their sum. -/
def seconds (ns : Nat) : Option Double := do
  let whole ← Binary.ofNat .double (ns / perSecond)
  let rest ← (← Binary.ofNat .double (ns % perSecond)).div (← Binary.ofNat .double perSecond)
  whole.add rest

/-- Seconds as nanoseconds, a tie going to the even one. -/
def nanoseconds (x : Double) : Nat := roundDiv (x.magnitude * perSecond) Binary.Format.double.unitsPerOne

/-- The interval after the interval `ns`. -/
def grow (p : Polling) (ns : Nat) : Nat :=
  match (seconds ns).bind (·.mul p.backoff) with
  | some x => min (nanoseconds x) p.greatest
  | none => p.greatest

/-- The millisecond in which an interval ends that starts with a millisecond. -/
def wholeMs (ns : Nat) : Nat := (ns - 1) / perMs + 1

/-- When a wait that begins at `now` ends: after the interval, or at the deadline. -/
def wake (deadline now ns : Nat) : Nat := min (now + wholeMs ns) deadline

theorem wake_bound {deadline start now ns : Nat} (h : start < deadline) (hn : start ≤ now) :
    deadline - wake deadline now ns < deadline - start := by
  simp only [wake, wholeMs]
  generalize (ns - 1) / perMs = whole
  omega

/-! ### Polls -/

variable {κ : Type}

/-- What a poll has brought, `none` being that the deadline came first. -/
def stateAfter (s : Task.State) : Option (Except TransportError Task.Reply) → Task.State
  | some (.ok reply) => s.advance reply
  | some (.error _) => s
  | none => s.expire

/-- The progress that a poll tells of: a reply leaves a state, and a running one has progress. -/
def progressAfter (s : Task.State) :
    Option (Except TransportError Task.Reply) → List DispatchNews
  | some (.ok reply) =>
    match s.advance reply with
    | .running (some percent) => [.progress ⟨percent, none⟩]
    | _ => []
  | _ => []

/-- The end of a node whose task has ended, `none` if it has not. -/
def outcome? (p : Polling) (taskId : String) : Task.State → Option Outcome
  | .completed outputs => some (.ok outputs)
  | .failed message => some (.error (.remoteFailed taskId message))
  | .timedOut => some (.error (.timeout taskId (UInt64.ofNat p.limit)))
  | .pending | .running _ => none

/-- Poll until the task ends, not earlier than at `start`. -/
def pollFrom (service : TaskService κ) (p : Polling) (taskId : String) (deadline start interval : Nat)
    (state : Task.State) : Work κ DispatchNews Outcome :=
  if _h : start < deadline then
    .observe fun m =>
      if deadline ≤ m.now then
        .done (.error (.timeout taskId (UInt64.ofNat p.limit)))
      else
        (((service.status taskId).mapNews Empty.elim).before deadline).bind fun reply? =>
          let state' := stateAfter state reply?
          (Work.sayAll (progressAfter state reply?)).bind fun _ =>
            match p.outcome? taskId state' with
            | some outcome => .done outcome
            | none =>
              .observe fun m' =>
                let due := wake deadline (max m'.now start) interval
                .await (.instantOrCancelled due) fun m'' =>
                  if due ≤ m''.now then
                    pollFrom service p taskId deadline due (p.grow interval) state'
                  else .done (.error .cancelled)
  else .done (.error (.timeout taskId (UInt64.ofNat p.limit)))
termination_by deadline - start
decreasing_by exact wake_bound _h (Nat.le_max_right _ _)

/-- The submission of an invocation. -/
def request (i : Invocation) : Task.Request := ⟨i.scope.nodeId, i.manifest.type, i.config, i.inputs⟩

/-- Run a node as a task. -/
def runTask (service : TaskService κ) (p : Polling) (i : Invocation) : Work κ DispatchNews Outcome :=
  .observe fun m =>
    ((service.submit (request i)).mapNews Empty.elim).bind fun receipt =>
      match receipt with
      | .error e => .done (.error (.submit e))
      | .ok receipt =>
        .tell (.submitted receipt.taskId) <|
          pollFrom service p receipt.taskId (m.now + p.limit) m.now p.interval .pending

end Polling

/-- The backend that runs nodes as tasks. A task is never repeated. -/
def Backend.remote {κ : Type} (service : TaskService κ) (c : RemoteConfig) : Backend κ :=
  ⟨"remote", fun i => (Polling.runTask service (.ofConfig c) i).bind fun result =>
    .done ⟨result, 1⟩⟩

end PortGraph
