import PortGraph.Remote.Polling
import PortGraph.Table

/-!
# Rehearsals

Graphs can be tried out without their real node bodies and without a task service. A rehearsed body
plays prepared calls, one for each time it is started, and the last one over and over; a rehearsed
task service plays a prepared submission per node and a prepared reply per poll. What was asked of
them is kept.

## Main definitions

* `Rehearsal.Call`, `Rehearsal.body`: a body that plays calls
* `Rehearsal.Poll`, `Rehearsal.Part`, `Rehearsal.service`: a task service that plays parts
* `Rehearsal.State`: what has been asked so far
-/

namespace PortGraph

namespace Rehearsal

/-- What has been asked so far. -/
structure State where
  /-- How often the body of a type was started. -/
  calls : Table Nat
  /-- The node of a task, and how often it was polled. -/
  tasks : Table (String × Nat)
  /-- The submissions of a node, the last one first. -/
  submissions : Table (List Task.Request)
  /-- The instants at which a node was polled, the last one first. -/
  polls : Table (List Nat)
deriving Inhabited

/-- Nothing has been asked. -/
def State.start : State := ⟨Table.empty, Table.empty, Table.empty, Table.empty⟩

/-- The entry to be played after `n` others. The last one is played over and over. -/
def cue? {α : Type} (entries : List α) (n : Nat) : Option α :=
  match entries[n]? with
  | some a => some a
  | none => entries.getLast?

/-- Wait, if there is a delay. -/
def pause {ε : Type} : Option Nat → Work State ε Unit
  | some ms => Work.sleep ms
  | none => .done ()

/-! ### Bodies -/

/-- How a prepared call ends. -/
inductive Ending where
  | outputs (outputs : Fields)
  | failure (error : NodeError)
  /-- Show what the body was given, and who asked if that is known. -/
  | echo
deriving Inhabited

/-- A prepared call of a body. -/
structure Call where
  delayMs? : Option Nat := none
  progress : List Report := []
  cancels : Bool := false
  /-- Wait for the run to be cancelled. -/
  awaitsCancel : Bool := false
  ending : Ending := .outputs Table.empty
deriving Inhabited

/-- What a body is given, shown as outputs. -/
def shown (scope? : Option Scope) (inputs config : Fields) : Fields :=
  let known := (Table.empty.insert "inputs" (Json.ofFields inputs)).insert "config" (.ofFields config)
  match scope? with
  | some s =>
    known.insert "ctx" (.arr [.str s.executionId, .str s.graphId, .str s.nodeId, .ofOption .str s.userId?])
  | none => known

/-- Count a call of a type. -/
def State.countCall (type : String) (s : State) : State :=
  { s with calls := s.calls.alter type fun n => n.getD 0 + 1 }

/-- Play a call. What a body cannot do without its scope is left out. -/
def Call.play (c : Call) (scope? : Option Scope) (inputs config : Fields) : Work State Report Outcome :=
  (pause c.delayMs?).bind fun _ =>
    let finish : Work State Report Outcome := .done (match c.ending with
      | .outputs o => .ok o
      | .failure e => .error e
      | .echo => .ok (shown scope? inputs config))
    if scope?.isNone then finish
    else
      (Work.sayAll c.progress).bind fun _ =>
        let finish := if c.awaitsCancel then .await .cancellation fun _ => finish else finish
        if c.cancels then .cancel finish else finish

/-- The body of a type that plays calls; one that is not told its scope sees inputs and
configuration only. -/
def body (type : String) (calls : List Call) (knowsScope : Bool) : Body State :=
  fun scope inputs config =>
    .consult (·.countCall type) fun s =>
      let call := (cue? calls ((s.calls.get? type).getD 0)).getD {}
      call.play (if knowsScope then some scope else none) inputs config

/-! ### The task service -/

/-- A prepared answer to a poll. -/
structure Poll where
  delayMs? : Option Nat
  reply : Except TransportError Task.Reply

/-- The part of a node: its submission and its polls. -/
structure Part where
  delayMs? : Option Nat := none
  receipt : Except TransportError Task.Receipt
  polls : List Poll := []

/-- The part of a node that has none of its own. -/
def Part.ofNode (nodeId : String) : Part := { receipt := .ok ⟨"task-" ++ nodeId, .pending, none⟩ }

/-- The part of a node. -/
def partOf (parts : Table Part) (nodeId : String) : Part :=
  (parts.get? nodeId).getD (Part.ofNode nodeId)

/-- Keep a submission. -/
def State.keepSubmission (r : Task.Request) (s : State) : State :=
  { s with submissions := s.submissions.alter r.nodeId fun l => r :: l.getD [] }

/-- Keep the start of a task. -/
def State.startTask (taskId nodeId : String) (s : State) : State :=
  { s with tasks := s.tasks.insert taskId (nodeId, 0) }

/-- Keep a poll of a task. -/
def State.keepPoll (now : Nat) (taskId : String) (s : State) : State :=
  match s.tasks.get? taskId with
  | some (nodeId, n) =>
    { s with
      tasks := s.tasks.insert taskId (nodeId, n + 1)
      polls := s.polls.alter nodeId fun l => now :: l.getD [] }
  | none => s

/-- Play a submission. -/
def submit (parts : Table Part) (r : Task.Request) :
    Work State Empty (Except TransportError Task.Receipt) :=
  let part := partOf parts r.nodeId
  .consult (·.keepSubmission r) fun _ =>
    (pause part.delayMs?).bind fun _ =>
      match part.receipt with
      | .error e => .done (.error e)
      | .ok receipt => .consult (·.startTask receipt.taskId r.nodeId) fun _ => .done (.ok receipt)

/-- Play a poll. A task without prepared polls is completed without a result. -/
def status (parts : Table Part) (taskId : String) :
    Work State Empty (Except TransportError Task.Reply) :=
  .observe fun m =>
    .consult (·.keepPoll m.now taskId) fun s =>
      match s.tasks.get? taskId with
      | none => .done (.error (.request "unknown task"))
      | some (nodeId, n) =>
        match cue? (partOf parts nodeId).polls n with
        | none => .done (.ok { taskId := taskId, status := .completed })
        | some poll => (pause poll.delayMs?).bind fun _ => .done poll.reply

/-- The task service that plays the parts. -/
def service (parts : Table Part) : TaskService State := ⟨submit parts, status parts⟩

end Rehearsal

end PortGraph
