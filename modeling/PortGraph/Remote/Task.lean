import PortGraph.Event

/-!
# Tasks

A node that runs remotely is a task of a task service: it is submitted once, and its state is asked
for until it ends. Here are the messages of that talk, and the state of a task as far as it is known.

## Main definitions

* `Task.Request`, `Task.Receipt`, `Task.Reply`: a submission, its answer, the answer to a poll
* `Task.State`: where a task stands, with `advance` and `expire`
* `Task.outputsOf`: the output ports of a result
-/

namespace PortGraph.Task

/-- A node handed to the task service. -/
structure Request where
  nodeId : String
  type : String
  config : Fields
  inputs : Fields
deriving DecidableEq, Inhabited

/-- What the task service says of a task. -/
inductive Status where
  | pending | running | completed | failed
deriving DecidableEq, Inhabited

/-- The answer to a submission. -/
structure Receipt where
  taskId : String
  status : Status
  queuePosition : Option UInt32 := none
deriving DecidableEq, Inhabited

/-- The answer to a poll. -/
structure Reply where
  taskId : String := ""
  status : Status
  progress : Option Progress := none
  result : Option Json := none
  error : Option String := none
deriving DecidableEq, Inhabited

/-! ### State -/

/-- Where a task stands. -/
inductive State where
  | pending
  | running (progress : Option Progress)
  | completed (outputs : Fields)
  | failed (message : String)
  /-- The time of the task ran out. -/
  | timedOut
deriving DecidableEq, Inhabited

/-- The output ports of a result: the members of an object; any other value is the port `result`,
and no value or `null` is no port. -/
def outputsOf : Option Json → Fields
  | some (.obj members) => Table.ofList members
  | some .null => Table.empty
  | some v => Table.empty.insert "result" v
  | none => Table.empty

namespace State

/-- Whether nothing can change the state any more. -/
def isTerminal : State → Bool
  | .completed _ | .failed _ | .timedOut => true
  | .pending | .running _ => false

/-- The state a reply tells of, whatever went before. -/
def ofReply (r : Reply) : State :=
  match r.status with
  | .pending => .pending
  | .running => .running r.progress
  | .completed => .completed (outputsOf r.result)
  | .failed => .failed (r.error.getD "task failed without an error message")

/-- The state after a reply. -/
def advance (s : State) (r : Reply) : State := if s.isTerminal then s else ofReply r

/-- The state after the time has run out. -/
def expire (s : State) : State := if s.isTerminal then s else .timedOut

end State

/-! ### Documents -/

/-- Read a submission. -/
def Request.ofDocument? (w : Written) : Option Request := do
  let [nodeId, type, config, inputs] ← w.record? [["nodeId"], ["type"], ["config"], ["inputs"]]
    | none
  return {
    nodeId := ← Slot.required? Written.text? nodeId
    type := ← Slot.required? Written.text? type
    config := ← Slot.required? Written.toFields? config
    inputs := ← Slot.required? Written.toFields? inputs }

/-- A submission as a document. -/
def Request.toJson (r : Request) : Json :=
  .obj [("nodeId", .str r.nodeId), ("type", .str r.type), ("config", .ofFields r.config),
    ("inputs", .ofFields r.inputs)]

/-- The name of a status. -/
def Status.name : Status → String
  | .pending => "pending"
  | .running => "running"
  | .completed => "completed"
  | .failed => "failed"

/-- Read a status by its name. -/
def Status.ofDocument? (w : Written) : Option Status :=
  w.choice? (([.pending, .running, .completed, .failed] : List Status).map fun s => (s.name, s))

/-- Read the answer to a submission. -/
def Receipt.ofDocument? (w : Written) : Option Receipt := do
  let [taskId, status, position] ← w.record? [["taskId"], ["status"], ["queuePosition"]] | none
  return {
    taskId := ← Slot.required? Written.text? taskId
    status := ← Slot.required? Status.ofDocument? status
    queuePosition := ← Slot.optional? Written.word32? position }

/-- The answer to a submission as a document. -/
def Receipt.toJson (r : Receipt) : Json :=
  .obj ([("taskId", .str r.taskId), ("status", .str r.status.name)] ++
    Json.memberOf "queuePosition" .ofWord32 r.queuePosition)

/-- Read the answer to a poll. -/
def Reply.ofDocument? (w : Written) : Option Reply := do
  let [taskId, status, progress, result, error] ←
    w.record? [["taskId"], ["status"], ["progress"], ["result"], ["error"]] | none
  return {
    taskId := ← Slot.orDefault? "" Written.text? taskId
    status := ← Slot.required? Status.ofDocument? status
    progress := ← Slot.optional? Written.single? progress
    result := ← Slot.optional? Written.toJson? result
    error := ← Slot.optional? Written.text? error }

/-- The answer to a poll as a document. -/
def Reply.toJson (r : Reply) : Json :=
  .obj [("taskId", .str r.taskId), ("status", .str r.status.name),
    ("progress", .ofOption .ofSingle r.progress), ("result", .ofOption id r.result),
    ("error", .ofOption .str r.error)]

end PortGraph.Task
