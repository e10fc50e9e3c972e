import PortGraph.NodeError

/-!
# Run events

What a run reports while it goes on. An event is about the run or about one of its nodes, and every
event carries the id of the execution. As a document an event is one flat object whose `type` names
the kind; the fields of the kind stand beside it.

## Main definitions

* `RunNews`, `NodeNews`: what can be reported about a run and about a node
* `Event`: one of them with its ids
* `Progress`: a percentage, kept within 0 and 100
-/

namespace PortGraph

/-- A fraction of the work, in percent. -/
abbrev Progress := Binary.Extended .single

namespace Progress

/-- The percentage kept within 0 and 100. What is undefined stays so. -/
def clamp : Progress → Progress
  | .finite x =>
    if x.lt Single.zero then .finite Single.zero
    else if Single.hundred.lt x then .finite Single.hundred
    else .finite x
  | .infinite negative => .finite (if negative then Single.zero else Single.hundred)
  | .undefined => .undefined

end Progress

/-- What can be reported about a run. -/
inductive RunNews where
  | started (graphId : String) (totalPhases : UInt64)
  | phaseStarted (phase : UInt64) (nodeIds : List String) (parallel : Bool)
  | phaseCompleted (phase failed : UInt64)
  | completed (succeeded failed durationMs : UInt64)
  /-- Cancellation was seen before the next phase. -/
  | cancelled (completedPhases : UInt64)
  /-- A failure stopped the run before the next phase. -/
  | stopped (completedPhases : UInt64) (failed : List String)
deriving DecidableEq, Inhabited

/-- What can be reported about a node. -/
inductive NodeNews where
  | started (type : String)
  | completed (cached : Bool) (durationMs : UInt64)
  | failed (code : ErrorCode) (message : String)
  /-- An attempt failed and another one will be made after the delay. -/
  | retrying (attempt : UInt32) (delayMs : UInt64) (error : String)
  | progress (percent : Progress) (message : Option String)
  /-- The node was handed to the task service. -/
  | submitted (taskId : String)
deriving DecidableEq, Inhabited

/-- An event of an execution. -/
inductive Event where
  | run (executionId : String) (news : RunNews)
  | node (executionId nodeId : String) (news : NodeNews)
deriving DecidableEq, Inhabited

/-- The node an event is about. -/
def Event.node? : Event → Option String
  | .run .. => none
  | .node _ id _ => some id

/-! ### Writing -/

/-- The kind of a report about a run. -/
def RunNews.kind : RunNews → String
  | .started .. => "runStarted"
  | .phaseStarted .. => "phaseStarted"
  | .phaseCompleted .. => "phaseCompleted"
  | .completed .. => "runCompleted"
  | .cancelled .. => "runCancelled"
  | .stopped .. => "runStopped"

/-- The fields of a report about a run. -/
def RunNews.fields : RunNews → List (String × Json)
  | .started g n => [("graphId", .str g), ("totalPhases", .ofWord64 n)]
  | .phaseStarted p ids par =>
    [("phase", .ofWord64 p), ("nodeIds", .ofTexts ids), ("parallel", .bool par)]
  | .phaseCompleted p f => [("phase", .ofWord64 p), ("failed", .ofWord64 f)]
  | .completed s f d =>
    [("succeeded", .ofWord64 s), ("failed", .ofWord64 f), ("durationMs", .ofWord64 d)]
  | .cancelled n => [("completedPhases", .ofWord64 n)]
  | .stopped n ids => [("completedPhases", .ofWord64 n), ("failed", .ofTexts ids)]

/-- The kind of a report about a node. -/
def NodeNews.kind : NodeNews → String
  | .started .. => "nodeStarted"
  | .completed .. => "nodeCompleted"
  | .failed .. => "nodeFailed"
  | .retrying .. => "nodeRetrying"
  | .progress .. => "nodeProgress"
  | .submitted .. => "taskSubmitted"

/-- The fields of a report about a node. -/
def NodeNews.fields : NodeNews → List (String × Json)
  | .started t => [("nodeType", .str t)]
  | .completed c d => [("cached", .bool c), ("durationMs", .ofWord64 d)]
  | .failed c m => [("code", c.toJson), ("message", .str m)]
  | .retrying a d e => [("attempt", .ofWord32 a), ("delayMs", .ofWord64 d), ("error", .str e)]
  | .progress p m => [("progress", .ofSingle p), ("message", .ofOption .str m)]
  | .submitted t => [("taskId", .str t)]

/-- An event as a document. -/
def Event.toJson : Event → Json
  | .run e news => .obj (("type", .str news.kind) :: ("executionId", .str e) :: news.fields)
  | .node e n news =>
    .obj (("type", .str news.kind) :: ("executionId", .str e) :: ("nodeId", .str n) :: news.fields)

/-! ### Reading -/

namespace Event

/-- A code inside an event may also be written as an object with the name and an empty object. -/
def code? : Written → Option ErrorCode
  | .obj [(some name, .obj [])] => Written.named? name ErrorCode.byName
  | w => ErrorCode.ofDocument? w

/-- The document without its kind: the kind, and the fields as an object or as an array. -/
def split? : Written → Option (String × Written)
  | .arr (.str kind :: fields) => some (kind, .arr fields)
  | .obj members =>
    match members.filter (·.1 = some "type") with
    | [(_, .str kind)] => some (kind, .obj (members.filter (·.1 ≠ some "type")))
    | _ => none
  | _ => none

/-- Read the fields of a report about a run of the given kind. -/
def readRun? (kind : String) (w : Written) : Option Event := do
  match kind with
  | "runStarted" =>
    let [e, g, n] ← w.record? [["executionId"], ["graphId"], ["totalPhases"]] | none
    return .run (← Slot.required? Written.text? e)
      (.started (← Slot.required? Written.text? g) (← Slot.required? Written.word64? n))
  | "phaseStarted" =>
    let [e, p, ids, par] ←
      w.record? [["executionId"], ["phase"], ["nodeIds"], ["parallel"]] | none
    return .run (← Slot.required? Written.text? e)
      (.phaseStarted (← Slot.required? Written.word64? p)
        (← Slot.required? (Written.list? Written.text?) ids) (← Slot.required? Written.bool? par))
  | "phaseCompleted" =>
    let [e, p, f] ← w.record? [["executionId"], ["phase"], ["failed"]] | none
    return .run (← Slot.required? Written.text? e)
      (.phaseCompleted (← Slot.required? Written.word64? p) (← Slot.required? Written.word64? f))
  | "runCompleted" =>
    let [e, s, f, d] ←
      w.record? [["executionId"], ["succeeded"], ["failed"], ["durationMs"]] | none
    return .run (← Slot.required? Written.text? e)
      (.completed (← Slot.required? Written.word64? s) (← Slot.required? Written.word64? f)
        (← Slot.required? Written.word64? d))
  | "runCancelled" =>
    let [e, n] ← w.record? [["executionId"], ["completedPhases"]] | none
    return .run (← Slot.required? Written.text? e)
      (.cancelled (← Slot.required? Written.word64? n))
  | "runStopped" =>
    let [e, n, ids] ← w.record? [["executionId"], ["completedPhases"], ["failed"]] | none
    return .run (← Slot.required? Written.text? e)
      (.stopped (← Slot.required? Written.word64? n)
        (← Slot.required? (Written.list? Written.text?) ids))
  | _ => none

/-- Read the fields of a report about a node of the given kind. -/
def readNode? (kind : String) (w : Written) : Option Event := do
  match kind with
  | "nodeStarted" =>
    let [e, n, t] ← w.record? [["executionId"], ["nodeId"], ["nodeType"]] | none
    return .node (← Slot.required? Written.text? e) (← Slot.required? Written.text? n)
      (.started (← Slot.required? Written.text? t))
  | "nodeCompleted" =>
    let [e, n, c, d] ← w.record? [["executionId"], ["nodeId"], ["cached"], ["durationMs"]] | none
    return .node (← Slot.required? Written.text? e) (← Slot.required? Written.text? n)
      (.completed (← Slot.required? Written.bool? c) (← Slot.required? Written.word64? d))
  | "nodeFailed" =>
    let [e, n, c, m] ← w.record? [["executionId"], ["nodeId"], ["code"], ["message"]] | none
    return .node (← Slot.required? Written.text? e) (← Slot.required? Written.text? n)
      (.failed (← Slot.required? code? c) (← Slot.required? Written.text? m))
  | "nodeRetrying" =>
    let [e, n, a, d, m] ←
      w.record? [["executionId"], ["nodeId"], ["attempt"], ["delayMs"], ["error"]] | none
    return .node (← Slot.required? Written.text? e) (← Slot.required? Written.text? n)
      (.retrying (← Slot.required? Written.word32? a) (← Slot.required? Written.word64? d)
        (← Slot.required? Written.text? m))
  | "nodeProgress" =>
    let [e, n, p, m] ← w.record? [["executionId"], ["nodeId"], ["progress"], ["message"]] | none
    if w.isPositional && m.isNone then none
    return .node (← Slot.required? Written.text? e) (← Slot.required? Written.text? n)
      (.progress (← Slot.required? Written.single? p) (← Slot.optional? Written.text? m))
  | "taskSubmitted" =>
    let [e, n, t] ← w.record? [["executionId"], ["nodeId"], ["taskId"]] | none
    return .node (← Slot.required? Written.text? e) (← Slot.required? Written.text? n)
      (.submitted (← Slot.required? Written.text? t))
  | _ => none

/-- Read an event. Its kind may stand at any place, so the whole document is kept before the fields
are looked at. -/
def ofDocument? (w : Written) : Option Event := do
  if !w.isKept then none
  let (kind, fields) ← split? w
  (readRun? kind fields).or (readNode? kind fields)

end Event

end PortGraph
