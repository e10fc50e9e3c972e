import PortGraph.NodeError
import PortGraph.Plan

/-!
# Results

What a run leaves behind: a record per node that got as far as starting, and the outcome of the run
as a whole.

## Main definitions

* `Result`, `Result.Metadata`: the record of a node
* `RunResults`: the outcome of a run, with `outputsOf?`, `succeeded`, `failed`, `isSuccess`
-/

namespace PortGraph

/-- What is kept beside the outcome of a node. -/
structure Result.Metadata where
  durationMs : UInt64
  /-- Whether the outputs were remembered ones. -/
  cached : Bool
  /-- How often the body was started. -/
  attempts : UInt32
  nodeVersion : String
  traceId : String
deriving DecidableEq, Inhabited

/-- The record of a node. -/
structure Result where
  nodeId : String
  success : Bool
  outputs : Fields
  error : Option Failure
  metadata : Result.Metadata
deriving DecidableEq, Inhabited

/-- The code of a failed node. -/
def Result.errorCode? (r : Result) : Option ErrorCode := r.error.map (·.code)

/-- The outcome of a run. -/
structure RunResults where
  executionId : String
  results : Table Result
  summary : PlanSummary
  /-- Whether cancellation kept a phase from starting. -/
  cancelled : Bool
  /-- Whether a failure kept a phase from starting. -/
  stoppedOnError : Bool
  durationMs : UInt64
deriving DecidableEq, Inhabited

namespace RunResults

/-- The record of a node. -/
def get? (r : RunResults) (id : String) : Option Result := r.results.get? id

/-- The outputs of a node that succeeded. -/
def outputsOf? (r : RunResults) (id : String) : Option Fields :=
  ((r.get? id).filter (·.success)).map (·.outputs)

/-- How many nodes succeeded. -/
def succeeded (r : RunResults) : Nat := r.results.values.countP (·.success)

/-- How many nodes failed. -/
def failed (r : RunResults) : Nat := r.results.values.countP (!·.success)

/-- Whether every planned node ran and succeeded. -/
def isSuccess (r : RunResults) : Bool :=
  !r.cancelled && !r.stoppedOnError && decide (r.failed = 0) &&
    decide (r.results.size = r.summary.totalNodes.toNat)

end RunResults

/-! ### Documents -/

/-- Read what is kept beside an outcome. -/
def Result.Metadata.ofDocument? (w : Written) : Option Result.Metadata := do
  let [duration, cached, attempts, version, trace] ←
    w.record? [["durationMs"], ["cached"], ["attempts"], ["nodeVersion"], ["traceId"]] | none
  return {
    durationMs := ← Slot.required? Written.word64? duration
    cached := ← Slot.required? Written.bool? cached
    attempts := ← Slot.required? Written.word32? attempts
    nodeVersion := ← Slot.required? Written.text? version
    traceId := ← Slot.required? Written.text? trace }

/-- What is kept beside an outcome, as a document. -/
def Result.Metadata.toJson (m : Result.Metadata) : Json :=
  .obj [("durationMs", .ofWord64 m.durationMs), ("cached", .bool m.cached),
    ("attempts", .ofWord32 m.attempts), ("nodeVersion", .str m.nodeVersion),
    ("traceId", .str m.traceId)]

/-- Read the record of a node. -/
def Result.ofDocument? (w : Written) : Option Result := do
  let [nodeId, success, outputs, error, metadata] ←
    w.record? [["nodeId"], ["success"], ["outputs"], ["error"], ["metadata"]] | none
  return {
    nodeId := ← Slot.required? Written.text? nodeId
    success := ← Slot.required? Written.bool? success
    outputs := ← Slot.orDefault? Table.empty Written.toFields? outputs
    error := ← Slot.optional? Failure.ofDocument? error
    metadata := ← Slot.required? Result.Metadata.ofDocument? metadata }

/-- The record of a node as a document. -/
def Result.toJson (r : Result) : Json :=
  .obj ([("nodeId", .str r.nodeId), ("success", .bool r.success),
    ("outputs", .ofFields r.outputs)] ++ Json.memberOf "error" Failure.toJson r.error ++
    [("metadata", r.metadata.toJson)])

/-- The outcome of a run as a document. -/
def RunResults.toJson (r : RunResults) : Json :=
  .obj [("executionId", .str r.executionId),
    ("results", .obj (r.results.map fun _ x => x.toJson).entries),
    ("summary", r.summary.toJson), ("cancelled", .bool r.cancelled),
    ("stoppedOnError", .bool r.stoppedOnError), ("durationMs", .ofWord64 r.durationMs)]

end PortGraph
