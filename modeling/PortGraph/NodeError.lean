import PortGraph.Document

/-!
# Failures of a node

Why a node failed, with the message shown, the code recorded, and the details kept. Only a failure
reported by the node's own body, or a panic in it, is worth another attempt: every other cause would
fail the same way again or is no longer the node's to decide.

## Main definitions

* `TransportError`: a failure of the talk with the task service
* `NodeError`: the causes, with `message`, `code`, `isRetryable` and `details?`
* `ErrorCode`, `Failure`: what a result records
-/

namespace PortGraph

/-- A failure of the talk with the task service. -/
inductive TransportError where
  | request (message : String)
  | status (status : Nat) (body : String)
  | decode (message : String)
deriving DecidableEq, Inhabited

/-- The message of a transport failure. -/
def TransportError.message : TransportError → String
  | .request m => "Request failed: " ++ m
  | .status s body => "Task service returned " ++ toString s ++ ": " ++ body
  | .decode m => "Malformed response: " ++ m

/-- The code recorded for a failed node. -/
inductive ErrorCode where
  | invalidInputs | invalidConfig | executionError | timeout | notFound | cancelled
deriving DecidableEq, Inhabited

namespace ErrorCode

/-- The name of a code. -/
def name : ErrorCode → String
  | .invalidInputs => "INVALID_INPUTS"
  | .invalidConfig => "INVALID_CONFIG"
  | .executionError => "EXECUTION_ERROR"
  | .timeout => "TIMEOUT"
  | .notFound => "NOT_FOUND"
  | .cancelled => "CANCELLED"

/-- All codes. -/
def all : List ErrorCode :=
  [.invalidInputs, .invalidConfig, .executionError, .timeout, .notFound, .cancelled]

/-- The codes by name. -/
def byName : List (String × ErrorCode) := all.map fun c => (c.name, c)

/-- Read a code by its name. -/
def ofDocument? (w : Written) : Option ErrorCode := w.choice? byName

/-- A code as its name. -/
def toJson (c : ErrorCode) : Json := .str c.name

end ErrorCode

/-- Why a node failed. -/
inductive NodeError where
  /-- Bound inputs do not fit the input ports. -/
  | invalidInputs (problems : List String)
  /-- The configuration does not fit the schema. -/
  | invalidConfig (problems : List String)
  /-- The outputs do not fit the output ports. -/
  | invalidOutputs (problems : List String)
  /-- The body reported a failure. -/
  | failed (message : String) (details : Option String)
  /-- The body panicked. -/
  | panicked (message : String) (details : Option String)
  /-- The type does not run in process. -/
  | runtimeNotFound (type : String)
  /-- A remote task reported a failure. -/
  | remoteFailed (taskId message : String)
  /-- A remote task did not end in time. -/
  | timeout (taskId : String) (timeoutMs : UInt64)
  /-- A remote task could not be submitted. -/
  | submit (cause : TransportError)
  /-- The run was cancelled while the node was waiting. -/
  | cancelled
deriving DecidableEq, Inhabited

namespace NodeError

/-- The message of a failure. -/
def message : NodeError → String
  | .invalidInputs ps => "Invalid inputs: " ++ String.intercalate "; " ps
  | .invalidConfig ps => "Invalid config: " ++ String.intercalate "; " ps
  | .invalidOutputs ps => "Invalid outputs: " ++ String.intercalate "; " ps
  | .failed m _ => "Node execution failed: " ++ m
  | .panicked m _ => "Node panicked: " ++ m
  | .runtimeNotFound t => "No runtime registered for node type '" ++ t ++ "'"
  | .remoteFailed id m => "Remote task " ++ id ++ " failed: " ++ m
  | .timeout id ms => "Task " ++ id ++ " timed out after " ++ toString ms.toNat ++ "ms"
  | .submit e => "Failed to submit task: " ++ e.message
  | .cancelled => "Execution cancelled"

/-- The code of a failure. -/
def code : NodeError → ErrorCode
  | .invalidInputs _ => .invalidInputs
  | .invalidConfig _ => .invalidConfig
  | .runtimeNotFound _ => .notFound
  | .timeout .. => .timeout
  | .cancelled => .cancelled
  | .invalidOutputs _ | .failed .. | .panicked .. | .remoteFailed .. | .submit _ => .executionError

/-- Whether another attempt may be made. -/
def isRetryable : NodeError → Bool
  | .failed .. | .panicked .. => true
  | _ => false

/-- What is kept beside the message. -/
def details? : NodeError → Option String
  | .failed _ d | .panicked _ d => d
  | .remoteFailed id _ | .timeout id _ => some ("taskId=" ++ id)
  | _ => none

end NodeError

/-- A failure as a result records it. -/
structure Failure where
  code : ErrorCode
  message : String
  details : Option String := none
deriving DecidableEq, Inhabited

namespace Failure

/-- The record of a failed node. -/
def ofError (e : NodeError) : Failure := ⟨e.code, e.message, e.details?⟩

/-- Read a failure. -/
def ofDocument? (w : Written) : Option Failure := do
  let [code, message, details] ← w.record? [["code"], ["message"], ["details"]] | none
  return {
    code := ← Slot.required? ErrorCode.ofDocument? code
    message := ← Slot.required? Written.text? message
    details := ← Slot.optional? Written.text? details }

/-- A failure as a document. -/
def toJson (f : Failure) : Json :=
  .obj ([("code", f.code.toJson), ("message", .str f.message)] ++
    Json.memberOf "details" .str f.details)

end Failure

end PortGraph
