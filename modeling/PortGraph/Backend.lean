import PortGraph.Body
import PortGraph.Manifest

/-!
# Backends

Where the bodies of nodes run. A backend takes one invocation, whose inputs and configuration have
been held against the manifest, and ends with outputs or a failure and the number of times the body
was started.

## Main definitions

* `Invocation`, `Dispatch`: what a backend takes and gives
* `DispatchNews`: what it may tell on the way
* `Backend`
-/

namespace PortGraph

/-- One node to run. -/
structure Invocation where
  scope : Scope
  manifest : Manifest
  inputs : Fields
  config : Fields
deriving DecidableEq, Inhabited

/-- How a dispatched node ended, and how often its body was started. -/
structure Dispatch where
  result : Outcome
  attempts : UInt32

/-- What is told while a node is under way. -/
inductive DispatchNews where
  | progress (report : Report)
  /-- An attempt failed, and another one is made after a delay. -/
  | retrying (attempt : UInt32) (delayMs : UInt64) (error : String)
  /-- The node was handed to the task service. -/
  | submitted (taskId : String)
deriving DecidableEq, Inhabited

/-- What is told of the node. -/
def DispatchNews.news : DispatchNews → NodeNews
  | .progress r => r.news
  | .retrying attempt delay error => .retrying attempt delay error
  | .submitted taskId => .submitted taskId

/-- Where bodies run. -/
structure Backend (κ : Type) where
  name : String
  dispatch : Invocation → Work κ DispatchNews Dispatch

end PortGraph
