import PortGraph.Event
import PortGraph.Work.Basic

/-!
# Node bodies

What a node type does when it runs in process: work on the inputs and the configuration, both held
against the manifest beforehand, that may report progress and ends with outputs or a failure.

## Main definitions

* `Scope`: who is running what for whom
* `Report`: progress
* `Body`: the work of a node type
-/

namespace PortGraph

/-- The ids a body can see. -/
structure Scope where
  executionId : String
  graphId : String
  nodeId : String
  userId? : Option String
deriving DecidableEq, Inhabited

/-- Progress reported by a body. -/
structure Report where
  percent : Progress
  message : Option String
deriving DecidableEq, Inhabited

/-- Progress as it is passed on, kept within 0 and 100. -/
def Report.news (r : Report) : NodeNews := .progress r.percent.clamp r.message

/-- How a body ends: with outputs or a failure. -/
abbrev Outcome := Except NodeError Fields

/-- The work of a node type on inputs and a configuration. Bodies share a state `κ`. -/
abbrev Body (κ : Type) := Scope → Fields → Fields → Work κ Report Outcome

end PortGraph
