import PortGraph.Graph

/-!
# Why a graph does not compile

Each way in which a graph is not fit to run, and the findings that do not keep it from running.

## Main definitions

* `CompileError`, `CompileError.message`
* `CompileWarning`, `CompileWarning.message`
-/

namespace PortGraph

/-- A side of a node. -/
inductive PortDirection where
  | input
  | output
deriving DecidableEq, Inhabited

namespace PortDirection

/-- The name of a side. -/
def name : PortDirection → String
  | .input => "input"
  | .output => "output"

/-- Read a side by its name. -/
def ofDocument? (w : Written) : Option PortDirection :=
  w.choice? [("input", .input), ("output", .output)]

end PortDirection

/-- A way in which a graph is not fit to run. -/
inductive CompileError where
  /-- The declared types of the two ends do not go together. -/
  | typeMismatch (connection : Connection) (sourceType targetType : String)
  /-- Each node feeds the next one, and the last feeds the first. -/
  | cycleDetected (nodeIds : List String)
  | unknownNode (connection : Connection) (nodeId : String)
  | unknownNodeType (nodeId type : String)
  | unknownPort (nodeId port : String) (direction : PortDirection)
  | duplicateNodeId (nodeId : String)
  /-- The id stands for the inputs of the run. -/
  | reservedNodeId (nodeId : String)
  /-- Two connections feed one input. -/
  | ambiguousInput (nodeId port : String)
deriving DecidableEq, Inhabited

/-- The message of an error. -/
def CompileError.message : CompileError → String
  | .typeMismatch c s t => "Type mismatch on " ++ c.display ++ ": " ++ s ++ " cannot feed " ++ t
  | .cycleDetected ids =>
    "Cycle detected through nodes [" ++ String.intercalate " -> " ids ++ "]"
  | .unknownNode c id => "Connection " ++ c.display ++ " references unknown node '" ++ id ++ "'"
  | .unknownNodeType id t => "Node '" ++ id ++ "' uses unregistered type '" ++ t ++ "'"
  | .unknownPort id port d => "Node '" ++ id ++ "' has no " ++ d.name ++ " port '" ++ port ++ "'"
  | .duplicateNodeId id => "Node id '" ++ id ++ "' appears more than once"
  | .reservedNodeId id => "Node id '" ++ id ++ "' is reserved for initial inputs"
  | .ambiguousInput id port =>
    "Input '" ++ id ++ "." ++ port ++ "' is fed by more than one connection"

/-- A finding that does not keep a graph from running. -/
inductive CompileWarning where
  /-- The node will fail, as nothing feeds a port that must be fed. -/
  | unconnectedRequiredInput (nodeId port : String)
  /-- The node stands apart from the others. -/
  | orphanedNode (nodeId : String)
deriving DecidableEq, Inhabited

namespace CompileWarning

/-- The message of a finding. -/
def message : CompileWarning → String
  | .unconnectedRequiredInput id port =>
    "Required input '" ++ port ++ "' on node '" ++ id ++ "' is not connected"
  | .orphanedNode id => "Node '" ++ id ++ "' has no connections"

/-- A finding as a document. -/
def toJson : CompileWarning → Json
  | .unconnectedRequiredInput id port =>
    .obj [("kind", .str "unconnectedRequiredInput"), ("nodeId", .str id), ("port", .str port)]
  | .orphanedNode id => .obj [("kind", .str "orphanedNode"), ("nodeId", .str id)]

end CompileWarning

end PortGraph
