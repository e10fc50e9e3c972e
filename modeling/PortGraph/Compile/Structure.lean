import PortGraph.Compile.Error
import PortGraph.Registry

/-!
# The structure of a graph

What can be said against a graph one node and one connection at a time: ids, types, ports, and
whether the two ends of a connection go together. All errors are listed, those of the nodes first.

A connection with an unknown end is not looked at any further, and neither is one whose port or
type is unknown beyond that point.

## Main definitions

* `Graph.manifests`: the manifest of each node, by its id
* `Graph.structureErrors`: all errors, in order
-/

namespace PortGraph.Graph

variable {β : Type}

/-- The manifests of the nodes whose type is registered, by node id. -/
def manifests (r : Registry β) (g : Graph) : Table Manifest :=
  Table.ofList (g.nodes.filterMap fun n => (r.manifest? n.type).map fun m => (n.id, m))

/-! ### Nodes -/

/-- The errors of a node that follows nodes with the ids `before`. -/
def nodeErrorsAfter (r : Registry β) (before : List String) (n : Node) : List CompileError :=
  (if n.id = initialNode then [.reservedNodeId n.id] else []) ++
    ((if before.contains n.id then [.duplicateNodeId n.id] else []) ++
      (if r.contains n.type then [] else [.unknownNodeType n.id n.type]))

/-- The errors of the nodes `nodes`, which follow nodes with the ids `before`. -/
def nodeErrors (r : Registry β) (before : List String) : List Node → List CompileError
  | [] => []
  | n :: rest => nodeErrorsAfter r before n ++ nodeErrors r (before ++ [n.id]) rest

/-! ### Connections -/

/-- The errors of the ends of a connection, the source first. -/
def endErrors (g : Graph) (c : Connection) : List CompileError :=
  (if c.isInitial || g.nodeIds.contains c.source.node then []
    else [.unknownNode c c.source.node]) ++
    (if g.nodeIds.contains c.target.node then [] else [.unknownNode c c.target.node])

/-- The first error of the ports and types of a connection whose ends are known. -/
def portError? (manifests : Table Manifest) (c : Connection) : Option CompileError :=
  match manifests.get? c.target.node with
  | none => none
  | some target =>
    match target.inputPort? c.target.port with
    | none => some (.unknownPort c.target.node c.target.port .input)
    | some input =>
      if c.isInitial then none
      else
        match manifests.get? c.source.node with
        | none => none
        | some source =>
          match source.outputPort? c.source.port with
          | none => some (.unknownPort c.source.node c.source.port .output)
          | some output =>
            if input.type.acceptsPort output.type then none
            else some (.typeMismatch c output.type.display input.type.display)

/-- The errors of the connections `connections`, the inputs `fed` being fed already. -/
def connectionErrors (g : Graph) (manifests : Table Manifest) (fed : List Endpoint) :
    List Connection → List CompileError
  | [] => []
  | c :: rest =>
    match g.endErrors c with
    | [] =>
      (if fed.contains c.target then [.ambiguousInput c.target.node c.target.port] else []) ++
        ((portError? manifests c).toList ++ connectionErrors g manifests (c.target :: fed) rest)
    | errors => errors ++ connectionErrors g manifests fed rest

/-- All that can be said against the nodes and the connections one by one. -/
def structureErrors (r : Registry β) (g : Graph) : List CompileError :=
  nodeErrors r [] g.nodes ++ g.connectionErrors (g.manifests r) [] g.connections

end PortGraph.Graph
