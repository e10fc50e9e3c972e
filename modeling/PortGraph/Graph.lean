import PortGraph.Document

/-!
# Graphs

A graph places nodes and connects an output port of one to an input port of another. A connection
whose source is the reserved node `__initial__` takes its value from the inputs of the run.

## Main definitions

* `Node`, `Endpoint`, `Connection`, `Graph`
* `Graph.incoming`, `Graph.outgoing`, `Graph.dependencies`: the neighbourhood of a node
* `Graph.links`: the connections between nodes, as pairs of node ids
-/

namespace PortGraph

/-- The reserved source whose ports are the inputs of a run. -/
def initialNode : String := "__initial__"

/-- A node placed in a graph: its id, the type it is of, and its configuration. -/
structure Node where
  id : String
  type : String
  config : Fields
deriving DecidableEq, Inhabited

/-- A port of a node. -/
structure Endpoint where
  node : String
  port : String
deriving DecidableEq, Inhabited

/-- A connection from an output port to an input port. -/
structure Connection where
  source : Endpoint
  target : Endpoint
deriving DecidableEq, Inhabited

/-- Nodes and their connections. -/
structure Graph where
  id : String
  nodes : List Node
  connections : List Connection
deriving DecidableEq, Inhabited

/-- An endpoint as `node.port`. -/
def Endpoint.display (e : Endpoint) : String := e.node ++ "." ++ e.port

namespace Connection

/-- Whether the value comes from the inputs of the run. -/
def isInitial (c : Connection) : Bool := c.source.node = initialNode

/-- A connection as `source -> target`. -/
def display (c : Connection) : String := c.source.display ++ " -> " ++ c.target.display

end Connection

namespace Graph

/-- The first node with the given id. -/
def find? (g : Graph) (id : String) : Option Node := g.nodes.find? (·.id = id)

/-- The connections into a node, in order. -/
def incoming (g : Graph) (id : String) : List Connection :=
  g.connections.filter (·.target.node = id)

/-- The connections out of a node, in order. -/
def outgoing (g : Graph) (id : String) : List Connection :=
  g.connections.filter (·.source.node = id)

/-- The nodes a node depends on, each once, in the order of the connections. -/
def dependencies (g : Graph) (id : String) : List String :=
  (g.incoming id).foldl (fun found c =>
    if c.isInitial || found.contains c.source.node then found else found ++ [c.source.node]) []

/-- The ids of the nodes, in order. -/
def nodeIds (g : Graph) : List String := g.nodes.map (·.id)

/-- The connections between nodes as pairs of source and target, with repetitions. -/
def links (g : Graph) : List (String × String) :=
  (g.connections.filter (!·.isInitial)).map fun c => (c.source.node, c.target.node)

/-! ### Building -/

/-- The graph without nodes. -/
def named (id : String) : Graph := ⟨id, [], []⟩

/-- Place another node. -/
def place (g : Graph) (n : Node) : Graph := { g with nodes := g.nodes ++ [n] }

/-- Connect an output port to an input port. -/
def connect (g : Graph) (source target : Endpoint) : Graph :=
  { g with connections := g.connections ++ [⟨source, target⟩] }

end Graph

/-- A node with one more configured value. -/
def Node.configure (n : Node) (key : String) (value : Json) : Node :=
  { n with config := n.config.insert key value }

/-! ### Documents -/

/-- Read a node. -/
def Node.ofDocument? (w : Written) : Option Node := do
  let [id, type, config] ← w.record? [["id"], ["type"], ["config"]] | none
  return {
    id := ← Slot.required? Written.text? id
    type := ← Slot.required? Written.text? type
    config := ← Slot.orDefault? Table.empty Written.toFields? config }

/-- Read an endpoint. -/
def Endpoint.ofDocument? (w : Written) : Option Endpoint := do
  let [node, port] ← w.record? [["nodeId"], ["port", "portName"]] | none
  return {
    node := ← Slot.required? Written.text? node
    port := ← Slot.required? Written.text? port }

/-- Read a connection. -/
def Connection.ofDocument? (w : Written) : Option Connection := do
  let [source, target] ← w.record? [["from"], ["to"]] | none
  return {
    source := ← Slot.required? Endpoint.ofDocument? source
    target := ← Slot.required? Endpoint.ofDocument? target }

/-- Read a graph. -/
def Graph.ofDocument? (w : Written) : Option Graph := do
  let [id, nodes, connections] ← w.record? [["id"], ["nodes"], ["connections", "edges"]] | none
  return {
    id := ← Slot.orDefault? "" Written.text? id
    nodes := ← Slot.orDefault? [] (Written.list? Node.ofDocument?) nodes
    connections := ← Slot.orDefault? [] (Written.list? Connection.ofDocument?) connections }

/-- A node as a document. -/
def Node.toJson (n : Node) : Json :=
  .obj [("id", .str n.id), ("type", .str n.type), ("config", .ofFields n.config)]

/-- An endpoint as a document. -/
def Endpoint.toJson (e : Endpoint) : Json := .obj [("nodeId", .str e.node), ("port", .str e.port)]

/-- A connection as a document. -/
def Connection.toJson (c : Connection) : Json :=
  .obj [("from", c.source.toJson), ("to", c.target.toJson)]

/-- A graph as a document. -/
def Graph.toJson (g : Graph) : Json :=
  .obj [("id", .str g.id), ("nodes", .arr (g.nodes.map Node.toJson)),
    ("connections", .arr (g.connections.map Connection.toJson))]

end PortGraph
