import PortGraph.Compile.Cycle
import PortGraph.Compile.Levels
import PortGraph.Compile.Structure
import PortGraph.Plan

/-!
# Compiling a graph

A graph without structural errors is put into phases, one per level, and every node gets its step.
Where the levels do not take in every node, the nodes left over hold a cycle.

Compiling stops at the first error. A report lists all errors and warnings; the cycle is only
looked for where nothing else is wrong.

## Main definitions

* `Graph.phases`: the phases, or the cycle that rules them out
* `Graph.compile`: a plan, or the first error
* `Graph.diagnose`: all errors and warnings
-/

namespace PortGraph

/-- All that was found about a graph. -/
structure CompileReport where
  errors : List CompileError
  warnings : List CompileWarning
deriving DecidableEq, Inhabited

/-- Whether nothing keeps the graph from running. -/
def CompileReport.isOk (r : CompileReport) : Bool := r.errors.isEmpty

namespace Graph

variable {β : Type}

/-! ### Phases -/

/-- A level as a phase. Its nodes may run side by side if there are several and the type of each
allows it. -/
def phaseOf (manifests : Table Manifest) (level : List String) : Phase where
  nodeIds := level
  parallel := 1 < level.length && level.all fun id =>
    match manifests.get? id with
    | some m => m.capabilities.parallel
    | none => false

/-- The cycle to report for the nodes left over: one that is found, or else all of them. -/
def cycleAmong (g : Graph) (left : List String) : List String :=
  (Cycle.find? g.links left).getD (Table.ofList (left.map fun id => (id, ()))).keys

/-- The phases of a graph, or the cycle that rules them out. -/
def phases (manifests : Table Manifest) (g : Graph) : Except CompileError (List Phase) :=
  let l := g.leveling
  if l.left.isEmpty then .ok (l.levels.map (phaseOf manifests))
  else .error (.cycleDetected (g.cycleAmong (l.left.map (·.1))))

/-! ### Steps -/

/-- The binding that a connection makes. -/
def bindingOf (c : Connection) : Binding where
  port := c.target.port
  source := if c.isInitial then .initial c.source.port else .node c.source.node c.source.port

/-- The step of a node. -/
def stepOf (manifests : Table Manifest) (g : Graph) (n : Node) : Except CompileError Step :=
  match manifests.get? n.id with
  | some m => .ok ⟨n, m, (g.incoming n.id).map bindingOf⟩
  | none => .error (.unknownNodeType n.id n.type)

/-- The steps of `nodes` added to `steps`. -/
def addSteps (manifests : Table Manifest) (g : Graph) (steps : Table Step) :
    List Node → Except CompileError (Table Step)
  | [] => .ok steps
  | n :: rest =>
    match g.stepOf manifests n with
    | .ok s => addSteps manifests g (steps.insert n.id s) rest
    | .error e => .error e

/-! ### Results -/

/-- Compile a graph, up to the first error. -/
def compile (r : Registry β) (g : Graph) : Except CompileError Plan :=
  match g.structureErrors r with
  | e :: _ => .error e
  | [] =>
    match g.phases (g.manifests r) with
    | .error e => .error e
    | .ok phases =>
      match g.addSteps (g.manifests r) Table.empty g.nodes with
      | .error e => .error e
      | .ok steps => .ok ⟨g.id, phases, steps⟩

/-- The warnings about a node. -/
def warningsOf (manifests : Table Manifest) (g : Graph) (n : Node) : List CompileWarning :=
  let incoming := g.incoming n.id
  (if incoming.isEmpty && (g.outgoing n.id).isEmpty && decide (1 < g.nodes.length) then
    [.orphanedNode n.id] else []) ++
    match manifests.get? n.id with
    | some m =>
      (m.inputs.filter fun p => p.required && !incoming.any (·.target.port = p.name)).map fun p =>
        .unconnectedRequiredInput n.id p.name
    | none => []

/-- All errors and warnings of a graph. -/
def diagnose (r : Registry β) (g : Graph) : CompileReport where
  errors :=
    match g.structureErrors r with
    | [] =>
      match g.phases (g.manifests r) with
      | .error e => [e]
      | .ok _ => []
    | errors => errors
  warnings := g.nodes.flatMap (g.warningsOf (g.manifests r))

end Graph

end PortGraph
