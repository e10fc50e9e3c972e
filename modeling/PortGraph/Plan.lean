import PortGraph.Graph
import PortGraph.Manifest

/-!
# Execution plans

A plan orders the nodes of a graph into phases and keeps, per node, all that is needed to run it:
the node, its manifest, and where each connected input comes from. The nodes of a phase do not
depend on one another.

## Main definitions

* `Plan`, `Phase`, `Step`, `Binding`
* `Plan.phaseOf?`: the phase of a node
* `Plan.summary`: the shape of a plan
-/

namespace PortGraph

/-- Nodes that do not depend on one another, in the order they start. -/
structure Phase where
  nodeIds : List String
  /-- Whether they may run side by side. -/
  parallel : Bool
deriving DecidableEq, Inhabited

/-- Where a bound value comes from. -/
inductive Binding.Source where
  /-- An output port of another node. -/
  | node (id port : String)
  /-- An input of the run. -/
  | initial (port : String)
deriving DecidableEq, Inhabited

/-- An input port and where its value comes from. -/
structure Binding where
  port : String
  source : Binding.Source
deriving DecidableEq, Inhabited

/-- All that is needed to run a node. -/
structure Step where
  node : Node
  manifest : Manifest
  bindings : List Binding
deriving DecidableEq, Inhabited

/-- The phases of a graph, and a step per node. -/
structure Plan where
  graphId : String
  phases : List Phase
  steps : Table Step
deriving DecidableEq, Inhabited

/-- The shape of a plan. -/
structure PlanSummary where
  totalPhases : UInt64
  totalNodes : UInt64
  parallelPhases : UInt64
  maxPhaseWidth : UInt64
  /-- Phases per unit of time, a parallel phase taking its share of a unit per node. -/
  parallelizationFactor : Double
deriving DecidableEq, Inhabited

/-- The time a phase takes in units: its share if it is parallel, one otherwise. -/
def Phase.cost (p : Phase) : Option Double :=
  if p.parallel then (Binary.ofNat .double p.nodeIds.length).bind (Binary.div Double.one)
  else some Double.one

namespace Plan

/-- The step of a node. -/
def step? (p : Plan) (id : String) : Option Step := p.steps.get? id

/-- The number of the phase that holds a node. -/
def phaseOf? (p : Plan) (id : String) : Option Nat :=
  p.phases.findIdx? (·.nodeIds.contains id)

/-- The ids of the planned nodes, phase by phase. -/
def nodeIds (p : Plan) : List String := p.phases.flatMap (·.nodeIds)

/-- How many nodes are planned. -/
def nodeCount (p : Plan) : Nat := p.nodeIds.length

/-- Whether there is nothing to run. -/
def isEmpty (p : Plan) : Bool := p.phases.isEmpty

/-- The time of all phases in units, added up in order from negative zero. -/
def cost (p : Plan) : Option Double :=
  p.phases.foldl (fun total q => total.bind fun t => q.cost.bind t.add) (some Double.negativeZero)

/-- Phases per unit of time, one for a plan without phases. -/
def factor (p : Plan) : Double :=
  match p.cost with
  | some c =>
    if Double.zero.lt c then
      ((Binary.ofNat .double p.phases.length).bind (·.div c)).getD Double.one
    else Double.one
  | none => Double.one

/-- The shape of a plan. -/
def summary (p : Plan) : PlanSummary where
  totalPhases := UInt64.ofNat p.phases.length
  totalNodes := UInt64.ofNat p.nodeCount
  parallelPhases := UInt64.ofNat (p.phases.countP (·.parallel))
  maxPhaseWidth := UInt64.ofNat ((p.phases.map (·.nodeIds.length)).foldl max 0)
  parallelizationFactor := p.factor

end Plan

/-- The shape in words. -/
def PlanSummary.display (s : PlanSummary) : String :=
  toString s.totalPhases.toNat ++ " phases, " ++ toString s.totalNodes.toNat ++ " nodes, " ++
    s.parallelizationFactor.fixed 2 ++ "x parallelization"

/-! ### Documents -/

/-- Read a phase. -/
def Phase.ofDocument? (w : Written) : Option Phase := do
  let [nodeIds, parallel] ← w.record? [["nodeIds"], ["parallel"]] | none
  return {
    nodeIds := ← Slot.required? (Written.list? Written.text?) nodeIds
    parallel := ← Slot.required? Written.bool? parallel }

/-- A phase as a document. -/
def Phase.toJson (p : Phase) : Json :=
  .obj [("nodeIds", .ofTexts p.nodeIds), ("parallel", .bool p.parallel)]

/-- Read a shape. -/
def PlanSummary.ofDocument? (w : Written) : Option PlanSummary := do
  let [phases, nodes, parallel, width, factor] ←
    w.record? [["totalPhases"], ["totalNodes"], ["parallelPhases"], ["maxPhaseWidth"],
      ["parallelizationFactor"]] | none
  return {
    totalPhases := ← Slot.required? Written.word64? phases
    totalNodes := ← Slot.required? Written.word64? nodes
    parallelPhases := ← Slot.required? Written.word64? parallel
    maxPhaseWidth := ← Slot.required? Written.word64? width
    parallelizationFactor := ← Slot.required? Written.double? factor }

/-- A shape as a document. -/
def PlanSummary.toJson (s : PlanSummary) : Json :=
  .obj [("totalPhases", .ofWord64 s.totalPhases), ("totalNodes", .ofWord64 s.totalNodes),
    ("parallelPhases", .ofWord64 s.parallelPhases), ("maxPhaseWidth", .ofWord64 s.maxPhaseWidth),
    ("parallelizationFactor", .ofDouble s.parallelizationFactor)]

end PortGraph
