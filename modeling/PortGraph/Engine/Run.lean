import PortGraph.Compile.Report
import PortGraph.Engine.Basic

/-!
# Running a graph

A run goes through the phases of a plan in order. When a phase starts, the inputs of its nodes are
gathered from the results so far; when all of its nodes have ended, their results are added. Before
each phase cancellation and, if the engine is told so, failures are looked at; either ends the run
there. A phase that has started is left to end.

## Main definitions

* `gather`: the inputs of a step
* `Engine.runPhase`: the nodes of a phase, side by side or one by one
* `Engine.runPhases`: the phases up to the end of the run
* `Engine.runPlan`, `Engine.run`: a plan, and a graph
-/

namespace PortGraph

/-- Why there is no outcome of a run. -/
inductive RunError where
  | compile (error : CompileError)
  /-- The plan has no step for a node of one of its phases. -/
  | missingStep (nodeId : String)
  | fault (cause : Fault)
deriving DecidableEq, Inhabited

/-- The message of an error. -/
def RunError.message : RunError → String
  | .compile e => e.message
  | .missingStep id => "Plan is missing a step for node '" ++ id ++ "'"
  | .fault .delayOverflow => "overflow when multiplying duration by scalar"
  | .fault .stalled => "every node waits for what never comes"

/-! ### Inputs -/

/-- The value of a source: an output of a node that succeeded, or an input of the run. -/
def Binding.Source.value? (results : Table Result) (initial : Fields) : Binding.Source → Option Json
  | .node id port => ((results.get? id).filter (·.success)).bind (·.outputs.get? port)
  | .initial port => initial.get? port

/-- The inputs with the value of a binding, if it has one. -/
def bindInput (results : Table Result) (initial : Fields) (inputs : Fields) (b : Binding) : Fields :=
  match b.source.value? results initial with
  | some v => inputs.insert b.port v
  | none => inputs

/-- The inputs of a step. A port whose source has no value stays unbound. -/
def gather (step : Step) (results : Table Result) (initial : Fields) : Fields :=
  step.bindings.foldl (bindInput results initial) Table.empty

/-! ### Results -/

/-- The results with another one; of two for one node the first stays. -/
def addResult (results : Table Result) (r : Result) : Table Result :=
  if results.contains r.nodeId then results else results.insert r.nodeId r

/-- The nodes that failed, ascending. -/
def failedIds (results : Table Result) : List String :=
  (results.values.filter (!·.success)).map (·.nodeId)

/-- How a run ends: with its last phase, or before a phase that never starts. -/
inductive Ending where
  | finished
  | cancelled
  | stopped
deriving DecidableEq, Inhabited

namespace Engine

variable {κ : Type}

/-! ### A phase -/

/-- The work of a step in a run. -/
def stepWork (e : Engine κ) (scope : Scope) (results : Table Result) (initial : Fields) (step : Step) :
    Work (Shared κ) Event Result :=
  (e.execute { scope with nodeId := step.node.id } step (gather step results initial)).mapNews
    (.node scope.executionId step.node.id)

/-- The steps of a phase. -/
def stepsOf (plan : Plan) (phase : Phase) : List Step := phase.nodeIds.filterMap plan.step?

/-- How many nodes of a phase may be under way. -/
def room (e : Engine κ) (phase : Phase) (width : Nat) : Nat :=
  if phase.parallel then (e.limit?.map (max 1)).getD width else 1

/-- The results of a phase in the order in which they are taken up: the order in which the nodes
ended, if several may be under way and there is a limit, and that of the phase otherwise. -/
def takenUp (e : Engine κ) (phase : Phase) (found : List (Nat × Result)) : List Result :=
  if phase.parallel && e.limit?.isSome then Pool.asEnded found else found.map (·.2)

/-- Run the nodes of a phase until all of them have ended. -/
def runPhase (e : Engine κ) (plan : Plan) (scope : Scope) (initial : Fields) (results : Table Result)
    (phase : Phase) (world : World (Shared κ) Event) :
    Except Fault (World (Shared κ) Event × List Result) :=
  let works := (stepsOf plan phase).map (e.stepWork scope results initial)
  match (Pool.start world (e.room phase works.length) works).run (e.order e.limit? works.length) with
  | .error cause => .error cause
  | .ok (after, found) => .ok (after, e.takenUp phase found)

/-! ### The phases -/

/-- The phases from number `index` on: the world, the results and the ending they lead to. -/
def runPhases (e : Engine κ) (plan : Plan) (scope : Scope) (initial : Fields) (index : Nat)
    (results : Table Result) (world : World (Shared κ) Event) :
    List Phase → Except Fault (World (Shared κ) Event × Table Result × Ending)
  | [] => .ok (world, results, .finished)
  | phase :: rest =>
    let tell (w : World (Shared κ) Event) (news : RunNews) := w.tell (.run scope.executionId news)
    if world.cancelled then
      .ok (tell world (.cancelled (UInt64.ofNat index)), results, .cancelled)
    else if e.stopOnError && !(failedIds results).isEmpty then
      .ok (tell world (.stopped (UInt64.ofNat index) (failedIds results)), results, .stopped)
    else
      let world := tell world (.phaseStarted (UInt64.ofNat index) phase.nodeIds phase.parallel)
      match e.runPhase plan scope initial results phase world with
      | .error cause => .error cause
      | .ok (world, found) =>
        let failed := found.countP (!·.success)
        let world := tell world (.phaseCompleted (UInt64.ofNat index) (UInt64.ofNat failed))
        e.runPhases plan scope initial (index + 1) (found.foldl addResult results) world rest

/-- The first node of a plan without a step. -/
def missingStep? (plan : Plan) : Option String :=
  plan.nodeIds.find? fun id => (plan.step? id).isNone

/-- The outcome of a run that began at `start`. -/
def outcomeOf (scope : Scope) (plan : Plan) (start now : Nat) (results : Table Result)
    (ending : Ending) : RunResults where
  executionId := scope.executionId
  results := results
  summary := plan.summary
  cancelled := ending = .cancelled
  stoppedOnError := ending = .stopped
  durationMs := UInt64.ofNat (now - start)

/-- Run a plan. -/
def runPlan (e : Engine κ) (plan : Plan) (scope : Scope) (initial : Fields)
    (world : World (Shared κ) Event) : Except RunError (World (Shared κ) Event × RunResults) :=
  match missingStep? plan with
  | some id => .error (.missingStep id)
  | none =>
    let started := world.tell
      (.run scope.executionId (.started plan.graphId (UInt64.ofNat plan.phases.length)))
    match e.runPhases plan scope initial 0 Table.empty started plan.phases with
    | .error cause => .error (.fault cause)
    | .ok (after, results, ending) =>
      let run := outcomeOf scope plan world.now after.now results ending
      let news := .completed (UInt64.ofNat run.succeeded) (UInt64.ofNat run.failed) run.durationMs
      .ok (after.tell (.run scope.executionId news), run)

/-- Compile a graph and run it. -/
def run (e : Engine κ) (g : Graph) (scope : Scope) (initial : Fields)
    (world : World (Shared κ) Event) : Except RunError (World (Shared κ) Event × RunResults) :=
  match g.compile e.registry with
  | .error err => .error (.compile err)
  | .ok plan => e.runPlan plan scope initial world

end Engine

end PortGraph
