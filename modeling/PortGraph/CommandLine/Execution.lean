import PortGraph.CommandLine.Files
import PortGraph.CommandLine.Help
import PortGraph.CommandLine.Log
import PortGraph.Engine.Setup
import PortGraph.Nodes.Builtin

/-!
# Carrying out commands

From a request to what is printed, logged and left as an exit code. A command reads its files in a
fixed order and stops at the first that fails; whatever it has printed by then stays printed.

## Main definitions

* `CommandLine.Environment`: files, variables, and the id of a run
* `CommandLine.Answer`: what a command leaves
* `CommandLine.carryOut`: a request
* `CommandLine.answer`: arguments
-/

namespace PortGraph.CommandLine

/-! ### Answers -/

/-- What a command can see. -/
structure Environment where
  read : String → Except ReadError String
  setting? : String → Option String
  /-- The id of a run, should there be one. -/
  executionId : String

/-- What a command prints. -/
inductive Output where
  | text (s : String)
  | document (j : Json)

/-- The text that is printed. -/
def Output.display : Output → String
  | .text s => s
  | .document j => j.pretty ++ "\n"

/-- What a command leaves. -/
structure Answer where
  output : Output := .text ""
  log : List Log.Record := []
  /-- What is said about the arguments. -/
  usage : String := ""
  exitCode : Nat := 0

/-- The source of what the command line logs itself. -/
def source : String := "auditflow"

/-- A warning of the command line. -/
def warning (message : String) : Log.Record := ⟨.warn, source, message⟩

/-- An answer that ends with an error. -/
def Answer.failed (a : Answer) (message : String) : Answer :=
  { a with log := a.log ++ [⟨.error, source, message⟩], exitCode := 1 }

/-! ### Reading -/

/-- Read a file that has to be there. -/
def readFile {α : Type} (e : Environment) (reader : Written → Option α) (path : String) :
    Except String α :=
  match e.read path with
  | .error err => .error ("failed to read " ++ path ++ ": " ++ err.message)
  | .ok text =>
    match (Written.ofText? text).bind reader with
    | some a => .ok a
    | none => .error ("failed to parse " ++ path)

/-- Read a graph. One without an id has the name of its file. -/
def readGraph (e : Environment) (path : String) : Except String Graph :=
  (readFile e Graph.ofDocument? path).map fun g => if g.id = "" then { g with id := stem path } else g

/-- Read a configuration. One that is missing is the standard one. -/
def readConfig (e : Environment) (path : String) : Except String Config :=
  match e.read path with
  | .error .missing | .error .notDirectory | .error .nameTooLong => .ok {}
  | .error err => .error ("failed to load config " ++ path ++ ": IO error: " ++ err.message)
  | .ok text =>
    match Config.ofText? text with
    | some c => .ok c
    | none => .error ("failed to load config " ++ path ++ ": Parse error")

/-- The configuration of a run: the file, then the variables, then the options. -/
def configOf (e : Environment) (path : String) (mode? : Option Mode) (endpoint? : Option String) :
    Except String Config :=
  (readConfig e path).bind fun c =>
    match c.override e.setting? with
    | (_, some err) => .error ("invalid environment override: " ++ err.message)
    | (c, none) =>
      .ok { c with
        mode := mode?.getD c.mode
        remote := { c.remote with endpoint := endpoint?.getD c.remote.endpoint } }

/-! ### Listing node types -/

/-- The ports of a type with their types. -/
def portList (l : List Port) : String :=
  "(" ++ String.intercalate ", " (l.map fun p => p.name ++ ": " ++ p.type.display) ++ ")"

/-- A type with its ports. -/
def typeLine (m : Manifest) : String :=
  "  " ++ m.type ++ String.ofList (List.replicate (20 - m.type.length) ' ') ++ " " ++
    portList m.inputs ++ " -> " ++ portList m.outputs

/-- The types of a registry by category. -/
def typeList {β : Type} (r : Registry β) : List String :=
  r.byCategory.flatMap fun g => g.1.heading :: g.2.map typeLine

/-- List the types of a registry. -/
def listTypes {β : Type} (r : Registry β) (json : Bool) : Answer :=
  { output := if json then .document (.arr (r.manifests.map Manifest.toJson)) else .text (lines (typeList r)) }

/-! ### Showing a plan -/

/-- A phase with its number and nodes. -/
def phaseLine (index : Nat) (p : Phase) : String :=
  "phase " ++ toString index ++ (if p.parallel then " (parallel)" else "") ++ ": " ++
    String.intercalate ", " p.nodeIds

/-- The phases of a plan and its summary. -/
def planLines (p : Plan) : List String :=
  p.phases.mapIdx phaseLine ++ [p.summary.display]

/-- Show the plan of a graph. -/
def showPlan {β : Type} (r : Registry β) (g : Graph) : Answer :=
  let warned : Answer := { log := (g.diagnose r).warnings.map fun w => warning w.message }
  match g.compile r with
  | .ok p => { warned with output := .text (lines (planLines p)) }
  | .error err => warned.failed ("graph does not compile: " ++ err.message)

/-! ### Running a graph -/

/-- What is logged of an event, by the scheduler and by the command line. -/
def eventLog : Event → List Log.Record
  | .node _ id (.failed code message) =>
    let rest := " failed [" ++ code.name ++ "]: " ++ message
    [⟨.warn, "auditflow_engine::scheduler", "Node '" ++ id ++ "'" ++ rest⟩, warning (id ++ rest)]
  | .run _ (.stopped phases failed) =>
    [warning ("Run stopped after " ++ toString phases.toNat ++ " phases: " ++
      String.intercalate ", " failed ++ " failed")]
  | _ => []

/-- What is logged of a scan for amounts: how many rows it had to skip. -/
def scanLog (r : RunResults) (step : Step) : List Log.Record :=
  let message? : Option String := do
    let result ← r.get? step.node.id
    if !result.success || result.metadata.cached || step.manifest.type ≠ Nodes.Threshold.manifest.type then
      none
    let config ← (step.manifest.validateConfig step.node.config).toOption
    let settings ← (Nodes.Threshold.settings config).toOption
    match (result.outputs.get? "findings").bind (·.get? "skipped") with
    | some (.num (.whole (.ofNat skipped))) =>
      if skipped = 0 then none
      else some ("[" ++ r.executionId ++ "/" ++ step.node.id ++ "] " ++ toString skipped ++
        " rows had no numeric '" ++ settings.field ++ "'")
    | _ => none
  message?.toList.map fun m => ⟨.warn, "auditflow_engine::context", m⟩

/-- What is wrong with a run that is no success. -/
def shortfall (r : RunResults) : String :=
  toString r.failed ++ " of " ++ toString r.summary.totalNodes.toNat ++ " nodes failed" ++
    (if r.cancelled then " (cancelled)" else if r.stoppedOnError then " (stopped on error)" else "")

/-- Run a graph on an engine with its cache. -/
def runGraph (engine : Engine Unit) (cache? : Option Cache) (g : Graph) (initial : Fields)
    (executionId : String) : Answer :=
  match engine.run g ⟨executionId, g.id, "", none⟩ initial (.start 0 ⟨cache?, ()⟩) with
  | .error err => Answer.failed {} ("run failed: " ++ err.message)
  | .ok (world, r) =>
    let steps := match g.compile engine.registry with
      | .ok plan => plan.steps.values
      | .error _ => []
    let answer : Answer := {
      output := .document r.toJson
      log := world.log.toList.flatMap (fun e => eventLog e.2) ++ steps.flatMap (scanLog r) }
    if r.isSuccess then answer else answer.failed (shortfall r)

/-! ### Commands -/

/-- The paths that a request may have to read. -/
def Request.paths (r : Request) : List String :=
  match r.command with
  | .nodes _ => []
  | .plan graph => [graph]
  | .run graph inputs? _ _ => [r.config, graph] ++ inputs?.toList

/-- Carry out a request. -/
def carryOut (e : Environment) (r : Request) : Answer :=
  let registry : Registry (Body Unit) := Registry.builtin
  match r.command with
  | .nodes json => listTypes registry json
  | .plan path =>
    match readGraph e path with
    | .ok g => showPlan registry g
    | .error message => Answer.failed {} message
  | .run path inputs? mode? endpoint? =>
    let read : Except String (Config × Graph × Fields) := do
      let config ← configOf e r.config mode? endpoint?
      let graph ← readGraph e path
      let initial ← match inputs? with
        | some path => readFile e Written.toFields? path
        | none => .ok Table.empty
      return (config, graph, initial)
    match read with
    | .ok (config, graph, initial) =>
      runGraph (.ofConfig registry config) config.cache? graph initial e.executionId
    | .error message => Answer.failed {} message

/-- What is left of arguments that are no request. What was asked for goes to the output. -/
def refuse (r : Refusal) : Answer :=
  if r.exitCode = 0 then { output := .text r.message }
  else { usage := r.message, exitCode := r.exitCode }

/-- Answer arguments. -/
def answer (e : Environment) (arguments : List String) : Answer :=
  match parse arguments with
  | .ok r => carryOut e r
  | .error refusal => refuse refusal

/-- The variable that says what is logged. -/
def logKey : String := "RUST_LOG"

/-- What of a log is shown. -/
def logFilter (setting? : String → Option String) : Log.Filter :=
  match setting? logKey with
  | some s => .ofText s
  | none => .standard

end PortGraph.CommandLine
