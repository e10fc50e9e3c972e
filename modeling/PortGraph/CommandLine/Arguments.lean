import PortGraph.Config

/-!
# Arguments

The arguments of the command line: a command with its flags, options and at most one file, and an
option that may stand before the command or after it. An option takes the argument after it, or what
follows an equals sign; after two dashes no argument is an option any more.

The value of an argument is looked at when the next argument is known not to be part of it, so of two
faults the one that is met first in this order is told.

## Main definitions

* `CommandLine.Command`, `CommandLine.Request`: what is asked for
* `CommandLine.Refusal`: why arguments are not a request
* `CommandLine.Level`: what can be said at a place
* `CommandLine.parse`: the request of arguments
-/

namespace PortGraph.CommandLine

/-! ### Requests -/

/-- What is to be done. -/
inductive Command where
  /-- List the node types. -/
  | nodes (json : Bool)
  /-- Compile a graph and show its phases. -/
  | plan (graph : String)
  /-- Compile a graph and run it. -/
  | run (graph : String) (inputs? : Option String) (mode? : Option Mode) (endpoint? : Option String)
deriving DecidableEq, Inhabited

/-- What is to be done with which configuration file. -/
structure Request where
  config : String
  command : Command
deriving DecidableEq, Inhabited

/-- The names of the commands. -/
inductive Topic where
  | program | nodes | plan | run | help
deriving DecidableEq, Inhabited

/-- The commands by name. -/
def topics : List (String × Topic) :=
  [("nodes", .nodes), ("plan", .plan), ("run", .run), ("help", .help)]

/-- The command of a name. -/
def topic? (name : String) : Option Topic := (topics.find? (·.1 = name)).map (·.2)

/-- Why arguments are not a request. -/
inductive Refusal where
  /-- Help is asked for. -/
  | help (topic : Topic)
  /-- The version is asked for. -/
  | version
  | noArguments
  | missingCommand
  | unknownCommand (name : String)
  | unknownArgument (argument : String)
  | missingArgument (name : String)
  /-- An option without a value, or with an empty one where a path is wanted. -/
  | missingValue (name : String)
  | invalidValue (name value : String)
  | unneededValue (name : String)
  | repeated (name : String)
deriving DecidableEq, Inhabited

/-- The exit code that goes with a refusal. -/
def Refusal.exitCode : Refusal → Nat
  | .help _ | .version => 0
  | _ => 2

/-! ### Places -/

/-- What can be said at a place: before a command, or after it. -/
structure Level where
  topic : Topic
  flags : List String := []
  options : List String := ["config"]
  file? : Option String := none
  hasVersion : Bool := false
  hasCommands : Bool := false

namespace Level

/-- Before a command. -/
def top : Level := { topic := .program, hasVersion := true, hasCommands := true }

/-- After a command. -/
def ofTopic : Topic → Level
  | .nodes => { topic := .nodes, flags := ["json"] }
  | .plan => { topic := .plan, file? := some "graph" }
  | .run =>
    { topic := .run, options := ["config", "inputs", "mode", "endpoint"], file? := some "graph" }
  | .program | .help => top

end Level

/-! ### Values -/

/-- What has been said at a place so far. -/
structure Draft where
  values : List (String × String) := []
  /-- The last option or file, with its value if that has been given: it is not looked at yet. -/
  pending? : Option (String × Option String) := none
  /-- Whether no argument is an option any more. -/
  onlyFiles : Bool := false

namespace Draft

/-- The value of a name. -/
def get? (d : Draft) (name : String) : Option String := (d.values.find? (·.1 = name)).map (·.2)

/-- Whether a value fits its name. -/
def check (name value : String) : Except Refusal Unit :=
  if name = "mode" then
    match Mode.ofText value with
    | .ok _ => .ok ()
    | .error _ => .error (.invalidValue name value)
  else if name ∈ ["config", "inputs", "graph"] ∧ value = "" then .error (.missingValue name)
  else .ok ()

/-- Keep the value of a name that has none yet. -/
def keep (d : Draft) (name value : String) : Except Refusal Draft :=
  if (d.get? name).isSome then .error (.repeated name)
  else (check name value).map fun _ => { d with values := d.values ++ [(name, value)] }

/-- Look at the last option or file. -/
def settle (d : Draft) : Except Refusal Draft :=
  match d.pending? with
  | none => .ok d
  | some (name, none) => .error (.missingValue name)
  | some (name, some value) => { d with pending? := none }.keep name value

/-- Whether the next argument is the value of an option, unless it looks like one itself. -/
def awaitsValue (d : Draft) : Bool := d.pending?.any (·.2.isNone)

end Draft

/-! ### Arguments -/

/-- A long option: its name, and its value after an equals sign. -/
def long? (argument : String) : Option (String × Option String) :=
  match argument.toList with
  | '-' :: '-' :: c :: rest =>
    let name := String.ofList ((c :: rest).takeWhile (· ≠ '='))
    match (c :: rest).dropWhile (· ≠ '=') with
    | _ :: value => some (name, some (String.ofList value))
    | [] => some (name, none)
  | _ => none

/-- The first letter of a short option. -/
def short? (argument : String) : Option Char :=
  match argument.toList with
  | '-' :: c :: _ => if c = '-' then none else some c
  | _ => none

/-- Take a long option. -/
def Level.takeLong (l : Level) (d : Draft) (argument name : String) (value? : Option String) :
    Except Refusal Draft :=
  if name = "help" || (name = "version" && l.hasVersion) || name ∈ l.flags then
    if value?.isSome then .error (.unneededValue name)
    else
      d.settle.bind fun d =>
        if name = "help" then .error (.help l.topic)
        else if name ∈ l.flags then d.keep name "true"
        else .error .version
  else if name ∈ l.options then
    d.settle.bind fun d =>
      match value? with
      | some value => d.keep name value
      | none => .ok { d with pending? := some (name, none) }
  else .error (.unknownArgument argument)

/-- Take an argument that is no option. -/
def Level.takePlain (l : Level) (d : Draft) (argument : String) : Except Refusal Draft :=
  match l.file? with
  | some name =>
    let given := (d.get? name).isSome || d.pending?.any (·.1 = name)
    if given then .error (.unknownArgument argument)
    else d.settle.map fun d => { d with pending? := some (name, some argument) }
  | none =>
    if l.hasCommands && (topic? argument).isNone then .error (.unknownCommand argument)
    else .error (.unknownArgument argument)

/-- Take an argument. -/
def Level.take (l : Level) (d : Draft) (argument : String) : Except Refusal Draft :=
  if d.onlyFiles then l.takePlain d argument
  else if argument = "--" then .ok { d with onlyFiles := true }
  else
    match long? argument, short? argument with
    | some (name, value?), _ => l.takeLong d argument name value?
    | none, some c =>
      if c = 'h' then d.settle.bind fun _ => .error (.help l.topic)
      else if c = 'V' ∧ l.hasVersion then d.settle.bind fun _ => .error .version
      else .error (.unknownArgument argument)
    | none, none =>
      match d.pending? with
      | some (name, none) => .ok { d with pending? := some (name, some argument) }
      | _ => l.takePlain d argument

/-- Take all arguments. -/
def Level.takeAll (l : Level) (d : Draft) : List String → Except Refusal Draft
  | [] => d.settle
  | argument :: rest => (l.take d argument).bind fun d => l.takeAll d rest

/-! ### Commands -/

/-- The arguments after the word that asks for help: the names of commands. -/
def helpFor : List String → Refusal
  | [] => .help .program
  | name :: rest =>
    match topic? name, rest with
    | none, _ => .unknownCommand name
    | some t, [] => .help t
    | some _, name :: _ => .unknownCommand name

/-- The command of what was said after its name. -/
def commandOf (t : Topic) (d : Draft) : Except Refusal Command :=
  let graph : Except Refusal String := match d.get? "graph" with
    | some path => .ok path
    | none => .error (.missingArgument "graph")
  match t with
  | .nodes => .ok (.nodes (d.get? "json").isSome)
  | .plan => graph.map .plan
  | .run =>
    graph.map fun path =>
      .run path (d.get? "inputs")
        ((d.get? "mode").bind fun v => (Mode.ofText v).toOption) (d.get? "endpoint")
  | .program | .help => .error .missingCommand

/-- The configuration file if none is named. -/
def standardConfig : String := "auditflow.json"

/-- The request of a command, with what was said before it. -/
def requestOf (t : Topic) (before : Draft) (arguments : List String) : Except Refusal Request := do
  let after ← (Level.ofTopic t).takeAll {} arguments
  let command ← commandOf t after
  let before ← before.settle
  return ⟨((after.get? "config").or (before.get? "config")).getD standardConfig, command⟩

/-- The request of arguments, `said` being what was said before them. -/
def parseFrom (said : Draft) : List String → Except Refusal Request
  | [] =>
    said.settle.bind fun said =>
      .error (if said.values.isEmpty then .noArguments else .missingCommand)
  | argument :: rest =>
    match if said.onlyFiles || said.awaitsValue then none else topic? argument with
    | some .help => .error (helpFor rest)
    | some t => requestOf t said rest
    | none => (Level.top.take said argument).bind fun said => parseFrom said rest

/-- The request of arguments. -/
def parse (arguments : List String) : Except Refusal Request := parseFrom {} arguments

end PortGraph.CommandLine
