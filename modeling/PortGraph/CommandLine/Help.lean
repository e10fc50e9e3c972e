import PortGraph.CommandLine.Arguments

/-!
# Help

The texts that a user of the command line is shown instead of a result: help on a command, the
version, and what is wrong with the arguments.

## Main definitions

* `CommandLine.Topic.page`: help on the program or a command
* `CommandLine.Refusal.message`: what is shown for arguments that are no request
-/

namespace PortGraph.CommandLine

/-- The name of the program. -/
def programName : String := "auditflow"

/-- The version of the program. -/
def programVersion : String := "0.1.0"

/-- Lines, each with its end. -/
def lines (l : List String) : String := String.join (l.map (· ++ "\n"))

/-- Two columns, the first as wide as its widest entry. -/
def columns (rows : List (String × String)) : List String :=
  let width := (rows.map (·.1.length)).foldl max 0
  rows.map fun r =>
    "  " ++ r.1 ++ String.ofList (List.replicate (width - r.1.length) ' ') ++ "  " ++ r.2

/-- The option for the configuration file. -/
def configRow : String × String :=
  ("    --config <CONFIG>",
    "Engine configuration file (JSON); defaults apply when missing [default: auditflow.json]")

/-- The option for help. -/
def helpRow : String × String := ("-h, --help", "Print help")

/-- What a command is for, in one line. -/
def Topic.summary : Topic → String
  | .program => "Compile and run AuditFlow graphs"
  | .nodes => "List registered node types"
  | .plan => "Compile a graph and print its phases"
  | .run => "Compile and execute a graph"
  | .help => "Print this message or the help of the given subcommand(s)"

/-- How a command is written. -/
def Topic.usage : Topic → String
  | .program => programName ++ " [OPTIONS] <COMMAND>"
  | .nodes => programName ++ " nodes [OPTIONS]"
  | .plan => programName ++ " plan [OPTIONS] <GRAPH>"
  | .run => programName ++ " run [OPTIONS] <GRAPH>"
  | .help => programName ++ " help [COMMAND]..."

/-- What stands between the usage of a command and its options. -/
def Topic.arguments : Topic → List String
  | .program =>
    ["Commands:"] ++ columns (topics.map fun t => (t.1, t.2.summary)) ++ [""]
  | .plan | .run => ["Arguments:"] ++ columns [("<GRAPH>", "Graph file (JSON)")] ++ [""]
  | .help => ["Arguments:"] ++ columns [("[COMMAND]...", "Print help for the subcommand(s)")]
  | .nodes => []

/-- The options of a command. -/
def Topic.options : Topic → List (String × String)
  | .program => [configRow, helpRow, ("-V, --version", "Print version")]
  | .nodes => [configRow, ("    --json", "Print full manifests as JSON"), helpRow]
  | .plan => [configRow, helpRow]
  | .run =>
    [configRow,
      ("    --inputs <INPUTS>", "Initial inputs (JSON object), bound through the \x60__initial__\x60 node"),
      ("    --mode <MODE>", "Override the configured execution mode"),
      ("    --endpoint <ENDPOINT>", "Override the remote task service endpoint"), helpRow]
  | .help => []

/-- Help on a command. -/
def Topic.page (t : Topic) : String :=
  let options := if t.options.isEmpty then [] else ["Options:"] ++ columns t.options
  lines ([t.summary, "", "Usage: " ++ t.usage, ""] ++ t.arguments ++ options)

/-- What is shown for arguments that are no request. -/
def Refusal.message : Refusal → String
  | .help t => t.page
  | .version => lines [programName ++ " " ++ programVersion]
  | .noArguments => Topic.program.page
  | .missingCommand => fault "a command is required"
  | .unknownCommand name => fault ("unrecognized command '" ++ name ++ "'")
  | .unknownArgument argument => fault ("unexpected argument '" ++ argument ++ "' found")
  | .missingArgument name => fault ("the argument <" ++ name.toUpper ++ "> was not provided")
  | .missingValue name => fault ("a value is required for '" ++ name ++ "'")
  | .invalidValue name value => fault ("invalid value '" ++ value ++ "' for '" ++ name ++ "'")
  | .unneededValue name => fault ("unexpected value for '--" ++ name ++ "'")
  | .repeated name => fault ("'--" ++ name ++ "' cannot be used several times")
where
  /-- What is wrong, and where to look. -/
  fault (what : String) : String :=
    lines ["error: " ++ what, "", "For more information, try '--help'."]

end PortGraph.CommandLine
