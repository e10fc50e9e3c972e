import PortGraph.Manifest
import PortGraph.NodeError
import PortGraph.Json.Printer

/-!
# Validation around a node

Before a node runs its inputs are held against the input ports and its configuration against the
schema, which also fills in defaults; after it, its outputs against the output ports. A value that
is absent or `null` counts as missing. All problems are listed, in the order of the declarations.

## Main definitions

* `Manifest.inputProblems`, `Manifest.outputProblems`, `Manifest.configProblems`
* `ConfigField.problem?`: what is wrong with one configured value
* `Manifest.validateInputs`, `validateOutputs`, `validateConfig`: the problems as a failure
-/

namespace PortGraph

/-- What is stored under a key, unless it is `null`. -/
def Table.getNonNull? (t : Fields) (key : String) : Option Json :=
  (t.get? key).filter (!·.isNull)

/-- What is wrong with the value of a port, `side` being `input` or `output`. -/
def Port.problem? (side : String) (p : Port) (values : Fields) : Option String :=
  match values.getNonNull? p.name with
  | none => if p.required then some ("missing required " ++ side ++ " '" ++ p.name ++ "'") else none
  | some v =>
    if p.type.matchesValue v then none
    else some (side ++ " '" ++ p.name ++ "' expected " ++ p.type.display ++ ", got " ++ v.kind)

/-- What is wrong with a configured value. Bounds compare as numbers and are inclusive; an option is
the same data as the value. -/
def ConfigField.problem? (f : ConfigField) (v : Json) : Option String :=
  let expected (kind : String) : String :=
    "config '" ++ f.name ++ "' expected " ++ kind ++ ", got " ++ v.kind
  match f.kind with
  | .string => match v with | .str _ => none | _ => some (expected "string")
  | .boolean => match v with | .bool _ => none | _ => some (expected "boolean")
  | .number =>
    match v.toDouble? with
    | none => some (expected "number")
    | some n =>
      match f.min.filter (Binary.Extended.lt n ·), f.max.filter (Binary.Extended.lt · n) with
      | some bound, _ =>
        some ("config '" ++ f.name ++ "' is " ++ n.message ++ " but must be >= " ++ bound.message)
      | none, some bound =>
        some ("config '" ++ f.name ++ "' is " ++ n.message ++ " but must be <= " ++ bound.message)
      | none, none => none
  | .select =>
    if f.options.any (·.same v) then none
    else some ("config '" ++ f.name ++ "' must be one of " ++ (Json.arr f.options).compact)
  | .json => none

namespace Manifest

/-- The problems of bound inputs. -/
def inputProblems (m : Manifest) (inputs : Fields) : List String :=
  m.inputs.filterMap (·.problem? "input" inputs)

/-- The problems of outputs. -/
def outputProblems (m : Manifest) (outputs : Fields) : List String :=
  m.outputs.filterMap (·.problem? "output" outputs)

/-- What is wrong with the field `f` of a configuration. A default stands in for a missing value
and is not looked at. -/
def fieldProblemIn? (config : Fields) (f : ConfigField) : Option String :=
  match config.getNonNull? f.name with
  | some v => f.problem? v
  | none =>
    if f.default.isNone && f.required then some ("missing required config '" ++ f.name ++ "'")
    else none

/-- The problems of a configuration. -/
def configProblems (m : Manifest) (config : Fields) : List String :=
  m.configSchema.filterMap (fieldProblemIn? config)

/-- The configuration with the default of each field whose value is missing. -/
def withDefaults (m : Manifest) (config : Fields) : Fields :=
  m.configSchema.foldl (fun filled f =>
    match config.getNonNull? f.name, f.default with
    | none, some v => filled.insert f.name v
    | _, _ => filled) config

/-- Hold bound inputs against the input ports. -/
def validateInputs (m : Manifest) (inputs : Fields) : Except NodeError Unit :=
  match m.inputProblems inputs with
  | [] => .ok ()
  | ps => .error (.invalidInputs ps)

/-- Hold outputs against the output ports. -/
def validateOutputs (m : Manifest) (outputs : Fields) : Except NodeError Unit :=
  match m.outputProblems outputs with
  | [] => .ok ()
  | ps => .error (.invalidOutputs ps)

/-- Hold a configuration against the schema and fill in defaults. -/
def validateConfig (m : Manifest) (config : Fields) : Except NodeError Fields :=
  match m.configProblems config with
  | [] => .ok (m.withDefaults config)
  | ps => .error (.invalidConfig ps)

end Manifest

end PortGraph
