import PortGraph.Json.Printer
import PortGraph.NodeError
import PortGraph.Text.Quoted

/-!
# Settings of a node

A body reads its configuration into settings of its own before it looks at its inputs. The fields
are read in ascending order of name, and the first one that does not fit is what is reported; only
then are fields missed.

## Main definitions

* `Settings.read`: the settings a configuration stands for
* `Json.asNumber`, `asFlag`, `asText`, `asChoice`: the kinds of fields
* `Settings.missing`: the problem of a field that is not there
-/

namespace PortGraph

namespace Json

/-- A value as it is named where another one was expected. -/
def described : Json → String
  | .null => "null"
  | .bool b => "boolean `" ++ (if b then "true" else "false") ++ "`"
  | .num (.whole i) => "integer `" ++ toString i ++ "`"
  | .num (.real x) => "floating point `" ++ String.ofList (x.chars Binary.dataLayout) ++ "`"
  | .str s => "string " ++ Text.quoted s
  | .arr _ => "sequence"
  | .obj _ => "map"

/-- The problem of a value where another kind of value was expected. -/
def notA (expected : String) (v : Json) : String :=
  "invalid type: " ++ v.described ++ ", expected " ++ expected

/-- A number. -/
def asNumber (v : Json) : Except String Double :=
  match v.toDouble? with
  | some x => .ok x
  | none => .error (v.notA "f64")

/-- A truth value. -/
def asFlag (v : Json) : Except String Bool :=
  match v with
  | .bool b => .ok b
  | _ => .error (v.notA "a boolean")

/-- A text. -/
def asText (v : Json) : Except String String :=
  match v with
  | .str s => .ok s
  | _ => .error (v.notA "a string")

/-- The names of a choice in a message. -/
def choiceNames (names : List String) : String :=
  String.intercalate " or " (names.map fun n => "`" ++ n ++ "`")

/-- One of two or more names: the name, or an object with the name and `null`. -/
def asChoice {α : Type} (names : List (String × α)) (v : Json) : Except String α :=
  let pick (name : String) : Except String α :=
    match names.find? (·.1 = name) with
    | some (_, a) => .ok a
    | none =>
      .error ("unknown variant `" ++ name ++ "`, expected " ++ choiceNames (names.map (·.1)))
  match v with
  | .str name => pick name
  | .obj [(name, inner)] =>
    match pick name with
    | .ok a => if inner.isNull then .ok a else .error (inner.notA "unit")
    | .error e => .error e
  | .obj _ => .error "invalid value: map, expected map with a single key"
  | _ => .error (v.notA "string or map")

end Json

namespace Settings

/-- How the value of a field changes the settings. -/
abbrev Reader (σ : Type) := String × (Json → σ → Except String σ)

/-- Read the fields `entries` into settings; a field that nothing is known of is passed over. -/
def readFrom {σ : Type} (readers : List (Reader σ)) (s : σ) :
    List (String × Json) → Except String σ
  | [] => .ok s
  | (name, v) :: rest =>
    match readers.find? (·.1 = name) with
    | none => readFrom readers s rest
    | some (_, set) =>
      match set v s with
      | .ok s => readFrom readers s rest
      | .error e => .error e

/-- Read a configuration into settings. -/
def read {σ : Type} (readers : List (Reader σ)) (default : σ) (config : Fields) : Except String σ :=
  readFrom readers default config.entries

/-- The problem of a field that is not there. -/
def missing (name : String) : String := "missing field `" ++ name ++ "`"

/-- A failure to read a configuration, as the failure of the node. -/
def invalid (problem : String) : NodeError := .invalidConfig [problem]

end Settings

end PortGraph
