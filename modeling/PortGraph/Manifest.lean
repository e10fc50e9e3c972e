import PortGraph.PortType
import PortGraph.Text.Blank

/-!
# Manifests

A manifest describes a node type: its ports, the schema of its configuration, what the scheduler
may do with it, and how often a failed attempt is repeated.

## Main definitions

* `Manifest`, `Port`, `ConfigField`, `Capabilities`, `Category`
* `Manifest.problem?`: the first way in which a manifest is not well formed
* `Manifest.inputPort?`, `Manifest.outputPort?`: ports by name
-/

namespace PortGraph

/-- What a node type is for. -/
inductive Category where
  | input | transform | audit | output | utility
deriving DecidableEq, Inhabited

namespace Category

/-- All categories, in the order of listings. -/
def all : List Category := [.input, .transform, .audit, .output, .utility]

/-- The name in documents. -/
def name : Category → String
  | .input => "input"
  | .transform => "transform"
  | .audit => "audit"
  | .output => "output"
  | .utility => "utility"

/-- The name as a heading. -/
def heading : Category → String
  | .input => "Input"
  | .transform => "Transform"
  | .audit => "Audit"
  | .output => "Output"
  | .utility => "Utility"

end Category

/-- What the scheduler may do with a node. -/
structure Capabilities where
  /-- Results may be remembered by type, inputs and configuration. -/
  cacheable : Bool := false
  /-- The node may run beside others of its phase. -/
  parallel : Bool := false
  /-- Output comes in parts. -/
  streaming : Bool := false
deriving DecidableEq, Inhabited

/-- A declared port. -/
structure Port where
  name : String
  type : PortType
  required : Bool := false
  description : Option String := none
deriving DecidableEq, Inhabited

/-- The kind of value a configuration field holds. -/
inductive FieldKind where
  | string | number | boolean | select | json
deriving DecidableEq, Inhabited

namespace FieldKind

/-- All kinds. -/
def all : List FieldKind := [.string, .number, .boolean, .select, .json]

/-- The name in documents. -/
def name : FieldKind → String
  | .string => "string"
  | .number => "number"
  | .boolean => "boolean"
  | .select => "select"
  | .json => "json"

end FieldKind

/-- A field of a configuration schema. -/
structure ConfigField where
  name : String
  kind : FieldKind
  required : Bool := false
  default : Option Json := none
  options : List Json := []
  /-- The bounds of a number. In a document, one that is not finite is `null`. -/
  min : Option (Binary.Extended .double) := none
  max : Option (Binary.Extended .double) := none
  description : Option String := none
deriving DecidableEq, Inhabited

/-- The description of a node type. -/
structure Manifest where
  type : String
  version : String
  category : Category
  label : String := ""
  description : String := ""
  inputs : List Port := []
  outputs : List Port := []
  configSchema : List ConfigField := []
  capabilities : Capabilities := {}
  /-- Extra attempts after the first failure of a node that runs in process. -/
  retry : UInt32 := 0
deriving DecidableEq, Inhabited

namespace Manifest

/-! ### Building -/

/-- The manifest of a type without ports, labelled with its name. -/
def named (type version : String) (category : Category) : Manifest :=
  { type := type, version := version, category := category, label := type }

/-- Declare another input port. -/
def withInput (m : Manifest) (p : Port) : Manifest := { m with inputs := m.inputs ++ [p] }

/-- Declare another output port. -/
def withOutput (m : Manifest) (p : Port) : Manifest := { m with outputs := m.outputs ++ [p] }

/-- Declare another configuration field. -/
def withField (m : Manifest) (f : ConfigField) : Manifest :=
  { m with configSchema := m.configSchema ++ [f] }

/-! ### Ports by name -/

/-- The first input port with the given name. -/
def inputPort? (m : Manifest) (name : String) : Option Port := m.inputs.find? (·.name = name)

/-- The first output port with the given name. -/
def outputPort? (m : Manifest) (name : String) : Option Port := m.outputs.find? (·.name = name)

/-! ### Well-formedness -/

/-- The first problem of the ports `ports`, which follow the ports named `before`. -/
def portProblem? (side : String) (before : List String) : List Port → Option String
  | [] => none
  | p :: rest =>
    if p.name = "" then some (side ++ " port #" ++ toString before.length ++ " has an empty name")
    else if before.contains p.name then some ("duplicate " ++ side ++ " port '" ++ p.name ++ "'")
    else if p.type.members.isEmpty then some (side ++ " port '" ++ p.name ++ "' declares no types")
    else portProblem? side (before ++ [p.name]) rest

/-- The first problem of the fields `fields`, which follow the fields named `before`. -/
def fieldProblem? (before : List String) : List ConfigField → Option String
  | [] => none
  | f :: rest =>
    if before.contains f.name then some ("duplicate config field '" ++ f.name ++ "'")
    else if f.kind = .select && f.options.isEmpty then
      some ("select field '" ++ f.name ++ "' has no options")
    else fieldProblem? (before ++ [f.name]) rest

/-- The first problem of a manifest, or none if it is well formed. -/
def problem? (m : Manifest) : Option String :=
  if Text.isBlankText m.type then some "type must not be empty"
  else if Text.isBlankText m.version then some "version must not be empty"
  else (portProblem? "input" [] m.inputs).or
    ((portProblem? "output" [] m.outputs).or (fieldProblem? [] m.configSchema))

end Manifest

/-! ### Documents -/

/-- Read a category by its name. -/
def Category.ofDocument? (w : Written) : Option Category :=
  w.choice? (Category.all.map fun c => (c.name, c))

/-- Read a kind of field by its name. -/
def FieldKind.ofDocument? (w : Written) : Option FieldKind :=
  w.choice? (FieldKind.all.map fun k => (k.name, k))

/-- Read capabilities. -/
def Capabilities.ofDocument? (w : Written) : Option Capabilities := do
  let [cacheable, parallel, streaming] ← w.record? [["cacheable"], ["parallel"], ["streaming"]]
    | none
  return {
    cacheable := ← Slot.orDefault? false Written.bool? cacheable
    parallel := ← Slot.orDefault? false Written.bool? parallel
    streaming := ← Slot.orDefault? false Written.bool? streaming }

/-- Read a port. -/
def Port.ofDocument? (w : Written) : Option Port := do
  let [name, type, required, description] ←
    w.record? [["name"], ["type"], ["required"], ["description"]] | none
  return {
    name := ← Slot.required? Written.text? name
    type := ← Slot.required? PortType.ofDocument? type
    required := ← Slot.orDefault? false Written.bool? required
    description := ← Slot.optional? Written.text? description }

/-- Read a configuration field. -/
def ConfigField.ofDocument? (w : Written) : Option ConfigField := do
  let [name, kind, required, default, options, min, max, description] ←
    w.record? [["name"], ["kind"], ["required"], ["default"], ["options"], ["min"], ["max"],
      ["description"]] | none
  return {
    name := ← Slot.required? Written.text? name
    kind := ← Slot.required? FieldKind.ofDocument? kind
    required := ← Slot.orDefault? false Written.bool? required
    default := ← Slot.optional? Written.toJson? default
    options := ← Slot.orDefault? [] (Written.list? Written.toJson?) options
    min := ← Slot.optional? Written.extended? min
    max := ← Slot.optional? Written.extended? max
    description := ← Slot.optional? Written.text? description }

/-- Read a manifest. -/
def Manifest.ofDocument? (w : Written) : Option Manifest := do
  let [type, version, category, label, description, inputs, outputs, configSchema, capabilities,
      retry] ←
    w.record? [["type"], ["version"], ["category"], ["label"], ["description"], ["inputs"],
      ["outputs"], ["configSchema"], ["capabilities"], ["retry"]] | none
  return {
    type := ← Slot.required? Written.text? type
    version := ← Slot.required? Written.text? version
    category := ← Slot.required? Category.ofDocument? category
    label := ← Slot.orDefault? "" Written.text? label
    description := ← Slot.orDefault? "" Written.text? description
    inputs := ← Slot.orDefault? [] (Written.list? Port.ofDocument?) inputs
    outputs := ← Slot.orDefault? [] (Written.list? Port.ofDocument?) outputs
    configSchema := ← Slot.orDefault? [] (Written.list? ConfigField.ofDocument?) configSchema
    capabilities := ← Slot.orDefault? {} Capabilities.ofDocument? capabilities
    retry := ← Slot.orDefault? 0 Written.word32? retry }

/-- Capabilities as a document. -/
def Capabilities.toJson (c : Capabilities) : Json :=
  .obj [("cacheable", .bool c.cacheable), ("parallel", .bool c.parallel),
    ("streaming", .bool c.streaming)]

/-- A port as a document. -/
def Port.toJson (p : Port) : Json :=
  .obj ([("name", .str p.name), ("type", p.type.toJson), ("required", .bool p.required)] ++
    Json.memberOf "description" .str p.description)

/-- A configuration field as a document. -/
def ConfigField.toJson (f : ConfigField) : Json :=
  .obj ([("name", .str f.name), ("kind", .str f.kind.name), ("required", .bool f.required)] ++
    Json.memberOf "default" id f.default ++
    (if f.options.isEmpty then [] else [("options", .arr f.options)]) ++
    Json.memberOf "min" .ofExtended f.min ++ Json.memberOf "max" .ofExtended f.max ++
    Json.memberOf "description" .str f.description)

/-- A manifest as a document. -/
def Manifest.toJson (m : Manifest) : Json :=
  .obj [("type", .str m.type), ("version", .str m.version), ("category", .str m.category.name),
    ("label", .str m.label), ("description", .str m.description),
    ("inputs", .arr (m.inputs.map Port.toJson)), ("outputs", .arr (m.outputs.map Port.toJson)),
    ("configSchema", .arr (m.configSchema.map ConfigField.toJson)),
    ("capabilities", m.capabilities.toJson), ("retry", .ofWord32 m.retry)]

end PortGraph
