import PortGraph.Body
import PortGraph.Manifest
import PortGraph.Nodes.Settings

/-!
# Nodes that hand values on

A value fixed in the configuration, a value passed through, and a value written as JSON text.

## Main definitions

* `Nodes.Constant`, `Nodes.PassThrough`, `Nodes.JsonOutput`: a manifest and a body each
-/

namespace PortGraph.Nodes

/-- The outputs with a single port. -/
def output (port : String) (value : Json) : Fields := Table.empty.insert port value

namespace Constant

/-- A source that emits the configured value. -/
def manifest : Manifest where
  type := "constant"
  version := "1.0.0"
  category := .input
  label := "Constant"
  description := "Emits a fixed value"
  outputs := [{ name := "value", type := .single .any }]
  configSchema := [{ name := "value", kind := .json, required := true }]
  capabilities := { cacheable := true, parallel := true }

/-- The outputs for a configuration. -/
def outcome (config : Fields) : Outcome :=
  match config.get? "value" with
  | some v => .ok (output "value" v)
  | none => .error (Settings.invalid (Settings.missing "value"))

/-- The body. -/
def body {κ : Type} : Body κ := fun _ _ config => .done (outcome config)

end Constant

namespace PassThrough

/-- A node that forwards its value. -/
def manifest : Manifest where
  type := "pass-through"
  version := "1.0.0"
  category := .utility
  label := "Pass Through"
  inputs := [{ name := "value", type := .single .any, required := true }]
  outputs := [{ name := "value", type := .single .any }]
  capabilities := { parallel := true }

/-- The outputs for the inputs. -/
def outcome (inputs : Fields) : Outcome :=
  .ok (output "value" ((inputs.get? "value").getD .null))

/-- The body. -/
def body {κ : Type} : Body κ := fun _ inputs _ => .done (outcome inputs)

end PassThrough

namespace JsonOutput

/-- A node that writes its value as text. -/
def manifest : Manifest where
  type := "json-output"
  version := "1.0.0"
  category := .output
  label := "JSON Output"
  description := "Serializes a value to JSON text"
  inputs := [{ name := "value", type := .single .any, required := true }]
  outputs := [{ name := "json", type := .single .string }]
  configSchema := [{ name := "pretty", kind := .boolean, default := some (.bool false) }]

/-- Whether the text is indented. -/
def pretty (config : Fields) : Except String Bool :=
  Settings.read [("pretty", fun v _ => v.asFlag)] false config

/-- The outputs for the inputs and a configuration. -/
def outcome (inputs config : Fields) : Outcome :=
  match pretty config with
  | .error e => .error (Settings.invalid e)
  | .ok indented =>
    let value := (inputs.get? "value").getD .null
    .ok (output "json" (.str (if indented then value.pretty else value.compact)))

/-- The body. -/
def body {κ : Type} : Body κ := fun _ inputs config => .done (outcome inputs config)

end JsonOutput

end PortGraph.Nodes
