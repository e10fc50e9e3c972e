import PortGraph.Nodes.Values

/-!
# Nodes that compute with numbers

A number shifted by a configured amount, and the sum of up to three numbers. A result beyond the
finite range is no number, and stands as `null`.

## Main definitions

* `Nodes.Offset`, `Nodes.Sum`: a manifest and a body each
-/

namespace PortGraph.Nodes

namespace Offset

/-- A node that adds a fixed amount. -/
def manifest : Manifest where
  type := "offset"
  version := "1.0.0"
  category := .transform
  label := "Offset"
  description := "Adds a fixed amount to a number"
  inputs := [{ name := "value", type := .single .number, required := true }]
  outputs := [{ name := "value", type := .single .number }]
  configSchema := [{ name := "amount", kind := .number, default := some (.ofNat 0) }]
  capabilities := { cacheable := true, parallel := true }

/-- The amount to add. -/
def amount (config : Fields) : Except String Double :=
  Settings.read [("amount", fun v _ => v.asNumber)] Double.zero config

/-- The outputs for the inputs and a configuration. -/
def outcome (inputs config : Fields) : Outcome :=
  match amount config with
  | .error e => .error (Settings.invalid e)
  | .ok amount =>
    match (inputs.get? "value").bind (·.toDouble?) with
    | some value => .ok (output "value" (.ofReal? (value.add amount)))
    | none => .error (.invalidInputs ["value must be a number"])

/-- The body. -/
def body {κ : Type} : Body κ := fun _ inputs config => .done (outcome inputs config)

end Offset

namespace Sum

/-- A node that adds numbers up. -/
def manifest : Manifest where
  type := "sum"
  version := "1.0.0"
  category := .transform
  label := "Sum"
  description := "Adds numbers together"
  inputs := [{ name := "a", type := .single .number, required := true },
    { name := "b", type := .single .number, required := true },
    { name := "c", type := .single .number }]
  outputs := [{ name := "sum", type := .single .number }]
  capabilities := { cacheable := true, parallel := true }

/-- The terms that are numbers, in order. -/
def terms (inputs : Fields) : List Double :=
  ["a", "b", "c"].filterMap fun port => (inputs.get? port).bind (·.toDouble?)

/-- The sum in order, from negative zero. Once it has left the finite range it does not come back:
no finite term leads back from infinity. -/
def total (terms : List Double) : Option Double :=
  terms.foldl (fun sum x => sum.bind (·.add x)) (some Double.negativeZero)

/-- The outputs for the inputs. -/
def outcome (inputs : Fields) : Outcome := .ok (output "sum" (.ofReal? (total (terms inputs))))

/-- The body. -/
def body {κ : Type} : Body κ := fun _ inputs _ => .done (outcome inputs)

end Sum

end PortGraph.Nodes
