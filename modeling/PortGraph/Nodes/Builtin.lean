import PortGraph.Nodes.Arithmetic
import PortGraph.Nodes.Threshold
import PortGraph.Registry

/-!
# The built-in node types

## Main definitions

* `Nodes.builtins`: the manifests and bodies
* `Registry.builtin`: the registry that holds them
-/

namespace PortGraph

/-- The built-in types, each with its body. -/
def Nodes.builtins {κ : Type} : List (Manifest × Body κ) :=
  [(Constant.manifest, Constant.body), (Offset.manifest, Offset.body), (Sum.manifest, Sum.body),
    (PassThrough.manifest, PassThrough.body), (Threshold.manifest, Threshold.body),
    (JsonOutput.manifest, JsonOutput.body)]

/-- The body of a built-in type. -/
def Nodes.builtin? {κ : Type} (type : String) : Option (Manifest × Body κ) :=
  builtins.find? (·.1.type = type)

/-- The registry of the built-in types. -/
def Registry.builtin {κ : Type} : Registry (Body κ) :=
  Nodes.builtins.foldl (fun r b =>
    match r.register b.1 (some b.2) with
    | .ok r => r
    | .error _ => r) empty

end PortGraph
