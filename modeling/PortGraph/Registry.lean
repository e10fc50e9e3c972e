import PortGraph.Manifest
import PortGraph.Text.Lowercase

/-!
# The registry of node types

What a graph may be built from: a manifest per node type and, for a type that runs in process, its
body. Bodies are opaque here, so a registry can be asked about types by whoever does not run them.

A registration is refused as a whole: an ill-formed manifest before a type that is taken, and
either leaves the registry as it was.

## Main definitions

* `Registry`, `Registry.register`
* `Registry.manifest?`, `Registry.body?`: what is known of a type
* `Registry.recommend`: the types that can take a value of a given type
* `Registry.search`: the types that mention a text
* `Registry.census`: how many types there are of each kind
-/

namespace PortGraph

/-- What is known of a node type: its manifest, and the body if it runs in process. -/
structure Registry.Entry (β : Type) where
  manifest : Manifest
  body? : Option β

/-- Node types by name. -/
structure Registry (β : Type) where
  entries : Table (Registry.Entry β)

/-- Why a registry refuses. -/
inductive RegistryError where
  | duplicateType (type : String)
  | invalidManifest (type reason : String)
  | notFound (type : String)
deriving DecidableEq, Inhabited

/-- The message of a refusal. -/
def RegistryError.message : RegistryError → String
  | .duplicateType t => "Node type '" ++ t ++ "' is already registered"
  | .invalidManifest t reason => "Invalid manifest for '" ++ t ++ "': " ++ reason
  | .notFound t => "Node type '" ++ t ++ "' is not registered"

namespace Registry

variable {β : Type}

/-- The registry without types. -/
def empty : Registry β := ⟨Table.empty⟩

instance : Inhabited (Registry β) := ⟨empty⟩

/-! ### Registration -/

/-- Register a type, with its body if it runs in process. -/
def register (r : Registry β) (m : Manifest) (body? : Option β) :
    Except RegistryError (Registry β) :=
  match m.problem? with
  | some reason => .error (.invalidManifest m.type reason)
  | none =>
    if r.entries.contains m.type then .error (.duplicateType m.type)
    else .ok ⟨r.entries.insert m.type ⟨m, body?⟩⟩

/-! ### Lookup -/

/-- The manifest of a type. -/
def manifest? (r : Registry β) (type : String) : Option Manifest :=
  (r.entries.get? type).map (·.manifest)

/-- The manifest of a type, or why there is none. -/
def lookup (r : Registry β) (type : String) : Except RegistryError Manifest :=
  match r.manifest? type with
  | some m => .ok m
  | none => .error (.notFound type)

/-- The body of a type that runs in process. -/
def body? (r : Registry β) (type : String) : Option β :=
  (r.entries.get? type).bind (·.body?)

/-- Whether a type is registered. -/
def contains (r : Registry β) (type : String) : Bool := r.entries.contains type

/-- How many types there are. -/
def size (r : Registry β) : Nat := r.entries.size

/-! ### Listings -/

/-- The names of the types, ascending. -/
def types (r : Registry β) : List String := r.entries.keys

/-- The manifests, in ascending order of type. -/
def manifests (r : Registry β) : List Manifest := r.entries.values.map (·.manifest)

/-- The manifests with the wanted capabilities. -/
def withCapabilities (r : Registry β) (wanted : Capabilities → Bool) : List Manifest :=
  r.manifests.filter (wanted ·.capabilities)

/-- The manifests of a category. -/
def inCategory (r : Registry β) (c : Category) : List Manifest :=
  r.manifests.filter (·.category = c)

/-- The categories that have types, each with its manifests. -/
def byCategory (r : Registry β) : List (Category × List Manifest) :=
  (Category.all.map fun c => (c, r.inCategory c)).filter (!·.2.isEmpty)

/-- Whether a port of the type lists `t` itself. -/
def takesExactly (t : DataType) (m : Manifest) : Bool := m.inputs.any (·.type.members.contains t)

/-- Whether a port of the type can be fed by `t`. -/
def takes (t : DataType) (m : Manifest) : Bool := m.inputs.any (·.type.accepts t)

/-- The types that can take a value of type `t`, those that list it before those that take it as
they take anything. -/
def recommend (r : Registry β) (t : DataType) : List Manifest :=
  r.manifests.filter (takesExactly t) ++
    r.manifests.filter fun m => !takesExactly t m && takes t m

/-- The types whose name, label or description mentions a text, whatever the case of its letters.
Blanks around the text do not matter, and every type mentions the empty text. -/
def search (r : Registry β) (query : String) : List Manifest :=
  let needle := Text.lowercase (Text.trim query)
  r.manifests.filter fun m =>
    needle = "" || Text.contains (Text.lowercase m.type) needle ||
      Text.contains (Text.lowercase m.label) needle ||
      Text.contains (Text.lowercase m.description) needle

/-! ### Counting -/

/-- Counts of the registered types. -/
structure Census where
  total : Nat
  /-- Types with a body. -/
  executable : Nat
  byCategory : List (Category × Nat)
  cacheable : Nat
  parallel : Nat
  streaming : Nat
deriving DecidableEq, Inhabited

/-- Count the registered types. -/
def census (r : Registry β) : Census where
  total := r.size
  executable := r.entries.values.countP (·.body?.isSome)
  byCategory := r.byCategory.map fun g => (g.1, g.2.length)
  cacheable := r.manifests.countP (·.capabilities.cacheable)
  parallel := r.manifests.countP (·.capabilities.parallel)
  streaming := r.manifests.countP (·.capabilities.streaming)

/-- The counts as a document. -/
def Census.toJson (c : Census) : Json :=
  .obj [("total", .ofNat c.total), ("executable", .ofNat c.executable),
    ("byCategory", .obj (c.byCategory.map fun g => (g.1.name, .ofNat g.2))),
    ("cacheable", .ofNat c.cacheable), ("parallel", .ofNat c.parallel),
    ("streaming", .ofNat c.streaming)]

end Registry

end PortGraph
