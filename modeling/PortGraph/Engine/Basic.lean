import PortGraph.Backend
import PortGraph.Cache.Store
import PortGraph.Registry
import PortGraph.Result
import PortGraph.Validation
import PortGraph.Work.Pool

/-!
# Running one node

What happens to a node from its start to its record. A type that allows it is looked up in the cache
first, and a hit ends the node there, with nothing held against its manifest any more. Otherwise the
inputs and the configuration are validated, the node is dispatched, and its outputs are validated;
what succeeds is remembered under the type, the inputs and the configuration as written.

## Main definitions

* `Shared`: what the nodes of an engine share, the cache and the state of its host
* `Engine`: the registry, the backend and the rules of a run
* `Engine.invoke`: validation and dispatch
* `Engine.execute`: a node from its start to its record
-/

namespace PortGraph

/-- What the nodes of an engine share: the cache, if it has one, and whatever their bodies or the
task service share. -/
structure Shared (κ : Type) where
  cache? : Option Cache
  host : κ

namespace Shared

variable {κ : Type}

/-- The same with another host state. -/
def withHost (host : κ) (s : Shared κ) : Shared κ := { s with host := host }

/-- Look a key up in the cache, if there is one. -/
def lookup (now : Nat) (key : String) (s : Shared κ) : Option Fields × Shared κ :=
  match s.cache? with
  | some c =>
    let found := c.lookup now key
    (found.1, { s with cache? := some found.2 })
  | none => (none, s)

/-- Store outputs in the cache, if there is one. -/
def store (now : Nat) (key : String) (outputs : Fields) (s : Shared κ) : Shared κ :=
  { s with cache? := s.cache?.map fun c => c.store now key outputs }

end Shared

/-- A registry with all that it takes to run its graphs. -/
structure Engine (κ : Type) where
  registry : Registry (Body κ)
  backend : Backend κ
  /-- How many nodes of a phase may be under way, if there is a limit. -/
  limit? : Option Nat := none
  /-- Whether a failed node keeps the next phase from starting. -/
  stopOnError : Bool := false
  /-- The key of an invocation in the cache, by the bytes that identify it. -/
  digest : List UInt8 → String := CacheKey.digest
  /-- Who goes on when several nodes of a phase can, given the limit and how many nodes there are. -/
  order : Option Nat → Nat → Pool.Policy := fun limit? width =>
    match limit? with
    | some _ => .queue
    | none => if width ≤ 30 then .rounds else .queue

namespace Engine

variable {κ : Type}

/-! ### The cache -/

/-- The key of a step with its inputs. -/
def keyOf (e : Engine κ) (step : Step) (inputs : Fields) : String :=
  e.digest (CacheKey.bytes step.manifest.type inputs step.node.config)

/-- The remembered outputs of a step, for a type that allows it. -/
def remembered (e : Engine κ) (step : Step) (inputs : Fields) :
    Work (Shared κ) NodeNews (Option Fields) :=
  if step.manifest.capabilities.cacheable then
    .observe fun m =>
      .consult (fun s => (s.lookup m.now (e.keyOf step inputs)).2) fun s =>
        .done (s.lookup m.now (e.keyOf step inputs)).1
  else .done none

/-- Remember the outputs of a step that succeeded, for a type that allows it. -/
def remember (e : Engine κ) (step : Step) (inputs : Fields) (outcome : Outcome) :
    Work (Shared κ) NodeNews Unit :=
  match outcome with
  | .ok outputs =>
    if step.manifest.capabilities.cacheable then
      .observe fun m =>
        .consult (·.store m.now (e.keyOf step inputs) outputs) fun _ => .done ()
    else .done ()
  | .error _ => .done ()

/-! ### Validation and dispatch -/

/-- Hold the outputs of a dispatched node against its manifest. -/
def checked (m : Manifest) (d : Dispatch) : Dispatch :=
  match d.result with
  | .ok outputs =>
    match m.validateOutputs outputs with
    | .ok _ => d
    | .error e => ⟨.error e, d.attempts⟩
  | .error _ => d

/-- Validate a step with its inputs, dispatch it, and validate its outputs. -/
def invoke (e : Engine κ) (scope : Scope) (step : Step) (inputs : Fields) :
    Work (Shared κ) NodeNews Dispatch :=
  match step.manifest.validateInputs inputs with
  | .error err => .done ⟨.error err, 0⟩
  | .ok _ =>
    match step.manifest.validateConfig step.node.config with
    | .error err => .done ⟨.error err, 0⟩
    | .ok config =>
      (((e.backend.dispatch ⟨scope, step.manifest, inputs, config⟩).mapNews DispatchNews.news).within
        Shared.host Shared.withHost).bind fun d => .done (checked step.manifest d)

/-! ### The record -/

/-- The news of a node that has ended. -/
def closing (cached : Bool) (durationMs : UInt64) : Outcome → NodeNews
  | .ok _ => .completed cached durationMs
  | .error err => .failed err.code err.message

/-- The record of a node that has ended. -/
def record (scope : Scope) (step : Step) (durationMs : UInt64) (cached : Bool) (attempts : UInt32)
    (outcome : Outcome) : Result where
  nodeId := step.node.id
  success := outcome.isOk
  outputs := match outcome with
    | .ok outputs => outputs
    | .error _ => Table.empty
  error := match outcome with
    | .ok _ => none
    | .error err => some (.ofError err)
  metadata := ⟨durationMs, cached, attempts, step.manifest.version, scope.executionId⟩

/-- Tell of the end of a node that began at `start`, and make its record. -/
def close (scope : Scope) (step : Step) (start : Nat) (cached : Bool) (attempts : UInt32)
    (outcome : Outcome) : Work (Shared κ) NodeNews Result :=
  .observe fun m =>
    let duration := UInt64.ofNat (m.now - start)
    .tell (closing cached duration outcome) <|
      .done (record scope step duration cached attempts outcome)

/-- Run a step with its inputs, `scope` being that of its node. -/
def execute (e : Engine κ) (scope : Scope) (step : Step) (inputs : Fields) :
    Work (Shared κ) NodeNews Result :=
  .observe fun m =>
    .tell (.started step.manifest.type) <|
      (e.remembered step inputs).bind fun
        | some outputs => close scope step m.now true 0 (.ok outputs)
        | none =>
          (e.invoke scope step inputs).bind fun d =>
            (e.remember step inputs d.result).bind fun _ =>
              close scope step m.now false d.attempts d.result

end Engine

end PortGraph
