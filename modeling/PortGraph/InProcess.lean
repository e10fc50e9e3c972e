import PortGraph.Backend
import PortGraph.Registry

/-!
# Running in process

A node runs in the body registered for its type. A failed attempt that is worth another one is
repeated after a delay that grows with the number of the attempt; cancellation cuts the delay short.
A panic of the body is a failed attempt like any other.

Where cancellation comes at the very instant at which a delay ends, nothing says which of the two is
seen first. A host may decide this tie either way, and differently from one time to the next. Here
the delay always counts as over, so that the next attempt is made; what is proved of a run is proved
for a host that does the same.

## Main definitions

* `InProcess.mostAttempts`, `InProcess.delayMs`: how often, and how long in between
* `InProcess.attemptFrom`: an attempt and those that follow it
* `Backend.inProcess`: the backend
-/

namespace PortGraph

namespace InProcess

/-- How often a body may be started: once more than it may be repeated, as far as the attempts can
be counted. -/
def mostAttempts (retry : UInt32) : Nat := min (retry.toNat + 1) (UInt32.size - 1)

/-- The delay after a failed attempt, unless its seconds are beyond what can be counted. -/
def delayMs? (base : UInt64) (attempt : Nat) : Option Nat :=
  let ms := base.toNat * attempt
  if ms / 1000 < UInt64.size then some ms else none

/-- Make an attempt, with `left` more to follow if it fails. -/
def attemptFrom {κ : Type} (base : UInt64) (work : Work κ Report Outcome) (left attempt : Nat) :
    Work κ DispatchNews Dispatch :=
  (work.mapNews .progress).bind fun result =>
    match result with
    | .ok outputs => .done ⟨.ok outputs, UInt32.ofNat attempt⟩
    | .error e =>
      match left with
      | 0 => .done ⟨.error e, UInt32.ofNat attempt⟩
      | left + 1 =>
        if !e.isRetryable then .done ⟨.error e, UInt32.ofNat attempt⟩
        else
          match delayMs? base attempt with
          | none => .fault .delayOverflow
          | some delay =>
            .tell (.retrying (UInt32.ofNat attempt) (UInt64.ofNat delay) e.message) <|
              .observe fun m =>
                let due := m.now + delay
                .await (.instantOrCancelled due) fun m =>
                  if due ≤ m.now then attemptFrom base work left (attempt + 1)
                  else .done ⟨.error .cancelled, UInt32.ofNat attempt⟩

/-- Run a node in its body. -/
def dispatch {κ : Type} (registry : Registry (Body κ)) (base : UInt64) (i : Invocation) :
    Work κ DispatchNews Dispatch :=
  match registry.body? i.manifest.type with
  | none => .done ⟨.error (.runtimeNotFound i.manifest.type), 0⟩
  | some body =>
    attemptFrom base (body i.scope i.inputs i.config) (mostAttempts i.manifest.retry - 1) 1

end InProcess

/-- The backend that runs nodes in process; `base` is the delay after a first failed attempt. -/
def Backend.inProcess {κ : Type} (registry : Registry (Body κ)) (base : UInt64) : Backend κ :=
  ⟨"local", InProcess.dispatch registry base⟩

end PortGraph
