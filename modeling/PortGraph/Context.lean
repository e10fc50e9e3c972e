import PortGraph.Body
import PortGraph.Text.Quoted

/-!
# Contexts

What a run hands to its nodes: who is running what for whom, the collaborators that the host has put
in, a place for events, and the cancellation of the run. A context can be narrowed to a node; all
contexts of a run share the collaborators, the events and the cancellation.

## Main definitions

* `Service`, `Services`: collaborators, at most one of each kind
* `Sink`: a place for events
* `Context`: the ids and collaborators, with `Context.narrow`
* `Surroundings`: what the contexts of a run share and change

## Main results

* `Services.get?_insert`: the collaborator of a kind is the last one put in
-/

namespace PortGraph

/-! ### Collaborators -/

/-- A collaborator, told apart from others by its kind. -/
inductive Service where
  | text (value : String)
  | whole (value : Int)
  | real (value : Double)
  | truth (value : Bool)
deriving DecidableEq, Inhabited

/-- The kinds of collaborators. -/
inductive Service.Kind where
  | text | whole | real | truth
deriving DecidableEq, Inhabited

/-- The kind of a collaborator. -/
def Service.kind : Service → Kind
  | .text _ => .text
  | .whole _ => .whole
  | .real _ => .real
  | .truth _ => .truth

/-- Collaborators, at most one of each kind. -/
abbrev Services := List Service

namespace Services

/-- Put a collaborator in, in place of the one of its kind. -/
def insert (l : Services) (s : Service) : Services := s :: l.filter (·.kind ≠ s.kind)

/-- The collaborator of a kind. -/
def get? (l : Services) (k : Service.Kind) : Option Service := l.find? (·.kind = k)

/-- **The collaborator of a kind is the last one put in.** -/
theorem get?_insert (l : Services) (s : Service) (k : Service.Kind) :
    (insert l s).get? k = if k = s.kind then some s else l.get? k := by
  rw [insert, get?, List.find?_cons]
  by_cases h : k = s.kind
  · rw [if_pos h, decide_eq_true h.symm]
  · rw [if_neg h, decide_eq_false (Ne.symm h), List.find?_filter]
    have hother (a : Service) :
        (decide (a.kind ≠ s.kind) = true ∧ decide (a.kind = k) = true) ↔ a.kind = k := by
      rw [decide_eq_true_eq, decide_eq_true_eq, and_iff_right_iff_imp]
      rintro rfl
      exact h
    simp only [hother, get?]

end Services

/-! ### Events -/

/-- A place for events: one that forgets them, one that keeps them, or a channel, open as long as
there is a receiver, with the events not yet received. -/
inductive Sink where
  | forget
  | keep (events : Array Event)
  | channel (isOpen : Bool) (waiting : Array Event)
deriving DecidableEq, Inhabited

/-- Why an event could not be delivered. -/
inductive Sink.Refusal where
  | channelClosed
deriving DecidableEq, Inhabited

/-- The message of a refusal. -/
def Sink.Refusal.message : Sink.Refusal → String
  | .channelClosed => "Event error: Channel closed"

namespace Sink

/-- Deliver an event. -/
def send (e : Event) : Sink → Except Refusal Sink
  | .forget => .ok .forget
  | .keep events => .ok (.keep (events.push e))
  | .channel true waiting => .ok (.channel true (waiting.push e))
  | .channel false _ => .error .channelClosed

/-- Deliver an event, or drop it. -/
def emit (e : Event) (s : Sink) : Sink :=
  match s.send e with
  | .ok s => s
  | .error _ => s

/-- The events there are to be seen; those of a channel are received thereby. -/
def read : Sink → Array Event × Sink
  | .forget => (#[], .forget)
  | .keep events => (events, .keep events)
  | .channel isOpen waiting => (waiting, .channel isOpen #[])

/-- Forget the events that were kept. -/
def clear : Sink → Sink
  | .keep _ => .keep #[]
  | s => s

/-- Drop the receiver of a channel, and what it has not received. -/
def close : Sink → Sink
  | .channel .. => .channel false #[]
  | s => s

end Sink

/-! ### Contexts -/

/-- The ids and collaborators of a run, maybe narrowed to a node. -/
structure Context where
  executionId : String
  graphId : String
  nodeId? : Option String
  userId? : Option String
  services : Services
deriving DecidableEq, Inhabited

/-- What the contexts of a run share and change. -/
structure Surroundings where
  sink : Sink
  cancelled : Bool
deriving DecidableEq, Inhabited

namespace Context

/-- The context of a node. -/
def narrow (c : Context) (nodeId : String) : Context := { c with nodeId? := some nodeId }

/-- The node of a context, no text at the level of the run. -/
def nodeId (c : Context) : String := c.nodeId?.getD ""

/-- The ids that a body can see. -/
def scope (c : Context) : Scope := ⟨c.executionId, c.graphId, c.nodeId, c.userId?⟩

/-- Progress as an event of the node. -/
def progress (c : Context) (r : Report) : Event := .node c.executionId c.nodeId r.news

/-- An id that may be missing, for diagnostics. -/
def quoted? : Option String → String
  | some s => "Some(" ++ Text.quoted s ++ ")"
  | none => "None"

/-- A context with its surroundings, for diagnostics. -/
def display (c : Context) (s : Surroundings) : String :=
  "ExecutionContext \x7b execution_id: " ++ Text.quoted c.executionId ++ ", graph_id: " ++
    Text.quoted c.graphId ++ ", node_id: " ++ quoted? c.nodeId? ++ ", user_id: " ++
    quoted? c.userId? ++ ", services: " ++ toString c.services.length ++ ", cancelled: " ++
    (if s.cancelled then "true" else "false") ++ " \x7d"

end Context

end PortGraph
