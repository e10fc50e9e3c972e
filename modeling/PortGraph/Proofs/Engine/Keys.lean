import PortGraph.Proofs.Engine.Course
import PortGraph.Proofs.Engine.Session
import PortGraph.Proofs.Work.Telling

/-!
# Calls with the same key

The key of a call tells its type, its inputs and its configuration. So whatever can be said of its
outcome without looking at the id of its node can be said of another call with the same key, if the
digest tells apart what has been hashed. What is found in a cache is then an outcome that the call
might have had itself.

What can be said of outcomes may be what is known of all that is dispatched. Where nothing is known
of the bodies, there is still validation, which each outcome has gone through.

## Main definitions

* `NodeRelation.ofManifest`: what may be said of bodies without looking at ids
* `Engine.TellsApart`: the digest tells apart what has been hashed
* `Engine.GivesOnly`: what is known of all that is dispatched

## Main results

* `Call.mayEnd_of_bytes`: calls with the same bytes may have the same outcomes
* `Engine.TellsApart.respects`: a call gets along with what other calls have left in the cache
* `Engine.GivesOnly.delivers`: such a call ends as it may
-/

namespace PortGraph

variable {β κ : Type}

/-! ### Calls with the same key -/

/-- Something that may be said of bodies without looking at the ids of nodes. -/
def NodeRelation.ofManifest (F : Manifest → Fields → Fields → Outcome → Prop) : NodeRelation :=
  fun _ => F

/-- **Calls with the same bytes may have the same outcomes**, if their types are registered and
nothing is said of bodies by the ids of nodes. -/
theorem Call.mayEnd_of_bytes {r : Registry β} (hr : r.Reachable)
    {F : Manifest → Fields → Fields → Outcome → Prop} {c d : Call}
    (hc : r.manifest? c.step.node.type = some c.step.manifest)
    (hd : r.manifest? d.step.node.type = some d.step.manifest) (h : c.bytes = d.bytes) {o : Outcome}
    (ho : d.MayEnd (.ofManifest F) o) : c.MayEnd (.ofManifest F) o := by
  obtain ⟨hmanifest, hinputs, hconfig⟩ := Call.parts_eq_of_bytes hr hc hd h
  cases ho with
  | inputs hi => exact .inputs (hmanifest ▸ hinputs ▸ hi)
  | config hi hc => exact .config (hmanifest ▸ hinputs ▸ hi) (hmanifest ▸ hconfig ▸ hc)
  | body hi hc ho =>
    rw [← hmanifest]
    exact .body (hmanifest ▸ hinputs ▸ hi) (hmanifest ▸ hconfig ▸ hc) (hmanifest ▸ hinputs ▸ ho)

namespace Engine

variable {e : Engine κ}

/-- The calls whose outputs may be stored have different keys if they have different bytes. -/
def TellsApart (e : Engine κ) (calls : List Call) : Prop :=
  ∀ c ∈ calls, ∀ d ∈ calls, c.cacheable = true → d.cacheable = true →
    e.digest c.bytes = e.digest d.bytes → c.bytes = d.bytes

theorem TellsApart.mono {calls calls' : List Call} (h : e.TellsApart calls')
    (hsub : calls ⊆ calls') : e.TellsApart calls :=
  fun c hc d hd => h c (hsub hc) d (hsub hd)

/-- **A call gets along with a cache that holds outcomes of calls**, if their types are registered
and the digest tells them apart. -/
theorem TellsApart.respects {r : Registry β} (hr : r.Reachable)
    {F : Manifest → Fields → Fields → Outcome → Prop} {calls : List Call} (h : e.TellsApart calls)
    (hcalls : ∀ c ∈ calls, r.manifest? c.step.node.type = some c.step.manifest) {c : Call}
    (hc : c ∈ calls) :
    e.Respects (e.HoldsOnly (Call.MayEnd (.ofManifest F)) calls) (c.MayEnd (.ofManifest F)) c := by
  refine respects_holdsOnly (fun c hc d hd hcc hdc hkey o ho => ?_) hc
  exact Call.mayEnd_of_bytes hr (hcalls c hc) (hcalls d hd) (h c hc d hd hcc hdc hkey) ho

/-! ### What is dispatched -/

/-- Nothing is known of what bodies do, nor of when runs are cancelled. -/
abbrev anyTerms (κ : Type) : Terms String κ := .keeping String (fun _ => True) True

/-- Whatever is dispatched ends with one of the outcomes of `F`. -/
def GivesOnly (e : Engine κ) (F : Manifest → Fields → Fields → Outcome → Prop) : Prop :=
  ∀ i told d, (e.backend.dispatch i).Tells told (.done d) → F i.manifest i.inputs i.config d.result

/-- What is always known. -/
theorem givesOnly_true (e : Engine κ) : e.GivesOnly fun _ _ _ _ => True :=
  fun _ _ _ _ => trivial

/-- The engine delivers one of the outcomes of a call that gets along with the cache. -/
theorem GivesOnly.delivers {F : Manifest → Fields → Fields → Outcome → Prop} (h : e.GivesOnly F)
    {C : Option Cache → Prop} {scope : Scope} {c : Call}
    (hc : e.Respects C (c.MayEnd (.ofManifest F)) c) :
    e.Delivers scope (anyTerms κ) C (Call.MayEnd (.ofManifest F)) c := by
  refine delivers_mayEnd hc fun config t host _ => ?_
  let i : Invocation := ⟨{ scope with nodeId := c.nodeId }, c.step.manifest, c.inputs, config⟩
  have hany : (e.backend.dispatch i).Ensures (anyTerms κ) c.nodeId (fun _ _ _ => True) t host :=
    Work.ensures_of_forall (fun _ _ _ => trivial) t host
  exact (hany.and_of_tells fun told d hd => h i told d hd).mono fun _ _ _ hd => hd.2

/-- A world is all right for such bodies if its cache is. -/
theorem meets_anyTerms {C : Option Cache → Prop} {world : World (Shared κ) Event}
    (h : C world.state.cache?) : world.Meets ((anyTerms κ).shared C) :=
  ⟨⟨h, trivial⟩, fun _ => trivial, fun _ => trivial⟩

end Engine

end PortGraph
