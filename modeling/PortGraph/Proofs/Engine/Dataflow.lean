import PortGraph.Engine.Run
import PortGraph.Proofs.Table

/-!
# The dataflow of a plan

What a run amounts to when the clock, the cache and everything else that bodies share are left
aside: each phase calls its nodes on what is known so far, and the outcome of a call is a function
of the call. The function is a parameter here. What a run leaves behind is looked at without the
metadata, which does depend on the clock.

## Main definitions

* `NodeFunction`: what the bodies compute
* `Call`: a step with its inputs, and `Call.outcome`
* `Result.bare`, `bareResults`: records without metadata
* `Plan.calls`: the calls of a run, and `Plan.evaluate` what they lead to
* `Plan.IsSolution`: the dataflow equations of a plan

## Main results

* `Plan.IsStaged.isSolution`: evaluation solves the equations of a plan whose bindings lead back
* `Plan.IsStaged.unique`: nothing else does
-/

namespace PortGraph

/-- What the bodies compute: the outcome of a node by its id, its manifest, its inputs and its
configuration, both held against the manifest before. -/
abbrev NodeFunction := String → Manifest → Fields → Fields → Outcome

/-- What bodies compute that see of a node nothing but its type. -/
def NodeFunction.ofType (f : String → Fields → Fields → Outcome) : NodeFunction :=
  fun _ m inputs config => f m.type inputs config

/-- A step with its inputs. -/
structure Call where
  step : Step
  inputs : Fields
deriving DecidableEq, Inhabited

/-- The id of the node that is called. -/
def Call.nodeId (c : Call) : String := c.step.node.id

/-- The outcome of a call: the inputs and the configuration are held against the manifest, then the
body has its say, and then its outputs are held against the manifest. -/
def Call.outcome (f : NodeFunction) (c : Call) : Outcome := do
  c.step.manifest.validateInputs c.inputs
  let config ← c.step.manifest.validateConfig c.step.node.config
  let outputs ← f c.nodeId c.step.manifest c.inputs config
  c.step.manifest.validateOutputs outputs
  return outputs

/-! ### Records without metadata -/

/-- What is left of metadata when it is not looked at. -/
def Result.Metadata.blank : Metadata := default

/-- A record without its metadata. -/
def Result.bare (r : Result) : Result := { r with metadata := .blank }

/-- The record of an outcome, without metadata. -/
def Result.ofOutcome (id : String) (outcome : Outcome) : Result where
  nodeId := id
  success := outcome.isOk
  outputs := match outcome with
    | .ok outputs => outputs
    | .error _ => Table.empty
  error := match outcome with
    | .ok _ => none
    | .error err => some (.ofError err)
  metadata := .blank

/-- The record of a call, without metadata. -/
def Call.record (f : NodeFunction) (c : Call) : Result := .ofOutcome c.nodeId (c.outcome f)

/-- The record of a call depends on what the body of its node computes. -/
theorem Call.record_congr {f f' : NodeFunction} {c : Call} (h : f c.nodeId = f' c.nodeId) :
    c.record f = c.record f' := by
  rw [record, record, outcome, outcome, h]

/-- Results without their metadata. -/
def bareResults (t : Table Result) : Table Result := t.map fun _ r => r.bare

@[simp]
theorem Result.nodeId_bare (r : Result) : r.bare.nodeId = r.nodeId := rfl

/-- Records that differ in nothing but metadata. -/
theorem Result.eq_of_bare {r s : Result} (h : r.bare = s.bare) :
    r.success = s.success ∧ r.outputs = s.outputs ∧ r.error = s.error := by
  obtain ⟨⟩ := r
  obtain ⟨⟩ := s
  simp only [bare, Result.mk.injEq] at h
  exact ⟨h.2.1, h.2.2.1, h.2.2.2.1⟩

/-- A record of success has the outputs of the outcome. -/
theorem Result.outputs_of_success {x : Result} {id : String} {o : Outcome}
    (h : x.bare = .ofOutcome id o) (hsuccess : x.success = true) :
    ∃ outputs, o = .ok outputs ∧ x.outputs = outputs := by
  have hok : o.isOk = true := (congrArg Result.success h).symm.trans hsuccess
  cases o with
  | error err => cases hok
  | ok outputs => exact ⟨outputs, rfl, congrArg Result.outputs h⟩

@[simp]
theorem Call.nodeId_record (f : NodeFunction) (c : Call) : (c.record f).nodeId = c.nodeId := rfl

@[simp]
theorem get?_bareResults (t : Table Result) (id : String) :
    (bareResults t).get? id = (t.get? id).map Result.bare :=
  Table.get?_map _ t id

@[simp]
theorem contains_bareResults (t : Table Result) (id : String) :
    (bareResults t).contains id = t.contains id := by
  simp [Table.contains]

theorem bareResults_insert (t : Table Result) (id : String) (r : Result) :
    bareResults (t.insert id r) = (bareResults t).insert id r.bare := by
  refine Table.ext_get? fun k => ?_
  simp only [get?_bareResults, Table.get?_insert]
  split <;> rfl

theorem bareResults_addResult (t : Table Result) (r : Result) :
    bareResults (addResult t r) = addResult (bareResults t) r.bare := by
  simp only [addResult, contains_bareResults, Result.nodeId_bare]
  split
  · rfl
  · exact bareResults_insert t r.nodeId r

theorem bareResults_foldl_addResult (l : List Result) (t : Table Result) :
    bareResults (l.foldl addResult t) = (l.map Result.bare).foldl addResult (bareResults t) := by
  induction l generalizing t with
  | nil => rfl
  | cons r rest ih =>
    rw [List.foldl_cons, ih, bareResults_addResult, List.map_cons, List.foldl_cons]

/-- What is gathered does not depend on metadata. -/
theorem gather_bareResults (step : Step) (t : Table Result) (initial : Fields) :
    gather step (bareResults t) initial = gather step t initial := by
  have hvalue (s : Binding.Source) : s.value? (bareResults t) initial = s.value? t initial := by
    cases s with
    | initial port => rfl
    | node id port =>
      simp only [Binding.Source.value?, get?_bareResults]
      cases t.get? id with
      | none => rfl
      | some r => cases hs : r.success <;> simp [Option.filter, Result.bare, hs]
  have hbind : bindInput (bareResults t) initial = bindInput t initial := by
    funext inputs b
    simp only [bindInput, hvalue]
  rw [gather, hbind, gather]

theorem failedIds_bareResults (t : Table Result) : failedIds (bareResults t) = failedIds t := by
  simp only [failedIds, bareResults, Table.values, Table.map, List.map_map, List.filter_map]
  rfl

/-! ### Adding results -/

theorem get?_addResult (t : Table Result) (r : Result) (id : String) :
    (addResult t r).get? id = (t.get? id).or (if id = r.nodeId then some r else none) := by
  rw [addResult, Table.contains]
  by_cases hid : id = r.nodeId
  · subst hid
    cases hr : t.get? r.nodeId <;> simp [hr, Table.get?_insert]
  · cases t.get? r.nodeId <;> simp [hid, Table.get?_insert]

/-- Results of different nodes can be added in either order. -/
theorem addResult_comm (t : Table Result) {r s : Result} (h : r.nodeId ≠ s.nodeId) :
    addResult (addResult t r) s = addResult (addResult t s) r := by
  refine Table.ext_get? fun id => ?_
  simp only [get?_addResult, Option.or_assoc]
  congr 1
  by_cases hr : id = r.nodeId
  · subst hr
    simp [h]
  · simp [hr]

/-- **The order in which results are added does not matter**, if they are results of distinct
nodes. -/
theorem foldl_addResult_perm {l m : List Result} (h : l.Perm m) (hd : (l.map (·.nodeId)).Nodup)
    (t : Table Result) : l.foldl addResult t = m.foldl addResult t := by
  refine h.foldl_eq' (fun r hr s hs u => ?_) t
  by_cases he : r.nodeId = s.nodeId
  · rw [List.inj_on_of_nodup_map hd hr hs he]
  · exact addResult_comm u he

/-- The results `t` with the records of some calls. -/
def conclude (f : NodeFunction) (t : Table Result) (calls : List Call) : Table Result :=
  (calls.map (Call.record f)).foldl addResult t

theorem conclude_append (f : NodeFunction) (t : Table Result) (a b : List Call) :
    conclude f t (a ++ b) = conclude f (conclude f t a) b := by
  rw [conclude, List.map_append, List.foldl_append]
  rfl

/-- The first record of a node stays. -/
theorem get?_conclude (f : NodeFunction) (t : Table Result) (calls : List Call) (id : String) :
    (conclude f t calls).get? id =
      (t.get? id).or ((calls.find? (·.nodeId = id)).map (Call.record f)) := by
  induction calls generalizing t with
  | nil => simp [conclude]
  | cons c rest ih =>
    show (conclude f (addResult t (c.record f)) rest).get? id = _
    rw [ih, get?_addResult, Option.or_assoc, Call.nodeId_record]
    congr 1
    by_cases hid : id = c.nodeId
    · simp [hid]
    · simp [hid, Ne.symm hid]

namespace Plan

variable {plan : Plan} {f : NodeFunction} {initial : Fields}

/-! ### Evaluation -/

/-- The calls of a phase that starts with the results `t`. -/
def phaseCalls (plan : Plan) (initial : Fields) (t : Table Result) (phase : Phase) : List Call :=
  (Engine.stepsOf plan phase).map fun s => ⟨s, gather s t initial⟩

/-- The calls of some phases, the first of which starts with the results `t`; `stop` says whether a
failure keeps the next phase from starting. -/
def callsFrom (plan : Plan) (f : NodeFunction) (stop : Bool) (initial : Fields) (t : Table Result) :
    List Phase → List Call
  | [] => []
  | phase :: rest =>
    if stop && !(failedIds t).isEmpty then []
    else
      let now := plan.phaseCalls initial t phase
      now ++ plan.callsFrom f stop initial (conclude f t now) rest

/-- The calls of a run. -/
def calls (plan : Plan) (f : NodeFunction) (stop : Bool) (initial : Fields) : List Call :=
  plan.callsFrom f stop initial Table.empty plan.phases

/-- The results of a run. -/
def evaluate (plan : Plan) (f : NodeFunction) (stop : Bool) (initial : Fields) : Table Result :=
  conclude f Table.empty (plan.calls f stop initial)

/-- The dataflow equations: there is one result for each planned node, and it is the record of the
call with the inputs gathered from the very results. -/
structure IsSolution (plan : Plan) (f : NodeFunction) (initial : Fields) (t : Table Result) :
    Prop where
  contains_iff : ∀ id, t.contains id = true ↔ id ∈ plan.nodeIds
  get?_eq : ∀ id ∈ plan.nodeIds, ∃ step, plan.step? id = some step ∧
    (t.get? id).map Result.bare = some (Call.record f ⟨step, gather step t initial⟩)

/-! ### Plans whose bindings lead back -/

/-- The phases can follow one another when the nodes in `known` have their results: each of their
nodes is new, and has a step whose values come from nodes with results. -/
def StagedFrom (plan : Plan) (known : String → Prop) : List Phase → Prop
  | [] => True
  | phase :: rest =>
    phase.nodeIds.Nodup ∧
      (∀ id ∈ phase.nodeIds, ¬ known id ∧ ∃ step, plan.step? id = some step ∧ step.node.id = id ∧
        ∀ b ∈ step.bindings, ∀ source port, b.source = .node source port → known source) ∧
      plan.StagedFrom (fun id => known id ∨ id ∈ phase.nodeIds) rest

/-- The phases of the plan can follow one another. -/
def IsStaged (plan : Plan) : Prop := plan.StagedFrom (fun _ => False) plan.phases

/-- Gathered inputs depend on the sources of the bindings alone. -/
theorem gather_congr {step : Step} {t u : Table Result}
    (h : ∀ b ∈ step.bindings, ∀ source port, b.source = .node source port →
      (t.get? source).map Result.bare = (u.get? source).map Result.bare) :
    gather step t initial = gather step u initial := by
  rw [← gather_bareResults step t, ← gather_bareResults step u, gather, gather]
  refine List.foldl_ext _ _ _ fun inputs b hb => ?_
  rw [bindInput, bindInput]
  cases hs : b.source with
  | initial port => rfl
  | node source port => simp only [Binding.Source.value?, get?_bareResults, h b hb source port hs]

/-- There is one call for each node of a phase. -/
theorem StagedFrom.nodeId_phaseCalls {known : String → Prop} {phase : Phase} {rest : List Phase}
    (h : plan.StagedFrom known (phase :: rest)) (t : Table Result) :
    (plan.phaseCalls initial t phase).map (·.nodeId) = phase.nodeIds := by
  obtain ⟨-, hstep, -⟩ := h
  rw [phaseCalls, Engine.stepsOf, List.map_map]
  generalize phase.nodeIds = ids at hstep ⊢
  induction ids with
  | nil => rfl
  | cons id others ih =>
    obtain ⟨-, step, hs, hid, -⟩ := hstep id List.mem_cons_self
    have := ih fun x hx => hstep x (List.mem_cons_of_mem _ hx)
    rw [List.filterMap_cons, hs, List.map_cons, this, Function.comp_apply, Call.nodeId, hid]

/-- The calls of a phase are those of different nodes. -/
theorem StagedFrom.nodup_phaseCalls {known : String → Prop} {phase : Phase} {rest : List Phase}
    (h : plan.StagedFrom known (phase :: rest)) (t : Table Result) :
    ((plan.phaseCalls initial t phase).map (·.nodeId)).Nodup :=
  h.nodeId_phaseCalls t ▸ h.1

/-- A call of a phase is that of one of its nodes. -/
theorem StagedFrom.of_mem_phaseCalls {known : String → Prop} {phase : Phase} {rest : List Phase}
    (h : plan.StagedFrom known (phase :: rest)) {t : Table Result} {c : Call}
    (hc : c ∈ plan.phaseCalls initial t phase) :
    c.nodeId ∈ phase.nodeIds ∧ plan.step? c.nodeId = some c.step ∧
      c.inputs = gather c.step t initial ∧
      ∀ b ∈ c.step.bindings, ∀ source port, b.source = .node source port → known source := by
  obtain ⟨step, hstep, rfl⟩ := List.mem_map.mp hc
  obtain ⟨id, hid, hs⟩ := List.mem_filterMap.mp hstep
  obtain ⟨-, step', hs', hnode, hsources⟩ := h.2.1 id hid
  cases hs.symm.trans hs'
  subst hnode
  exact ⟨hid, hs, rfl, hsources⟩

/-- Each node that the phases plan has a step. -/
theorem StagedFrom.exists_step {known : String → Prop} {phases : List Phase}
    (h : plan.StagedFrom known phases) :
    ∀ phase ∈ phases, ∀ id ∈ phase.nodeIds, ∃ step, plan.step? id = some step := by
  induction phases generalizing known with
  | nil => simp
  | cons phase rest ih =>
    obtain ⟨-, hstep, hrest⟩ := h
    refine List.forall_mem_cons.mpr ⟨fun id hid => ?_, ih hrest⟩
    obtain ⟨-, step, hs, -⟩ := hstep id hid
    exact ⟨step, hs⟩

/-- The calls of a phase are calls of its nodes. -/
theorem StagedFrom.find?_phaseCalls {known : String → Prop} {phase : Phase} {rest : List Phase}
    (h : plan.StagedFrom known (phase :: rest)) (t : Table Result) (id : String) :
    (plan.phaseCalls initial t phase).find? (·.nodeId = id) =
      if id ∈ phase.nodeIds then (plan.step? id).map fun s => ⟨s, gather s t initial⟩
      else none := by
  obtain ⟨-, hstep, -⟩ := h
  rw [phaseCalls, Engine.stepsOf]
  generalize phase.nodeIds = ids at hstep ⊢
  induction ids with
  | nil => rfl
  | cons first others ih =>
    obtain ⟨-, step, hs, hid, -⟩ := hstep first List.mem_cons_self
    have := ih fun x hx => hstep x (List.mem_cons_of_mem _ hx)
    by_cases he : first = id
    · subst he
      simp [hs, Call.nodeId, hid]
    · simp [hs, Call.nodeId, hid, he, Ne.symm he] at this ⊢
      exact this

/-- The results after a phase: those before it, and a record for each of its nodes. -/
theorem StagedFrom.get?_conclude {known : String → Prop} {phase : Phase} {rest : List Phase}
    (h : plan.StagedFrom known (phase :: rest)) (t : Table Result) (id : String) :
    (conclude f t (plan.phaseCalls initial t phase)).get? id = (t.get? id).or
      (if id ∈ phase.nodeIds then
        (plan.step? id).map fun s => Call.record f ⟨s, gather s t initial⟩ else none) := by
  rw [PortGraph.get?_conclude, h.find?_phaseCalls]
  split <;> simp [Option.map_map, Function.comp_def]

theorem StagedFrom.contains_conclude {known : String → Prop} {phase : Phase} {rest : List Phase}
    (h : plan.StagedFrom known (phase :: rest)) {t : Table Result}
    (ht : ∀ id, t.contains id = true ↔ known id) (id : String) :
    (conclude f t (plan.phaseCalls initial t phase)).contains id = true ↔
      known id ∨ id ∈ phase.nodeIds := by
  rw [← ht, Table.contains, h.get?_conclude, Table.contains, Option.isSome_or, Bool.or_eq_true]
  refine or_congr_right ?_
  split
  · rename_i hid
    obtain ⟨-, step, hs, -⟩ := h.2.1 id hid
    simp [hs, hid]
  · rename_i hid
    simp [hid]

theorem conclude_callsFrom_cons (t : Table Result) (phase : Phase) (rest : List Phase) :
    conclude f t (plan.callsFrom f false initial t (phase :: rest)) =
      conclude f (conclude f t (plan.phaseCalls initial t phase))
        (plan.callsFrom f false initial (conclude f t (plan.phaseCalls initial t phase)) rest) := by
  simp only [callsFrom, Bool.false_and, Bool.false_eq_true, if_false]
  exact conclude_append f t _ _

/-- Evaluation goes on phase by phase: what was known stays, each new node gets the record of its
call with inputs from the final results, and nothing else is added. -/
theorem StagedFrom.evaluate {known : String → Prop} {phases : List Phase}
    (h : plan.StagedFrom known phases) {t : Table Result}
    (ht : ∀ id, t.contains id = true ↔ known id) {final : Table Result}
    (hfinal : final = conclude f t (plan.callsFrom f false initial t phases)) :
    (∀ id, known id → final.get? id = t.get? id) ∧
      (∀ id, final.contains id = true ↔ known id ∨ ∃ phase ∈ phases, id ∈ phase.nodeIds) ∧
      ∀ phase ∈ phases, ∀ id ∈ phase.nodeIds, ∃ step, plan.step? id = some step ∧
        final.get? id = some (Call.record f ⟨step, gather step final initial⟩) := by
  induction phases generalizing known t with
  | nil =>
    subst hfinal
    simp [ht]
  | cons phase rest ih =>
    rw [conclude_callsFrom_cons] at hfinal
    obtain ⟨hold, hall, hnew⟩ := ih h.2.2 (h.contains_conclude ht) hfinal
    have hkeep {id : String} (hid : known id) : final.get? id = t.get? id := by
      obtain ⟨r, hr⟩ := Option.isSome_iff_exists.mp ((ht id).mpr hid)
      rw [hold id (.inl hid), h.get?_conclude, hr, Option.some_or]
    refine ⟨fun id => hkeep, fun id => ?_, fun phase' hphase id hid => ?_⟩
    · rw [hall, or_assoc]
      simp
    · rcases List.mem_cons.mp hphase with rfl | hphase
      · obtain ⟨hunknown, step, hs, -, hsources⟩ := h.2.1 id hid
        have hnone : t.get? id = none :=
          Option.not_isSome_iff_eq_none.mp fun hsome => hunknown ((ht id).mp hsome)
        have hgather : gather step t initial = gather step final initial :=
          gather_congr fun b hb source port hsource => by
            rw [hkeep (hsources b hb source port hsource)]
        refine ⟨step, hs, ?_⟩
        rw [hold id (.inr hid), h.get?_conclude, hnone, if_pos hid, hs, ← hgather]
        rfl
      · exact hnew phase' hphase id hid

/-- **Evaluation solves the dataflow equations.** -/
theorem IsStaged.isSolution (h : plan.IsStaged) :
    plan.IsSolution f initial (plan.evaluate f false initial) := by
  have hempty (id : String) : (Table.empty : Table Result).contains id = true ↔ False := by
    simp [Table.contains]
  obtain ⟨-, hall, hnew⟩ := StagedFrom.evaluate h hempty
    (show plan.evaluate f false initial = _ from rfl)
  constructor
  case contains_iff =>
    intro id
    rw [hall, false_or, nodeIds, List.mem_flatMap]
  case get?_eq =>
    intro id hid
    obtain ⟨phase, hphase, hid⟩ := List.mem_flatMap.mp hid
    obtain ⟨step, hs, hget⟩ := hnew phase hphase id hid
    exact ⟨step, hs, by rw [hget]; rfl⟩

/-! ### Uniqueness -/

/-- A node of `S` gets its values from nodes of `S`. -/
def IsSelfFed (plan : Plan) (S : String → Prop) : Prop :=
  ∀ id step, plan.step? id = some step → S id →
    ∀ b ∈ step.bindings, ∀ source port, b.source = .node source port → S source

/-- **What is computed in one part of a plan does not depend on the rest.** Solutions of the
equations of two functions that agree on the nodes of `S`, and on what is known there, agree on the
nodes of `S` in the phases that follow, if these get their values from each other. -/
theorem StagedFrom.agree {known : String → Prop} {phases : List Phase}
    (h : plan.StagedFrom known phases) {f' : NodeFunction} {t u : Table Result}
    (ht : plan.IsSolution f initial t) (hu : plan.IsSolution f' initial u) {S : String → Prop}
    (hfed : plan.IsSelfFed S) (hf : ∀ id, S id → f id = f' id)
    (hsub : ∀ phase ∈ phases, phase ∈ plan.phases)
    (hknown : ∀ id, known id → S id →
      (t.get? id).map Result.bare = (u.get? id).map Result.bare) :
    ∀ phase ∈ phases, ∀ id ∈ phase.nodeIds, S id →
      (t.get? id).map Result.bare = (u.get? id).map Result.bare := by
  induction phases generalizing known with
  | nil => simp
  | cons phase rest ih =>
    obtain ⟨-, hstep, hrest⟩ := h
    have hphase : ∀ id ∈ phase.nodeIds, S id →
        (t.get? id).map Result.bare = (u.get? id).map Result.bare := by
      intro id hid hS
      obtain ⟨-, step, hs, hnode, hsources⟩ := hstep id hid
      have hmem : id ∈ plan.nodeIds :=
        List.mem_flatMap.mpr ⟨phase, hsub phase List.mem_cons_self, hid⟩
      obtain ⟨_, hst, htget⟩ := ht.get?_eq id hmem
      obtain ⟨_, hsu, huget⟩ := hu.get?_eq id hmem
      cases hs.symm.trans hst
      cases hs.symm.trans hsu
      have hgather : gather step t initial = gather step u initial :=
        gather_congr fun b hb source port hsource =>
          hknown source (hsources b hb source port hsource)
            (hfed id step hs hS b hb source port hsource)
      have hrecord : Call.record f ⟨step, gather step t initial⟩ =
          Call.record f' ⟨step, gather step t initial⟩ := by
        refine Call.record_congr ?_
        show f step.node.id = f' step.node.id
        rw [hnode, hf id hS]
      rw [htget, huget, hrecord, hgather]
    have hnext := ih hrest (fun p hp => hsub p (List.mem_cons_of_mem _ hp))
      fun id hid => hid.elim (hknown id) (hphase id)
    exact List.forall_mem_cons.mpr ⟨hphase, hnext⟩

/-- **The dataflow equations have one solution**, apart from metadata. -/
theorem IsStaged.unique (h : plan.IsStaged) {t u : Table Result} (ht : plan.IsSolution f initial t)
    (hu : plan.IsSolution f initial u) : bareResults t = bareResults u := by
  refine Table.ext_get? fun id => ?_
  rw [get?_bareResults, get?_bareResults]
  by_cases hid : id ∈ plan.nodeIds
  · obtain ⟨phase, hphase, hid⟩ := List.mem_flatMap.mp hid
    exact StagedFrom.agree h ht hu (S := fun _ => True) (fun _ _ _ _ _ _ _ _ _ => trivial)
      (fun _ _ => rfl) (fun _ hp => hp) (fun _ hf => hf.elim) phase hphase id hid trivial
  · have hnone {v : Table Result} (hv : plan.IsSolution f initial v) : v.get? id = none :=
      Option.not_isSome_iff_eq_none.mp fun hsome => hid ((hv.contains_iff id).mp hsome)
    rw [hnone ht, hnone hu]

end Plan

end PortGraph
