import PortGraph.Proofs.Engine.Course

/-!
# Runs that show the same

Two runs of one plan, on different engines, whose calls have outcomes that look alike: the same
outputs, or errors with the same code. The records of the runs may differ in their metadata and in
the words of their errors. But none of that is handed on to other nodes, nor does it count for when
a run stops. So the runs call the same nodes with the same inputs, and the difference stays where it
came up.

## Main definitions

* `Result.View`: what a record shows
* `views`: what the results of a run show

## Main results

* `gather_eq_of_views_eq`: what is handed on is part of what is shown
* `Plan.Course.views_eq`: runs show the same if the outcomes of their calls look alike
-/

namespace PortGraph

/-! ### What is shown -/

/-- What a record shows: whether the node succeeded, its outputs and the code of its error. -/
structure Result.View where
  success : Bool
  outputs : Fields
  code? : Option ErrorCode
deriving DecidableEq, Inhabited

/-- What the record shows. -/
def Result.view (r : Result) : Result.View := ⟨r.success, r.outputs, r.errorCode?⟩

/-- What the results show, node by node. -/
def views (t : Table Result) : Table Result.View := t.map fun _ r => r.view

@[simp]
theorem get?_views (t : Table Result) (id : String) :
    (views t).get? id = (t.get? id).map Result.view :=
  Table.get?_map _ t id

/-- The outcomes look alike: the same outputs, or errors with the same code. -/
def Outcome.Alike (o o' : Outcome) : Prop := o.mapError (·.code) = o'.mapError (·.code)

theorem Outcome.Alike.refl (o : Outcome) : Outcome.Alike o o := rfl

theorem Outcome.alike_ok {outputs : Fields} {o : Outcome} (h : Outcome.Alike (.ok outputs) o) :
    o = .ok outputs := by
  cases o with
  | error err => cases h
  | ok found =>
    cases h
    rfl

theorem Outcome.alike_error {err : NodeError} {o : Outcome} (h : Outcome.Alike (.error err) o) :
    ∃ err', o = .error err' ∧ err'.code = err.code := by
  cases o with
  | ok found => cases h
  | error err' => exact ⟨err', rfl, (Except.error.inj h).symm⟩

/-- Records of outcomes that look alike show the same. -/
theorem Outcome.Alike.view_eq {o o' : Outcome} (h : Outcome.Alike o o') (id : String) :
    (Result.ofOutcome id o).view = (Result.ofOutcome id o').view := by
  cases o with
  | ok outputs => rw [Outcome.alike_ok h]
  | error err =>
    obtain ⟨err', rfl, hcode⟩ := Outcome.alike_error h
    simp [Result.view, Result.ofOutcome, Result.errorCode?, Failure.ofError, hcode, Except.isOk,
      Except.toBool]

/-- Outcomes that look alike still do when they have been held against a manifest. -/
theorem Outcome.Alike.check {o o' : Outcome} (h : Outcome.Alike o o') (m : Manifest) :
    Outcome.Alike (m.check o) (m.check o') := by
  cases o with
  | ok outputs =>
    rw [Outcome.alike_ok h]
    exact .refl _
  | error err =>
    obtain ⟨err', rfl, hcode⟩ := Outcome.alike_error h
    exact congrArg Except.error hcode.symm

/-- **Calls look alike if their bodies do.** -/
theorem Call.MayEnd.alike {F F' : NodeRelation} {c : Call}
    (hF : ∀ config o o', F c.nodeId c.step.manifest c.inputs config o →
      F' c.nodeId c.step.manifest c.inputs config o' → Outcome.Alike o o')
    {o o' : Outcome} (h : c.MayEnd F o) (h' : c.MayEnd F' o') : Outcome.Alike o o' := by
  cases h with
  | inputs hi =>
    cases h' with
    | inputs hi' =>
      cases hi.symm.trans hi'
      exact .refl _
    | config hi' | body hi' => cases hi.symm.trans hi'
  | config hi hc =>
    cases h' with
    | inputs hi' => cases hi.symm.trans hi'
    | config hi' hc' =>
      cases hc.symm.trans hc'
      exact .refl _
    | body hi' hc' => cases hc.symm.trans hc'
  | body hi hc ho =>
    cases h' with
    | inputs hi' => cases hi.symm.trans hi'
    | config hi' hc' => cases hc.symm.trans hc'
    | body hi' hc' ho' =>
      cases hc.symm.trans hc'
      exact (hF _ _ _ ho ho').check _

/-! ### What is handed on -/

section Views

variable {t u : Table Result} {initial : Fields}

/-- **What is handed on to other nodes is part of what is shown.** -/
theorem gather_eq_of_views_eq (h : views t = views u) (step : Step) :
    gather step t initial = gather step u initial := by
  have hvalue (s : Binding.Source) : s.value? t initial = s.value? u initial := by
    cases s with
    | initial port => rfl
    | node id port =>
      have hid : (t.get? id).map Result.view = (u.get? id).map Result.view := by
        rw [← get?_views, ← get?_views, h]
      have hread (o : Option Result) : (o.filter (·.success)).bind (·.outputs.get? port) =
          ((o.map Result.view).filter (·.success)).bind (·.outputs.get? port) := by
        cases o with
        | none => rfl
        | some r => cases hs : r.success <;> simp [Option.filter, Result.view, hs]
      simp only [Binding.Source.value?]
      rw [hread, hid, ← hread]
  have hbind : bindInput t initial = bindInput u initial := by
    funext inputs b
    rw [bindInput, bindInput, hvalue]
  rw [gather, hbind, gather]

/-- So is whether a node has failed. -/
theorem failedIds_eq_nil_iff : failedIds t = [] ↔ ∀ v ∈ (views t).values, v.success = true := by
  have hvalues : (views t).values = t.values.map Result.view := by
    simp only [views, Table.values, Table.map, List.map_map, Function.comp_def]
  rw [hvalues, List.forall_mem_map, failedIds, List.map_eq_nil_iff, List.filter_eq_nil_iff]
  simp only [Bool.not_eq_true', Bool.not_eq_false, Result.view]

theorem phaseCalls_eq_of_views_eq (h : views t = views u) (plan : Plan) (phase : Phase) :
    plan.phaseCalls initial t phase = plan.phaseCalls initial u phase := by
  simp only [Plan.phaseCalls, gather_eq_of_views_eq h]

end Views

/-! ### Two runs -/

section Runs

variable {G G' : Call → Outcome → Prop}

/-- A call shows the same in both runs if its outcomes look alike. -/
theorem Call.Yields.view_eq {c : Call} {r r' : Result}
    (hG : ∀ o o', G c o → G' c o' → Outcome.Alike o o') (h : c.Yields G r) (h' : c.Yields G' r') :
    r.view = r'.view := by
  obtain ⟨o, ho, hr⟩ := h
  obtain ⟨o', ho', hr'⟩ := h'
  calc r.view = r.bare.view := rfl
    _ = (Result.ofOutcome c.nodeId o).view := by rw [hr]
    _ = (Result.ofOutcome c.nodeId o').view := (hG o o' ho ho').view_eq _
    _ = r'.bare.view := by rw [hr']
    _ = r'.view := rfl

/-- The calls of a phase show the same in both runs. -/
theorem Call.YieldAll.views_eq {calls : List Call} (hids : (calls.map (·.nodeId)).Nodup)
    (hG : ∀ c ∈ calls, ∀ o o', G c o → G' c o' → Outcome.Alike o o') {found found' : List Result}
    (h : Call.YieldAll G calls found) (h' : Call.YieldAll G' calls found') {t t' : Table Result}
    (ht : views t = views t') :
    views (found.foldl addResult t) = views (found'.foldl addResult t') := by
  have hdistinct : (found.map (·.nodeId)).Nodup := h.nodeIds_perm.nodup_iff.mpr hids
  have hdistinct' : (found'.map (·.nodeId)).Nodup := h'.nodeIds_perm.nodup_iff.mpr hids
  obtain ⟨rs, hrs, hperm⟩ := h
  obtain ⟨rs', hrs', hperm'⟩ := h'
  rw [foldl_addResult_perm hperm hdistinct, foldl_addResult_perm hperm' hdistinct']
  clear hperm hperm' hdistinct hdistinct' hids
  refine Table.ext_get? fun id => ?_
  have hold : (t.get? id).map Result.view = (t'.get? id).map Result.view := by
    rw [← get?_views, ← get?_views, ht]
  have hnew : (rs.find? (·.nodeId = id)).map Result.view =
      (rs'.find? (·.nodeId = id)).map Result.view := by
    induction hrs generalizing rs' with
    | nil =>
      cases hrs'
      rfl
    | @cons c r calls rs hr _ ih =>
      obtain _ | ⟨hr', hrest'⟩ := hrs'
      rw [List.find?_cons, List.find?_cons, hr.nodeId_eq, hr'.nodeId_eq]
      split
      · exact congrArg some (Yields.view_eq (hG c List.mem_cons_self) hr hr')
      · exact ih (fun c hc => hG c (List.mem_cons_of_mem _ hc)) _ hrest'
  simp only [get?_views, get?_foldl_addResult, Option.map_or, hold, hnew]

/-- **Runs show the same if the outcomes of their calls look alike**, unless one of them is
cancelled. -/
theorem Plan.Course.views_eq {plan : Plan} {stop : Bool} {initial : Fields}
    (hG : ∀ c o o', G c o → G' c o' → Outcome.Alike o o') {known : String → Prop}
    {phases : List Phase} (hstaged : plan.StagedFrom known phases) {t u t' u' : Table Result}
    {ending ending' : Ending} (h : plan.Course stop initial G t phases u ending)
    (h' : plan.Course stop initial G' t' phases u' ending') (hending : ending ≠ .cancelled)
    (hending' : ending' ≠ .cancelled) (ht : views t = views t') : views u = views u' := by
  have hfailed {t t' : Table Result} (ht : views t = views t') :
      failedIds t = [] ↔ failedIds t' = [] := by
    rw [failedIds_eq_nil_iff, failedIds_eq_nil_iff, ht]
  induction h generalizing known t' with
  | finished =>
    cases h'
    exact ht
  | cancelled => exact absurd rfl hending
  | stopped phase rest hstop hsome =>
    cases h' with
    | cancelled => exact absurd rfl hending'
    | stopped => exact ht
    | phase hgo => exact absurd ((hfailed ht).mpr (hgo hstop)) hsome
  | phase hgo hfound _ ih =>
    cases h' with
    | cancelled => exact absurd rfl hending'
    | stopped _ _ hstop hsome => exact absurd ((hfailed ht).mp (hgo hstop)) hsome
    | phase _ hfound' hrest' =>
      rw [← phaseCalls_eq_of_views_eq ht] at hfound'
      refine ih hstaged.2.2 hrest' hending ?_
      exact hfound.views_eq (hstaged.nodeId_phaseCalls _ ▸ hstaged.1) (fun c _ => hG c) hfound' ht

end Runs

end PortGraph
