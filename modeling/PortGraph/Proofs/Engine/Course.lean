import PortGraph.Proofs.Engine.Run
import PortGraph.Proofs.Work.Sharing

/-!
# The course of a run

What a run comes to when nothing at all is known of the bodies, the clock, cancellation, or the
other tenants of the cache: it goes through some of the phases, and each node of these gets one
record, which goes back to a call. What can be said of the outcomes of calls is a parameter. It can
be that they have passed validation, or that they are what a function gives, or anything else that
bodies ensure on the terms on which they share what they share.

## Main definitions

* `Plan.Course`: how the results of a run come about
* `Engine.phasePool`: the nodes of a phase, before any of them has started
* `Engine.GoesOn`: how a run goes on that has come to a phase

## Main results

* `Plan.Course.get?_eq`: each record is that of a call with inputs from the final results
* `Engine.runPhases_cons_iff`: there are three ways to go on at a phase
* `Engine.runPlan_course`: a run that comes to its end follows a course
-/

namespace PortGraph

variable {ι κ : Type}

/-! ### Phases -/

/-- How the results `t` grow into others while a run goes through some phases, the outcomes of
calls being among `G`; `stop` says whether a failure keeps the next phase from starting. -/
inductive Plan.Course (plan : Plan) (stop : Bool) (initial : Fields) (G : Call → Outcome → Prop) :
    Table Result → List Phase → Table Result → Ending → Prop
  | finished (t) : Course plan stop initial G t [] t .finished
  | cancelled (t phase rest) : Course plan stop initial G t (phase :: rest) t .cancelled
  | stopped {t} (phase rest) (hstop : stop = true) (hfailed : failedIds t ≠ []) :
    Course plan stop initial G t (phase :: rest) t .stopped
  | phase {t phase rest found t' ending} (hgo : stop = true → failedIds t = [])
    (hfound : Call.YieldAll G (plan.phaseCalls initial t phase) found)
    (h : Course plan stop initial G (found.foldl addResult t) rest t' ending) :
    Course plan stop initial G t (phase :: rest) t' ending

/-- The calls of the nodes with a result, their inputs gathered from these results. -/
def Plan.callsOf (plan : Plan) (initial : Fields) (t : Table Result) : List Call :=
  (plan.nodeIds.filter (t.contains ·)).filterMap fun id =>
    (plan.step? id).map fun s => ⟨s, gather s t initial⟩

theorem Plan.exists_step?_of_mem_callsOf {plan : Plan} {initial : Fields} {t : Table Result}
    {c : Call} (hc : c ∈ plan.callsOf initial t) : ∃ id, plan.step? id = some c.step := by
  obtain ⟨id, -, hid⟩ := List.mem_filterMap.mp hc
  obtain ⟨step, hstep, rfl⟩ := Option.map_eq_some_iff.mp hid
  exact ⟨id, hstep⟩

theorem Plan.exists_step?_of_mem_phaseCalls {plan : Plan} {initial : Fields} {t : Table Result}
    {phase : Phase} {c : Call} (hc : c ∈ plan.phaseCalls initial t phase) :
    ∃ id, plan.step? id = some c.step := by
  obtain ⟨step, hstep, rfl⟩ := List.mem_map.mp hc
  obtain ⟨id, -, hid⟩ := List.mem_filterMap.mp hstep
  exact ⟨id, hid⟩

/-- Calls do not depend on metadata. -/
theorem Plan.callsOf_bareResults (plan : Plan) (initial : Fields) (t : Table Result) :
    plan.callsOf initial (bareResults t) = plan.callsOf initial t := by
  simp only [callsOf, contains_bareResults, gather_bareResults]

/-- Results that others extend. -/
def Table.IsPartOf {α : Type} (t u : Table α) : Prop :=
  ∀ k v, t.get? k = some v → u.get? k = some v

theorem Table.IsPartOf.contains {α : Type} {t u : Table α} (h : t.IsPartOf u) {k : String}
    (hk : t.contains k = true) : u.contains k = true := by
  obtain ⟨v, hv⟩ := Option.isSome_iff_exists.mp hk
  rw [Table.contains, h k v hv]
  rfl

/-- Adding results to others finds the first one of a node. -/
theorem get?_foldl_addResult (l : List Result) (t : Table Result) (id : String) :
    (l.foldl addResult t).get? id = (t.get? id).or (l.find? (·.nodeId = id)) := by
  induction l generalizing t with
  | nil => simp
  | cons r rest ih =>
    rw [List.foldl_cons, ih, get?_addResult, Option.or_assoc, List.find?_cons]
    congr 1
    by_cases hid : id = r.nodeId
    · simp [hid]
    · simp [hid, Ne.symm hid]

theorem isPartOf_foldl_addResult (l : List Result) (t : Table Result) :
    t.IsPartOf (l.foldl addResult t) := by
  intro id r hr
  rw [get?_foldl_addResult, hr, Option.some_or]

namespace Plan

variable {plan : Plan} {stop : Bool} {initial : Fields} {G : Call → Outcome → Prop}
  {t t' : Table Result} {phases : List Phase} {ending : Ending}

/-- **Results are only added.** -/
theorem Course.isPartOf (h : plan.Course stop initial G t phases t' ending) : t.IsPartOf t' := by
  induction h with
  | finished => exact fun _ _ h => h
  | cancelled => exact fun _ _ h => h
  | stopped => exact fun _ _ h => h
  | phase _ _ _ ih => exact fun id r hr => ih id r (isPartOf_foldl_addResult _ _ id r hr)

/-- Inputs can be gathered as soon as the sources have their results. -/
theorem gather_eq_of_isPartOf {step : Step} (h : t.IsPartOf t')
    (hsources : ∀ b ∈ step.bindings, ∀ source port, b.source = .node source port →
      t.contains source = true) : gather step t initial = gather step t' initial := by
  refine gather_congr fun b hb source port hs => ?_
  obtain ⟨r, hr⟩ := Option.isSome_iff_exists.mp (hsources b hb source port hs)
  rw [hr, h source r hr]

/-- After a phase its nodes have results, besides those that had one before. -/
theorem StagedFrom.contains_foldl {known : String → Prop} {phase : Phase} {rest : List Phase}
    (h : plan.StagedFrom known (phase :: rest)) (ht : ∀ id, known id → t.contains id = true)
    {found : List Result} (hfound : Call.YieldAll G (plan.phaseCalls initial t phase) found)
    {id : String} (hid : known id ∨ id ∈ phase.nodeIds) :
    (found.foldl addResult t).contains id = true := by
  rcases hid with hid | hid
  · exact (isPartOf_foldl_addResult found t).contains (ht id hid)
  · rw [Table.contains, get?_foldl_addResult, Option.isSome_or, Bool.or_eq_true]
    refine .inr (List.find?_isSome.mpr ?_)
    have hids : (plan.phaseCalls initial t phase).map (·.nodeId) = phase.nodeIds :=
      h.nodeId_phaseCalls t
    rw [← hids, ← hfound.nodeIds_perm.mem_iff] at hid
    obtain ⟨r, hr, rfl⟩ := List.mem_map.mp hid
    exact ⟨r, hr, by simp⟩

/-- The calls of a phase that has ended are calls with inputs from all later results. -/
theorem StagedFrom.phaseCalls_subset {known : String → Prop} {phase : Phase} {rest : List Phase}
    (h : plan.StagedFrom known (phase :: rest)) (ht : ∀ id, known id → t.contains id = true)
    (hids : phase.nodeIds ⊆ plan.nodeIds) {found : List Result}
    (hfound : Call.YieldAll G (plan.phaseCalls initial t phase) found)
    (hpart : (found.foldl addResult t).IsPartOf t') :
    plan.phaseCalls initial t phase ⊆ plan.callsOf initial t' := by
  intro c hc
  obtain ⟨hid, hstep, hinputs, hsources⟩ := h.of_mem_phaseCalls hc
  have hdone := hpart.contains (h.contains_foldl ht hfound (.inr hid))
  have hgather : gather c.step t initial = gather c.step t' initial :=
    gather_eq_of_isPartOf
      (fun id r hr => hpart id r (isPartOf_foldl_addResult found t id r hr))
      fun b hb source port hs => ht source (hsources b hb source port hs)
  refine List.mem_filterMap.mpr ⟨c.nodeId, List.mem_filter.mpr ⟨hids hid, hdone⟩, ?_⟩
  rw [hstep, Option.map_some, ← hgather, ← hinputs]

/-- **Each record is that of a call with inputs from the final results**, unless it was there
before. -/
theorem Course.get?_eq (h : plan.Course stop initial G t phases t' ending)
    {known : String → Prop} (hstaged : plan.StagedFrom known phases)
    (ht : ∀ id, known id → t.contains id = true) {id : String} {r : Result}
    (hr : t'.get? id = some r) :
    t.get? id = some r ∨ ∃ step, plan.step? id = some step ∧ step.node.id = id ∧
      Call.Yields G ⟨step, gather step t' initial⟩ r := by
  induction h generalizing known with
  | finished => exact .inl hr
  | cancelled => exact .inl hr
  | stopped => exact .inl hr
  | @phase t phase rest found t' ending _ hfound hrest ih =>
    refine (ih hstaged.2.2 (fun id hid => hstaged.contains_foldl ht hfound hid) hr).elim
      (fun hold => ?_) .inr
    rw [get?_foldl_addResult, Option.or_eq_some_iff] at hold
    refine hold.imp_right fun ⟨_, hfind⟩ => ?_
    obtain ⟨c, hc, hyields⟩ := hfound.exists_call (List.mem_of_find?_eq_some hfind)
    obtain ⟨-, hstep, hinputs, hsources⟩ := hstaged.of_mem_phaseCalls hc
    have hid : c.nodeId = id := by
      rw [← hyields.nodeId_eq]
      simpa using List.find?_some hfind
    have hpart : t.IsPartOf t' := fun id r hr =>
      hrest.isPartOf id r (isPartOf_foldl_addResult found t id r hr)
    have hgather : gather c.step t initial = gather c.step t' initial :=
      gather_eq_of_isPartOf hpart fun b hb source port hs =>
        ht source (hsources b hb source port hs)
    refine ⟨c.step, hid ▸ hstep, hid, ?_⟩
    rw [← hgather, ← hinputs]
    exact hyields

end Plan

/-! ### Runs -/

namespace Engine

variable {e : Engine κ} {C : Option Cache → Prop} {T : Terms String κ}
  {G : Call → Outcome → Prop} {plan : Plan} {initial : Fields} {scope : Scope}

/-- The engine delivers a record of the call, on the terms on which its nodes share what they
share. -/
def Delivers (e : Engine κ) (scope : Scope) (T : Terms String κ) (C : Option Cache → Prop)
    (G : Call → Outcome → Prop) (c : Call) : Prop :=
  ∀ t s, (T.shared C).invariant s →
    (e.execute { scope with nodeId := c.nodeId } c.step c.inputs).Ensures (T.shared C) c.nodeId
      (fun _ _ r => c.Yields G r) t s

/-- The engine delivers an outcome of a call if the call gets along with the cache and its body
keeps to the terms. -/
theorem delivers_mayEnd {F : NodeRelation} {c : Call} (hc : e.Respects C (c.MayEnd F) c)
    (hd : ∀ config t h, T.invariant h → (e.backend.dispatch
      ⟨{ scope with nodeId := c.nodeId }, c.step.manifest, c.inputs, config⟩).Ensures T c.nodeId
        (fun _ _ d => F c.nodeId c.step.manifest c.inputs config d.result) t h) :
    e.Delivers scope T C (Call.MayEnd F) c := by
  intro t s hs
  refine ensures_execute _ hc (fun t s hs => ?_) t hs
  exact ensures_invoke _ c fun config => hd config t s.host hs.2

/-- Whatever bodies do and caches hold, the engine delivers a record. -/
theorem delivers_any (e : Engine κ) (scope : Scope) (c : Call) :
    e.Delivers scope (.keeping String (fun _ => True) True) (fun _ => True) (fun _ _ => True)
      c := by
  intro t s hs
  refine ensures_execute _ (e.respects_any c) (fun t s _ => ?_) t hs
  have hd : ∀ config, (e.backend.dispatch
      ⟨{ scope with nodeId := c.nodeId }, c.step.manifest, c.inputs, config⟩).Ensures
        (.keeping String (fun _ => True) True) c.nodeId (fun _ _ _ => True) t s.host :=
    fun config => Work.ensures_of_forall (fun _ _ _ => trivial) t s.host
  exact (ensures_invoke (F := fun _ _ _ _ _ => True) _ c hd).mono fun _ _ _ _ => trivial

/-- The nodes of a phase, before any of them has started. -/
def phasePool (e : Engine κ) (plan : Plan) (scope : Scope) (initial : Fields) (t : Table Result)
    (phase : Phase) (world : World (Shared κ) Event) : Pool (Shared κ) Event Result :=
  let works := (stepsOf plan phase).map (e.stepWork scope t initial)
  .start world (e.room phase works.length) works

/-- Who goes on when several nodes of a phase can. -/
def phasePolicy (e : Engine κ) (plan : Plan) (phase : Phase) : Pool.Policy :=
  e.order e.limit? (stepsOf plan phase).length

/-- A phase that comes to its end does so in its pool. -/
theorem exists_run_of_runPhase {e : Engine κ} {plan : Plan} {scope : Scope} {initial : Fields}
    {t : Table Result} {phase : Phase} {world after : World (Shared κ) Event} {found : List Result}
    (hrun : e.runPhase plan scope initial t phase world = .ok (after, found)) : ∃ rs,
      (e.phasePool plan scope initial t phase world).run (e.phasePolicy plan phase) =
        .ok (after, rs) ∧ found = e.takenUp phase rs := by
  rw [runPhase] at hrun
  split at hrun
  · cases hrun
  rename_i after' rs hpool
  cases hrun
  refine ⟨rs, ?_, rfl⟩
  rw [phasePolicy, ← List.length_map (e.stepWork scope t initial)]
  exact hpool

/-- The node of a piece of the pool. -/
def nodeOf (calls : List Call) (j : Nat) : String := (calls[j]?.map (·.nodeId)).getD ""

section

variable {t : Table Result} {phase : Phase} {world after : World (Shared κ) Event}

theorem length_phasePool :
    (e.phasePool plan scope initial t phase world).pieces.length =
      (plan.phaseCalls initial t phase).length := by
  simp [phasePool, Pool.length_pieces_start, Plan.phaseCalls]

/-- The pieces of the pool are of different nodes. -/
theorem nodeOf_ne (hids : ((plan.phaseCalls initial t phase).map (·.nodeId)).Nodup) (j k : Nat)
    (hj : j < (e.phasePool plan scope initial t phase world).pieces.length)
    (hk : k < (e.phasePool plan scope initial t phase world).pieces.length) (hjk : j ≠ k) :
    nodeOf (plan.phaseCalls initial t phase) j ≠ nodeOf (plan.phaseCalls initial t phase) k := by
  intro he
  rw [length_phasePool] at hj hk
  have hget (i : Nat) (hi : i < (plan.phaseCalls initial t phase).length) :
      ((plan.phaseCalls initial t phase).map (·.nodeId))[i]? =
        some (nodeOf (plan.phaseCalls initial t phase) i) := by
    simp [nodeOf, hi]
  refine hjk ((List.getElem?_inj (by simpa using hj) hids).mp ?_)
  rw [hget j hj, hget k hk, he]

/-- **The nodes of a phase keep to the terms** if the executions of their calls do, whatever else
these ensure. -/
theorem isKept_phasePool_of {U : Terms String (Shared κ)}
    {P : Call → Nat → Shared κ → Result → Prop} (hw : world.Meets U)
    (hcalls : ∀ c ∈ plan.phaseCalls initial t phase, ∀ u,
      (e.execute { scope with nodeId := c.nodeId } c.step c.inputs).Ensures U c.nodeId (P c) u
        world.state) :
    (e.phasePool plan scope initial t phase world).IsKept U
      (nodeOf (plan.phaseCalls initial t phase))
      fun j u s r => ∃ c, (plan.phaseCalls initial t phase)[j]? = some c ∧ P c u s r := by
  refine Pool.isKept_start hw fun j w hj u _ => ?_
  obtain ⟨c, hc, rfl⟩ := exists_call_of_getElem? hj
  have hnode : nodeOf (plan.phaseCalls initial t phase) j = c.nodeId := by simp [nodeOf, hc]
  rw [hnode]
  exact ((hcalls c (List.mem_of_getElem? hc) u).mapNews _).mono fun _ _ r hr => ⟨c, hc, hr⟩

/-- The nodes of a phase keep to the terms if the engine delivers records of their calls. -/
theorem isKept_phasePool (hw : world.Meets (T.shared C))
    (hcalls : ∀ c ∈ plan.phaseCalls initial t phase, e.Delivers scope T C G c) :
    (e.phasePool plan scope initial t phase world).IsKept (T.shared C)
      (nodeOf (plan.phaseCalls initial t phase))
      fun j _ _ r => ∃ c, (plan.phaseCalls initial t phase)[j]? = some c ∧ c.Yields G r :=
  isKept_phasePool_of hw fun c hc u => hcalls c hc u world.state hw.state

/-- A phase that comes to its end leaves a record for each of its calls. -/
theorem runPhase_yieldAll {found : List Result}
    (hids : ((plan.phaseCalls initial t phase).map (·.nodeId)).Nodup)
    (hw : world.Meets (T.shared C))
    (hcalls : ∀ c ∈ plan.phaseCalls initial t phase, e.Delivers scope T C G c)
    (hrun : e.runPhase plan scope initial t phase world = .ok (after, found)) :
    after.Meets (T.shared C) ∧ Call.YieldAll G (plan.phaseCalls initial t phase) found := by
  obtain ⟨rs, hpool, rfl⟩ := exists_run_of_runPhase hrun
  obtain ⟨hafter, hlength, hfound⟩ := (isKept_phasePool hw hcalls).run (nodeOf_ne hids) hpool
  refine ⟨hafter, yieldAll_takenUp phase (hlength.trans length_phasePool) fun j r hj => ?_⟩
  obtain ⟨_, _, _, _, hr⟩ := hfound j r hj
  exact hr

end

/-- The world when phase number `k` has started. -/
def begun (scope : Scope) (k : Nat) (phase : Phase) (there : World (Shared κ) Event) :
    World (Shared κ) Event :=
  there.tell (.run scope.executionId (.phaseStarted (.ofNat k) phase.nodeIds phase.parallel))

/-- The world when phase number `k` has completed with some results. -/
def completed (scope : Scope) (k : Nat) (found : List Result) (there : World (Shared κ) Event) :
    World (Shared κ) Event :=
  there.tell (.run scope.executionId
    (.phaseCompleted (.ofNat k) (.ofNat (found.countP (!·.success)))))

/-- How a run goes on that has come to a phase, and what it comes to in the end. It does not start
the phase if it has been cancelled or has to stop; otherwise it goes through it, and then through
the rest. -/
inductive GoesOn (e : Engine κ) (plan : Plan) (scope : Scope) (initial : Fields) (index : Nat)
    (t : Table Result) (world : World (Shared κ) Event) (phase : Phase) (rest : List Phase) :
    World (Shared κ) Event → Table Result → Ending → Prop
  | cancelled (hcancelled : world.cancelled = true) :
    GoesOn e plan scope initial index t world phase rest
      (world.tell (.run scope.executionId (.cancelled (.ofNat index)))) t .cancelled
  | stopped (hgo : world.cancelled = false) (hstop : e.stopOnError = true)
    (hfailed : failedIds t ≠ []) :
    GoesOn e plan scope initial index t world phase rest
      (world.tell (.run scope.executionId (.stopped (.ofNat index) (failedIds t)))) t .stopped
  | phase {there found after t' ending} (hgo : world.cancelled = false)
    (hunfailed : e.stopOnError = true → failedIds t = [])
    (hphase : e.runPhase plan scope initial t phase (begun scope index phase world) =
      .ok (there, found))
    (hrest : e.runPhases plan scope initial (index + 1) (found.foldl addResult t)
      (completed scope index found there) rest = .ok (after, t', ending)) :
    GoesOn e plan scope initial index t world phase rest after t' ending

/-- **There are three ways to go on at a phase.** -/
theorem runPhases_cons_iff {index : Nat} {t t' : Table Result}
    {world after : World (Shared κ) Event} {phase : Phase} {rest : List Phase} {ending : Ending} :
    e.runPhases plan scope initial index t world (phase :: rest) = .ok (after, t', ending) ↔
      e.GoesOn plan scope initial index t world phase rest after t' ending := by
  simp only [runPhases]
  constructor
  · intro hrun
    split at hrun
    · rename_i hcancelled
      cases hrun
      exact .cancelled hcancelled
    · rename_i hgo
      rw [Bool.not_eq_true] at hgo
      split at hrun
      · rename_i hstop
        cases hrun
        simp only [Bool.and_eq_true, Bool.not_eq_true', List.isEmpty_eq_false_iff] at hstop
        exact .stopped hgo hstop.1 hstop.2
      · rename_i hnone
        split at hrun
        · cases hrun
        · rename_i hphase
          exact .phase hgo (fun hstop => by simpa [hstop] using hnone) hphase hrun
  · rintro (hcancelled | ⟨hgo, hstop, hfailed⟩ | ⟨hgo, hunfailed, hphase, hrest⟩)
    · rw [if_pos hcancelled]
    · rw [hgo, if_neg Bool.false_ne_true, if_pos (by simp [hstop, hfailed])]
    · rw [hgo, if_neg Bool.false_ne_true, if_neg (by simpa using hunfailed)]
      rw [begun] at hphase
      rw [hphase]
      exact hrest

/-- Results are only added. -/
theorem runPhases_isPartOf {phases : List Phase} {index : Nat} {t t' : Table Result}
    {world after : World (Shared κ) Event} {ending : Ending}
    (hrun : e.runPhases plan scope initial index t world phases = .ok (after, t', ending)) :
    t.IsPartOf t' := by
  induction phases generalizing index t world with
  | nil =>
    cases hrun
    exact fun _ _ h => h
  | cons phase rest ih =>
    cases runPhases_cons_iff.mp hrun with
    | cancelled | stopped => exact fun _ _ h => h
    | phase _ _ _ hrest =>
      exact fun id r hr => ih hrest id r (isPartOf_foldl_addResult _ t id r hr)

theorem meets_tell {U : Terms ι (Shared κ)} {world : World (Shared κ) Event} (h : world.Meets U)
    (news : Event) : (world.tell news).Meets U :=
  ⟨h.state, h.cancelled, h.cancelAt⟩

/-- A phase of a run leaves a record for each of its calls, whatever these do. -/
theorem runPhase_yieldAny {t : Table Result} {phase : Phase}
    {world after : World (Shared κ) Event} {found : List Result}
    (hids : ((plan.phaseCalls initial t phase).map (·.nodeId)).Nodup)
    (hrun : e.runPhase plan scope initial t phase world = .ok (after, found)) :
    Call.YieldAll (fun _ _ => True) (plan.phaseCalls initial t phase) found := by
  have hw : world.Meets ((Terms.keeping String (fun _ : κ => True) True).shared fun _ => True) :=
    ⟨⟨trivial, trivial⟩, fun _ => trivial, fun _ => trivial⟩
  exact (runPhase_yieldAll hids hw (fun c _ => e.delivers_any scope c) hrun).2

/-- **The phases of a run follow a course**, if the engine delivers a record for each call whose
inputs are gathered from the final results. -/
theorem runPhases_course {phases : List Phase} {known : String → Prop} {index : Nat}
    {t t' : Table Result} {world after : World (Shared κ) Event} {ending : Ending}
    (hstaged : plan.StagedFrom known phases) (hsub : ∀ phase ∈ phases, phase ∈ plan.phases)
    (ht : ∀ id, known id → t.contains id = true) (hw : world.Meets (T.shared C))
    (hcalls : ∀ c ∈ plan.callsOf initial t', e.Delivers scope T C G c)
    (hrun : e.runPhases plan scope initial index t world phases = .ok (after, t', ending)) :
    after.Meets (T.shared C) ∧ plan.Course e.stopOnError initial G t phases t' ending := by
  induction phases generalizing known index t world with
  | nil =>
    cases hrun
    exact ⟨hw, .finished _⟩
  | cons phase rest ih =>
    cases runPhases_cons_iff.mp hrun with
    | cancelled => exact ⟨meets_tell hw _, .cancelled _ phase rest⟩
    | stopped _ hstop hfailed => exact ⟨meets_tell hw _, .stopped phase rest hstop hfailed⟩
    | phase _ hunfailed hphase hrest =>
      have hids : ((plan.phaseCalls initial t phase).map (·.nodeId)).Nodup :=
        hstaged.nodup_phaseCalls t
      have hcalled := hstaged.phaseCalls_subset ht (fun id hid => List.mem_flatMap.mpr
        ⟨phase, hsub phase List.mem_cons_self, hid⟩) (runPhase_yieldAny hids hphase)
        (runPhases_isPartOf hrest)
      obtain ⟨hmeets, hfound⟩ := runPhase_yieldAll hids (meets_tell hw _)
        (fun c hc => hcalls c (hcalled hc)) hphase
      obtain ⟨hlast, hcourse⟩ := ih hstaged.2.2
        (fun p hp => hsub p (List.mem_cons_of_mem _ hp))
        (fun id hid => hstaged.contains_foldl ht hfound hid) (meets_tell hmeets _) hrest
      exact ⟨hlast, .phase hunfailed hfound hcourse⟩

/-- **A run that comes to its end follows a course**, if the engine delivers a record for each call
whose inputs are gathered from the final results. -/
theorem runPlan_course {world after : World (Shared κ) Event} {run : RunResults}
    (hstaged : plan.IsStaged) (hw : world.Meets (T.shared C))
    (hcalls : ∀ c ∈ plan.callsOf initial run.results, e.Delivers scope T C G c)
    (hrun : e.runPlan plan scope initial world = .ok (after, run)) :
    after.Meets (T.shared C) ∧
      ∃ ending, plan.Course e.stopOnError initial G Table.empty plan.phases run.results ending ∧
        run.cancelled = (ending = .cancelled) := by
  obtain ⟨last, t, ending, hphases, rfl, rfl⟩ := (runPlan_eq_ok_iff hstaged).mp hrun
  obtain ⟨hlast, hcourse⟩ := runPhases_course hstaged (fun _ h => h) (fun _ h => h.elim)
    (meets_tell hw _) hcalls hphases
  exact ⟨meets_tell hlast _, ending, hcourse, by simp [outcomeOf]⟩

end Engine

end PortGraph
