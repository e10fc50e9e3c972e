import PortGraph.Proofs.Engine.Coverage
import PortGraph.Proofs.Engine.Isolation

/-!
# Runs that stop on an error

An engine that stops on an error goes through the same phases as one that does not, as far as it
goes, and it goes as far as the first phase with a failed node. That phase goes to its end. So the
results are those of a run that does not stop, of the nodes up to that phase.

The failures of a phase are seen in the results of the whole run, since results are only added.

## Main definitions

* `firstFailing?`: the number of the first phase with a failed node
* `reached`: the nodes of the phases up to that one
* `Table.restrict`: the entries of a table under some of its keys
* `Engine.stopping`: an engine that differs from another in that it stops on an error

## Main results

* `Engine.runPhases_stopping`: what an engine does if it stops on an error
* `Engine.runPlan_stops`: the results of a run that stops are those of one that does not, up to the
  first phase with a failed node
-/

namespace PortGraph

variable {β κ κ' : Type}

/-! ### The first failure -/

/-- Whether one of the nodes of a phase has failed. -/
def Phase.fails (phase : Phase) (t : Table Result) : Bool :=
  phase.nodeIds.any fun id => (t.get? id).any (!·.success)

/-- The number of the first phase with a failed node. -/
def firstFailing? (t : Table Result) (phases : List Phase) : Option Nat :=
  phases.findIdx? (·.fails t)

/-- How many phases there are up to the first one with a failed node, which is counted; all of them
if no node has failed. -/
def reach (t : Table Result) (phases : List Phase) : Nat :=
  match firstFailing? t phases with
  | some j => j + 1
  | none => phases.length

/-- The nodes of these phases. -/
def reached (t : Table Result) (phases : List Phase) : List String :=
  (phases.take (reach t phases)).flatMap (·.nodeIds)

variable {t : Table Result} {phase : Phase} {phases rest : List Phase}

theorem reach_cons_of_fails (h : phase.fails t = true) (rest : List Phase) :
    reach t (phase :: rest) = 1 := by
  simp [reach, firstFailing?, List.findIdx?_cons, h]

theorem reach_cons_of_not_fails (h : phase.fails t = false) (rest : List Phase) :
    reach t (phase :: rest) = reach t rest + 1 := by
  rw [reach, reach, firstFailing?, firstFailing?, List.findIdx?_cons, h]
  cases rest.findIdx? (·.fails t) <;> rfl

/-- Some phases are not reached just if there is a failure before the last one. -/
theorem reach_lt_length_iff :
    reach t phases < phases.length ↔
      ∃ j, firstFailing? t phases = some j ∧ j + 1 < phases.length := by
  rw [reach]
  cases firstFailing? t phases <;> simp

/-- The nodes of the first phase with a failed node are reached. -/
theorem mem_reached {j : Nat} (hfails : firstFailing? t phases = some j)
    (hphase : phases[j]? = some phase) {id : String} (hid : id ∈ phase.nodeIds) :
    id ∈ reached t phases := by
  rw [reached, reach, hfails]
  refine List.mem_flatMap.mpr ⟨phase, List.mem_of_getElem? (i := j) ?_, hid⟩
  rw [List.getElem?_take_of_lt (Nat.lt_succ_self j), hphase]

/-- Failures do not depend on metadata. -/
theorem firstFailing?_bareResults (t : Table Result) (phases : List Phase) :
    firstFailing? (bareResults t) phases = firstFailing? t phases := by
  have hfails : ∀ phase : Phase, phase.fails (bareResults t) = phase.fails t := by
    intro phase
    refine congrArg (List.any phase.nodeIds) (funext fun id => ?_)
    rw [get?_bareResults, Option.any_map]
    rfl
  simp only [firstFailing?, hfails]

theorem reached_bareResults (t : Table Result) (phases : List Phase) :
    reached (bareResults t) phases = reached t phases := by
  rw [reached, reached, reach, reach, firstFailing?_bareResults]

/-! ### Some of the results -/

namespace Table

variable {α : Type}

/-- The entries of a table under some of its keys. -/
def restrict (t : Table α) (keys : List String) : Table α where
  entries := t.entries.filter (·.1 ∈ keys)
  ascending := t.ascending.filter _

theorem find?_filter_mem (keys : List String) (k : String) (l : List (String × α)) :
    find? k (l.filter (·.1 ∈ keys)) = if k ∈ keys then find? k l else none := by
  induction l with
  | nil => simp [find?]
  | cons e rest ih =>
    by_cases he : e.1 ∈ keys <;> by_cases hk : e.1 = k
    · subst hk
      simp [find?, he]
    · simp [find?, he, hk, ih]
    · subst hk
      simp [he, ih]
    · simp [find?, he, hk, ih]

@[simp]
theorem get?_restrict (t : Table α) (keys : List String) (k : String) :
    (t.restrict keys).get? k = if k ∈ keys then t.get? k else none :=
  find?_filter_mem keys k t.entries

/-- Part of a table is what that table has under the keys of the part. -/
theorem IsPartOf.eq_restrict {t u : Table α} (h : t.IsPartOf u) {keys : List String}
    (hkeys : ∀ k, t.contains k = true ↔ k ∈ keys) : t = u.restrict keys := by
  refine ext_get? fun k => ?_
  rw [get?_restrict]
  cases hk : t.get? k with
  | none => rw [if_neg fun hmem => by simpa [Table.contains, hk] using (hkeys k).mpr hmem]
  | some v => rw [if_pos ((hkeys k).mp (Option.isSome_iff_exists.mpr ⟨v, hk⟩)), h k v hk]

end Table

theorem bareResults_restrict (t : Table Result) (keys : List String) :
    bareResults (t.restrict keys) = (bareResults t).restrict keys := by
  refine Table.ext_get? fun k => ?_
  rw [get?_bareResults, Table.get?_restrict, Table.get?_restrict, get?_bareResults]
  split <;> rfl

/-- A phase of which all results are there has failed just if there is a failure now, if there was
none before. -/
theorem failedIds_eq_nil_iff_of_phase {t t' final : Table Result} (hold : t.IsPartOf t')
    (hkeyed : IsKeyed t) (hkeyed' : IsKeyed t') (hnone : failedIds t = [])
    (hpart : t'.IsPartOf final)
    (hcontains : ∀ id, t'.contains id = true ↔ t.contains id = true ∨ id ∈ phase.nodeIds) :
    failedIds t' = [] ↔ phase.fails final = false := by
  have hphase : ∀ id ∈ phase.nodeIds, final.get? id = t'.get? id := by
    intro id hid
    obtain ⟨x, hx⟩ := Option.isSome_iff_exists.mp ((hcontains id).mpr (.inr hid))
    rw [hx, hpart id x hx]
  rw [List.eq_nil_iff_forall_not_mem, ← Bool.not_eq_true, Phase.fails, List.any_eq_true]
  constructor
  · rintro hall ⟨id, hid, hfails⟩
    rw [hphase id hid, Option.any_eq_true] at hfails
    obtain ⟨x, hx, hfailed⟩ := hfails
    exact hall id ((mem_failedIds hkeyed').mpr ⟨x, hx, by simpa using hfailed⟩)
  · intro hall id hid
    obtain ⟨x, hx, hfailed⟩ := (mem_failedIds hkeyed').mp hid
    rcases (hcontains id).mp (Option.isSome_iff_exists.mpr ⟨x, hx⟩) with hbefore | hnow
    · obtain ⟨y, hy⟩ := Option.isSome_iff_exists.mp hbefore
      cases (hold id y hy).symm.trans hx
      have hmem := (mem_failedIds hkeyed).mpr ⟨x, hy, hfailed⟩
      rw [hnone] at hmem
      exact nomatch hmem
    · refine hall ⟨id, hnow, ?_⟩
      rw [hphase id hnow, hx]
      simp [hfailed]

namespace Engine

variable {e : Engine κ} {plan : Plan} {scope : Scope} {initial : Fields}

/-! ### Phases -/

/-- The engine that stops on an error and is otherwise the same. -/
def stopping (e : Engine κ) : Engine κ := { e with stopOnError := true }

/-- Whether an engine stops on an error makes no difference within a phase. -/
theorem runPhase_stopping (t : Table Result) (phase : Phase) (world : World (Shared κ) Event) :
    e.stopping.runPhase plan scope initial t phase world =
      e.runPhase plan scope initial t phase world := rfl

/-- An engine that does not stop on an error stops at nothing. -/
theorem ending_ne_stopped (hoff : e.stopOnError = false) {index : Nat} {t t' : Table Result}
    {world after : World (Shared κ) Event} {ending : Ending}
    (hrun : e.runPhases plan scope initial index t world phases = .ok (after, t', ending)) :
    ending ≠ .stopped := by
  induction phases generalizing index t world with
  | nil =>
    cases hrun
    exact Ending.noConfusion
  | cons phase rest ih =>
    cases runPhases_cons_iff.mp hrun with
    | cancelled => exact Ending.noConfusion
    | stopped _ hstop => cases hoff.symm.trans hstop
    | phase _ _ _ hrest => exact ih hrest

/-- **What an engine does if it stops on an error.** Where it would go through all phases otherwise,
it goes as far as the first one with a failed node. -/
theorem runPhases_stopping {known : String → Prop} {index : Nat}
    {t final : Table Result} {world after : World (Shared κ) Event}
    (hstaged : plan.StagedFrom known phases) (ht : ∀ id, t.contains id = true ↔ known id)
    (hkeyed : IsKeyed t) (hnone : failedIds t = [])
    (hrun : e.runPhases plan scope initial index t world phases = .ok (after, final, .finished)) :
    ∃ after' t' ending,
      e.stopping.runPhases plan scope initial index t world phases = .ok (after', t', ending) ∧
      ending ≠ .cancelled ∧ (ending = .stopped ↔ reach final phases < phases.length) ∧
      t'.IsPartOf final ∧
      ∀ id, t'.contains id = true ↔ known id ∨ id ∈ reached final phases := by
  induction phases generalizing known index t world with
  | nil =>
    cases hrun
    refine ⟨_, _, .finished, rfl, Ending.noConfusion, by simp, fun _ _ h => h, ?_⟩
    simp [reached, ht]
  | cons phase rest ih =>
    cases runPhases_cons_iff.mp hrun with
    | @phase there found _ _ _ hgo _ hphase hrest =>
      -- Nothing has failed so far, so the phase starts all the same.
      have hstart {after' : World (Shared κ) Event} {t' : Table Result} {ending : Ending}
          (h : e.stopping.runPhases plan scope initial (index + 1) (found.foldl addResult t)
            (completed scope index found there) rest = .ok (after', t', ending)) :
          e.stopping.runPhases plan scope initial index t world (phase :: rest) =
            .ok (after', t', ending) :=
        runPhases_cons_iff.mpr
          (.phase hgo (fun _ => hnone) ((e.runPhase_stopping t phase _).trans hphase) h)
      have hfound := runPhase_yieldAny (hstaged.nodup_phaseCalls t) hphase
      have hcontains := hstaged.contains_foldl_iff ht hfound
      have hpart := runPhases_isPartOf hrest
      have hfails := failedIds_eq_nil_iff_of_phase (isPartOf_foldl_addResult found t) hkeyed
        (hkeyed.foldl_addResult found) hnone hpart fun id => by rw [hcontains, ht]
      cases hfail : phase.fails final with
      | false =>
        -- No failure yet: the engine goes on just as it would otherwise.
        obtain ⟨after', t', ending, hstop, hne, hending, hpart', hcontains'⟩ :=
          ih hstaged.2.2 hcontains (hkeyed.foldl_addResult found) (hfails.mpr hfail) hrest
        refine ⟨after', t', ending, hstart hstop, hne, ?_, hpart', fun id => ?_⟩
        · rw [hending, reach_cons_of_not_fails hfail, List.length_cons, Nat.add_lt_add_iff_right]
        · rw [hcontains', reached, reached, reach_cons_of_not_fails hfail, List.take_succ_cons,
            List.flatMap_cons, List.mem_append, or_assoc]
      | true =>
        have hsome : failedIds (found.foldl addResult t) ≠ [] := by
          rw [ne_eq, hfails, hfail]
          exact Bool.true_eq_false_eq_False
        have hreached : ∀ id, (found.foldl addResult t).contains id = true ↔
            known id ∨ id ∈ reached final (phase :: rest) := by
          intro id
          rw [hcontains, reached, reach_cons_of_fails hfail]
          simp
        cases rest with
        | nil =>
          refine ⟨_, _, .finished, hstart rfl, Ending.noConfusion, ?_, hpart, hreached⟩
          simp [reach_cons_of_fails hfail]
        | cons next others =>
          cases runPhases_cons_iff.mp hrest with
          | phase hgo' =>
            refine ⟨_, _, .stopped, hstart (runPhases_cons_iff.mpr (.stopped hgo' rfl hsome)),
              Ending.noConfusion, ?_, hpart, hreached⟩
            simp [reach_cons_of_fails hfail]

/-! ### Runs -/

/-- What a run comes to if it stops on an error, metadata included. -/
theorem exists_runPlan_stopping (hoff : e.stopOnError = false) (hstaged : plan.IsStaged)
    {world after : World (Shared κ) Event} {run : RunResults}
    (hrun : e.runPlan plan scope initial world = .ok (after, run))
    (hwhole : run.cancelled = false) :
    ∃ after' run', e.stopping.runPlan plan scope initial world = .ok (after', run') ∧
      run'.cancelled = false ∧
      (run'.stoppedOnError = true ↔
        ∃ j, firstFailing? run.results plan.phases = some j ∧ j + 1 < plan.phases.length) ∧
      run'.results = run.results.restrict (reached run.results plan.phases) := by
  obtain ⟨last, final, ending, hphases, rfl, rfl⟩ := (runPlan_eq_ok_iff hstaged).mp hrun
  have hfinished : ending = .finished := by
    have hstopped := ending_ne_stopped hoff hphases
    cases ending with
    | finished => rfl
    | cancelled => cases hwhole
    | stopped => exact absurd rfl hstopped
  subst hfinished
  have hempty : ∀ id, (Table.empty : Table Result).contains id = true ↔ False := by
    intro id
    simp [Table.contains, Table.get?_empty]
  obtain ⟨after', t', ending', hstop, hne, hending, hpart, hcontains⟩ :=
    runPhases_stopping hstaged hempty (fun id r hr => by cases hr) rfl hphases
  refine ⟨_, _, (runPlan_eq_ok_iff hstaged).mpr ⟨after', t', ending', hstop, rfl, rfl⟩,
    by simpa [outcomeOf] using hne, ?_, ?_⟩
  · rw [← reach_lt_length_iff]
    show decide (ending' = .stopped) = true ↔ _
    rw [decide_eq_true_iff]
    exact hending
  · refine hpart.eq_restrict fun id => ?_
    rw [hcontains, false_or]
    rfl

/-- A run without a cache that nobody cancels comes to its end, with the results that the dataflow
evaluates to. -/
theorem exists_runPlan_of_computes {f : NodeFunction} {J : κ → Prop} (hb : e.backend.Computes J f)
    (hstaged : plan.IsStaged) (scope : Scope) (initial : Fields) {world : World (Shared κ) Event}
    (hw : world.IsCalm (Shared.Obeys (· = none) J)) :
    ∃ after run, e.runPlan plan scope initial world = .ok (after, run) ∧ run.cancelled = false ∧
      bareResults run.results = plan.evaluate f e.stopOnError initial := by
  obtain ⟨after, run, hrun, -, hresults⟩ := runPlan_eq hb scope hstaged hw
    fun c (_ : c ∈ plan.calls f e.stopOnError initial) => e.upholds_none f c
  obtain ⟨_, _, hrun', hwhole⟩ := exists_runPlan scope initial hstaged hw
    fun c _ => (e.upholds_none f c).settles_execute hb { scope with nodeId := c.nodeId } rfl
  cases hrun.symm.trans hrun'
  exact ⟨after, run, hrun, hwhole, hresults⟩

theorem stoppedOnError_eq_false (hoff : e.stopOnError = false) (hstaged : plan.IsStaged)
    {world after : World (Shared κ) Event} {run : RunResults}
    (hrun : e.runPlan plan scope initial world = .ok (after, run)) :
    run.stoppedOnError = false := by
  obtain ⟨last, t, ending, hphases, rfl, rfl⟩ := (runPlan_eq_ok_iff hstaged).mp hrun
  exact decide_eq_false (ending_ne_stopped hoff hphases)

/-- **A run that stops on an error yields a first part of the results.** A compiled plan is run
twice, without a cache and without being cancelled, by two engines whose bodies compute one
function, one of which stops on an error. Limits, timing and the order in which nodes go on may be
any. Both runs come to their ends. The one is stopped just if there is, in the other, a first phase
with a failed node and it is not the last phase. Its results are, apart from metadata, those of the
other for the nodes up to that phase, of which each has one; they are all results if no node has
failed. If the engines differ in nothing else and begin in the same world, the metadata are the same
too. -/
theorem runPlan_stops (e : Engine κ) (e' : Engine κ') (r : Registry β) (g : Graph) (plan : Plan)
    (scope scope' : Scope) (initial : Fields) (f : NodeFunction) (J : κ → Prop) (J' : κ' → Prop)
    (world : World (Shared κ) Event) (world' : World (Shared κ') Event)
    (hplan : g.compile r = .ok plan) (hb : e.backend.Computes J f) (hb' : e'.backend.Computes J' f)
    (hoff : e.stopOnError = false) (hon : e'.stopOnError = true)
    (hw : world.IsCalm (Shared.Obeys (· = none) J))
    (hw' : world'.IsCalm (Shared.Obeys (· = none) J')) :
    ∃ after run after' run',
      e.runPlan plan scope initial world = .ok (after, run) ∧
      e'.runPlan plan scope' initial world' = .ok (after', run') ∧
      run.cancelled = false ∧ run.stoppedOnError = false ∧ run'.cancelled = false ∧
      (run'.stoppedOnError = true ↔
        ∃ j, firstFailing? run.results plan.phases = some j ∧ j + 1 < plan.phases.length) ∧
      bareResults run'.results =
        bareResults (run.results.restrict (reached run.results plan.phases)) ∧
      (∀ j phase, firstFailing? run.results plan.phases = some j → plan.phases[j]? = some phase →
        ∀ id ∈ phase.nodeIds, run'.results.contains id = true) ∧
      (firstFailing? run.results plan.phases = none →
        bareResults run'.results = bareResults run.results) ∧
      ∀ last stopped, e.stopping.runPlan plan scope initial world = .ok (last, stopped) →
        stopped.results = run.results.restrict (reached run.results plan.phases) := by
  obtain ⟨hp, -⟩ := Graph.isPlan_of_compile hplan
  have hstaged := hp.isStaged
  obtain ⟨after, run, hrun, hwhole, hresults⟩ :=
    exists_runPlan_of_computes hb hstaged scope initial hw
  -- The stopping engine is compared with itself going on, which leads to the same results.
  let onward : Engine κ' := { e' with stopOnError := false }
  have honward : onward.stopping = e' := by
    rw [stopping, ← hon]
  obtain ⟨_, whole, hwholeRun, hwhole', hresults'⟩ :=
    exists_runPlan_of_computes (e := onward) hb' hstaged scope' initial hw'
  have hsame : bareResults whole.results = bareResults run.results := by
    rw [hresults, hresults', hoff]
  obtain ⟨after', run', hrun', hcancelled, hstopped, hpart⟩ :=
    exists_runPlan_stopping (e := onward) rfl hstaged hwholeRun hwhole'
  rw [honward] at hrun'
  rw [← firstFailing?_bareResults, hsame, firstFailing?_bareResults] at hstopped
  have hbare : bareResults run'.results =
      bareResults (run.results.restrict (reached run.results plan.phases)) := by
    rw [hpart, bareResults_restrict, bareResults_restrict, ← reached_bareResults, hsame,
      reached_bareResults]
  have hnodes : ∀ id, run.results.contains id = true ↔ id ∈ plan.nodeIds := by
    have hsolution : plan.IsSolution f initial (bareResults run.results) := by
      rw [hresults, hoff]
      exact hstaged.isSolution
    exact (Plan.isSolution_of_bareResults hsolution).contains_iff
  refine ⟨after, run, after', run', hrun, hrun', hwhole, stoppedOnError_eq_false hoff hstaged hrun,
    hcancelled, hstopped, hbare, ?_, ?_, ?_⟩
  · intro j phase hfails hphase id hid
    have hmem : id ∈ plan.nodeIds :=
      List.mem_flatMap.mpr ⟨phase, List.mem_of_getElem? hphase, hid⟩
    rw [← contains_bareResults, hbare, contains_bareResults, Table.contains, Table.get?_restrict,
      if_pos (mem_reached hfails hphase hid)]
    exact (hnodes id).mpr hmem
  · intro hnone
    have hall : reached run.results plan.phases = plan.nodeIds := by
      rw [reached, reach, hnone, List.take_length, Plan.nodeIds]
    have hpart : run.results.IsPartOf run.results := fun _ _ h => h
    rw [hbare, hall, ← hpart.eq_restrict hnodes]
  · intro last stopped hlast
    obtain ⟨_, _, hstop, -, -, hexact⟩ := exists_runPlan_stopping hoff hstaged hrun hwhole
    cases hlast.symm.trans hstop
    exact hexact

/-- An engine with the bodies of `faultyEngine` that stops on an error, one node at a time. -/
def carefulEngine : Engine Unit where
  registry := Graph.sampleRegistry
  backend := faultyEngine.backend
  limit? := some 1
  stopOnError := true

/-- The node `p` of the small graph fails, in the first of three phases. The run that stops has the
results of that phase. -/
theorem stops_sampleGraph :
    Graph.sampleGraph.compile Graph.sampleRegistry = .ok Graph.samplePlan ∧
      ∃ after run after' run',
        faultyEngine.runPlan Graph.samplePlan ⟨"first", "sample", "", none⟩ Table.empty
          (.start 0 ⟨none, ()⟩) = .ok (after, run) ∧
        carefulEngine.runPlan Graph.samplePlan ⟨"second", "sample", "", none⟩ Table.empty
          (.start 20 ⟨none, ()⟩) = .ok (after', run') ∧
        firstFailing? run.results Graph.samplePlan.phases = some 0 ∧
        run'.stoppedOnError = true ∧
        bareResults run'.results = bareResults (run.results.restrict ["q", "p"]) ∧
        run'.results.contains "q" = true ∧ run'.results.contains "p" = true := by
  have hcomputes : faultyEngine.backend.Computes (fun _ => True) faultyBody :=
    fun _ _ _ => ⟨rfl, fun _ _ _ => rfl⟩
  have hcalm (now : Nat) : (World.start now (⟨none, ()⟩ : Shared Unit) : World _ Event).IsCalm
      (Shared.Obeys (· = none) fun _ => True) := ⟨rfl, rfl, rfl, trivial⟩
  obtain ⟨after, run, after', run', hrun, hrun', -, -, -, hstopped, hresults, hsettled, -⟩ :=
    runPlan_stops faultyEngine carefulEngine Graph.sampleRegistry Graph.sampleGraph
      Graph.samplePlan ⟨"first", "sample", "", none⟩ ⟨"second", "sample", "", none⟩ Table.empty
      faultyBody (fun _ => True) (fun _ => True) (.start 0 ⟨none, ()⟩) (.start 20 ⟨none, ()⟩)
      Graph.compile_sampleGraph hcomputes hcomputes rfl rfl (hcalm 0) (hcalm 20)
  obtain ⟨_, _, hsame, -, hevaluate⟩ := exists_runPlan_of_computes hcomputes
    (Graph.isPlan_of_compile Graph.compile_sampleGraph).1.isStaged ⟨"first", "sample", "", none⟩
    Table.empty (hcalm 0)
  cases hrun.symm.trans hsame
  have hfirst : firstFailing? run.results Graph.samplePlan.phases = some 0 := by
    rw [← firstFailing?_bareResults, hevaluate]
    decide +kernel
  have hreached : reached run.results Graph.samplePlan.phases = ["q", "p"] := by
    rw [reached, reach, hfirst]
    decide +kernel
  have hphase : Graph.samplePlan.phases[0]? = some ⟨["q", "p"], true⟩ := by decide +kernel
  rw [hreached] at hresults
  refine ⟨Graph.compile_sampleGraph, after, run, after', run', hrun, hrun', hfirst,
    hstopped.mpr ⟨0, hfirst, by decide +kernel⟩, hresults, ?_, ?_⟩
  · exact hsettled 0 _ hfirst hphase "q" (by decide)
  · exact hsettled 0 _ hfirst hphase "p" (by decide)

end Engine

end PortGraph
