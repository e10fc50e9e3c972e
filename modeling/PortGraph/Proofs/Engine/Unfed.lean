import PortGraph.Compile.Report
import PortGraph.Proofs.Engine.Typing

/-!
# Inputs that nothing feeds

A report warns of each required input that no connection feeds. The warning is right: a node with
such an input is never attempted, in no run, whatever the inputs of the run are called and whichever
other runs use the cache. What it is refused for is the input that is missing. It is not even found
in the cache, since nothing gets there that has not passed validation, and no call of the type with
these inputs does.

Where there is no warning, the plan feeds each required input, and from one place.

## Main definitions

* `Result.IsRefusal`: the record of a node that was refused for an input that is missing

## Main results

* `Graph.IsPlan.mem_warnings_iff`: what is warned of, in terms of the plan
* `Engine.warnings_are_right`: a node that is warned of is refused, and no other input is left out
-/

namespace PortGraph

variable {β κ : Type}

/-! ### Warnings -/

namespace Graph

variable {r : Registry β} {g : Graph} {plan : Plan}

/-- What is warned of at a node whose manifest is known. -/
theorem mem_warningsOf_iff {manifests : Table Manifest} {n : Node} {m : Manifest}
    (hm : manifests.get? n.id = some m) {id port : String} :
    .unconnectedRequiredInput id port ∈ g.warningsOf manifests n ↔
      n.id = id ∧ port ∉ (g.incoming n.id).map (·.target.port) ∧
        ∃ p ∈ m.inputs, p.required = true ∧ p.name = port := by
  have horphaned (b : Bool) : CompileWarning.unconnectedRequiredInput id port ∉
      (if b then [CompileWarning.orphanedNode n.id] else []) := by
    cases b <;> simp
  rw [warningsOf, hm, List.mem_append, or_iff_right (horphaned _), List.mem_map]
  constructor
  · rintro ⟨p, hp, hwarned⟩
    obtain ⟨rfl, rfl⟩ := CompileWarning.unconnectedRequiredInput.inj hwarned
    obtain ⟨hinput, hopen⟩ := List.mem_filter.mp hp
    simp only [Bool.and_eq_true, Bool.not_eq_true', List.any_eq_false, decide_eq_true_eq] at hopen
    refine ⟨rfl, fun hfed => ?_, p, hinput, hopen.1, rfl⟩
    obtain ⟨c, hc, hport⟩ := List.mem_map.mp hfed
    exact hopen.2 c hc hport
  · rintro ⟨rfl, hunfed, p, hinput, hrequired, rfl⟩
    refine ⟨p, List.mem_filter.mpr ⟨hinput, ?_⟩, rfl⟩
    simp only [hrequired, Bool.true_and, Bool.not_eq_true', List.any_eq_false, decide_eq_true_eq]
    exact fun c hc hport => hunfed (List.mem_map.mpr ⟨c, hc, hport⟩)

/-- **What is warned of**, in terms of the plan: the required inputs of a step that it has no binding
for. -/
theorem IsPlan.mem_warnings_iff (h : g.IsPlan r plan) {id port : String} :
    .unconnectedRequiredInput id port ∈ (g.diagnose r).warnings ↔
      ∃ step, plan.step? id = some step ∧ port ∉ step.bindings.map (·.port) ∧
        ∃ p ∈ step.manifest.inputs, p.required = true ∧ p.name = port := by
  have hports (id : String) : ((g.incoming id).map bindingOf).map (·.port) =
      (g.incoming id).map (·.target.port) := by
    rw [List.map_map]
    rfl
  have hmanifest {n : Node} (hn : n ∈ g.nodes) {m : Manifest} (hm : r.manifest? n.type = some m) :
      (g.manifests r).get? n.id = some m := by
    rw [get?_manifests h.sound.distinct, manifestAt?_eq h.sound.distinct hn, hm]
  rw [diagnose, List.mem_flatMap]
  constructor
  · rintro ⟨n, hn, hwarned⟩
    obtain ⟨m, hm, hstep⟩ := h.step?_eq n hn
    obtain ⟨rfl, hunfed, hinput⟩ := (mem_warningsOf_iff (hmanifest hn hm)).mp hwarned
    exact ⟨_, hstep, (hports n.id).symm ▸ hunfed, hinput⟩
  · rintro ⟨step, hstep, hunfed, hinput⟩
    obtain ⟨hid, -, -⟩ := h.of_step?_eq_some hstep
    obtain ⟨n, hn, rfl⟩ := List.mem_map.mp hid
    obtain ⟨m, hm, hstep'⟩ := h.step?_eq n hn
    cases hstep.symm.trans hstep'
    exact ⟨n, hn, (mem_warningsOf_iff (hmanifest hn hm)).mpr ⟨rfl, hports n.id ▸ hunfed, hinput⟩⟩

/-- A port that is bound is bound once. -/
theorem IsPlan.count_ports_eq_one (h : g.IsPlan r plan) {id port : String} {step : Step}
    (hstep : plan.step? id = some step) (hport : port ∈ step.bindings.map (·.port)) :
    (step.bindings.map (·.port)).count port = 1 :=
  List.count_eq_one_of_mem (h.nodup_ports hstep) hport

end Graph

/-! ### What is missing -/

/-- The report of a required input that is missing. -/
def missingInput (port : String) : String := "missing required input '" ++ port ++ "'"

/-- **A required input that has no value is reported as missing**, whatever others have. -/
theorem Manifest.validateInputs_of_missing {m : Manifest} {inputs : Fields} {p : Port}
    (hp : p ∈ m.inputs) (hrequired : p.required = true)
    (hnone : inputs.getNonNull? p.name = none) :
    ∃ problems, missingInput p.name ∈ problems ∧
      m.validateInputs inputs = .error (.invalidInputs problems) := by
  have htext : "missing required " ++ "input" ++ " '" = "missing required input '" := by decide
  have hproblem : p.problem? "input" inputs = some (missingInput p.name) :=
    (Port.problem?_of_missing "input" hrequired hnone).trans
      (congrArg (fun text => some (text ++ p.name ++ "'")) htext)
  have hmem : missingInput p.name ∈ m.inputProblems inputs :=
    List.mem_filterMap.mpr ⟨p, hp, hproblem⟩
  exact ⟨_, hmem, validateInputs_eq_error_iff.mpr ⟨List.ne_nil_of_mem hmem, rfl⟩⟩

/-- **A required input without a binding is reported as missing**, whatever has been gathered for
others. -/
theorem Step.validateInputs_of_unbound {step : Step} {port : String}
    (hunbound : port ∉ step.bindings.map (·.port)) {p : Port} (hp : p ∈ step.manifest.inputs)
    (hrequired : p.required = true) (hname : p.name = port) (t : Table Result) (initial : Fields) :
    ∃ problems, missingInput port ∈ problems ∧
      step.manifest.validateInputs (gather step t initial) = .error (.invalidInputs problems) := by
  subst hname
  refine Manifest.validateInputs_of_missing hp hrequired ?_
  rw [Table.getNonNull?, gather, get?_foldl_bindInput_of_notMem hunbound, Table.get?_empty]
  rfl

/-- The record of a node that was refused for an input that is missing: it was not attempted, and the
message names the input. -/
structure Result.IsRefusal (x : Result) (port : String) : Prop where
  success : x.success = false
  cached : x.metadata.cached = false
  attempts : x.metadata.attempts = 0
  errorCode : x.errorCode? = some .invalidInputs
  error : ∃ problems, x.error.map (·.message) =
    some ("Invalid inputs: " ++ String.intercalate "; " problems) ∧ missingInput port ∈ problems

namespace Engine

variable {e : Engine κ} {r : Registry β} {g : Graph} {plan : Plan} {scope : Scope}
  {initial : Fields} {F : Manifest → Fields → Fields → Outcome → Prop}

/-- **A call that lacks an input is refused for it.** Its record is not one of outputs that have been
found: these have passed validation before, and the inputs do not. -/
theorem Explains.isRefusal {c : Call} {x : Result} (h : e.Explains F scope c x) {port : String}
    {problems : List String} (hmissing : missingInput port ∈ problems)
    (hinvalid : c.step.manifest.validateInputs c.inputs = .error (.invalidInputs problems)) :
    x.IsRefusal port := by
  obtain ⟨⟨o, ho, hbare⟩, hexit⟩ := h
  cases hexit with
  | hit =>
    obtain ⟨outputs, rfl, -⟩ := Result.outputs_of_success hbare rfl
    cases hinvalid.symm.trans ho.admits.validateInputs
  | inputs hinputs =>
    cases hinvalid.symm.trans hinputs
    exact ⟨rfl, rfl, rfl, rfl, problems, rfl, hmissing⟩
  | config hinputs => cases hinvalid.symm.trans hinputs
  | dispatched hinputs => cases hinvalid.symm.trans hinputs

/-- A node that is warned of is refused wherever its records can be explained. -/
theorem IsBacked.isRefusal {k : Nat} {t : Table Result} (h : e.IsBacked F plan scope initial k t)
    (hp : g.IsPlan r plan) {id port : String}
    (hwarned : .unconnectedRequiredInput id port ∈ (g.diagnose r).warnings) {x : Result}
    (hx : t.get? id = some x) : x.IsRefusal port := by
  obtain ⟨step, hstep, hunbound, p, hinput, hrequired, hname⟩ := hp.mem_warnings_iff.mp hwarned
  obtain ⟨step', hstep', -, hexplains⟩ := h.explains id x hx
  cases hstep.symm.trans hstep'
  obtain ⟨problems, hmissing, hinvalid⟩ :=
    step.validateInputs_of_unbound hunbound hinput hrequired hname t initial
  exact hexplains.isRefusal hmissing hinvalid

/-- **A report warns of what is going to fail, and of all of it.** Take any graph that compiles.

If a report warns of an input of a node, then in any run, whatever it is given and whatever bodies
do, the record of the node, if it gets one, is that of a node refused for this input. Other runs may
have used the cache before, or use it at the same time, if it was empty at first and the digest
tells apart what has been hashed.

For each required input that a report does not warn of, the plan has exactly one binding. -/
theorem warnings_are_right (e : Engine κ) (r : Registry β) (hr : r.Reachable) (g : Graph)
    (plan : Plan) (hplan : g.compile r = .ok plan) :
    (∀ id port, .unconnectedRequiredInput id port ∈ (g.diagnose r).warnings →
      (∀ scope initial (world after : World (Shared κ) Event) run,
        e.runPlan plan scope initial world = .ok (after, run) →
        e.MayBeginWith r (plan.callsOf initial run.results) world.state.cache? →
        ∀ x, run.get? id = some x → x.IsRefusal port) ∧
      ∀ start cache? parties calls, e.Company r start cache? parties calls →
        e.MayBeginWith r calls start → ∀ p ∈ parties, p.plan = plan →
        ∀ x, p.place.results.get? id = some x → x.IsRefusal port) ∧
    ∀ n ∈ g.nodes, ∃ step, plan.step? n.id = some step ∧ step.node = n ∧
      r.manifest? n.type = some step.manifest ∧
      ∀ p ∈ step.manifest.inputs, p.required = true →
        .unconnectedRequiredInput n.id p.name ∉ (g.diagnose r).warnings →
        (step.bindings.map (·.port)).count p.name = 1 := by
  have hp := (Graph.isPlan_of_compile hplan).1
  refine ⟨fun id port hwarned => ⟨?_, ?_⟩, fun n hn => ?_⟩
  · intro scope initial world after run hrun hbegins x hx
    obtain ⟨place, calls, hcompany, hresults, hsub⟩ := exists_company_of_runPlan hplan hrun
    obtain ⟨k, hbacked⟩ := hcompany.exists_isBacked e.givesOnly_true hr (hbegins.mono hsub)
      (List.mem_singleton.mpr rfl)
    exact hbacked.isRefusal hp hwarned (hresults ▸ hx)
  · rintro start cache? parties calls hcompany hbegins p hparty rfl x hx
    obtain ⟨k, hbacked⟩ := hcompany.exists_isBacked e.givesOnly_true hr hbegins hparty
    exact hbacked.isRefusal hp hwarned hx
  · obtain ⟨m, hm, hstep⟩ := hp.step?_eq n hn
    refine ⟨_, hstep, rfl, hm, fun p hinput hrequired hsilent => ?_⟩
    refine hp.count_ports_eq_one hstep (Decidable.byContradiction fun hunbound => hsilent ?_)
    exact hp.mem_warnings_iff.mpr ⟨_, hstep, hunbound, p, hinput, hrequired, rfl⟩

/-! ### A small run -/

/-- A source `p` that feeds the required input of the sum `t`, but only the other one of `s`. -/
def looseGraph : Graph where
  id := "loose"
  nodes := [⟨"t", "sum", Table.empty⟩, ⟨"s", "sum", Table.empty⟩, ⟨"p", "source", Table.empty⟩]
  connections := [⟨⟨"p", "x"⟩, ⟨"t", "a"⟩⟩, ⟨⟨"p", "x"⟩, ⟨"s", "b"⟩⟩]

/-- The plan of this graph. -/
def loosePlan : Plan := (looseGraph.compile strictRegistry).toOption.getD default

theorem compile_loosePlan : looseGraph.compile strictRegistry = .ok loosePlan := by
  decide +kernel

/-- An input of the run that is called as the one that is missing. -/
def looseInputs : Fields := Table.empty.insert "a" (.num (.whole 7))

/-- The graph can be run with a cache. -/
theorem runPlan_loosePlan : ∃ after run,
    sampleEngine.runPlan loosePlan ⟨"run", "loose", "", none⟩ looseInputs
      (.start 0 ⟨some (.new none none), ()⟩) = .ok (after, run) ∧
    bareResults run.results = loosePlan.evaluate (.ofType sampleBody) false looseInputs :=
  exists_runPlan_new computes_sampleEngine (Graph.isPlan_of_compile compile_loosePlan).1.isStaged
    ⟨"run", "loose", "", none⟩ looseInputs trivial (by decide +kernel)

/-- The sum `s` is warned of and refused, whatever the run is given for an input of that name, also
when another run has joined; the sum `t` is fed. -/
theorem warned_looseGraph : strictRegistry.Reachable ∧
    looseGraph.compile strictRegistry = .ok loosePlan ∧
    .unconnectedRequiredInput "s" "a" ∈ (looseGraph.diagnose strictRegistry).warnings ∧
    (∃ after run x, sampleEngine.runPlan loosePlan ⟨"run", "loose", "", none⟩ looseInputs
        (.start 0 ⟨some (.new none none), ()⟩) = .ok (after, run) ∧
      run.get? "s" = some x ∧ x.IsRefusal "a") ∧
    (∃ cache? other p calls,
      sampleEngine.Company strictRegistry (some (.new none none)) cache? [other, p] calls ∧
      ∃ x, p.place.results.get? "s" = some x ∧ x.IsRefusal "a") ∧
    ∃ step, loosePlan.step? "t" = some step ∧ strictInput ∈ step.manifest.inputs ∧
      (step.bindings.map (·.port)).count "a" = 1 := by
  obtain ⟨hwarning, hfed⟩ := warnings_are_right sampleEngine strictRegistry
    reachable_strictRegistry looseGraph loosePlan compile_loosePlan
  have hwarned : .unconnectedRequiredInput "s" "a" ∈
      (looseGraph.diagnose strictRegistry).warnings := by decide +kernel
  obtain ⟨hrefused, hamong⟩ := hwarning "s" "a" hwarned
  obtain ⟨after, run, hrun, hresults⟩ := runPlan_loosePlan
  have hbegins : sampleEngine.MayBeginWith strictRegistry (loosePlan.callsOf looseInputs run.results)
      (some (.new none none)) := by
    refine .cached (.of_empty rfl) ?_
    rw [List.append_nil, ← Plan.callsOf_bareResults, hresults, TellsApart]
    decide +kernel
  have hcontains : run.results.contains "s" = true := by
    rw [← contains_bareResults, hresults]
    decide +kernel
  obtain ⟨x, hx⟩ := Option.isSome_iff_exists.mp hcontains
  refine ⟨reachable_strictRegistry, compile_loosePlan, hwarned, ?alone, ?among, ?fed⟩
  case alone => exact ⟨after, run, x, hrun, hx, hrefused _ _ _ _ _ hrun hbegins x hx⟩
  case among =>
    obtain ⟨place, calls, hcompany, hplace, hsub⟩ := exists_company_of_runPlan compile_loosePlan hrun
    have hjoined := hcompany.join compile_loosePlan ⟨"other", "loose", "", none⟩ looseInputs
      (.start 0 ⟨none, ()⟩)
    have hx' : place.results.get? "s" = some x := hplace ▸ hx
    exact ⟨_, _, _, _, hjoined, x, hx', hamong _ _ _ _ hjoined (hbegins.mono hsub) _
      (List.mem_cons_of_mem _ (List.mem_singleton.mpr rfl)) rfl x hx'⟩
  case fed =>
    obtain ⟨step, hstep, -, hmanifest, hbound⟩ :=
      hfed ⟨"t", "sum", Table.empty⟩ List.mem_cons_self
    have hsum : strictRegistry.manifest? "sum" = some strictSum := by decide +kernel
    have hinput : strictInput ∈ step.manifest.inputs := by
      rw [← Option.some.inj (hsum.symm.trans hmanifest)]
      exact List.mem_cons_self
    exact ⟨step, hstep, hinput, hbound strictInput hinput rfl (by decide +kernel)⟩

end Engine

end PortGraph
