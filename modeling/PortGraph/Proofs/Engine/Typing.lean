import PortGraph.Proofs.Engine.Contents
import PortGraph.Proofs.Validation

/-!
# Values along connections

What a run hands on from one node to the next is of the type that the receiving port declares. Four
places have to agree for that. The compiler lets a connection be if the declared types go together;
the outputs of a node are held against its manifest when it has run; what comes from the cache is
not, but has been when it was stored, for a node of the same type; and inputs are gathered port by
port, so that each gets the value of its own connection.

The wildcard is the exception. An output that declares it may be connected to any input, and it is
left to the validation of inputs to find out what comes along.

## Main definitions

* `Plan.IsWired`: a connection of a plan, with the ports at both ends
* `Port.IsFed`: the inputs have for one port what another one may give

## Main results

* `get?_gather`: each bound port gets the value of its source
* `Graph.IsPlan.acceptsPort_of_isWired`: connected ports go together
* `Engine.isFed_of_isWired`: a node that succeeded has outputs fit for the nodes that it feeds
-/

namespace PortGraph

variable {β κ : Type}

/-! ### What is gathered -/

section Gather

variable {t : Table Result} {initial : Fields}

/-- To bind an input is to store the value of its source, if there is one. -/
theorem bindInput_eq : bindInput t initial = fun inputs b =>
    inputs.insert? b.port (b.source.value? t initial) := by
  funext inputs b
  rw [bindInput]
  cases b.source.value? t initial <;> rfl

theorem get?_bindInput (inputs : Fields) (b : Binding) (port : String) :
    (bindInput t initial inputs b).get? port =
      if port = b.port then (b.source.value? t initial).or (inputs.get? port)
      else inputs.get? port := by
  rw [bindInput_eq, Table.get?_insert?]

theorem get?_foldl_bindInput_of_notMem {bindings : List Binding} {port : String}
    (h : port ∉ bindings.map (·.port)) (inputs : Fields) :
    (bindings.foldl (bindInput t initial) inputs).get? port = inputs.get? port := by
  rw [bindInput_eq, Table.get?_foldl_insert?_of_notMem h]

theorem get?_foldl_bindInput {bindings : List Binding} (h : (bindings.map (·.port)).Nodup)
    {b : Binding} (hb : b ∈ bindings) (inputs : Fields) :
    (bindings.foldl (bindInput t initial) inputs).get? b.port =
      (b.source.value? t initial).or (inputs.get? b.port) := by
  rw [bindInput_eq, Table.get?_foldl_insert? h hb]

/-- **Each bound port gets the value of its source**, if no port is bound twice. -/
theorem get?_gather {step : Step} (h : (step.bindings.map (·.port)).Nodup) {b : Binding}
    (hb : b ∈ step.bindings) : (gather step t initial).get? b.port = b.source.value? t initial := by
  rw [gather, get?_foldl_bindInput h hb, Table.get?_empty, Option.or_none]

end Gather

/-! ### Connections of a plan -/

/-- The input `p` of a step is bound to the output `q` of the node `source`. -/
structure Plan.IsWired (plan : Plan) (step : Step) (p : Port) (source : String) (q : Port) :
    Prop where
  input : p ∈ step.manifest.inputs
  bound : ⟨p.name, .node source q.name⟩ ∈ step.bindings
  output : ∃ s, plan.step? source = some s ∧ q ∈ s.manifest.outputs

namespace Graph.IsPlan

variable {r : Registry β} {g : Graph} {plan : Plan} {step : Step}

/-- No port of a step is bound twice. -/
theorem nodup_ports (h : g.IsPlan r plan) {id : String} (hs : plan.step? id = some step) :
    (step.bindings.map (·.port)).Nodup := by
  rw [(h.of_step?_eq_some hs).2.2, List.map_map]
  have htargets : ((g.incoming id).map (·.target)).Nodup :=
    (List.filter_sublist.map _).nodup h.sound.fed_once
  refine List.Nodup.map_on ?_ (List.Nodup.of_map _ htargets)
  rintro c hc d hd (hport : c.target.port = d.target.port)
  have hnode {c : Connection} (hc : c ∈ g.incoming id) : c.target.node = id :=
    of_decide_eq_true (List.mem_filter.mp hc).2
  refine List.inj_on_of_nodup_map htargets hc hd ?_
  show (⟨c.target.node, c.target.port⟩ : Endpoint) = ⟨d.target.node, d.target.port⟩
  rw [hnode hc, hnode hd, hport]

/-- **A bound port gets an output of its source**, once that has succeeded. -/
theorem get?_gather_of_success (h : g.IsPlan r plan) {id : String}
    (hs : plan.step? id = some step) {port source output : String}
    (hbound : ⟨port, .node source output⟩ ∈ step.bindings) {t : Table Result} {x : Result}
    (hx : t.get? source = some x) (hsuccess : x.success = true) (initial : Fields) :
    (gather step t initial).get? port = x.outputs.get? output := by
  rw [get?_gather (h.nodup_ports hs) hbound]
  simp [Binding.Source.value?, hx, Option.filter, hsuccess]

/-- **Connected ports go together.** -/
theorem acceptsPort_of_isWired (hr : r.Reachable) (h : g.IsPlan r plan) {id : String}
    (hs : plan.step? id = some step) {p q : Port} {source : String}
    (hw : plan.IsWired step p source q) : p.type.acceptsPort q.type = true := by
  obtain ⟨-, hmanifest, hbindings⟩ := h.of_step?_eq_some hs
  obtain ⟨s, hsource, hq⟩ := hw.output
  obtain ⟨-, hsourceManifest, -⟩ := h.of_step?_eq_some hsource
  obtain ⟨c, hc, hbinding⟩ := List.mem_map.mp (hbindings ▸ hw.bound)
  obtain ⟨hconnection, htarget⟩ := List.mem_filter.mp hc
  cases hi : c.isInitial with
  | true => simp [bindingOf, hi] at hbinding
  | false =>
    simp only [bindingOf, hi, Bool.false_eq_true, if_false, Binding.mk.injEq,
      Binding.Source.node.injEq] at hbinding
    obtain ⟨hport, hnode, houtput⟩ := hbinding
    obtain ⟨m, p', hm, hp', hfit⟩ := h.sound.fits c hconnection
    obtain ⟨m', q', hm', hq', haccepts⟩ := hfit hi
    have hmEq : m = step.manifest := by
      rw [of_decide_eq_true htarget] at hm
      exact Option.some.inj (hm.symm.trans hmanifest)
    have hmEq' : m' = s.manifest := by
      rw [hnode] at hm'
      exact Option.some.inj (hm'.symm.trans hsourceManifest)
    rw [hmEq, hport, Manifest.inputPort?_eq_some (hr.problem?_eq_none (h.manifest?_eq hs))
      hw.input] at hp'
    rw [hmEq', houtput, Manifest.outputPort?_eq_some
      (hr.problem?_eq_none (h.manifest?_eq hsource)) hq] at hq'
    cases hp'
    cases hq'
    exact haccepts

end Graph.IsPlan

/-! ### What a connection hands on -/

/-- The inputs of a type have for its port `p` what the output `q` may give: a value that is not
`null` is of the type of `p`, and is there if `q` is required. So `p` is complained of only if it
is required and `q` is not. -/
structure Port.IsFed (p q : Port) (m : Manifest) (inputs : Fields) : Prop where
  matchesValue : ∀ v, inputs.getNonNull? p.name = some v → p.type.matchesValue v = true
  isSome : q.required = true → (inputs.getNonNull? p.name).isSome = true
  problem?_eq_none : q.required = true ∨ p.required = false → p.problem? "input" inputs = none
  /-- Whatever is reported of the inputs is reported of other ports. -/
  reported : q.required = true ∨ p.required = false →
    ∀ problems, m.validateInputs inputs = .error (.invalidInputs problems) →
      problems = (m.inputs.filter (· ≠ p)).filterMap (·.problem? "input" inputs)

/-- An input is fed if it has what a valid output has, the declared types going together. -/
theorem Port.isFed_of_getNonNull?_eq {p q : Port} (m : Manifest) {inputs outputs : Fields}
    (haccepts : p.type.acceptsPort q.type = true)
    (hany : q.type.isAny = false ∨ p.type.isAny = true)
    (hvalid : q.problem? "output" outputs = none)
    (hget : inputs.getNonNull? p.name = outputs.getNonNull? q.name) : p.IsFed q m inputs := by
  obtain ⟨htype, hrequired⟩ := problem?_eq_none_iff.mp hvalid
  have hmatches : ∀ v, inputs.getNonNull? p.name = some v → p.type.matchesValue v = true :=
    fun v hv => PortType.matchesValue_of_acceptsPort haccepts hany (htype v (hget ▸ hv))
  have hproblem (h : q.required = true ∨ p.required = false) :
      p.problem? "input" inputs = none := by
    refine problem?_eq_none_iff.mpr ⟨hmatches, fun hp => ?_⟩
    rw [hget]
    exact hrequired (h.resolve_right (by simp [hp]))
  refine ⟨hmatches, fun hq => hget ▸ hrequired hq, hproblem, fun h problems herror => ?_⟩
  obtain ⟨-, hproblems⟩ := Manifest.validateInputs_eq_error_iff.mp herror
  cases hproblems
  rw [Manifest.inputProblems, List.filterMap_filter]
  refine List.filterMap_congr fun port _ => ?_
  by_cases hport : port = p
  · simp [hport, hproblem h]
  · simp [hport]

namespace Engine

/-- **A node that succeeded has outputs fit for the nodes that it feeds.** Take any runs of an
engine with plans compiled from one registry, one after the other or taking turns, whatever the
bodies do, and with a cache or without one. In any of the runs, at any time, let a step have its
input `p` bound to the output `q` of a node that has succeeded. Then a value that is gathered for `p`
is of the type that `p` declares, and if `q` is required there is one; so `p` is not complained of
unless it is required and `q` is not. Only the wildcard of an output that feeds an input without one
is not accounted for. With a cache, which was empty before all runs, the digest has to tell apart
what has been hashed. -/
theorem isFed_of_isWired (e : Engine κ) (r : Registry β) (hr : r.Reachable)
    (start cache? : Option Cache) (parties : List (Party κ)) (calls : List Call)
    (h : e.Company r start cache? parties calls) (hstart : e.MayBeginWith r calls start)
    (run : Party κ) (hrun : run ∈ parties) (t : Table Result)
    (ht : t.IsPartOf run.place.results) (id : String) (step : Step)
    (hstep : run.plan.step? id = some step) (p q : Port) (source : String)
    (hw : run.plan.IsWired step p source q)
    (hsource : ∃ s, t.get? source = some s ∧ s.success = true)
    (hany : q.type.isAny = false ∨ p.type.isAny = true) :
    p.IsFed q step.manifest (gather step t run.initial) := by
  obtain ⟨g, hplan⟩ := h.manifest?_eq.1 run hrun
  obtain ⟨s, hs, hsuccess⟩ := hsource
  obtain ⟨sourceStep, hsourceStep, hq⟩ := hw.output
  -- The record of the source goes back to a call, whose outputs are valid.
  obtain ⟨k, hbacked⟩ := h.exists_isBacked e.givesOnly_true hr hstart hrun
  obtain ⟨step', hstep', hvalid⟩ := hbacked.exists_mayEnd (ht source s hs) hsuccess
  cases hsourceStep.symm.trans hstep'
  have hchecked := Manifest.validateOutputs_eq_ok_iff.mp hvalid.validateOutputs q hq
  have haccepts := hplan.acceptsPort_of_isWired hr hstep hw
  refine Port.isFed_of_getNonNull?_eq _ haccepts hany hchecked ?_
  rw [Table.getNonNull?, hplan.get?_gather_of_success hstep hw.bound hs hsuccess, Table.getNonNull?]

/-! ### A small run with required ports -/

/-- An output that is always there. -/
def strictOutput : Port := { name := "x", type := .single .number, required := true }

/-- An input that has to be there, a number or its text. -/
def strictInput : Port := { name := "a", type := .oneOf [.string, .number], required := true }

/-- The type that gives a number, and has to. -/
def strictSource : Manifest := { Graph.sampleSource with outputs := [strictOutput] }

/-- The type that adds a number to another one that need not be there. -/
def strictSum : Manifest :=
  { Graph.sampleSum with
    inputs := [strictInput, { name := "b", type := .single .number }]
    outputs := [strictOutput] }

/-- The registry of the two types. -/
def strictRegistry : Registry (Body Unit) where
  entries := (Table.empty.insert "source" ⟨strictSource, none⟩).insert "sum" ⟨strictSum, none⟩

theorem reachable_strictRegistry : strictRegistry.Reachable := by
  have hsource : Registry.empty.register (β := Body Unit) strictSource none =
      .ok ⟨Table.empty.insert "source" ⟨strictSource, none⟩⟩ :=
    Registry.register_eq_ok_iff.mpr ⟨by decide +kernel, rfl, rfl⟩
  have hsum : Registry.register (β := Body Unit) ⟨Table.empty.insert "source"
      ⟨strictSource, none⟩⟩ strictSum none = .ok strictRegistry :=
    Registry.register_eq_ok_iff.mpr ⟨by decide +kernel, by decide +kernel, rfl⟩
  exact .register (.register .empty hsource) hsum

/-- The plan of the small graph with these types. -/
def strictPlan : Plan := (Graph.sampleGraph.compile strictRegistry).toOption.getD default

theorem compile_strictPlan : Graph.sampleGraph.compile strictRegistry = .ok strictPlan := by
  decide +kernel

/-- The small graph can be run with a cache. -/
theorem runPlan_strictPlan : ∃ after run,
    sampleEngine.runPlan strictPlan ⟨"run", "sample", "", none⟩ Table.empty
      (.start 0 ⟨some (.new none none), ()⟩) = .ok (after, run) ∧
    bareResults run.results = strictPlan.evaluate (.ofType sampleBody) false Table.empty :=
  exists_runPlan_new computes_sampleEngine (Graph.isPlan_of_compile compile_strictPlan).1.isStaged
    ⟨"run", "sample", "", none⟩ Table.empty trivial (by decide +kernel)

theorem isWired_strictPlan : ∃ step, strictPlan.step? "t" = some step ∧
    strictPlan.IsWired step strictInput "s" strictOutput :=
  ⟨(strictPlan.step? "t").get (by decide +kernel), by decide +kernel, by decide +kernel,
    by decide +kernel, (strictPlan.step? "s").get (by decide +kernel), by decide +kernel,
    by decide +kernel⟩

/-- The small graph, run once with a cache: the sum `s` succeeds and feeds the sum `t`. -/
theorem isFed_strictPlan : Graph.sampleGraph.compile strictRegistry = .ok strictPlan ∧
    ∃ after run step, sampleEngine.runPlan strictPlan ⟨"run", "sample", "", none⟩ Table.empty
        (.start 0 ⟨some (.new none none), ()⟩) = .ok (after, run) ∧
      strictPlan.step? "t" = some step ∧
      strictInput.IsFed strictOutput step.manifest (gather step run.results Table.empty) := by
  obtain ⟨after, run, hrun, hresults⟩ := runPlan_strictPlan
  obtain ⟨step, hstep, hwired⟩ := isWired_strictPlan
  have hbegins : sampleEngine.MayBeginWith strictRegistry
      (strictPlan.callsOf Table.empty run.results) (some (.new none none)) := by
    refine .cached (.of_empty rfl) ?_
    rw [List.append_nil, ← Plan.callsOf_bareResults, hresults, TellsApart]
    decide +kernel
  have hsource : ∃ s, run.results.get? "s" = some s ∧ s.success = true := by
    have hsome : ((bareResults run.results).get? "s").any (·.success) = true := by
      rw [hresults]
      decide +kernel
    rw [get?_bareResults] at hsome
    cases hs : run.results.get? "s" with
    | none => simp [hs] at hsome
    | some s => exact ⟨s, rfl, by simpa [hs, Result.bare] using hsome⟩
  obtain ⟨place, calls, hcompany, hplace, hsub⟩ :=
    exists_company_of_runPlan compile_strictPlan hrun
  exact ⟨compile_strictPlan, after, run, step, hrun, hstep,
    isFed_of_isWired sampleEngine strictRegistry reachable_strictRegistry _ _ _ _ hcompany
      (hbegins.mono hsub) _ (List.mem_singleton.mpr rfl) run.results
      (hplace ▸ fun _ _ h => h) "t" step hstep strictInput strictOutput "s" hwired hsource
      (.inl (by decide))⟩

end Engine

end PortGraph
