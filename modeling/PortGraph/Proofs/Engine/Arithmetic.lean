import PortGraph.Engine.Setup
import PortGraph.Proofs.Engine.Unfed
import PortGraph.Proofs.Nodes.Arithmetic
import PortGraph.Proofs.Registry.Registration

/-!
# Totals that are handed on

What a node that computes with numbers hands on is the total of what it was given, and a number if
and only if no sum has left the range. If one has, the node is recorded as a success with `null` for
its output. Nobody objects, since the output need not be there. It is the next node that is refused:
`null` is no value, and its input is reported as missing.

## Main results

* `Graph.IsPlan.validateInputs_of_null`: what becomes of `null` at a required input
* `Engine.givesOnly_inProcess`: in process there are no outputs but those of bodies
* `Engine.totals_are_handed_on`: what an arithmetic node that has succeeded hands on
-/

namespace PortGraph

variable {κ : Type}

/-- The value of a computation is a number just if it has not left the finite range. -/
theorem Json.exists_ofReal?_eq_num_iff {x? : Option Double} :
    (∃ n, ofReal? x? = .num n) ↔ ∃ x, x? = some x := by
  cases x? with
  | none => simp [ofReal?]
  | some x => simp [ofReal?, ofDouble]

/-! ### What the next node is given -/

namespace Graph.IsPlan

variable {β : Type} {r : Registry β} {g : Graph} {plan : Plan} {step : Step} {p q : Port}
  {id source : String} {t : Table Result} {x : Result}

/-- **A value of its type is in order for all inputs that it is handed on to.** -/
theorem problem?_eq_none_of_success (h : g.IsPlan r plan) (hr : r.Reachable)
    (hs : plan.step? id = some step) (hw : plan.IsWired step p source q)
    (hx : t.get? source = some x) (hsuccess : x.success = true) (hany : q.type.isAny = false)
    {v : Json} (hv : x.outputs.get? q.name = some v) (hnull : v ≠ .null)
    (htype : q.type.matchesValue v = true) (initial : Fields) :
    p.problem? "input" (gather step t initial) = none := by
  have hhanded : (gather step t initial).getNonNull? p.name = some v :=
    Table.getNonNull?_eq_some_iff.mpr
      ⟨(h.get?_gather_of_success hs hw.bound hx hsuccess initial).trans hv, hnull⟩
  refine Port.problem?_eq_none_iff.mpr ⟨fun w hw' => ?_, fun _ => by rw [hhanded]; rfl⟩
  cases hhanded.symm.trans hw'
  exact PortType.matchesValue_of_acceptsPort (h.acceptsPort_of_isWired hr hs hw) (.inl hany) htype

/-- **What is handed on as `null` is missing** where it is required. -/
theorem validateInputs_of_null (h : g.IsPlan r plan) (hs : plan.step? id = some step)
    (hw : plan.IsWired step p source q) (hx : t.get? source = some x)
    (hsuccess : x.success = true) (hv : x.outputs.get? q.name = some .null)
    (hrequired : p.required = true) (initial : Fields) :
    ∃ problems, missingInput p.name ∈ problems ∧
      step.manifest.validateInputs (gather step t initial) = .error (.invalidInputs problems) := by
  refine Manifest.validateInputs_of_missing hw.input hrequired ?_
  rw [Table.getNonNull?, h.get?_gather_of_success hs hw.bound hx hsuccess, hv]
  rfl

end Graph.IsPlan

namespace Engine

open Nodes

/-! ### What is handed on -/

/-- **In process there are no outputs but those of bodies.** -/
theorem givesOnly_inProcess {e : Engine κ} {bodies : Registry (Body κ)} {base : UInt64}
    (he : e.backend = .inProcess bodies base) : e.GivesOnly (InProcess.IsOutcome bodies) := by
  intro i told d h
  rw [he] at h
  exact InProcess.isOutcome_of_tells h

/-- The success of a call of an arithmetic node: its one output holds the total. -/
theorem exists_total_of_mayEnd {bodies : Registry (Body κ)} {b : Manifest × Body κ}
    (hb : b = (Offset.manifest, Offset.body) ∨ b = (Sum.manifest, Sum.body))
    (hbuiltin : bodies.entries.get? b.1.type = some ⟨b.1, some b.2⟩) {c : Call}
    (hmanifest : c.step.manifest = b.1) {outputs : Fields}
    (h : c.MayEnd (.ofManifest (InProcess.IsOutcome bodies)) (.ok outputs)) :
    ∃ q config terms, c.step.manifest.outputs = [q] ∧ q.type = .single .number ∧
      c.step.manifest.validateInputs c.inputs = .ok () ∧
      c.step.manifest.validateConfig c.step.node.config = .ok config ∧
      Adds c.inputs config c.step.manifest terms ∧
      outputs.get? q.name = some (.ofReal? (Sum.total terms)) := by
  obtain ⟨config, hinputs, hconfig, hbody, -⟩ := h.exists_of_ok
  obtain ⟨body, scope, told, hregistered, htells⟩ := hbody _ rfl
  obtain rfl : b.2 = body := by
    rw [hmanifest, Registry.body?, hbuiltin] at hregistered
    exact Option.some.inj hregistered
  obtain ⟨q, terms, hq, hnumber, hadds, rfl⟩ := exists_adds hb (hmanifest ▸ hconfig) htells
  refine ⟨q, config, terms, hmanifest ▸ hq, hnumber, hinputs, hconfig, hmanifest ▸ hadds, ?_⟩
  rw [output, Table.get?_insert, if_pos rfl]

/-- **What an arithmetic node that has succeeded hands on.** Take any runs of an engine that runs
nodes in process, one after the other or taking turns, with a cache or without one. In any of the
runs, at any time, let a node that computes with
numbers, an offset or a sum, be recorded as a success. Its inputs and its configuration were valid,
and its one output holds the total of the terms that it was to add up: a number if no sum has left
the range, and `null` if one has. An input of another node that is bound to the output is in order
in the first case. In the second case it is reported as missing, if it is required. -/
theorem totals_are_handed_on (e : Engine κ) (bodies : Registry (Body κ)) (base : UInt64)
    (he : e.backend = .inProcess bodies base) (hr : bodies.Reachable) (b : Manifest × Body κ)
    (hb : b = (Offset.manifest, Offset.body) ∨ b = (Sum.manifest, Sum.body))
    (hbuiltin : bodies.entries.get? b.1.type = some ⟨b.1, some b.2⟩)
    (start cache? : Option Cache) (parties : List (Party κ)) (calls : List Call)
    (h : e.Company bodies start cache? parties calls)
    (hstart : e.MayBeginWith bodies calls start) (run : Party κ) (hrun : run ∈ parties)
    (id : String) (step : Step) (hstep : run.plan.step? id = some step)
    (htype : step.node.type = b.1.type) (x : Result)
    (hx : run.place.results.get? id = some x) (hsuccess : x.success = true) :
    ∃ q config terms, step.manifest.outputs = [q] ∧
      step.manifest.validateInputs (gather step run.place.results run.initial) = .ok () ∧
      step.manifest.validateConfig step.node.config = .ok config ∧
      Adds (gather step run.place.results run.initial) config step.manifest terms ∧
      x.outputs.get? q.name = some (.ofReal? (Sum.total terms)) ∧
      ((∃ n, x.outputs.get? q.name = some (.num n)) ↔ InRange terms) ∧
      ∀ t target next p, t.get? id = some x → run.plan.step? target = some next →
        run.plan.IsWired next p id q →
        (InRange terms → p.problem? "input" (gather next t run.initial) = none) ∧
        (¬ InRange terms → p.required = true → ∃ problems, missingInput p.name ∈ problems ∧
          next.manifest.validateInputs (gather next t run.initial) =
            .error (.invalidInputs problems)) := by
  obtain ⟨g, hplan⟩ := h.manifest?_eq.1 run hrun
  have hmanifest : step.manifest = b.1 := by
    have hknown := hplan.manifest?_eq hstep
    rw [htype, Registry.manifest?, hbuiltin] at hknown
    exact (Option.some.inj hknown).symm
  obtain ⟨k, hbacked⟩ := h.exists_isBacked (givesOnly_inProcess he) hr hstart hrun
  obtain ⟨step', hstep', hcall⟩ := hbacked.exists_mayEnd hx hsuccess
  cases hstep.symm.trans hstep'
  obtain ⟨q, config, terms, hq, hnumber, hinputs, hconfig, hadds, hvalue⟩ :=
    exists_total_of_mayEnd hb hbuiltin hmanifest hcall
  refine ⟨q, config, terms, hq, hinputs, hconfig, hadds, hvalue, ?_,
    fun t target next p ht hnext hw => ?_⟩
  · rw [hvalue, ← Sum.exists_total_iff, ← Json.exists_ofReal?_eq_num_iff]
    simp only [Option.some.injEq]
  refine ⟨fun hrange => ?_, fun hrange hrequired => ?_⟩
  · obtain ⟨z, hz⟩ := (Sum.exists_total_iff terms).mpr hrange
    refine hplan.problem?_eq_none_of_success hr hnext hw ht hsuccess ?_ (hz ▸ hvalue)
      (fun hnull => by cases hnull) ?_ run.initial <;>
    · rw [hnumber]
      rfl
  · have hnone : Sum.total terms = none := by
      rw [Option.eq_none_iff_forall_ne_some]
      exact fun z hz => hrange ((Sum.exists_total_iff terms).mp ⟨z, hz⟩)
    rw [hnone] at hvalue
    exact hplan.validateInputs_of_null hnext hw ht hsuccess hvalue hrequired run.initial

/-! ### A small run that leaves the range -/

/-- Constants, offsets and sums. -/
def arithmeticRegistry : Registry (Body Unit) :=
  Registry.empty.enrolAll [⟨Constant.manifest, some Constant.body⟩,
    ⟨Offset.manifest, some Offset.body⟩, ⟨Sum.manifest, some Sum.body⟩]

theorem get?_arithmeticRegistry (type : String) : arithmeticRegistry.entries.get? type =
    if type = "constant" then some ⟨Constant.manifest, some Constant.body⟩
    else if type = "offset" then some ⟨Offset.manifest, some Offset.body⟩
    else if type = "sum" then some ⟨Sum.manifest, some Sum.body⟩
    else none := by
  have hconstant : Constant.manifest.problem? = none := by decide +kernel
  have hoffset : Offset.manifest.problem? = none := by decide +kernel
  have hsum : Sum.manifest.problem? = none := by decide +kernel
  rw [arithmeticRegistry, Registry.get?_enrolAll_empty]
  simp only [List.find?_cons, Registration.isValidFor, hconstant, hoffset, hsum]
  by_cases h : type = "constant"
  · subst h
    rfl
  by_cases h' : type = "offset"
  · subst h'
    rfl
  by_cases h'' : type = "sum"
  · subst h''
    rfl
  simp [h, h', h'', Constant.manifest, Offset.manifest, Sum.manifest, eq_comm (b := type)]

/-- What the bodies compute. -/
def arithmetic : NodeFunction := fun _ m inputs config =>
  if m.type = "constant" then Constant.outcome config
  else if m.type = "offset" then Offset.outcome inputs config
  else if m.type = "sum" then Sum.outcome inputs
  else .error (.runtimeNotFound m.type)

theorem computes_arithmetic :
    (Backend.inProcess arithmeticRegistry 500).Computes (fun _ => True) arithmetic := by
  intro i
  have hbase : (500 : UInt64).toNat ≤ 1000 * UInt32.size := by decide
  have hdelay := InProcess.isSome_delayMs?_of_base_le hbase i.manifest.retry
  have hbody := get?_arithmeticRegistry i.manifest.type
  have hsettles {body : Body Unit} {o : Outcome}
      (hentry : (arithmeticRegistry.entries.get? i.manifest.type).bind (·.body?) = some body)
      (hwork : body i.scope i.inputs i.config = .done o) :
      ((Backend.inProcess arithmeticRegistry 500).dispatch i).Settles (fun _ => True)
        fun d => d.result = o :=
    InProcess.settles_dispatch hentry (by rw [hwork]; rfl) hdelay
  rw [arithmetic]
  split_ifs with hconstant hoffset hsum
  · exact hsettles (by rw [hbody, if_pos hconstant]; rfl) rfl
  · exact hsettles (by rw [hbody, if_neg hconstant, if_pos hoffset]; rfl) rfl
  · exact hsettles (by rw [hbody, if_neg hconstant, if_neg hoffset, if_pos hsum]; rfl) rfl
  · rw [if_neg hconstant, if_neg hoffset, if_neg hsum] at hbody
    simp only [Backend.inProcess, InProcess.dispatch, Registry.body?, hbody, Option.bind_none]
    rfl

/-- The greatest number `a`, twice that number `b`, and the sum of both. -/
def loftyGraph : Graph where
  id := "lofty"
  nodes := [⟨"a", "constant", .ofList [("value", .ofDouble greatest)]⟩,
    ⟨"b", "offset", .ofList [("amount", .ofDouble greatest)]⟩, ⟨"c", "sum", .empty⟩]
  connections := [⟨⟨"a", "value"⟩, ⟨"b", "value"⟩⟩, ⟨⟨"b", "value"⟩, ⟨"c", "a"⟩⟩,
    ⟨⟨"a", "value"⟩, ⟨"c", "b"⟩⟩]

def loftyPlan : Plan := (loftyGraph.compile arithmeticRegistry).toOption.getD default

theorem compile_loftyGraph : loftyGraph.compile arithmeticRegistry = .ok loftyPlan := by
  decide +kernel

/-- The small graph runs to its end. -/
theorem runPlan_loftyPlan : ∃ after run,
    (inProcess arithmeticRegistry {}).runPlan loftyPlan ⟨"run", "lofty", "", none⟩ .empty
      (.start 0 ⟨none, ()⟩) = .ok (after, run) ∧
    bareResults run.results = loftyPlan.evaluate arithmetic false .empty := by
  have hcalm : (World.start 0 ⟨none, ()⟩ : World (Shared Unit) Event).IsCalm
      (Shared.Obeys (· = none) fun _ => True) := ⟨rfl, rfl, rfl, trivial⟩
  obtain ⟨after, run, hrun, -, hresults⟩ := runPlan_eq (e := inProcess arithmeticRegistry {})
    computes_arithmetic ⟨"run", "lofty", "", none⟩
    (Graph.isPlan_of_compile compile_loftyGraph).1.isStaged hcalm
    fun c (_ : c ∈ loftyPlan.calls arithmetic false .empty) => upholds_none _ _ c
  exact ⟨after, run, hrun, hresults⟩

theorem evaluate_loftyPlan :
    ((loftyPlan.evaluate arithmetic false .empty).get? "b").map (fun x => (x.success, x.outputs)) =
      some (true, output "value" .null) := by
  decide +kernel

theorem isWired_loftyPlan : ∃ step next, loftyPlan.step? "b" = some step ∧
    step.node.type = "offset" ∧ step.manifest.outputs = [⟨"value", .single .number, false, none⟩] ∧
    loftyPlan.step? "c" = some next ∧ loftyPlan.IsWired next ⟨"a", .single .number, true, none⟩ "b"
      ⟨"value", .single .number, false, none⟩ :=
  ⟨(loftyPlan.step? "b").get (by decide +kernel), (loftyPlan.step? "c").get (by decide +kernel),
    by decide +kernel, by decide +kernel, by decide +kernel, by decide +kernel,
    by decide +kernel, by decide +kernel,
    (loftyPlan.step? "b").get (by decide +kernel), by decide +kernel, by decide +kernel⟩

/-- The small graph, run in process: the offset `b` is a success with `null` for its value, and the
sum `c` is told that its input is missing. -/
theorem null_is_handed_on : loftyGraph.compile arithmeticRegistry = .ok loftyPlan ∧
    ∃ after run x next problems,
      (inProcess arithmeticRegistry {}).runPlan loftyPlan ⟨"run", "lofty", "", none⟩ .empty
        (.start 0 ⟨none, ()⟩) = .ok (after, run) ∧
      run.results.get? "b" = some x ∧ x.success = true ∧ x.outputs.get? "value" = some .null ∧
      loftyPlan.step? "c" = some next ∧ missingInput "a" ∈ problems ∧
      next.manifest.validateInputs (gather next run.results .empty) =
        .error (.invalidInputs problems) := by
  obtain ⟨after, run, hrun, hresults⟩ := runPlan_loftyPlan
  obtain ⟨step, next, hstep, htype, houtputs, hnext, hwired⟩ := isWired_loftyPlan
  obtain ⟨x, hx, hsuccess, hvalue⟩ : ∃ x, run.results.get? "b" = some x ∧ x.success = true ∧
      x.outputs = output "value" .null := by
    have hlofty := evaluate_loftyPlan
    rw [← hresults, get?_bareResults, Option.map_map, Option.map_eq_some_iff] at hlofty
    obtain ⟨x, hx, hlofty⟩ := hlofty
    exact ⟨x, hx, congrArg Prod.fst hlofty, congrArg Prod.snd hlofty⟩
  obtain ⟨place, calls, hcompany, hplace, -⟩ := exists_company_of_runPlan compile_loftyGraph hrun
  obtain ⟨q, config, terms, hq, -, -, -, -, hrange, hwires⟩ := totals_are_handed_on
    (inProcess arithmeticRegistry {}) arithmeticRegistry 500 rfl (.enrolAll .empty _)
    (Offset.manifest, Offset.body) (.inl rfl) (get?_arithmeticRegistry "offset") _ _ _ _ hcompany
    .uncached _ (List.mem_singleton.mpr rfl) "b" step hstep htype x (hplace ▸ hx) hsuccess
  obtain rfl := List.singleton_inj.mp (houtputs.symm.trans hq)
  have hout : ¬ InRange terms := by
    rw [← hrange, hvalue]
    rintro ⟨n, hn⟩
    cases hn
  obtain ⟨problems, hmissing, hinvalid⟩ :=
    (hwires run.results "c" next _ hx hnext hwired).2 hout rfl
  exact ⟨compile_loftyGraph, after, run, x, next, problems, hrun, hx, hsuccess,
    by rw [hvalue]; rfl, hnext, hmissing, hinvalid⟩

end Engine

end PortGraph
