import PortGraph.Proofs.Cache.Key
import PortGraph.Proofs.Cache.Store
import PortGraph.Proofs.Engine.Semantics
import PortGraph.Proofs.Registry

/-!
# The cache does not show

Several runs of one engine, one after the other, share what the engine keeps: with a cache, a node
may get outputs that an earlier run, or another node of the same phase, has stored. If what the
bodies compute depends on nothing that the cache does not look at, and different invocations have
different keys, this makes no difference to any result.

The invariant is that every entry holds the outcome of a call with its key. A hit skips all
validation, but it can only be the hit of a call with the same type, inputs and configuration, and
so with the same manifest, which has passed validation.

## Main definitions

* `Job`, `Engine.session`: runs, one after the other
* `Engine.sessionCalls`, `Engine.hashed`: the calls of a session, and the byte strings of which
  their keys are made
* `Engine.Remembers`: what a cache may hold

## Main results

* `Engine.session_eq`: each run of a session ends with what the dataflow of its plan evaluates to
* `Engine.session_transparent`: a session with a cache has the results of one without
-/

namespace PortGraph

variable {β κ : Type}

/-- A run that is asked for, some milliseconds after the one before has ended. -/
structure Job where
  plan : Plan
  scope : Scope
  initial : Fields
  pause : Nat

/-- The bytes of which the key of a call is made. -/
def Call.bytes (c : Call) : List UInt8 :=
  CacheKey.bytes c.step.manifest.type c.inputs c.step.node.config

/-- The calls of a job. -/
def Job.calls (job : Job) (f : NodeFunction) (stop : Bool) : List Call :=
  job.plan.calls f stop job.initial

namespace Engine

/-- Runs, one after the other, that nobody cancels from outside. -/
def session (e : Engine κ) (world : World (Shared κ) Event) :
    List Job → Except RunError (World (Shared κ) Event × List RunResults)
  | [] => .ok (world, [])
  | job :: rest =>
    match e.runPlan job.plan job.scope job.initial ((world.idle job.pause).renew none) with
    | .error err => .error err
    | .ok (after, run) =>
      match e.session after rest with
      | .error err => .error err
      | .ok (last, runs) => .ok (last, run :: runs)

/-- The calls of a session. -/
def sessionCalls (e : Engine κ) (f : NodeFunction) (jobs : List Job) : List Call :=
  jobs.flatMap fun job => job.calls f e.stopOnError

/-- The byte strings of which keys are made in a session of an engine with a cache. -/
def hashed (e : Engine κ) (f : NodeFunction) (jobs : List Job) : List (List UInt8) :=
  ((e.sessionCalls f jobs).filter (·.cacheable)).map (·.bytes)

variable {e : Engine κ} {C : Option Cache → Prop} {J : κ → Prop} {f : NodeFunction}

/-! ### Sessions -/

theorem isCalm_renew {I : Shared κ → Prop} {world : World (Shared κ) Event} (h : world.IsCalm I)
    (pause : Nat) : ((world.idle pause).renew none).IsCalm I :=
  ⟨rfl, rfl, h.state⟩

/-- Each run of a session comes to its end, with the results that the dataflow of its plan evaluates
to. -/
theorem session_eq (hb : e.backend.Computes J f) {jobs : List Job}
    (hstaged : ∀ job ∈ jobs, job.plan.IsStaged)
    (hcalls : ∀ job ∈ jobs, ∀ c ∈ job.calls f e.stopOnError, e.Upholds C f c)
    {world : World (Shared κ) Event} (hw : world.IsCalm (Shared.Obeys C J)) :
    ∃ after runs, e.session world jobs = .ok (after, runs) ∧
      runs.map (fun run => bareResults run.results) =
        jobs.map fun job => job.plan.evaluate f e.stopOnError job.initial := by
  induction jobs generalizing world with
  | nil => exact ⟨world, [], rfl, rfl⟩
  | cons job rest ih =>
    obtain ⟨after, run, hrun, hcalm, hresults⟩ := runPlan_eq hb job.scope
      (hstaged job List.mem_cons_self) (isCalm_renew hw job.pause) (hcalls job List.mem_cons_self)
    obtain ⟨last, runs, hrest, hruns⟩ := ih (fun j hj => hstaged j (List.mem_cons_of_mem _ hj))
      (fun j hj => hcalls j (List.mem_cons_of_mem _ hj)) hcalm
    refine ⟨last, run :: runs, ?_, ?_⟩
    · simp only [session, hrun, hrest]
    · rw [List.map_cons, List.map_cons, hresults, hruns]

/-! ### What a cache may hold -/

/-- Outputs under a key that are the outcome of one of the calls, made with that key. -/
def Remembers (e : Engine κ) (f : NodeFunction) (calls : List Call) (key : String)
    (outputs : Fields) : Prop :=
  ∃ c ∈ calls, c.cacheable = true ∧ e.keyOf c.step c.inputs = key ∧ c.outcome f = .ok outputs

/-- Whatever cache there is holds outcomes of the calls. -/
def IsFaithful (e : Engine κ) (f : NodeFunction) (calls : List Call) (cache? : Option Cache) :
    Prop :=
  ∀ cache, cache? = some cache → cache.All (e.Remembers f calls)

/-- **A call gets along with a cache that holds outcomes of calls**, if calls with the same key have
the same outcome. -/
theorem upholds_isFaithful {calls : List Call}
    (hsame : ∀ c ∈ calls, ∀ d ∈ calls, c.cacheable = true → d.cacheable = true →
      e.keyOf c.step c.inputs = e.keyOf d.step d.inputs → c.outcome f = d.outcome f)
    {c : Call} (hc : c ∈ calls) : e.Upholds (e.IsFaithful f calls) f c := by
  refine upholds_iff_respects.mpr (respects_holdsOnly (G := fun c o => c.outcome f = o) ?_ hc)
  intro c hc d hd hcc hdc hkey o ho
  exact (hsame c hc d hd hcc hdc hkey).trans ho

/-- A run with a new cache comes to its end, with the results that the dataflow evaluates to, if its
calls with the same key have the same outcome. -/
theorem exists_runPlan_new (hb : e.backend.Computes J f) {plan : Plan} (hstaged : plan.IsStaged)
    (scope : Scope) (initial : Fields) {now : Nat} {host : κ} (hhost : J host)
    (hsame : ∀ c ∈ plan.calls f e.stopOnError initial, ∀ d ∈ plan.calls f e.stopOnError initial,
      c.cacheable = true → d.cacheable = true →
        e.keyOf c.step c.inputs = e.keyOf d.step d.inputs → c.outcome f = d.outcome f) :
    ∃ after run, e.runPlan plan scope initial (.start now ⟨some (.new none none), host⟩) =
        .ok (after, run) ∧
      bareResults run.results = plan.evaluate f e.stopOnError initial := by
  have hcalm : (World.start now ⟨some (.new none none), host⟩ : World (Shared κ) Event).IsCalm
      (Shared.Obeys (e.IsFaithful f (plan.calls f e.stopOnError initial)) J) := by
    refine ⟨rfl, rfl, ?_, hhost⟩
    rintro _ ⟨⟩
    exact Cache.all_new _ none none
  obtain ⟨after, run, hrun, -, hresults⟩ :=
    runPlan_eq hb scope hstaged hcalm fun c hc => upholds_isFaithful hsame hc
  exact ⟨after, run, hrun, hresults⟩

end Engine

/-! ### Calls with the same key -/

/-- The steps of the calls are steps of the plan. -/
theorem Plan.exists_step?_of_mem_callsFrom {plan : Plan} {f : NodeFunction} {stop : Bool}
    {initial : Fields} {t : Table Result} {phases : List Phase} {c : Call}
    (hc : c ∈ plan.callsFrom f stop initial t phases) : ∃ id, plan.step? id = some c.step := by
  induction phases generalizing t with
  | nil => simp [callsFrom] at hc
  | cons phase rest ih =>
    rw [callsFrom] at hc
    split at hc
    · simp at hc
    · rcases List.mem_append.mp hc with hnow | hlater
      · obtain ⟨step, hstep, rfl⟩ := List.mem_map.mp hnow
        obtain ⟨id, -, hid⟩ := List.mem_filterMap.mp hstep
        exact ⟨id, hid⟩
      · exact ih hlater

/-- The manifest of a step is the registered one. -/
theorem Graph.IsPlan.manifest?_eq {r : Registry β} {g : Graph} {plan : Plan} (h : g.IsPlan r plan)
    {id : String} {step : Step} (hs : plan.step? id = some step) :
    r.manifest? step.node.type = some step.manifest := by
  by_cases hid : id ∈ g.nodeIds
  · obtain ⟨n, hn, rfl⟩ := List.mem_map.mp hid
    obtain ⟨m, hm, hstep⟩ := h.step?_eq n hn
    cases hs.symm.trans hstep
    exact hm
  · cases hs.symm.trans (h.step?_eq_none id hid)

/-- **Calls with the same bytes** are of one type and have the same inputs and configuration, if
their types are registered. -/
theorem Call.parts_eq_of_bytes {r : Registry β} (hr : r.Reachable) {c d : Call}
    (hc : r.manifest? c.step.node.type = some c.step.manifest)
    (hd : r.manifest? d.step.node.type = some d.step.manifest) (h : c.bytes = d.bytes) :
    c.step.manifest = d.step.manifest ∧ c.inputs = d.inputs ∧
      c.step.node.config = d.step.node.config := by
  obtain ⟨htype, hinputs, hconfig⟩ := CacheKey.bytes_injective h
  refine ⟨?_, hinputs, hconfig⟩
  rw [← hr.type_eq hc, htype, hr.type_eq hd] at hc
  exact Option.some.inj (hc.symm.trans hd)

/-- They have the same outcome, if bodies see of a node nothing but its type. -/
theorem Call.outcome_eq_of_bytes {r : Registry β} (hr : r.Reachable)
    (f : String → Fields → Fields → Outcome) {c d : Call}
    (hc : r.manifest? c.step.node.type = some c.step.manifest)
    (hd : r.manifest? d.step.node.type = some d.step.manifest) (h : c.bytes = d.bytes) :
    c.outcome (.ofType f) = d.outcome (.ofType f) := by
  obtain ⟨hmanifest, hinputs, hconfig⟩ := Call.parts_eq_of_bytes hr hc hd h
  simp only [Call.outcome, NodeFunction.ofType, hmanifest, hinputs, hconfig]

namespace Engine

variable {e : Engine κ}

/-- The manifests of the calls of a session are the registered ones. -/
theorem manifest?_of_mem_sessionCalls {r : Registry β} {f : NodeFunction} {jobs : List Job}
    (hjobs : ∀ job ∈ jobs, ∃ g : Graph, g.IsPlan r job.plan) {c : Call}
    (hc : c ∈ e.sessionCalls f jobs) :
    r.manifest? c.step.node.type = some c.step.manifest := by
  obtain ⟨job, hjob, hc⟩ := List.mem_flatMap.mp hc
  obtain ⟨g, hg⟩ := hjobs job hjob
  obtain ⟨id, hid⟩ := Plan.exists_step?_of_mem_callsFrom hc
  exact hg.manifest?_eq hid

/-- Calls of a session with the same key have the same outcome, if the digest tells apart what is
hashed. -/
theorem outcome_eq_of_keyOf {r : Registry β} (hr : r.Reachable)
    {f : String → Fields → Fields → Outcome} {jobs : List Job}
    (hjobs : ∀ job ∈ jobs, ∃ g : Graph, g.IsPlan r job.plan)
    (hdigest : ∀ a ∈ e.hashed (.ofType f) jobs, ∀ b ∈ e.hashed (.ofType f) jobs,
      e.digest a = e.digest b → a = b)
    {c d : Call} (hc : c ∈ e.sessionCalls (.ofType f) jobs)
    (hd : d ∈ e.sessionCalls (.ofType f) jobs) (hcc : c.cacheable = true) (hdc : d.cacheable = true)
    (h : e.keyOf c.step c.inputs = e.keyOf d.step d.inputs) :
    c.outcome (.ofType f) = d.outcome (.ofType f) := by
  have hhashed {x : Call} (hx : x ∈ e.sessionCalls (.ofType f) jobs) (hxc : x.cacheable = true) :
      x.bytes ∈ e.hashed (.ofType f) jobs :=
    List.mem_map_of_mem (List.mem_filter.mpr ⟨hx, hxc⟩)
  exact Call.outcome_eq_of_bytes hr f (manifest?_of_mem_sessionCalls hjobs hc)
    (manifest?_of_mem_sessionCalls hjobs hd)
    (hdigest c.bytes (hhashed hc hcc) d.bytes (hhashed hd hdc) h)

/-- **The cache does not show.** Take any jobs with plans compiled from one registry, bodies that
see of a node nothing but its type, its inputs and its configuration, and a digest that tells the
byte strings apart of which keys are made. Then a session that begins with an empty cache, of any
lifetime and capacity, comes to its end as the one without a cache does, and run by run the results
have the same nodes, and each node has the same success, outputs and error. -/
theorem session_transparent (e : Engine κ) (r : Registry β) (hr : r.Reachable)
    (f : String → Fields → Fields → Outcome) (J : κ → Prop)
    (hb : e.backend.Computes J (.ofType f)) (jobs : List Job)
    (hjobs : ∀ job ∈ jobs, ∃ g : Graph, g.compile r = .ok job.plan)
    (hdigest : ∀ a ∈ e.hashed (.ofType f) jobs, ∀ b ∈ e.hashed (.ofType f) jobs,
      e.digest a = e.digest b → a = b)
    (lifetime capacity : Option Nat) (now : Nat) (host : κ) (hhost : J host) :
    ∃ after runs after' runs',
      e.session (.start now ⟨some (.new lifetime capacity), host⟩) jobs = .ok (after, runs) ∧
      e.session (.start now ⟨none, host⟩) jobs = .ok (after', runs') ∧
      runs.map (fun run => bareResults run.results) =
        runs'.map fun run => bareResults run.results := by
  have hplan : ∀ job ∈ jobs, ∃ g : Graph, g.IsPlan r job.plan := by
    intro job hjob
    obtain ⟨g, hg⟩ := hjobs job hjob
    exact ⟨g, (Graph.isPlan_of_compile hg).1⟩
  have hstaged : ∀ job ∈ jobs, job.plan.IsStaged := by
    intro job hjob
    obtain ⟨g, hg⟩ := hplan job hjob
    exact hg.isStaged
  let calls := e.sessionCalls (.ofType f) jobs
  have hsame : ∀ c ∈ calls, ∀ d ∈ calls, c.cacheable = true → d.cacheable = true →
      e.keyOf c.step c.inputs = e.keyOf d.step d.inputs →
        c.outcome (.ofType f) = d.outcome (.ofType f) :=
    fun c hc d hd hcc hdc hkey => outcome_eq_of_keyOf hr hplan hdigest hc hd hcc hdc hkey
  have hnew : e.IsFaithful (.ofType f) calls (some (.new lifetime capacity)) := by
    rintro _ ⟨⟩
    exact Cache.all_new _ lifetime capacity
  have hcached : (World.start now ⟨some (.new lifetime capacity), host⟩ :
      World (Shared κ) Event).IsCalm (Shared.Obeys (e.IsFaithful (.ofType f) calls) J) :=
    ⟨rfl, rfl, hnew, hhost⟩
  have hplain : (World.start now ⟨none, host⟩ : World (Shared κ) Event).IsCalm
      (Shared.Obeys (· = none) J) := ⟨rfl, rfl, rfl, hhost⟩
  obtain ⟨after, runs, hrun, hruns⟩ := session_eq hb hstaged
    (fun job hjob c hc => upholds_isFaithful hsame (List.mem_flatMap.mpr ⟨job, hjob, hc⟩)) hcached
  obtain ⟨after', runs', hrun', hruns'⟩ := session_eq hb hstaged
    (fun job hjob c hc => upholds_none e (.ofType f) c) hplain
  exact ⟨after, runs, after', runs', hrun, hrun', hruns.trans hruns'.symm⟩

/-! ### A small session -/

theorem reachable_sampleRegistry : Graph.sampleRegistry.Reachable := by
  have hsource : Registry.empty.register (β := Body Unit) Graph.sampleSource none =
      .ok ⟨Table.empty.insert "source" ⟨Graph.sampleSource, none⟩⟩ :=
    Registry.register_eq_ok_iff.mpr ⟨by decide +kernel, rfl, rfl⟩
  have hsum : Registry.register (β := Body Unit) ⟨Table.empty.insert "source"
      ⟨Graph.sampleSource, none⟩⟩ Graph.sampleSum none = .ok Graph.sampleRegistry :=
    Registry.register_eq_ok_iff.mpr ⟨by decide +kernel, by decide +kernel, rfl⟩
  exact .register (.register .empty hsource) hsum

/-- The small graph, run twice. -/
def sampleJobs : List Job :=
  [⟨Graph.samplePlan, ⟨"first", "sample", "", none⟩, Table.empty, 0⟩,
    ⟨Graph.samplePlan, ⟨"second", "sample", "", none⟩, Table.empty, 10⟩]

/-- The small graph, run twice with a cache for two entries and twice without a cache. -/
theorem session_sampleJobs : Graph.sampleRegistry.Reachable ∧
    ∃ after runs after' runs',
      sampleEngine.session (.start 0 ⟨some (.new (some 1000) (some 2)), ()⟩) sampleJobs =
        .ok (after, runs) ∧
      sampleEngine.session (.start 0 ⟨none, ()⟩) sampleJobs = .ok (after', runs') ∧
      runs.map (fun run => bareResults run.results) =
        runs'.map fun run => bareResults run.results := by
  refine ⟨reachable_sampleRegistry, session_transparent sampleEngine Graph.sampleRegistry
    reachable_sampleRegistry sampleBody (fun _ => True) computes_sampleEngine sampleJobs ?_ ?_
    (some 1000) (some 2) 0 () trivial⟩
  · intro job hjob
    refine ⟨Graph.sampleGraph, ?_⟩
    rcases List.mem_cons.mp hjob with rfl | hjob
    · exact Graph.compile_sampleGraph
    · cases List.mem_singleton.mp hjob
      exact Graph.compile_sampleGraph
  · decide +kernel

end Engine

end PortGraph
