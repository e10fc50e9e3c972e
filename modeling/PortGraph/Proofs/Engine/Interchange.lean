import PortGraph.Engine.Setup
import PortGraph.Proofs.Engine.Agreement
import PortGraph.Proofs.Engine.Keys
import PortGraph.Proofs.InProcess
import PortGraph.Proofs.Remote.Service

/-!
# Interchangeable backends

It does not show where nodes run. A body that computes a function may be attempted in process as
often as its type allows, or the function may be computed by a task service that is asked for it
once and polled until it answers: the results of a run have the same nodes, and each node has the
same success, outputs and error code. What differs is the words of an error, and how long all of it
takes.

Both are instances of one contract. A backend realizes a relation on the steps of a plan if what it
dispatches always comes to its end, and with an outcome in the relation. A run on such a backend
comes to its end and follows a course, and two courses whose outcomes look alike show the same.

A backend in process keeps to the contract only as far as it can count the delays between attempts.

## Main definitions

* `Plan.Invokes`: the invocations of the steps of a plan
* `Backend.Realizes`: the contract
* `Engine.BeginsFresh`: what is asked of the cache

## Main results

* `Engine.exists_course`: a run on such a backend comes to its end and follows a course
* `Backend.realizes_inProcess`, `Backend.realizes_remote`: the two backends
* `Engine.views_eq_of_backends`: runs on the two show the same
-/

namespace PortGraph

variable {β κ κ' : Type}

/-! ### The contract -/

/-- The invocation is one of a step of the plan. -/
def Plan.Invokes (plan : Plan) (i : Invocation) : Prop :=
  ∃ id step, plan.step? id = some step ∧ i.scope.nodeId = step.node.id ∧
    i.manifest = step.manifest

/-- What the backend dispatches for the plan comes to its end, and with an outcome in `F`, as long
as everybody keeps to the terms `T`. -/
structure Backend.Realizes (b : Backend κ) (T : Terms String κ)
    (F : Manifest → Fields → Fields → Outcome → Prop) (plan : Plan) : Prop where
  settles : ∀ i, plan.Invokes i → (b.dispatch i).Settles T.invariant fun _ => True
  ensures : ∀ i, plan.Invokes i → ∀ t s, T.invariant s →
    (b.dispatch i).Ensures T i.scope.nodeId
      (fun _ _ d => F i.manifest i.inputs i.config d.result) t s

namespace Engine

/-- The run begins without a cache, or with an empty one and a digest that tells apart what the run
hashes. -/
def BeginsFresh (e : Engine κ) (plan : Plan) (scope : Scope) (initial : Fields)
    (world : World (Shared κ) Event) : Prop :=
  ∀ cache, world.state.cache? = some cache → cache.entries = Table.empty ∧
    ∀ after run, e.runPlan plan scope initial world = .ok (after, run) →
      e.TellsApart (plan.callsOf initial run.results)

theorem beginsFresh_of_eq_none (e : Engine κ) (plan : Plan) (scope : Scope) (initial : Fields)
    {world : World (Shared κ) Event} (h : world.state.cache? = none) :
    e.BeginsFresh plan scope initial world :=
  fun _ hcache => nomatch h.symm.trans hcache

variable {e : Engine κ} {T : Terms String κ} {F : Manifest → Fields → Fields → Outcome → Prop}
  {r : Registry β} {g : Graph} {plan : Plan}

/-- The calls of the plan settle. -/
theorem settles_of_realizes (hb : e.backend.Realizes T F plan) (scope : Scope) {c : Call}
    (hc : plan.step? c.nodeId = some c.step) :
    (e.execute { scope with nodeId := c.nodeId } c.step c.inputs).Settles
      (Shared.Obeys (fun _ => True) T.invariant) (c.Yields fun _ _ => True) := by
  refine settles_execute (G := fun _ _ => True) _ (e.respects_any c) ?_
  refine (settles_invoke (F := fun _ _ _ _ _ => True) _ c fun config => ?_).mono
    fun _ _ => trivial
  exact hb.settles _ ⟨_, _, hc, rfl, rfl⟩

/-- The calls of the plan are delivered with outcomes in `F`, held against the manifest. -/
theorem delivers_of_realizes (hb : e.backend.Realizes T F plan) (scope : Scope)
    {C : Option Cache → Prop} {c : Call} (hc : ∃ id, plan.step? id = some c.step)
    (hrespects : e.Respects C (c.MayEnd (.ofManifest F)) c) :
    e.Delivers scope T C (Call.MayEnd (.ofManifest F)) c := by
  obtain ⟨id, hstep⟩ := hc
  refine delivers_mayEnd hrespects fun config t s hs => ?_
  exact hb.ensures ⟨{ scope with nodeId := c.nodeId }, c.step.manifest, c.inputs, config⟩
    ⟨id, c.step, hstep, rfl, rfl⟩ t s hs

/-- **A run on a backend that realizes `F` comes to its end and follows a course**, if nobody
cancels it. -/
theorem exists_course (hr : r.Reachable) (hplan : g.compile r = .ok plan)
    (hb : e.backend.Realizes T F plan) (scope : Scope) (initial : Fields)
    {world : World (Shared κ) Event} (hworld : world.IsCalm fun s => T.invariant s.host)
    (hfresh : e.BeginsFresh plan scope initial world) :
    ∃ after run ending, e.runPlan plan scope initial world = .ok (after, run) ∧
      plan.Course e.stopOnError initial (Call.MayEnd (.ofManifest F)) Table.empty plan.phases
        run.results ending ∧ ending ≠ .cancelled := by
  have hg := (Graph.isPlan_of_compile hplan).1
  obtain ⟨after, run, hrun, hnot⟩ := exists_runPlan scope initial hg.isStaged
    ⟨hworld.cancelled_eq, hworld.cancelAt?_eq, trivial, hworld.state⟩
    fun c hc => settles_of_realizes hb scope hc
  have hmeets {C : Option Cache → Prop} (hC : C world.state.cache?) : world.Meets (T.shared C) := by
    refine ⟨⟨hC, hworld.state⟩, fun hc => ?_, fun hc => ?_⟩
    · simp [hworld.cancelled_eq] at hc
    · simp [hworld.cancelAt?_eq] at hc
  have hfollows {C : Option Cache → Prop} (hC : C world.state.cache?)
      (hrespects : ∀ c ∈ plan.callsOf initial run.results,
        e.Respects C (c.MayEnd (.ofManifest F)) c) :
      ∃ ending, plan.Course e.stopOnError initial (Call.MayEnd (.ofManifest F)) Table.empty
        plan.phases run.results ending ∧ run.cancelled = (ending = .cancelled) := by
    refine (runPlan_course hg.isStaged (hmeets hC) (fun c hc => ?_) hrun).2
    exact delivers_of_realizes hb scope (Plan.exists_step?_of_mem_callsOf hc) (hrespects c hc)
  obtain ⟨ending, hcourse, hcancelled⟩ : ∃ ending,
      plan.Course e.stopOnError initial (Call.MayEnd (.ofManifest F)) Table.empty plan.phases
        run.results ending ∧ run.cancelled = (ending = .cancelled) := by
    obtain hnone | ⟨cache, hcache⟩ := Option.eq_none_or_eq_some world.state.cache?
    · exact hfollows hnone fun c _ => respects_none e _ c
    · obtain ⟨hempty, hdigest⟩ := hfresh cache hcache
      have hstart : e.HoldsOnly (Call.MayEnd (.ofManifest F)) (plan.callsOf initial run.results)
          world.state.cache? := by
        intro cache' hcache' key entry hentry
        cases hcache.symm.trans hcache'
        rw [hempty] at hentry
        cases hentry
      refine hfollows hstart fun c hc => ?_
      refine (hdigest after run hrun).respects hr (fun d hd => ?_) hc
      obtain ⟨id, hstep⟩ := Plan.exists_step?_of_mem_callsOf hd
      exact hg.manifest?_eq hstep
  exact ⟨after, run, ending, hrun, hcourse, by simpa [hnot] using hcancelled⟩

end Engine

/-! ### The two backends -/

namespace Backend

variable {plan : Plan} {f : String → Fields → Fields → Outcome}

/-- **Bodies that compute a function realize it**, if the delays between as many attempts as their
types allow can be counted. -/
theorem realizes_inProcess {registry : Registry (Body κ)} {base : UInt64} {J : κ → Prop}
    (hbodies : ∀ i, plan.Invokes i → ∃ body, registry.body? i.manifest.type = some body ∧
      (body i.scope i.inputs i.config).Settles J (· = f i.manifest.type i.inputs i.config))
    (hdelays : ∀ id step, plan.step? id = some step →
      (InProcess.delayMs? base step.manifest.retry.toNat).isSome = true) :
    (Backend.inProcess registry base).Realizes (.keeping String J False)
      (fun m inputs config o => o = f m.type inputs config) plan := by
  have hsettles (i : Invocation) (hi : plan.Invokes i) :
      (InProcess.dispatch registry base i).Settles J fun d =>
        d.result = f i.manifest.type i.inputs i.config := by
    obtain ⟨body, hbody, hwork⟩ := hbodies i hi
    obtain ⟨id, step, hstep, -, hmanifest⟩ := hi
    exact InProcess.settles_dispatch hbody hwork (hmanifest ▸ hdelays id step hstep)
  constructor
  · exact fun i hi => (hsettles i hi).mono fun _ _ => trivial
  · exact fun i hi t s _ => (hsettles i hi).ensures t s

/-- **A task service that computes a function realizes it**, except for the words of its errors. -/
theorem realizes_remote {service : TaskService κ} {c : RemoteConfig} {T : Terms String κ}
    (hcalm : ¬ T.mayCancel)
    (hservice : ∀ i, plan.Invokes i →
      service.Serves T (.ofConfig c) i (f i.manifest.type i.inputs i.config)) :
    (Backend.remote service c).Realizes T
      (fun m inputs config o => RemoteOutcome (f m.type inputs config) o) plan := by
  constructor
  · intro i hi
    exact (hservice i hi).settles_runTask.bind fun _ _ => trivial
  · intro i hi t s hs
    exact ((hservice i hi).ensures_runTask hcalm t hs).bind fun _ _ _ ho => ho

end Backend

/-- The failure of a task looks like that of a body. -/
theorem RemoteOutcome.alike {o o' : Outcome} (h : RemoteOutcome o o')
    (hfailed : ∀ err, o = .error err → ∃ message details?, err = .failed message details?) :
    Outcome.Alike o o' := by
  cases o with
  | ok outputs =>
    cases h
    exact .refl _
  | error err =>
    obtain ⟨message, details?, rfl⟩ := hfailed err rfl
    obtain ⟨taskId, words, rfl⟩ := h
    rfl

namespace Engine

/-- **Backends are interchangeable.** Take a plan that has been compiled, and a function of the type
of a node, its inputs and its configuration, which gives outputs or says that the node has failed.
Let one engine run nodes in process, in bodies that compute the function, and another one as tasks,
on a service that computes it. Then a run that nobody cancels comes to its end on either of them,
and the results have the same nodes, each of them with the same success, outputs and error code.
The engines may have different limits and caches, but have to agree on whether a failure stops the
run. The delays between attempts in process have to be such that they can be counted. -/
theorem views_eq_of_backends (r : Registry β) (hr : r.Reachable) (g : Graph) (plan : Plan)
    (hplan : g.compile r = .ok plan) (initial : Fields)
    (f : String → Fields → Fields → Outcome)
    (hf : ∀ type inputs config err, f type inputs config = .error err →
      ∃ message details?, err = .failed message details?)
    (e : Engine κ) (bodies : Registry (Body κ)) (base : UInt64)
    (he : e.backend = .inProcess bodies base) (J : κ → Prop)
    (hbodies : ∀ i, plan.Invokes i → ∃ body, bodies.body? i.manifest.type = some body ∧
      (body i.scope i.inputs i.config).Settles J (· = f i.manifest.type i.inputs i.config))
    (hdelays : ∀ id step, plan.step? id = some step →
      (InProcess.delayMs? base step.manifest.retry.toNat).isSome = true)
    (e' : Engine κ') (service : TaskService κ') (c : RemoteConfig)
    (he' : e'.backend = .remote service c) (T : Terms String κ') (hcalm : ¬ T.mayCancel)
    (hservice : ∀ i, plan.Invokes i →
      service.Serves T (.ofConfig c) i (f i.manifest.type i.inputs i.config))
    (hstop : e.stopOnError = e'.stopOnError) (scope scope' : Scope)
    (world : World (Shared κ) Event) (hworld : world.IsCalm fun s => J s.host)
    (hfresh : e.BeginsFresh plan scope initial world)
    (world' : World (Shared κ') Event) (hworld' : world'.IsCalm fun s => T.invariant s.host)
    (hfresh' : e'.BeginsFresh plan scope' initial world') :
    ∃ after run after' run',
      e.runPlan plan scope initial world = .ok (after, run) ∧
      e'.runPlan plan scope' initial world' = .ok (after', run') ∧
      views run.results = views run'.results := by
  have hlocal := Backend.realizes_inProcess hbodies hdelays
  have hremote := Backend.realizes_remote hcalm hservice
  rw [← he] at hlocal
  rw [← he'] at hremote
  obtain ⟨after, run, ending, hrun, hcourse, hending⟩ :=
    exists_course hr hplan hlocal scope initial hworld hfresh
  obtain ⟨after', run', ending', hrun', hcourse', hending'⟩ :=
    exists_course hr hplan hremote scope' initial hworld' hfresh'
  rw [← hstop] at hcourse'
  refine ⟨after, run, after', run', hrun, hrun', ?_⟩
  refine hcourse.views_eq (fun c o o' ho ho' => ?_) (Graph.isPlan_of_compile hplan).1.isStaged
    hcourse' hending hending' rfl
  refine ho.alike (fun config o o' ho ho' => ?_) ho'
  cases ho
  exact RemoteOutcome.alike ho' (hf _ _ _)

/-! ### A small run on both backends -/

/-- The sum of the inputs, unless it is six: that is too much. -/
def cappedSum (type : String) (inputs config : Fields) : Outcome :=
  (sampleBody type inputs config).bind fun outputs =>
    if outputs.get? "x" = some (.num (.whole 6)) then .error (.failed "too much" none)
    else .ok outputs

theorem failed_of_cappedSum {type : String} {inputs config : Fields} {err : NodeError}
    (h : cappedSum type inputs config = .error err) :
    ∃ message details?, err = .failed message details? := by
  obtain ⟨outputs, ho⟩ : ∃ outputs, sampleBody type inputs config = .ok outputs := ⟨_, rfl⟩
  rw [cappedSum, ho] at h
  simp only [Except.bind] at h
  split at h
  · cases h
    exact ⟨_, _, rfl⟩
  · cases h

/-- A body that takes some milliseconds for it. -/
def cappedWork (type : String) : Body Unit := fun _ inputs config =>
  (Work.sleep 5).bind fun _ => .done (cappedSum type inputs config)

theorem settles_cappedWork (type : String) (scope : Scope) (inputs config : Fields) :
    (cappedWork type scope inputs config).Settles (fun _ => True)
      (· = cappedSum type inputs config) :=
  (Work.settles_sleep 5).bind fun _ _ => rfl

/-- The two types of the small graph, which may be attempted several times. -/
def cappedRegistry : Registry (Body Unit) where
  entries := (Table.empty.insert "source"
      ⟨{ Graph.sampleSource with retry := 1 }, some (cappedWork "source")⟩).insert "sum"
    ⟨{ Graph.sampleSum with retry := 3 }, some (cappedWork "sum")⟩

theorem reachable_cappedRegistry : cappedRegistry.Reachable := by
  have hsource : Registry.empty.register { Graph.sampleSource with retry := 1 }
      (some (cappedWork "source")) = .ok ⟨Table.empty.insert "source"
        ⟨{ Graph.sampleSource with retry := 1 }, some (cappedWork "source")⟩⟩ :=
    Registry.register_eq_ok_iff.mpr ⟨by decide +kernel, rfl, rfl⟩
  have hsum : Registry.register ⟨Table.empty.insert "source"
      ⟨{ Graph.sampleSource with retry := 1 }, some (cappedWork "source")⟩⟩
        { Graph.sampleSum with retry := 3 } (some (cappedWork "sum")) = .ok cappedRegistry :=
    Registry.register_eq_ok_iff.mpr ⟨by decide +kernel, by decide +kernel, rfl⟩
  exact .register (.register .empty hsource) hsum

/-- Each type has its body. -/
theorem body?_cappedRegistry {type : String} {m : Manifest}
    (h : cappedRegistry.manifest? type = some m) :
    cappedRegistry.body? type = some (cappedWork type) := by
  simp only [Registry.manifest?, Registry.body?, cappedRegistry, Table.get?_insert,
    Table.get?_empty] at h ⊢
  split
  · rename_i hsum
    rw [hsum]
    rfl
  · split
    · rename_i hsource
      rw [hsource]
      rfl
    · rename_i hsum hsource
      rw [if_neg hsum, if_neg hsource] at h
      cases h

/-- The plan of the small graph with these types. -/
def cappedPlan : Plan := (Graph.sampleGraph.compile cappedRegistry).toOption.getD default

theorem compile_cappedPlan : Graph.sampleGraph.compile cappedRegistry = .ok cappedPlan := by
  decide +kernel

/-- The bodies of the small plan. -/
theorem exists_body_cappedPlan (i : Invocation) (hi : cappedPlan.Invokes i) :
    ∃ body, cappedRegistry.body? i.manifest.type = some body ∧
      (body i.scope i.inputs i.config).Settles (fun _ => True)
        (· = cappedSum i.manifest.type i.inputs i.config) := by
  obtain ⟨id, step, hstep, -, hmanifest⟩ := hi
  have hm := (Graph.isPlan_of_compile compile_cappedPlan).1.manifest?_eq hstep
  have htype : step.node.type = step.manifest.type :=
    (reachable_cappedRegistry.type_eq hm).symm
  refine ⟨_, ?_, settles_cappedWork _ _ _ _⟩
  rw [hmanifest, ← htype]
  exact body?_cappedRegistry hm

/-- The small graph, run in process and as tasks, one after the other. The sum `t` fails, in process
with all of its attempts. -/
theorem views_cappedPlan : cappedRegistry.Reachable ∧
    Graph.sampleGraph.compile cappedRegistry = .ok cappedPlan ∧
    ∃ after run after' run',
      (inProcess cappedRegistry {}).runPlan cappedPlan ⟨"run", "sample", "", none⟩ Table.empty
        (.start 0 ⟨none, ()⟩) = .ok (after, run) ∧
      { remote .empty (.sample cappedSum) {} with limit? := some 1 }.runPlan cappedPlan
        ⟨"run", "sample", "", none⟩ Table.empty (.start 0 ⟨none, Table.empty⟩) =
          .ok (after', run') ∧
      views run.results = views run'.results := by
  refine ⟨reachable_cappedRegistry, compile_cappedPlan, ?_⟩
  refine views_eq_of_backends cappedRegistry reachable_cappedRegistry Graph.sampleGraph cappedPlan
    compile_cappedPlan Table.empty cappedSum (fun _ _ _ _ h => failed_of_cappedSum h)
    (inProcess cappedRegistry {}) cappedRegistry 500 rfl (fun _ => True) exists_body_cappedPlan
    (fun _ step _ => ?_) { remote .empty (.sample cappedSum) {} with limit? := some 1 }
    (.sample cappedSum) {} rfl TaskService.sampleTerms id (fun i _ => ?_) rfl _ _ _
    ⟨rfl, rfl, trivial⟩ (beginsFresh_of_eq_none _ _ _ _ rfl) _ ⟨rfl, rfl, trivial⟩
    (beginsFresh_of_eq_none _ _ _ _ rfl)
  · exact InProcess.isSome_delayMs?_of_base_le (by decide) step.manifest.retry
  · exact TaskService.serves_sample cappedSum (by decide +kernel) i

end Engine

end PortGraph
