import PortGraph.Proofs.Engine.Coverage
import PortGraph.Proofs.Engine.Keys
import PortGraph.Proofs.Engine.Records

/-!
# Runs in company

An engine may be asked for several runs, one after the other or at a time. They share the cache, and
whatever the bodies share, while each has a clock, a log and results of its own. At any time one of
them goes a step further: it starts a phase, drives one of its nodes up to the next wait, or takes up
the results of a phase. What it finds of the cache is then as the others have left it. A run that
goes no further may have been left off, or have come to its end, or to a fault.

Whatever the others do, each entry of the cache goes back to a call, and a record to one of the ways
to a record: it has an outcome that its call may have, with inputs from the results of its run.
What bodies do and when runs are cancelled does not matter.

## Main definitions

* `Place`: how far a run has come
* `Engine.Goes`: one step of a run
* `Engine.Company`: the runs that share a cache, and what they have made of it
* `Engine.Explains`, `Engine.IsBacked`: how a call has come to its record, and so for all records

## Main results

* `Engine.IsKeptAt.goes`: a step of a run keeps to the terms
* `Engine.Company.isKeptAt`: so does any company at any time
* `Engine.Company.holdsOnly`: each entry of the cache goes back to a call
* `Engine.Company.append`: companies may follow one another
* `Engine.Company.exists_of_runPlan`: a run may go from its start to its end, also on its own
-/

namespace PortGraph

variable {ι β κ σ ε α : Type}

/-! ### What others may change -/

/-- Others may change what is shared, if they keep up the invariant and the pieces put up with it. -/
theorem Pool.IsKept.disturb {T : Terms ι σ} {who : Nat → ι} {P : Nat → Nat → σ → α → Prop}
    {p : Pool σ ε α} (h : p.IsKept T who P) {s : σ} (hs : T.invariant s)
    (hrely : ∀ j, T.rely (who j) p.world.state s) :
    ({ p with world := p.world.withState s } : Pool σ ε α).IsKept T who P :=
  ⟨⟨hs, h.meets.cancelled, h.meets.cancelAt⟩, fun j q hq => (h.kept j q hq).of_rely (hrely j),
    h.listed⟩

/-! ### How far a run has come -/

/-- How far a run has come: it has gone through `k` phases and is between two of them, or it is in
the middle of the next one. -/
inductive Place (κ : Type) where
  | between (k : Nat) (results : Table Result) (world : World (Shared κ) Event)
  | within (k : Nat) (phase : Phase) (results : Table Result)
    (pool : Pool (Shared κ) Event Result)

namespace Place

/-- The records so far. -/
def results : Place κ → Table Result
  | between _ t _ => t
  | within _ _ t _ => t

/-- What the run has seen last of what is shared. -/
def shared : Place κ → Shared κ
  | between _ _ world => world.state
  | within _ _ _ pool => pool.world.state

/-- The same place when others have changed what is shared. -/
def withShared (s : Shared κ) : Place κ → Place κ
  | between k t world => between k t (world.withState s)
  | within k phase t pool => within k phase t { pool with world := pool.world.withState s }

@[simp]
theorem withShared_shared (place : Place κ) : place.withShared place.shared = place := by
  cases place <;> rfl

end Place

/-- A run among others: what it has been given, and how far it has come. -/
structure Party (κ : Type) where
  plan : Plan
  scope : Scope
  initial : Fields
  place : Place κ

namespace Engine

/-- One step of a run, with the calls that it makes. -/
inductive Goes (e : Engine κ) (plan : Plan) (scope : Scope) (initial : Fields) :
    Place κ → List Call → Place κ → Prop
  /-- A phase starts, unless the run has been cancelled or has to stop. -/
  | start {k t world phase} (hk : plan.phases[k]? = some phase) (hgo : world.cancelled = false)
    (hunfailed : e.stopOnError = true → failedIds t = []) :
    Goes e plan scope initial (.between k t world) (plan.phaseCalls initial t phase)
      (.within k phase t (e.phasePool plan scope initial t phase (begun scope k phase world)))
  /-- One of the nodes of the phase goes on. -/
  | drive {k phase t pool pool'} (h : pool.step (e.phasePolicy plan phase) = .ok pool') :
    Goes e plan scope initial (.within k phase t pool) [] (.within k phase t pool')
  /-- All nodes of the phase have ended. -/
  | settle {k phase t pool rs} (h : pool.results? = some rs) :
    Goes e plan scope initial (.within k phase t pool) []
      (.between (k + 1) ((e.takenUp phase rs).foldl addResult t)
        (completed scope k (e.takenUp phase rs) pool.world))

/-- The runs of an engine that share a cache, what they have made of it, and the calls that they have
made. All plans are compiled from one registry, and the cache is `start` at first. A run may join at
any time, in any world. Whoever goes on finds the cache as it is; all else that is shared may have
changed in any way. A node may also be run on its own, with any inputs. Entries may get lost, as they
do where a fault occurs: it leaves the cache as it was, apart from what has been dropped for its
age. -/
inductive Company (e : Engine κ) (r : Registry β) (start : Option Cache) :
    Option Cache → List (Party κ) → List Call → Prop
  | nobody : Company e r start start [] []
  | lose {old cache parties calls} (h : Company e r start (some old) parties calls)
    (hpart : cache.entries.IsPartOf old.entries) : Company e r start (some cache) parties calls
  | join {cache? parties calls} {g : Graph} {plan : Plan}
    (h : Company e r start cache? parties calls) (hplan : g.compile r = .ok plan) (scope : Scope)
    (initial : Fields) (world : World (Shared κ) Event) :
    Company e r start cache? (⟨plan, scope, initial, .between 0 Table.empty world⟩ :: parties) calls
  | go {cache? parties calls j now place} {p : Party κ} {s : Shared κ}
    (h : Company e r start cache? parties calls) (hp : parties[j]? = some p)
    (hs : s.cache? = cache?)
    (hgo : e.Goes p.plan p.scope p.initial (p.place.withShared s) now place) :
    Company e r start place.shared.cache? (parties.set j { p with place := place }) (now ++ calls)
  | node {parties calls} {scope : Scope} {c : Call} {world after : World (Shared κ) Event}
    {x : Result} (h : Company e r start world.state.cache? parties calls)
    (hmanifest : r.manifest? c.step.node.type = some c.step.manifest)
    (hrun : ((e.execute { scope with nodeId := c.nodeId } c.step c.inputs).mapNews
      (Event.node scope.executionId c.nodeId)).run world = .ok (after, x)) :
    Company e r start after.state.cache? parties (c :: calls)

variable {e : Engine κ} {r : Registry β} {g : Graph} {plan : Plan} {scope : Scope}
  {initial : Fields} {F : Manifest → Fields → Fields → Outcome → Prop} {C : Option Cache → Prop}
  {k : Nat} {phase : Phase} {t : Table Result} {place place' : Place κ}
  {start cache? : Option Cache} {parties : List (Party κ)} {calls now : List Call}

/-! ### What is known of a record -/

/-- A call has come to its record by one of the ways, with an outcome that it may have if nothing is
dispatched but what `F` says. -/
def Explains (e : Engine κ) (F : Manifest → Fields → Fields → Outcome → Prop) (scope : Scope)
    (c : Call) (x : Result) : Prop :=
  c.Yields (Call.MayEnd (.ofManifest F)) x ∧
    e.Exit { scope with nodeId := c.nodeId } c.step c.inputs x

/-- After the first `k` phases of a plan there are records of their nodes, and each record is that of
a step, with inputs gathered from the records. All that the step is bound to is there, so that they
are the same when others have come. -/
structure IsBacked (e : Engine κ) (F : Manifest → Fields → Fields → Outcome → Prop) (plan : Plan)
    (scope : Scope) (initial : Fields) (k : Nat) (t : Table Result) : Prop where
  contains : ∀ id ∈ (plan.phases.take k).flatMap (·.nodeIds), t.contains id = true
  explains : ∀ id x, t.get? id = some x → ∃ step, plan.step? id = some step ∧
    (∀ b ∈ step.bindings, ∀ source port, b.source = .node source port →
      t.contains source = true) ∧
    e.Explains F scope ⟨step, gather step t initial⟩ x

/-- What is known of a run wherever it has come to, if `C` holds of the cache all along. -/
def IsKeptAt (e : Engine κ) (C : Option Cache → Prop)
    (F : Manifest → Fields → Fields → Outcome → Prop) (plan : Plan) (scope : Scope)
    (initial : Fields) : Place κ → Prop
  | .between k t _ => e.IsBacked F plan scope initial k t
  | .within k phase t pool => e.IsBacked F plan scope initial k t ∧ plan.phases[k]? = some phase ∧
    pool.pieces.length = (plan.phaseCalls initial t phase).length ∧
    pool.IsKept ((anyTerms κ).shared C) (nodeOf (plan.phaseCalls initial t phase))
      fun j _ _ x => ∃ c, (plan.phaseCalls initial t phase)[j]? = some c ∧ e.Explains F scope c x

theorem IsKeptAt.exists_isBacked (h : e.IsKeptAt C F plan scope initial place) :
    ∃ k, e.IsBacked F plan scope initial k place.results := by
  cases place with
  | between => exact ⟨_, h⟩
  | within => exact ⟨_, h.1⟩

theorem IsBacked.empty : e.IsBacked F plan scope initial 0 Table.empty := by
  refine ⟨fun id hid => ?_, fun id x hx => ?_⟩
  · cases hid
  · rw [Table.get?_empty] at hx
    cases hx

/-- A record of success goes back to a call that may succeed with its outputs. -/
theorem IsBacked.exists_mayEnd (h : e.IsBacked F plan scope initial k t) {id : String} {x : Result}
    (hx : t.get? id = some x) (hsuccess : x.success = true) : ∃ step, plan.step? id = some step ∧
      Call.MayEnd (.ofManifest F) ⟨step, gather step t initial⟩ (.ok x.outputs) := by
  obtain ⟨step, hstep, -, ⟨o, ho, hbare⟩, -⟩ := h.explains id x hx
  obtain ⟨outputs, rfl, houtputs⟩ := Result.outputs_of_success hbare hsuccess
  exact ⟨step, hstep, houtputs ▸ ho⟩

/-- An execution of a call that gets along with the cache explains its record. -/
theorem GivesOnly.ensures_explains (hF : e.GivesOnly F) (scope : Scope) {c : Call}
    (hc : e.Respects C (c.MayEnd (.ofManifest F)) c) {s : Shared κ} (hs : C s.cache?) (u : Nat) :
    (e.execute { scope with nodeId := c.nodeId } c.step c.inputs).Ensures
      ((anyTerms κ).shared C) c.nodeId (fun _ _ x => e.Explains F scope c x) u s :=
  (hF.delivers hc u s ⟨hs, trivial⟩).and_of_tells fun _ _ htells => exit_of_tells htells

/-- **The records of a phase that has ended are added** to those that there are. -/
theorem IsBacked.foldl (h : e.IsBacked F plan scope initial k t) (hstaged : plan.IsStaged)
    (hk : plan.phases[k]? = some phase) {found : List Result}
    (hyield : Call.YieldAll (Call.MayEnd (.ofManifest F)) (plan.phaseCalls initial t phase) found)
    (hfound : ∀ x ∈ found, ∃ c ∈ plan.phaseCalls initial t phase, e.Explains F scope c x) :
    e.IsBacked F plan scope initial (k + 1) (found.foldl addResult t) := by
  have hphase := hstaged.stagedFrom_cons hk
  have ht : ∀ id, (False ∨ id ∈ (plan.phases.take k).flatMap (·.nodeIds)) → t.contains id = true :=
    fun id hid => h.contains id (hid.resolve_left not_false)
  have hpart : t.IsPartOf (found.foldl addResult t) := isPartOf_foldl_addResult found t
  refine ⟨fun id hid => ?contains, fun id x hx => ?explains⟩
  case contains =>
    refine hphase.contains_foldl ht hyield ?_
    rw [List.take_add_one, hk, List.flatMap_append, List.mem_append] at hid
    exact hid.imp .inr fun hid => by simpa using hid
  case explains =>
    -- what the inputs are gathered from was there before
    have hkept {step : Step} (hsources : ∀ b ∈ step.bindings, ∀ source port,
        b.source = .node source port → t.contains source = true) :
        (∀ b ∈ step.bindings, ∀ source port, b.source = .node source port →
          (found.foldl addResult t).contains source = true) ∧
        gather step t initial = gather step (found.foldl addResult t) initial :=
      ⟨fun b hb source port hs => hpart.contains (hsources b hb source port hs),
        Plan.gather_eq_of_isPartOf hpart hsources⟩
    rw [get?_foldl_addResult, Option.or_eq_some_iff] at hx
    obtain hold | ⟨-, hfind⟩ := hx
    · obtain ⟨step, hstep, hsources, hexplains⟩ := h.explains id x hold
      exact ⟨step, hstep, (hkept hsources).1, (hkept hsources).2 ▸ hexplains⟩
    · obtain ⟨c, hc, hexplains⟩ := hfound x (List.mem_of_find?_eq_some hfind)
      obtain ⟨-, hstep, hinputs, hknown⟩ := hphase.of_mem_phaseCalls hc
      have hsources : ∀ b ∈ c.step.bindings, ∀ source port, b.source = .node source port →
          t.contains source = true :=
        fun b hb source port hs => ht source (hknown b hb source port hs)
      have hid : c.nodeId = id := by
        rw [← hexplains.1.nodeId_eq]
        simpa using List.find?_some hfind
      refine ⟨c.step, hid ▸ hstep, (hkept hsources).1, ?_⟩
      rw [← (hkept hsources).2, ← hinputs]
      exact hexplains

/-! ### One step -/

/-- Others may change what is shared. -/
theorem IsKeptAt.withShared (h : e.IsKeptAt C F plan scope initial place) {s : Shared κ}
    (hs : C s.cache?) : e.IsKeptAt C F plan scope initial (place.withShared s) := by
  cases place with
  | between => exact h
  | within =>
    obtain ⟨hback, hk, hlength, hkept⟩ := h
    exact ⟨hback, hk, hlength, hkept.disturb ⟨hs, trivial⟩ fun _ => trivial⟩

/-- **A step keeps to the terms**, if the calls that it makes get along with the cache. -/
theorem IsKeptAt.goes (h : e.IsKeptAt C F plan scope initial place) (hF : e.GivesOnly F)
    (hstaged : plan.IsStaged) (hs : C place.shared.cache?)
    (hgo : e.Goes plan scope initial place now place')
    (hnow : ∀ c ∈ now, e.Respects C (c.MayEnd (.ofManifest F)) c) :
    C place'.shared.cache? ∧ e.IsKeptAt C F plan scope initial place' := by
  cases hgo with
  | @start k t world phase hk =>
    have hmeets : (begun scope k phase world).Meets ((anyTerms κ).shared C) := meets_anyTerms hs
    have hkept := isKept_phasePool_of hmeets fun c hc u =>
      hF.ensures_explains scope (hnow c hc) hs u
    exact ⟨hkept.meets.state.1, h, hk, length_phasePool, hkept⟩
  | @drive k phase t pool pool' hstep =>
    obtain ⟨hback, hk, hlength, hkept⟩ := h
    have hids : ((plan.phaseCalls initial t phase).map (·.nodeId)).Nodup :=
      (hstaged.stagedFrom_cons hk).nodup_phaseCalls t
    have hpool : (e.phasePool plan scope initial t phase pool.world).pieces.length =
        pool.pieces.length := length_phasePool.trans hlength.symm
    have hkept' := hkept.step
      (fun j l hj hl => nodeOf_ne hids j l (hpool.symm ▸ hj) (hpool.symm ▸ hl)) hstep
    exact ⟨hkept'.meets.state.1, hback, hk, (Pool.length_pieces_step hstep).trans hlength, hkept'⟩
  | @settle k phase t pool rs hrs =>
    obtain ⟨hback, hk, hlength, hkept⟩ := h
    obtain ⟨hsettled, hended⟩ := hkept.results hrs
    have hexplained (j : Nat) (y : Nat × Result) (hj : rs[j]? = some y) :
        ∃ c, (plan.phaseCalls initial t phase)[j]? = some c ∧ e.Explains F scope c y.2 := by
      obtain ⟨-, -, -, -, hc⟩ := hended j y hj
      exact hc
    have hyield := e.yieldAll_takenUp phase (hsettled.trans hlength) fun j y hj =>
      (hexplained j y hj).imp fun _ hc => ⟨hc.1, hc.2.1⟩
    refine ⟨hs, hback.foldl hstaged hk hyield fun x hx => ?_⟩
    obtain ⟨y, hy, rfl⟩ := List.mem_map.mp ((e.takenUp_perm phase rs).mem_iff.mp hx)
    obtain ⟨j, hj⟩ := List.mem_iff_getElem?.mp hy
    obtain ⟨c, hc, hexplains⟩ := hexplained j y hj
    exact ⟨c, List.mem_of_getElem? hc, hexplains⟩

theorem Goes.exists_step? (h : e.Goes plan scope initial place now place') {c : Call}
    (hc : c ∈ now) : ∃ id, plan.step? id = some c.step := by
  cases h with
  | start => exact Plan.exists_step?_of_mem_phaseCalls hc
  | drive | settle => cases hc

/-! ### Any number of steps -/

/-- **A company keeps to the terms at any time**, if its calls get along with the cache, which may
lose entries. -/
theorem Company.isKeptAt (h : e.Company r start cache? parties calls) (hF : e.GivesOnly F)
    (hstart : C start) (hcalls : ∀ c ∈ calls, e.Respects C (c.MayEnd (.ofManifest F)) c)
    (hlose : ∀ old cache : Cache, C (some old) → cache.entries.IsPartOf old.entries →
      C (some cache)) :
    C cache? ∧
      ∀ p ∈ parties, p.plan.IsStaged ∧ e.IsKeptAt C F p.plan p.scope p.initial p.place := by
  induction h with
  | nobody => exact ⟨hstart, List.forall_mem_nil _⟩
  | lose _ hpart ih =>
    obtain ⟨hold, hparties⟩ := ih hcalls
    exact ⟨hlose _ _ hold hpart, hparties⟩
  | join _ hplan _ _ _ ih =>
    obtain ⟨hcache, hparties⟩ := ih hcalls
    refine ⟨hcache, List.forall_mem_cons.mpr ⟨?_, hparties⟩⟩
    exact ⟨(Graph.isPlan_of_compile hplan).1.isStaged, .empty⟩
  | @go cache? parties calls j now place p s _ hp hs hgo ih =>
    obtain ⟨hcache, hparties⟩ := ih fun c hc => hcalls c (List.mem_append_right _ hc)
    obtain ⟨hstaged, hkept⟩ := hparties p (List.mem_of_getElem? hp)
    have hfound : C (p.place.withShared s).shared.cache? := by
      cases p.place <;> exact hs ▸ hcache
    obtain ⟨hafter, hkept'⟩ := (hkept.withShared (hs ▸ hcache)).goes hF hstaged hfound hgo
      fun c hc => hcalls c (List.mem_append_left _ hc)
    refine ⟨hafter, fun q hq => ?_⟩
    rcases List.mem_or_eq_of_mem_set hq with hq | rfl
    · exact hparties q hq
    · exact ⟨hstaged, hkept'⟩
  | @node parties calls scope c world after x _ _ hrun ih =>
    obtain ⟨hcache, hparties⟩ := ih fun c hc => hcalls c (List.mem_cons_of_mem _ hc)
    have hensures := hF.ensures_explains scope (hcalls c List.mem_cons_self) hcache world.now
    obtain ⟨hmeets, -⟩ := (hensures.mapNews (Event.node scope.executionId c.nodeId)).run
      (meets_anyTerms hcache) (Terms.refl _ _ _) hrun
    exact ⟨hmeets.state.1, hparties⟩

/-- The types of all calls are registered. -/
theorem Company.manifest?_eq (h : e.Company r start cache? parties calls) :
    (∀ p ∈ parties, ∃ g : Graph, g.IsPlan r p.plan) ∧
      ∀ c ∈ calls, r.manifest? c.step.node.type = some c.step.manifest := by
  induction h with
  | nobody => exact ⟨List.forall_mem_nil _, List.forall_mem_nil _⟩
  | lose _ _ ih => exact ih
  | join _ hplan _ _ _ ih =>
    exact ⟨List.forall_mem_cons.mpr ⟨⟨_, (Graph.isPlan_of_compile hplan).1⟩, ih.1⟩, ih.2⟩
  | @go cache? parties calls j now place p s _ hp _ hgo ih =>
    obtain ⟨hplans, hcalls⟩ := ih
    obtain ⟨g, hg⟩ := hplans p (List.mem_of_getElem? hp)
    refine ⟨fun q hq => ?_, fun c hc => ?_⟩
    · rcases List.mem_or_eq_of_mem_set hq with hq | rfl
      · exact hplans q hq
      · exact ⟨g, hg⟩
    · rcases List.mem_append.mp hc with hc | hc
      · obtain ⟨id, hid⟩ := hgo.exists_step? hc
        exact hg.manifest?_eq hid
      · exact hcalls c hc
  | node _ hmanifest _ ih => exact ⟨ih.1, List.forall_mem_cons.mpr ⟨hmanifest, ih.2⟩⟩

/-! ### What the cache holds, and records -/

/-- Without a cache, each record of each run is explained. -/
theorem Company.exists_isBacked_of_none (h : e.Company r none cache? parties calls)
    (hF : e.GivesOnly F) {p : Party κ} (hp : p ∈ parties) :
    ∃ k, e.IsBacked F p.plan p.scope p.initial k p.place.results := by
  have hkept := h.isKeptAt hF (C := (· = none)) rfl (fun c _ => e.respects_none _ c) nofun
  exact (hkept.2 p hp).2.exists_isBacked

/-- **With a cache that was empty at first, each entry goes back to a call**, whatever bodies do and
however the runs take turns, and each record of each run is explained. The digest has to tell apart
what has been hashed. -/
theorem Company.holdsOnly {old : Cache} (h : e.Company r (some old) cache? parties calls)
    (hF : e.GivesOnly F) (hr : r.Reachable) (hempty : old.entries = Table.empty)
    (hdigest : e.TellsApart calls) :
    e.HoldsOnly (Call.MayEnd (.ofManifest F)) calls cache? ∧
      ∀ p ∈ parties, ∃ k, e.IsBacked F p.plan p.scope p.initial k p.place.results := by
  have hstart : e.HoldsOnly (Call.MayEnd (.ofManifest F)) calls (some old) := by
    rintro _ ⟨⟩ key entry hentry
    rw [hempty] at hentry
    cases hentry
  have hlose (old cache : Cache)
      (hholds : e.HoldsOnly (Call.MayEnd (.ofManifest F)) calls (some old))
      (hpart : cache.entries.IsPartOf old.entries) :
      e.HoldsOnly (Call.MayEnd (.ofManifest F)) calls (some cache) := by
    rintro _ ⟨⟩ key entry hentry
    exact hholds old rfl key entry (hpart key entry hentry)
  obtain ⟨hcache, hparties⟩ := h.isKeptAt hF hstart
    (fun c hc => hdigest.respects hr h.manifest?_eq.2 hc) hlose
  exact ⟨hcache, fun p hp => (hparties p hp).2.exists_isBacked⟩

/-! ### Companies that follow one another -/

/-- **A company may go on with what another one has left**, and both are one. -/
theorem Company.append {there : Option Cache} {others : List (Party κ)} {earlier : List Call}
    (h : e.Company r start there others earlier) (h' : e.Company r there cache? parties calls) :
    e.Company r start cache? (parties ++ others) (calls ++ earlier) := by
  induction h' with
  | nobody => exact h
  | lose _ hpart ih => exact ih.lose hpart
  | join _ hplan scope initial world ih => exact ih.join hplan scope initial world
  | @go cache? parties calls j now place p s _ hp hs hgo ih =>
    obtain ⟨hlt, -⟩ := List.getElem?_eq_some_iff.mp hp
    have hp' : (parties ++ others)[j]? = some p := by rw [List.getElem?_append_left hlt, hp]
    rw [List.append_assoc, ← List.set_append_left _ _ hlt]
    exact ih.go hp' hs hgo
  | node _ hmanifest hrun ih => exact ih.node hmanifest hrun

/-! ### From the start to the end -/

/-- Whoever goes on next after joining finds what is shared as he has left it. -/
theorem Company.goFirst
    (h : e.Company r start place.shared.cache? (⟨plan, scope, initial, place⟩ :: parties) calls)
    (hgo : e.Goes plan scope initial place now place') :
    e.Company r start place'.shared.cache? (⟨plan, scope, initial, place'⟩ :: parties)
      (now ++ calls) :=
  h.go (j := 0) rfl rfl (place.withShared_shared.symm ▸ hgo)

/-- The nodes of a phase go on in company. -/
theorem Company.leadsFirst {pool pool' : Pool (Shared κ) Event Result}
    (h : e.Company r start pool.world.state.cache?
      (⟨plan, scope, initial, .within k phase t pool⟩ :: parties) calls)
    (hleads : Pool.Leads (e.phasePolicy plan phase) pool pool') :
    e.Company r start pool'.world.state.cache?
      (⟨plan, scope, initial, .within k phase t pool'⟩ :: parties) calls := by
  induction hleads with
  | refl => exact h
  | tail _ hstep ih => exact ih.goFirst (.drive hstep)

/-- The phases of a run are gone through in company. -/
theorem Company.exists_of_runPhases {phases : List Phase} {known : String → Prop}
    {world after : World (Shared κ) Event} {t' : Table Result} {ending : Ending}
    (hrun : e.runPhases plan scope initial k t world phases = .ok (after, t', ending))
    (h : e.Company r start world.state.cache?
      (⟨plan, scope, initial, .between k t world⟩ :: parties) calls)
    (hphases : plan.phases.drop k = phases) (hstaged : plan.StagedFrom known phases)
    (ht : ∀ id, known id → t.contains id = true) :
    ∃ place now, e.Company r start after.state.cache?
        (⟨plan, scope, initial, place⟩ :: parties) (now ++ calls) ∧
      place.results = t' ∧ now ⊆ plan.callsOf initial t' := by
  induction phases generalizing k t world known calls with
  | nil =>
    cases hrun
    exact ⟨_, [], h, rfl, List.nil_subset _⟩
  | cons phase rest ih =>
    cases runPhases_cons_iff.mp hrun with
    | cancelled | stopped => exact ⟨_, [], h, rfl, List.nil_subset _⟩
    | phase hgo hunfailed hphase hrest =>
      have hk : plan.phases[k]? = some phase := by
        rw [← List.head?_drop, hphases, List.head?_cons]
      have hids : ((plan.phaseCalls initial t phase).map (·.nodeId)).Nodup :=
        hstaged.nodup_phaseCalls t
      have hyield := runPhase_yieldAny hids hphase
      have hcalled := hstaged.phaseCalls_subset ht (fun id hid => List.mem_flatMap.mpr
        ⟨phase, List.mem_of_getElem? hk, hid⟩) hyield (runPhases_isPartOf hrest)
      obtain ⟨rs, hpool, rfl⟩ := exists_run_of_runPhase hphase
      obtain ⟨pool, hleads, rfl, hrs⟩ := Pool.exists_leads_of_run hpool
      have hsettled := ((h.goFirst (.start hk hgo hunfailed)).leadsFirst hleads).goFirst
        (.settle hrs)
      obtain ⟨place, now, hcompany, hresults, hsub⟩ := ih hrest hsettled
        (by rw [← List.drop_drop, hphases, List.drop_succ_cons, List.drop_zero]) hstaged.2.2
        fun id hid => hstaged.contains_foldl ht hyield hid
      refine ⟨place, now ++ plan.phaseCalls initial t phase, ?_, hresults,
        List.append_subset.mpr ⟨hsub, hcalled⟩⟩
      rwa [List.append_assoc]

/-- **A run may go from its start to its end**, whoever else has been there before. It has then made
the calls that it has records of. -/
theorem Company.exists_of_runPlan {world after : World (Shared κ) Event} {run : RunResults}
    (h : e.Company r start world.state.cache? parties calls) (hplan : g.compile r = .ok plan)
    (hrun : e.runPlan plan scope initial world = .ok (after, run)) :
    ∃ place now, e.Company r start after.state.cache?
        (⟨plan, scope, initial, place⟩ :: parties) (now ++ calls) ∧
      place.results = run.results ∧ now ⊆ plan.callsOf initial run.results := by
  have hstaged := (Graph.isPlan_of_compile hplan).1.isStaged
  obtain ⟨last, t, ending, hphases, rfl, rfl⟩ := (runPlan_eq_ok_iff hstaged).mp hrun
  obtain ⟨place, now, hcompany, hend⟩ := Company.exists_of_runPhases hphases
    (h.join hplan scope initial _) rfl hstaged fun _ h => h.elim
  exact ⟨place, now, hcompany, hend⟩

/-- **A run on its own is in company.** -/
theorem exists_company_of_runPlan (hplan : g.compile r = .ok plan)
    {world after : World (Shared κ) Event} {run : RunResults}
    (hrun : e.runPlan plan scope initial world = .ok (after, run)) :
    ∃ place calls, e.Company r world.state.cache? after.state.cache?
        [⟨plan, scope, initial, place⟩] calls ∧ place.results = run.results ∧
      calls ⊆ plan.callsOf initial run.results := by
  obtain ⟨place, now, hcompany, hend⟩ := Company.nobody.exists_of_runPlan hplan hrun
  rw [List.append_nil] at hcompany
  exact ⟨place, now, hcompany, hend⟩

end Engine

end PortGraph
