import Mathlib.Data.Set.Function
import PortGraph.Proofs.Engine.Company

/-!
# What a cache holds at any time

A hit ends a node before anything is held against its manifest. So it is for the cache to hold
nothing but what has passed validation. It does at any time of any of the runs of an engine, be it
in the middle of a phase, with some nodes under way and others done: each entry goes back to a call
that was held against its manifest in all respects before its outputs were stored. What bodies do
and when runs are cancelled does not matter, nor how far the runs come, nor whether they take turns.

So runs may begin with what others have left, and their records are no worse for it.

## Main definitions

* `Manifest.Admits`: inputs, a configuration and outputs that are valid
* `Engine.Fills`: what the runs of an engine make of a cache that is empty at first
* `Engine.MayBeginWith`: what runs may find of a cache at first

## Main results

* `Engine.Fills.all_holds`: each entry goes back to a call
* `Engine.Company.exists_isBacked`: each record of each run is explained
* `Engine.admits_of_fills`: entries, hits and records are valid
-/

namespace PortGraph

variable {β κ : Type}

/-! ### Valid calls -/

/-- Inputs, a configuration and outputs that are valid for a type. -/
structure Manifest.Admits (m : Manifest) (inputs config outputs : Fields) : Prop where
  validateInputs : m.validateInputs inputs = .ok ()
  validateConfig : ∃ normalized, m.validateConfig config = .ok normalized
  validateOutputs : m.validateOutputs outputs = .ok ()

/-- **A call that succeeds is valid in all respects.** -/
theorem Call.MayEnd.admits {F : NodeRelation} {c : Call} {outputs : Fields}
    (h : c.MayEnd F (.ok outputs)) :
    c.step.manifest.Admits c.inputs c.step.node.config outputs := by
  have houtputs := h.validateOutputs
  generalize ho : Except.ok outputs = o at h
  cases h with
  | inputs => cases ho
  | config => cases ho
  | body hinputs hconfig => exact ⟨hinputs, ⟨_, hconfig⟩, houtputs⟩

namespace Engine

variable {e : Engine κ} {r : Registry β} {F : Manifest → Fields → Fields → Outcome → Prop}
  {cache : Cache} {start cache? : Option Cache} {parties : List (Party κ)} {calls : List Call}

/-! ### What runs leave in the cache -/

/-- What the runs of an engine make of its cache, which is empty at first, and the calls that they
have made. -/
def Fills (e : Engine κ) (r : Registry β) (cache : Cache) (calls : List Call) : Prop :=
  ∃ (first : Cache) (parties : List (Party κ)), first.entries = Table.empty ∧
    e.Company r (some first) (some cache) parties calls

theorem Fills.of_empty (h : cache.entries = Table.empty) : e.Fills r cache [] :=
  ⟨cache, [], h, .nobody⟩

theorem Fills.manifest?_eq (h : e.Fills r cache calls) {c : Call} (hc : c ∈ calls) :
    r.manifest? c.step.node.type = some c.step.manifest := by
  obtain ⟨first, parties, -, hcompany⟩ := h
  exact hcompany.manifest?_eq.2 c hc

/-- **Each entry goes back to a call**, and holds outputs that were found valid for it, if the
digest tells apart what has been hashed. -/
theorem Fills.all_holds (h : e.Fills r cache calls) (hF : e.GivesOnly F) (hr : r.Reachable)
    (hdigest : e.TellsApart calls) :
    cache.All (e.Holds (Call.MayEnd (.ofManifest F)) calls) := by
  obtain ⟨first, parties, hempty, hcompany⟩ := h
  exact (hcompany.holdsOnly hF hr hempty hdigest).1 cache rfl

/-- What some runs that make some calls may find of a cache at first: there is none, or there is what
other runs have left in one that was empty, the digest telling apart what has been hashed. -/
inductive MayBeginWith (e : Engine κ) (r : Registry β) (these : List Call) : Option Cache → Prop
  | uncached : MayBeginWith e r these none
  | cached {cache : Cache} {calls : List Call} (h : e.Fills r cache calls)
    (hdigest : e.TellsApart (these ++ calls)) : MayBeginWith e r these (some cache)

theorem MayBeginWith.mono {these : List Call} (h : e.MayBeginWith r these start)
    (hsub : calls ⊆ these) : e.MayBeginWith r calls start := by
  cases h with
  | uncached => exact .uncached
  | cached hfills hdigest =>
    refine .cached hfills (hdigest.mono (List.append_subset.mpr ⟨?_, List.subset_append_right _ _⟩))
    exact List.subset_append_of_subset_left _ hsub

/-- **Each record of each run in a company is explained**, whatever bodies do and however the runs
take turns. -/
theorem Company.exists_isBacked (h : e.Company r start cache? parties calls) (hF : e.GivesOnly F)
    (hr : r.Reachable) (hstart : e.MayBeginWith r calls start) {p : Party κ} (hp : p ∈ parties) :
    ∃ k, e.IsBacked F p.plan p.scope p.initial k p.place.results := by
  cases hstart with
  | uncached => exact h.exists_isBacked_of_none hF hp
  | cached hfills hdigest =>
    obtain ⟨first, others, hempty, hcompany⟩ := hfills
    exact ((hcompany.append h).holdsOnly hF hr hempty hdigest).2 p (List.mem_append_left _ hp)

/-! ### Entries, hits and records -/

theorem tellsApart_of_injOn {S : Set (List UInt8)} (hdigest : S.InjOn e.digest)
    (hcalls : ∀ c ∈ calls, c.cacheable = true → c.bytes ∈ S) : e.TellsApart calls :=
  fun c hc d hd hcc hdc hkey => hdigest (hcalls c hc hcc) (hcalls d hd hdc) hkey

/-- What is stored under a key is valid for whatever the key is made of. -/
theorem Holds.admits (hr : r.Reachable)
    (hmanifest : ∀ c ∈ calls, r.manifest? c.step.node.type = some c.step.manifest)
    {S : Set (List UInt8)} (hdigest : S.InjOn e.digest)
    (hcalls : ∀ c ∈ calls, c.cacheable = true → c.bytes ∈ S) {type : String}
    {inputs config outputs : Fields} (hS : CacheKey.bytes type inputs config ∈ S)
    (h : e.Holds (Call.MayEnd (.ofManifest F)) calls
      (e.digest (CacheKey.bytes type inputs config)) outputs) :
    ∃ m, r.manifest? type = some m ∧ m.capabilities.cacheable = true ∧
      m.Admits inputs config outputs := by
  obtain ⟨c, hc, hcacheable, hkey, hvalid⟩ := h
  have hbytes : c.bytes = CacheKey.bytes type inputs config :=
    hdigest (hcalls c hc hcacheable) hS hkey
  obtain ⟨rfl, rfl, rfl⟩ := CacheKey.bytes_injective hbytes
  refine ⟨c.step.manifest, ?_, hcacheable, hvalid.admits⟩
  rw [hr.type_eq (hmanifest c hc)]
  exact hmanifest c hc

/-- **The cache holds nothing but what validation lets pass.** Take an engine whose cache is empty
at first, and any runs of it with plans compiled from one registry, one after the other or taking
turns, each of them left off at whatever time, and of single nodes. The bodies may do what they
like, and the runs may be cancelled. The digest has no collision among the byte strings `S`, which
include those of which the runs have made keys.

Then each entry stands under the key of a type with inputs and a configuration. The type makes use
of the cache, and the inputs, the configuration and the outputs of the entry are valid for it. So is
whatever is looked up with success; and a run that begins with this cache and comes to its end has
no record of success but with valid inputs, a valid configuration and valid outputs, wherever the
outputs come from. -/
theorem admits_of_fills (e : Engine κ) (r : Registry β) (hr : r.Reachable) (S : Set (List UInt8))
    (hdigest : S.InjOn e.digest) (cache : Cache) (calls : List Call) (h : e.Fills r cache calls)
    (hcalls : ∀ c ∈ calls, c.cacheable = true → c.bytes ∈ S) :
    (∀ key entry, cache.entries.get? key = some entry → ∃ type inputs config,
      CacheKey.bytes type inputs config ∈ S ∧
        e.digest (CacheKey.bytes type inputs config) = key) ∧
    (∀ type inputs config entry, CacheKey.bytes type inputs config ∈ S →
      cache.entries.get? (e.digest (CacheKey.bytes type inputs config)) = some entry →
        ∃ m, r.manifest? type = some m ∧ m.capabilities.cacheable = true ∧
          m.Admits inputs config entry.outputs) ∧
    (∀ step inputs now outputs, r.manifest? step.node.type = some step.manifest →
      CacheKey.bytes step.manifest.type inputs step.node.config ∈ S →
        (cache.lookup now (e.keyOf step inputs)).1 = some outputs →
          step.manifest.Admits inputs step.node.config outputs) ∧
    ∀ (g : Graph) plan scope initial (world after : World (Shared κ) Event) run,
      g.compile r = .ok plan → world.state.cache? = some cache →
      e.runPlan plan scope initial world = .ok (after, run) →
      (∀ c ∈ plan.callsOf initial run.results, c.cacheable = true → c.bytes ∈ S) →
        ∀ id x, run.get? id = some x → x.success = true → ∃ step, plan.step? id = some step ∧
          step.manifest.Admits (gather step run.results initial) step.node.config x.outputs := by
  have hall := h.all_holds e.givesOnly_true hr (tellsApart_of_injOn hdigest hcalls)
  refine ⟨?keys, ?entries, ?hits, ?records⟩
  case keys =>
    intro key entry hentry
    obtain ⟨c, hc, hcacheable, hkey, -⟩ := hall key entry hentry
    exact ⟨_, _, _, hcalls c hc hcacheable, hkey⟩
  case entries =>
    intro type inputs config entry hS hentry
    exact (hall _ entry hentry).admits hr (fun _ => h.manifest?_eq) hdigest hcalls hS
  case hits =>
    intro step inputs now outputs hmanifest hS hfound
    obtain ⟨m, hm, -, hadmits⟩ :=
      (hall.of_lookup hfound).admits hr (fun _ => h.manifest?_eq) hdigest hcalls hS
    rw [hr.type_eq hmanifest, hmanifest] at hm
    cases hm
    exact hadmits
  case records =>
    intro g plan scope initial world after run hplan hworld hrun hthese id x hx hsuccess
    have hbegins : e.MayBeginWith r (plan.callsOf initial run.results) world.state.cache? := by
      refine hworld ▸ .cached h (tellsApart_of_injOn hdigest fun c hc => ?_)
      exact (List.mem_append.mp hc).elim (hthese c) (hcalls c)
    obtain ⟨place, now, hcompany, hresults, hsub⟩ := exists_company_of_runPlan hplan hrun
    obtain ⟨k, hbacked⟩ := hcompany.exists_isBacked e.givesOnly_true hr (hbegins.mono hsub)
      (List.mem_singleton.mpr rfl)
    have hx' : place.results.get? id = some x := hresults ▸ hx
    obtain ⟨step, hstep, hcall⟩ := hbacked.exists_mayEnd hx' hsuccess
    exact ⟨step, hstep, hresults ▸ hcall.admits⟩

/-! ### In the middle of a phase -/

/-- An engine whose bodies compute their sums at once. -/
def promptEngine : Engine Unit where
  registry := Graph.sampleRegistry
  backend := ⟨"prompt", fun i => .done ⟨sampleBody i.manifest.type i.inputs i.config, 1⟩⟩

/-- The world in which a run with an empty cache begins. -/
def promptWorld : World (Shared Unit) Event := .start 0 ⟨some (.new none none), ()⟩

/-- The nodes of its first phase in that run. -/
def sourcePool : Pool (Shared Unit) Event Result :=
  promptEngine.phasePool Graph.samplePlan ⟨"run", "sample", "", none⟩ Table.empty Table.empty
    sourcePhase ((promptWorld.tell (.run "run"
      (.started Graph.samplePlan.graphId (.ofNat Graph.samplePlan.phases.length)))).tell
        (.run "run" (.phaseStarted 0 sourcePhase.nodeIds sourcePhase.parallel)))

/-- What the key of a source is made of. -/
def sourceBytes : List UInt8 := CacheKey.bytes "source" Table.empty Table.empty

/-- The cache when the source `q` has ended. -/
def sourceCache : Cache where
  entries := Table.empty.insert (CacheKey.digest sourceBytes)
    ⟨Table.empty.insert "x" (.num (.whole 2)), 0⟩
  lifetime := none
  capacity := none
  hits := 0
  misses := 1

/-- After one step `q` has ended, and `p` has not. -/
theorem exists_step_sourcePool : ∃ pool,
    sourcePool.step (promptEngine.phasePolicy Graph.samplePlan sourcePhase) = .ok pool ∧
      pool.world.state.cache? = some sourceCache ∧
      pool.pieces.map (·.isClosed) = [true, false] := by
  let next := sourcePool.step (promptEngine.phasePolicy Graph.samplePlan sourcePhase)
  have hnext : next.toOption.any (fun pool => pool.world.state.cache? = some sourceCache ∧
      pool.pieces.map (·.isClosed) = [true, false]) = true := by decide +kernel
  obtain ⟨pool, hpool, hfound⟩ := (Option.any_eq_true _ _).mp hnext
  have hok : next = .ok pool := by
    cases h : next with
    | error cause => simp [h, Except.toOption] at hpool
    | ok q => simpa [h, Except.toOption] using hpool
  exact ⟨pool, hok, of_decide_eq_true hfound⟩

/-- A run that is left off there has filled the cache. -/
theorem fills_sourceCache : promptEngine.Fills Graph.sampleRegistry sourceCache
    (Graph.samplePlan.phaseCalls Table.empty Table.empty sourcePhase) := by
  obtain ⟨pool, hstep, hcache, -⟩ := exists_step_sourcePool
  have hphase : Graph.samplePlan.phases[0]? = some sourcePhase := by decide +kernel
  let begun := promptWorld.tell
    (.run "run" (.started Graph.samplePlan.graphId (.ofNat Graph.samplePlan.phases.length)))
  have hjoined : promptEngine.Company Graph.sampleRegistry (some (.new none none))
      begun.state.cache? [⟨Graph.samplePlan, ⟨"run", "sample", "", none⟩, Table.empty,
        .between 0 Table.empty begun⟩] [] :=
    Company.nobody.join Graph.compile_sampleGraph _ _ _
  have hgone := (hjoined.goFirst (.start hphase rfl fun _ => rfl)).goFirst (.drive hstep)
  rw [List.nil_append, List.append_nil] at hgone
  exact ⟨.new none none, _, rfl, hcache ▸ hgone⟩

/-- What the source `q` has left in the cache is valid for a source. -/
theorem admits_sourceCache : Graph.sampleRegistry.Reachable ∧
    promptEngine.Fills Graph.sampleRegistry sourceCache
      (Graph.samplePlan.phaseCalls Table.empty Table.empty sourcePhase) ∧
    ∃ m entry, sourceCache.entries.get? (promptEngine.digest sourceBytes) = some entry ∧
      Graph.sampleRegistry.manifest? "source" = some m ∧
      m.Admits Table.empty Table.empty entry.outputs := by
  let S : Set (List UInt8) := {sourceBytes, CacheKey.bytes "sum" Table.empty Table.empty}
  have hne : promptEngine.digest sourceBytes ≠
      promptEngine.digest (CacheKey.bytes "sum" Table.empty Table.empty) := by decide +kernel
  have hdigest : S.InjOn promptEngine.digest := Set.injOn_pair.mpr fun h => absurd h hne
  have hbytes : ∀ c ∈ Graph.samplePlan.phaseCalls Table.empty Table.empty sourcePhase,
      c.bytes = sourceBytes := by decide +kernel
  obtain ⟨-, hentries, -⟩ := admits_of_fills promptEngine Graph.sampleRegistry
    reachable_sampleRegistry S hdigest sourceCache _ fills_sourceCache
    fun c hc _ => .inl (hbytes c hc)
  have hentry : sourceCache.entries.get? (promptEngine.digest sourceBytes) =
      some ⟨Table.empty.insert "x" (.num (.whole 2)), 0⟩ :=
    (Table.get?_insert _ _ _ _).trans (if_pos rfl)
  obtain ⟨m, hm, -, hadmits⟩ := hentries "source" Table.empty Table.empty _ (.inl rfl) hentry
  exact ⟨reachable_sampleRegistry, fills_sourceCache, m, _, hentry, hm, hadmits⟩

end Engine

end PortGraph
