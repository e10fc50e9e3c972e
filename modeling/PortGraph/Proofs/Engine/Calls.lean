import PortGraph.Proofs.Cache.Store
import PortGraph.Proofs.Engine.Dataflow
import PortGraph.Proofs.Work.Ensures

/-!
# Calls

What the call of a node comes to, as far as something is known of its body. What is known is a
relation: it may be that bodies compute a function, or that they tell of the outcome of a task, or
nothing at all. A call ends with what is wrong with its inputs, or with its configuration, or else
with an outcome of its body that has been held against the manifest. The cache does not add to that
as long as it holds outcomes of calls.

Something may be known of a body in either of two ways. One looks at the body alone, in a run that
nobody cancels, and says that it settles. The other takes into account what the other nodes do in
the meantime, and says nothing of a body that never ends. The engine hands on both.

## Main definitions

* `Call.MayEnd`: the outcomes of a call, given those of its body
* `Engine.Respects`: a call gets along with what a cache holds
* `Engine.HoldsOnly`: a cache holds outcomes of calls

## Main results

* `Engine.respects_holdsOnly`: calls get along with a cache that holds outcomes of calls
* `Engine.settles_execute`: a call settles with a record of one of its outcomes
* `Engine.ensures_execute`: if a call ends, it does so with a record of one of its outcomes
-/

namespace PortGraph

variable {ι κ : Type}

/-! ### Outcomes of calls -/

/-- What may be said of the outcomes of bodies: of a node by its id, its manifest, its inputs and
its configuration, both held against the manifest before. -/
abbrev NodeRelation := String → Manifest → Fields → Fields → Outcome → Prop

/-- The outcome of a body when its outputs have been held against the manifest. -/
def Manifest.check (m : Manifest) (o : Outcome) : Outcome :=
  o.bind fun outputs => (m.validateOutputs outputs).bind fun _ => .ok outputs

/-- An outcome that a call may have, `F` saying which outcomes bodies may have: what is wrong with
its inputs, or else with its configuration, or else an outcome of the body that has been held
against the manifest. -/
inductive Call.MayEnd (F : NodeRelation) (c : Call) : Outcome → Prop
  | inputs {err} (h : c.step.manifest.validateInputs c.inputs = .error err) :
    MayEnd F c (.error err)
  | config {err} (hi : c.step.manifest.validateInputs c.inputs = .ok ())
    (hc : c.step.manifest.validateConfig c.step.node.config = .error err) : MayEnd F c (.error err)
  | body {config o} (hi : c.step.manifest.validateInputs c.inputs = .ok ())
    (hc : c.step.manifest.validateConfig c.step.node.config = .ok config)
    (ho : F c.nodeId c.step.manifest c.inputs config o) : MayEnd F c (c.step.manifest.check o)

/-- Outputs that have been held against the manifest are valid. -/
theorem Manifest.check_eq_ok_iff {m : Manifest} {o : Outcome} {outputs : Fields} :
    m.check o = .ok outputs ↔ o = .ok outputs ∧ m.validateOutputs outputs = .ok () := by
  cases o with
  | error err => simp [check, Except.bind]
  | ok found =>
    cases hv : m.validateOutputs found with
    | error err =>
      simp only [check, hv, Except.bind, Except.ok.injEq, reduceCtorEq, false_iff, not_and]
      rintro rfl hv'
      cases hv.symm.trans hv'
    | ok u =>
      simp only [check, hv, Except.bind, Except.ok.injEq, iff_self_and]
      rintro rfl
      exact hv

/-- **What a call succeeds with** has been given by the body, and is valid, as the inputs and the
configuration were before. -/
theorem Call.MayEnd.exists_of_ok {F : NodeRelation} {c : Call} {outputs : Fields}
    (h : c.MayEnd F (.ok outputs)) : ∃ config, c.step.manifest.validateInputs c.inputs = .ok () ∧
      c.step.manifest.validateConfig c.step.node.config = .ok config ∧
      F c.nodeId c.step.manifest c.inputs config (.ok outputs) ∧
      c.step.manifest.validateOutputs outputs = .ok () := by
  obtain ⟨o, ho⟩ : ∃ o : Outcome, o = .ok outputs := ⟨_, rfl⟩
  rw [← ho] at h
  cases h with
  | inputs => cases ho
  | config => cases ho
  | body hi hc hF =>
    obtain ⟨rfl, hvalid⟩ := Manifest.check_eq_ok_iff.mp ho
    exact ⟨_, hi, hc, hF, hvalid⟩

theorem Call.MayEnd.validateOutputs {F : NodeRelation} {c : Call} {outputs : Fields}
    (h : c.MayEnd F (.ok outputs)) : c.step.manifest.validateOutputs outputs = .ok () := by
  obtain ⟨_, -, -, -, hvalid⟩ := h.exists_of_ok
  exact hvalid

/-- What may be said of bodies that compute a function. -/
def NodeRelation.ofFunction (f : NodeFunction) : NodeRelation :=
  fun id m inputs config o => o = f id m inputs config

/-- A call of a body that computes a function has one outcome. -/
theorem Call.MayEnd.outcome_eq {f : NodeFunction} {c : Call} {o : Outcome}
    (h : c.MayEnd (.ofFunction f) o) : c.outcome f = o := by
  rw [Call.outcome]
  cases h with
  | inputs hi =>
    rw [hi]
    rfl
  | config hi hc =>
    rw [hi, hc]
    rfl
  | body hi hc ho =>
    rw [hi, hc, ho]
    rfl

/-- Whether the type of a call makes use of the cache. -/
def Call.cacheable (c : Call) : Bool := c.step.manifest.capabilities.cacheable

/-- The record of a call, which has one of the outcomes `G`. -/
def Call.Yields (G : Call → Outcome → Prop) (c : Call) (r : Result) : Prop :=
  ∃ o, G c o ∧ r.bare = .ofOutcome c.nodeId o

theorem Call.Yields.nodeId_eq {G : Call → Outcome → Prop} {c : Call} {r : Result}
    (h : c.Yields G r) : r.nodeId = c.nodeId := by
  obtain ⟨o, -, hr⟩ := h
  exact congrArg Result.nodeId hr

/-- The records of some calls, in any order. -/
def Call.YieldAll (G : Call → Outcome → Prop) (calls : List Call) (found : List Result) : Prop :=
  ∃ rs, List.Forall₂ (Call.Yields G) calls rs ∧ found.Perm rs

theorem Call.YieldAll.nodeIds_perm {G : Call → Outcome → Prop} {calls : List Call}
    {found : List Result} (h : Call.YieldAll G calls found) :
    (found.map (·.nodeId)).Perm (calls.map (·.nodeId)) := by
  obtain ⟨rs, hrs, hperm⟩ := h
  have hids : rs.map (·.nodeId) = calls.map (·.nodeId) := by
    clear hperm
    induction hrs with
    | nil => rfl
    | cons hr _ ih => rw [List.map_cons, List.map_cons, hr.nodeId_eq, ih]
  exact hids ▸ hperm.map _

theorem Call.YieldAll.exists_call {G : Call → Outcome → Prop} {calls : List Call}
    {found : List Result} (h : Call.YieldAll G calls found) {r : Result} (hr : r ∈ found) :
    ∃ c ∈ calls, c.Yields G r := by
  obtain ⟨rs, hrs, hperm⟩ := h
  obtain ⟨i, hi⟩ := List.mem_iff_getElem?.mp (hperm.mem_iff.mp hr)
  obtain ⟨hlen, hall⟩ := List.forall₂_iff_get.mp hrs
  obtain ⟨hlt, rfl⟩ := List.getElem?_eq_some_iff.mp hi
  exact ⟨calls[i], List.getElem_mem _, hall i (hlen ▸ hlt) hlt⟩

/-- The records of calls with one outcome each. -/
theorem Call.YieldAll.map_bare {f : NodeFunction} {calls : List Call} {found : List Result}
    (h : Call.YieldAll (fun c o => c.outcome f = o) calls found) :
    (found.map Result.bare).Perm (calls.map (Call.record f)) := by
  obtain ⟨rs, hrs, hperm⟩ := h
  have hrecords : rs.map Result.bare = calls.map (Call.record f) := by
    clear hperm
    induction hrs with
    | nil => rfl
    | cons hr _ ih =>
      obtain ⟨_, rfl, hbare⟩ := hr
      rw [List.map_cons, List.map_cons, hbare, ih, Call.record]
  exact hrecords ▸ hperm.map _

/-! ### What nodes share -/

/-- What the nodes of an engine share satisfies an invariant of the cache and one of the rest. -/
def Shared.Obeys (C : Option Cache → Prop) (J : κ → Prop) (s : Shared κ) : Prop :=
  C s.cache? ∧ J s.host

/-- Looking something up does not concern the bodies. -/
theorem Shared.host_lookup (s : Shared κ) (now : Nat) (key : String) :
    (s.lookup now key).2.host = s.host := by
  simp only [Shared.lookup]
  split <;> rfl

/-- Terms for the whole of what nodes share: an invariant of the cache, and terms for the rest. -/
def Terms.shared (T : Terms ι κ) (C : Option Cache → Prop) : Terms ι (Shared κ) where
  invariant := Shared.Obeys C T.invariant
  rely i s s' := T.rely i s.host s'.host
  mayCancel := T.mayCancel
  refl i s := T.refl i s.host
  trans i := T.trans i

namespace Engine

variable {e : Engine κ} {G : Call → Outcome → Prop} {calls : List Call} {C : Option Cache → Prop}
  {J : κ → Prop} {T : Terms ι κ} {i : ι}

/-- A call whose outcomes are `G` gets along with the invariant `C` of the cache, if its type makes
use of the cache: what it finds is one of its outcomes, and storing one of its outcomes keeps up the
invariant. -/
structure Respects (e : Engine κ) (C : Option Cache → Prop) (G : Outcome → Prop) (c : Call) :
    Prop where
  lookup : c.step.manifest.capabilities.cacheable = true → ∀ (s : Shared κ) now, C s.cache? →
    C (s.lookup now (e.keyOf c.step c.inputs)).2.cache? ∧
      ∀ outputs, (s.lookup now (e.keyOf c.step c.inputs)).1 = some outputs → G (.ok outputs)
  store : c.step.manifest.capabilities.cacheable = true → ∀ (s : Shared κ) now outputs, C s.cache? →
    G (.ok outputs) → C (s.store now (e.keyOf c.step c.inputs) outputs).cache?

/-! ### What a cache may hold -/

/-- Outputs that one of the calls may end with, under its key, the outcomes of calls being `G`. -/
def Holds (e : Engine κ) (G : Call → Outcome → Prop) (calls : List Call) (key : String)
    (outputs : Fields) : Prop :=
  ∃ c ∈ calls, c.cacheable = true ∧ e.keyOf c.step c.inputs = key ∧ G c (.ok outputs)

/-- Whatever cache there is holds nothing else. -/
def HoldsOnly (e : Engine κ) (G : Call → Outcome → Prop) (calls : List Call)
    (cache? : Option Cache) : Prop :=
  ∀ cache, cache? = some cache → cache.All (e.Holds G calls)

theorem Holds.mono {calls' : List Call} (hsub : calls ⊆ calls') {key : String} {outputs : Fields}
    (h : e.Holds G calls key outputs) : e.Holds G calls' key outputs := by
  obtain ⟨c, hc, h⟩ := h
  exact ⟨c, hsub hc, h⟩

/-- Without a cache, every call gets along with what there is. -/
theorem respects_none (e : Engine κ) (G : Outcome → Prop) (c : Call) :
    e.Respects (· = none) G c where
  lookup _ s now hs := by simp [Shared.lookup, hs]
  store _ s now outputs hs _ := by simp [Shared.store, hs]

/-- Of a cache that may hold anything nothing is asked. -/
theorem respects_any (e : Engine κ) (c : Call) : e.Respects (fun _ => True) (fun _ => True) c where
  lookup _ _ _ _ := ⟨trivial, fun _ _ => trivial⟩
  store _ _ _ _ _ _ := trivial

/-- **A call gets along with a cache that holds outcomes of calls**, if calls with the same key may
have the same outcomes. -/
theorem respects_holdsOnly
    (hsame : ∀ c ∈ calls, ∀ d ∈ calls, c.cacheable = true → d.cacheable = true →
      e.keyOf c.step c.inputs = e.keyOf d.step d.inputs → ∀ o, G d o → G c o)
    {c : Call} (hc : c ∈ calls) : e.Respects (e.HoldsOnly G calls) (G c) c where
  lookup hcacheable s now hs := by
    cases hcache : s.cache? with
    | none =>
      simp only [Shared.lookup, hcache]
      constructor
      · rintro cache ⟨⟩
      · rintro outputs ⟨⟩
    | some cache =>
      have hall := hs cache hcache
      simp only [Shared.lookup, hcache]
      refine ⟨?_, fun outputs ho => ?_⟩
      · rintro _ ⟨⟩
        exact hall.lookup now _
      · obtain ⟨d, hd, hdcacheable, hkey, houtcome⟩ := hall.of_lookup ho
        exact hsame c hc d hd hcacheable hdcacheable hkey.symm _ houtcome
  store hcacheable s now outputs hs ho := by
    rintro cache hcache
    obtain ⟨old, hold, rfl⟩ := Option.map_eq_some_iff.mp hcache
    exact (hs old hold).store now ⟨c, hc, hcacheable, rfl, ho⟩

/-! ### Calls in a run that nobody cancels -/

theorem result_checked (m : Manifest) (d : Dispatch) : (checked m d).result = m.check d.result := by
  rw [checked, Manifest.check]
  cases hr : d.result with
  | error err => simp [hr, Except.bind]
  | ok outputs => cases hv : m.validateOutputs outputs <;> simp [hr, hv, Except.bind]

theorem settles_remembered {G : Outcome → Prop} {c : Call} (hc : e.Respects C G c) :
    (e.remembered c.step c.inputs).Settles (Shared.Obeys C J) fun found =>
      ∀ outputs, found = some outputs → G (.ok outputs) := by
  rw [remembered]
  split
  · rename_i hcacheable
    intro m _ s hs
    obtain ⟨hcache, hfound⟩ := hc.lookup hcacheable s m.now hs.1
    exact ⟨⟨hcache, (Shared.host_lookup s m.now _).symm ▸ hs.2⟩, hfound⟩
  · rintro outputs ⟨⟩

theorem settles_remember {G : Outcome → Prop} {c : Call} (hc : e.Respects C G c) {o : Outcome}
    (ho : G o) :
    (e.remember c.step c.inputs o).Settles (Shared.Obeys C J) fun _ => True := by
  cases o with
  | error err => trivial
  | ok outputs =>
    simp only [remember]
    split
    · rename_i hcacheable
      exact fun m _ s hs => ⟨⟨hc.store hcacheable s m.now outputs hs.1 ho, hs.2⟩, trivial⟩
    · trivial

/-- What is dispatched ends with one of the outcomes of the call. -/
theorem settles_invoke {F : NodeRelation} (scope : Scope) (c : Call)
    (hd : ∀ config, (e.backend.dispatch ⟨scope, c.step.manifest, c.inputs, config⟩).Settles J
      fun d => F c.nodeId c.step.manifest c.inputs config d.result) :
    (e.invoke scope c.step c.inputs).Settles (Shared.Obeys C J) fun d => c.MayEnd F d.result := by
  rw [invoke]
  cases hi : c.step.manifest.validateInputs c.inputs with
  | error err => exact .inputs hi
  | ok u =>
    cases hconfig : c.step.manifest.validateConfig c.step.node.config with
    | error err => exact .config hi hconfig
    | ok config =>
      let i' : Invocation := ⟨scope, c.step.manifest, c.inputs, config⟩
      have hwithin : (((e.backend.dispatch i').mapNews DispatchNews.news).within Shared.host
          Shared.withHost).Settles (Shared.Obeys C J) fun d =>
            F c.nodeId c.step.manifest c.inputs config d.result :=
        ((hd config).mapNews _).within (fun s hs => hs.2) fun host s hhost hs => ⟨hs.1, hhost⟩
      refine hwithin.bind fun d hF => ?_
      show c.MayEnd F (checked c.step.manifest d).result
      rw [result_checked]
      exact .body hi hconfig hF

/-- **A call settles with a record of one of its outcomes.** -/
theorem settles_execute {G : Call → Outcome → Prop} (scope : Scope) {c : Call}
    (hc : e.Respects C (G c) c)
    (hd : (e.invoke scope c.step c.inputs).Settles (Shared.Obeys C J) fun d => G c d.result) :
    (e.execute scope c.step c.inputs).Settles (Shared.Obeys C J) (c.Yields G) := by
  have hclose (start : Nat) (cached : Bool) (attempts : UInt32) {o : Outcome} (ho : G c o) :
      (close (κ := κ) scope c.step start cached attempts o).Settles (Shared.Obeys C J)
        (c.Yields G) :=
    fun _ _ => ⟨o, ho, rfl⟩
  intro m _
  refine (settles_remembered hc).bind fun found hfound => ?_
  cases found with
  | some outputs => exact hclose m.now true 0 (hfound outputs rfl)
  | none =>
    refine hd.bind fun d hd => ?_
    exact (settles_remember hc hd).bind fun _ _ => hclose m.now false d.attempts hd

/-! ### Calls among others -/

theorem ensures_remembered {G : Outcome → Prop} {c : Call} (hc : e.Respects C G c) (t : Nat)
    (s : Shared κ) : (e.remembered c.step c.inputs).Ensures (T.shared C) i
      (fun _ _ found => ∀ outputs, found = some outputs → G (.ok outputs)) t s := by
  rw [remembered]
  split
  · rename_i hcacheable
    intro m _ _ s' hI hrely
    obtain ⟨hcache, hfound⟩ := hc.lookup hcacheable s' m.now hI.1
    have hhost := Shared.host_lookup s' m.now (e.keyOf c.step c.inputs)
    refine ⟨⟨hcache, hhost ▸ hI.2⟩, fun j _ => ?_, hfound⟩
    show T.rely j s'.host _
    rw [hhost]
    exact T.refl j _
  · rintro outputs ⟨⟩

theorem ensures_remember {G : Outcome → Prop} {c : Call} (hc : e.Respects C G c) {o : Outcome}
    (ho : G o) (t : Nat) (s : Shared κ) : (e.remember c.step c.inputs o).Ensures (T.shared C) i
      (fun _ _ _ => True) t s := by
  cases o with
  | error err => trivial
  | ok outputs =>
    simp only [remember]
    split
    · rename_i hcacheable
      intro m _ _ s' hI _
      exact ⟨⟨hc.store hcacheable s' m.now outputs hI.1 ho, hI.2⟩, fun j _ => T.refl j _, trivial⟩
    · trivial

/-- What is dispatched ends with one of the outcomes of the call. -/
theorem ensures_invoke {F : NodeRelation} (scope : Scope) (c : Call) {t : Nat} {s : Shared κ}
    (hd : ∀ config, (e.backend.dispatch ⟨scope, c.step.manifest, c.inputs, config⟩).Ensures T i
      (fun _ _ d => F c.nodeId c.step.manifest c.inputs config d.result) t s.host) :
    (e.invoke scope c.step c.inputs).Ensures (T.shared C) i
      (fun _ _ d => c.MayEnd F d.result) t s := by
  rw [invoke]
  cases hi : c.step.manifest.validateInputs c.inputs with
  | error err => exact .inputs hi
  | ok u =>
    cases hconfig : c.step.manifest.validateConfig c.step.node.config with
    | error err => exact .config hi hconfig
    | ok config =>
      let i' : Invocation := ⟨scope, c.step.manifest, c.inputs, config⟩
      have hwithin : (((e.backend.dispatch i').mapNews DispatchNews.news).within Shared.host
          Shared.withHost).Ensures (T.shared C) i
            (fun _ _ d => F c.nodeId c.step.manifest c.inputs config d.result) t s :=
        ((hd config).mapNews DispatchNews.news).within (fun y hy => hy.2) (fun y z hyz => hyz)
          (fun _ _ => rfl) (fun h y hh hy => ⟨hy.1, hh⟩) (fun j h y _ hj => hj) Iff.rfl
      refine hwithin.bind fun t y d hF => ?_
      show c.MayEnd F (checked c.step.manifest d).result
      rw [result_checked]
      exact .body hi hconfig hF

/-- **A call ends with a record of one of its outcomes.** -/
theorem ensures_execute {G : Call → Outcome → Prop} (scope : Scope) {c : Call}
    (hc : e.Respects C (G c) c)
    (hd : ∀ t s, (T.shared C).invariant s → (e.invoke scope c.step c.inputs).Ensures (T.shared C) i
      (fun _ _ d => G c d.result) t s)
    (t : Nat) {s : Shared κ} (hs : (T.shared C).invariant s) :
    (e.execute scope c.step c.inputs).Ensures (T.shared C) i (fun _ _ r => c.Yields G r) t s := by
  have hclose (start : Nat) (cached : Bool) (attempts : UInt32) {o : Outcome} (ho : G c o)
      (t : Nat) (s : Shared κ) : (close scope c.step start cached attempts o).Ensures (T.shared C) i
        (fun _ _ r => c.Yields G r) t s :=
    fun _ _ _ => ⟨o, ho, rfl⟩
  intro m _ _
  refine ((ensures_remembered hc t s).keeps hs).bind fun t s found ⟨hs, hfound⟩ => ?_
  cases found with
  | some outputs => exact hclose m.now true 0 (hfound outputs rfl) t s
  | none =>
    refine (hd t s hs).bind fun t s d hd => ?_
    refine (ensures_remember hc hd t s).bind fun t s _ _ => ?_
    exact hclose m.now false d.attempts hd t s

end Engine

end PortGraph
