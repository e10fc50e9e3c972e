import PortGraph.Proofs.Engine.Keys
import PortGraph.Proofs.Engine.Stages

/-!
# What executions leave to one another

The executions of an engine that share a cache whose entries stay. They may be interleaved in any
way: any of them may begin at any time, and any that has begun may be driven on at any time. Bodies
may do what they like; they need not even give the same outputs twice.

The annals of an engine list the executions that have ended, the last one first, beside the cache
that they have left. What is found in the cache are the outputs of the execution that stored last
under the key. An execution that is found to have been made before ends at once, with these.

Two executions with the same key may both begin before either ends. Then both go to their ends, and
the one that ends last is what later ones find.

This is a closer look than that at the calls that runs have made: it tells which executions have
ended, and in which order, and it holds only as long as nothing gets lost. No plans are needed for
it, as an execution does not look beyond its call.

## Main definitions

* `Engine.Remains`: what may be left of an execution
* `Engine.Annals`: a cache, and the executions that have ended
* `Engine.lastStored?`, `lastUncached?`: the last execution that has stored its outputs, by the key
  and by the triple

## Main results

* `Engine.Remains.moves`: what driving an execution does to the cache
* `Engine.Annals.isSound`: the cache holds what was stored last
* `Engine.Annals.exists_hit`: an execution that has been made before ends at once
-/

namespace PortGraph

variable {κ : Type}

/-! ### What is left of an execution -/

namespace Engine

variable {e : Engine κ} {scope : Scope} {c : Call} {f : NodeNews → Event}

/-- What may be left of an execution of a call: all of it, what driving it leaves, and what comes
behind a point where it has given way. -/
inductive Remains (e : Engine κ) (c : Call) : Work (Shared κ) Event Result → Prop
  | whole (scope : Scope) (f : NodeNews → Event) :
    Remains e c ((e.execute scope c.step c.inputs).mapNews f)
  | driven {w} (h : Remains e c w) (world : World (Shared κ) Event) : Remains e c (w.drive world).2
  | passed {next} (h : Remains e c (.yield next)) : Remains e c next

/-- The stages of an execution. -/
inductive IsStage (e : Engine κ) (c : Call) : Work (Shared κ) Event Result → Prop
  | whole (scope : Scope) (f : NodeNews → Event) :
    IsStage e c ((e.execute scope c.step c.inputs).mapNews f)
  | underway (f : NodeNews → Event) (scope : Scope) (start : Nat) (w : Work κ Event Dispatch) :
    IsStage e c (e.underway f scope c start w)
  | done {x} (h : x.nodeId = c.nodeId) : IsStage e c (.done x)

theorem IsStage.afterwards (e : Engine κ) (f : NodeNews → Event) (scope : Scope) (c : Call)
    (start : Nat) (d : Dispatch) (world : World (Shared κ) Event) :
    e.IsStage c ((e.afterwards f scope c start d).drive world).2 := by
  rw [drive_afterwards]
  exact .done rfl

theorem IsStage.underway_drive (e : Engine κ) (f : NodeNews → Event) (scope : Scope) (c : Call)
    (start : Nat) (w : Work κ Event Dispatch) (world : World (Shared κ) Event) :
    e.IsStage c ((e.underway f scope c start w).drive world).2 := by
  rw [drive_underway]
  dsimp only
  split
  · exact .afterwards ..
  · exact .underway ..

/-- What is left of an execution that is under way is not its end. -/
theorem underway_ne_done (w : Work κ Event Dispatch) (start : Nat) (x : Result) :
    e.underway f scope c start w ≠ .done x := by
  intro h
  cases w with
  | done d =>
    obtain ⟨_, hnext⟩ := e.exists_afterwards_eq f scope c start (checked c.step.manifest d)
    exact nomatch h.symm.trans hnext
  | _ => cases h

/-- Who gives way has something to come back to that has been dispatched. -/
theorem exists_of_underway_eq_yield {w : Work κ Event Dispatch} {start : Nat}
    {next : Work (Shared κ) Event Result} (h : e.underway f scope c start w = .yield next) :
    ∃ v, next = e.underway f scope c start v := by
  cases w with
  | yield v =>
    cases h
    exact ⟨v, rfl⟩
  | done d =>
    obtain ⟨_, hnext⟩ := e.exists_afterwards_eq f scope c start (checked c.step.manifest d)
    exact nomatch h.symm.trans hnext
  | _ => cases h

/-- **What is left of an execution is one of its stages.** -/
theorem Remains.isStage {w : Work (Shared κ) Event Result} (h : e.Remains c w) : e.IsStage c w := by
  induction h with
  | whole scope f => exact .whole scope f
  | @driven w _ world ih =>
    cases ih with
    | whole scope f =>
      rw [drive_execute]
      dsimp only
      split
      · exact .done rfl
      · obtain ⟨err, hinvoked⟩ | ⟨config, hinvoked⟩ := e.invoked_cases f scope c world.now
        · rw [hinvoked]
          exact .afterwards ..
        · rw [hinvoked]
          exact .underway_drive ..
    | underway f scope start w => exact .underway_drive ..
    | done hnode => exact .done hnode
  | @passed next _ ih =>
    generalize hw : Work.yield next = w at ih
    cases ih with
    | whole scope f => cases hw
    | underway f scope start v =>
      obtain ⟨v, rfl⟩ := exists_of_underway_eq_yield hw.symm
      exact .underway f scope start v
    | done => cases hw

/-- What comes behind a point where an execution has given way is not its end. -/
theorem Remains.ne_done_of_yield {next : Work (Shared κ) Event Result}
    (h : e.Remains c (.yield next)) (x : Result) : next ≠ .done x := by
  have hstage := h.isStage
  generalize hw : Work.yield next = w at hstage
  cases hstage with
  | whole scope f => cases hw
  | underway f scope start v =>
    obtain ⟨v, rfl⟩ := exists_of_underway_eq_yield hw.symm
    exact underway_ne_done v start x
  | done => cases hw

/-- An execution ends with a record of its node. -/
theorem Remains.nodeId_eq {x : Result} (h : e.Remains c (.done x)) : x.nodeId = c.nodeId := by
  have hstage := h.isStage
  generalize hw : Work.done x = w at hstage
  cases hstage with
  | whole scope f => cases hw
  | underway f scope start v => exact absurd hw.symm (underway_ne_done v start x)
  | done hnode =>
    cases hw
    exact hnode

/-! ### What driving does to the cache -/

/-- What driving an execution of a call does to the cache, and what it leaves: the outputs that are
there end the execution; or it ends and they are stored, or it ends and they are not; or it has not
come to its end. -/
inductive Moves (e : Engine κ) (c : Call) (old new : Cache) : Work (Shared κ) Event Result → Prop
  | hit {x} (hcacheable : c.cacheable = true)
    (hfound : old.outputs? (e.callKey c) = some x.outputs) (hsuccess : x.success = true)
    (hcached : x.metadata.cached = true) (hsame : new.outputs? = old.outputs?) :
    Moves e c old new (.done x)
  | stored {x} (hcacheable : c.cacheable = true) (hsuccess : x.success = true)
    (hcached : x.metadata.cached = false)
    (hnew : ∀ key, new.outputs? key =
      if key = e.callKey c then some x.outputs else old.outputs? key) : Moves e c old new (.done x)
  | unstored {x} (hfailed : c.cacheable = true → x.success = false)
    (hcached : x.metadata.cached = false) (hsame : new.outputs? = old.outputs?) :
    Moves e c old new (.done x)
  | left {w} (hopen : ∀ x, w ≠ .done x) (hsame : new.outputs? = old.outputs?) : Moves e c old new w

/-- Counting what has been looked up makes no difference. -/
theorem Moves.of_eq {old there new : Cache} {w : Work (Shared κ) Event Result}
    (h : e.Moves c there new w) (hsame : there.outputs? = old.outputs?) : e.Moves c old new w := by
  cases h with
  | hit hcacheable hfound hsuccess hcached hnew =>
    exact .hit hcacheable (hsame ▸ hfound) hsuccess hcached (hnew.trans hsame)
  | stored hcacheable hsuccess hcached hnew =>
    exact .stored hcacheable hsuccess hcached fun key => by rw [hnew, hsame]
  | unstored hfailed hcached hnew => exact .unstored hfailed hcached (hnew.trans hsame)
  | left hopen hnew => exact .left hopen (hnew.trans hsame)

variable {cache : Cache} {world : World (Shared κ) Event}

/-- What has ended is stored if it has succeeded. -/
theorem moves_afterwards (hcache : cache.IsUnbounded) (hworld : world.state.cache? = some cache)
    (start : Nat) (d : Dispatch) :
    ∃ new, ((e.afterwards f scope c start d).drive world).1.state.cache? = some new ∧
      new.IsUnbounded ∧ e.Moves c cache new ((e.afterwards f scope c start d).drive world).2 := by
  rw [drive_afterwards]
  cases hd : d.result with
  | error err => exact ⟨cache, hworld, hcache, .unstored (fun _ => rfl) rfl rfl⟩
  | ok outputs =>
    by_cases hc : c.cacheable = true
    · obtain ⟨hstay, hnew⟩ := hcache.outputs?_store world.now (e.callKey c) outputs
      refine ⟨cache.store world.now (e.callKey c) outputs, ?_, hstay, .stored hc rfl rfl hnew⟩
      show (e.stored c world.now world.state (.ok outputs)).cache? = _
      rw [Engine.stored, if_pos hc, Shared.store, hworld]
      rfl
    · refine ⟨cache, ?_, hcache, .unstored (fun h => absurd h hc) rfl rfl⟩
      show (e.stored c world.now world.state (.ok outputs)).cache? = _
      rw [Engine.stored, if_neg hc, hworld]

/-- What has been dispatched does not touch the cache. -/
theorem moves_underway (hcache : cache.IsUnbounded) (hworld : world.state.cache? = some cache)
    (start : Nat) (w : Work κ Event Dispatch) :
    ∃ new, ((e.underway f scope c start w).drive world).1.state.cache? = some new ∧
      new.IsUnbounded ∧ e.Moves c cache new ((e.underway f scope c start w).drive world).2 := by
  rw [drive_underway]
  dsimp only
  split
  · exact moves_afterwards hcache (by exact hworld) start _
  · exact ⟨cache, hworld, hcache, .left (underway_ne_done _ start) rfl⟩

/-- **What driving an execution does to the cache.** -/
theorem Remains.moves {w : Work (Shared κ) Event Result} (h : e.Remains c w)
    (hopen : ∀ x, w ≠ .done x) (hcache : cache.IsUnbounded)
    (hworld : world.state.cache? = some cache) :
    ∃ new, (w.drive world).1.state.cache? = some new ∧ new.IsUnbounded ∧
      e.Moves c cache new (w.drive world).2 := by
  cases h.isStage with
  | done => exact absurd rfl (hopen _)
  | underway f scope start v => exact moves_underway hcache hworld start v
  | whole scope f =>
    obtain ⟨houtputs, hentries, hstay⟩ := hcache.lookup_eq world.now (e.callKey c)
    obtain ⟨there, hthere, hsame, hunbounded, hfound⟩ : ∃ there,
        (e.found c world.now world.state).2.cache? = some there ∧
        there.outputs? = cache.outputs? ∧ there.IsUnbounded ∧
        ∀ outputs, (e.found c world.now world.state).1 = some outputs →
          c.cacheable = true ∧ cache.outputs? (e.callKey c) = some outputs := by
      by_cases hc : c.cacheable = true
      · rw [found, if_pos hc, Shared.lookup, hworld]
        refine ⟨_, rfl, ?_, hstay, fun outputs ho => ⟨hc, houtputs ▸ ho⟩⟩
        funext key
        rw [Cache.outputs?, hentries, Cache.outputs?]
      · rw [found, if_neg hc]
        exact ⟨cache, hworld, rfl, hcache,
          fun outputs ho => absurd ho.symm (Option.some_ne_none outputs)⟩
    let after := { world.tell (f (.started c.step.manifest.type)) with
      state := (e.found c world.now world.state).2 }
    have hafter : after.state.cache? = some there := hthere
    rw [drive_execute]
    dsimp only
    split
    · rename_i outputs ho
      obtain ⟨hc, hin⟩ := hfound outputs ho
      exact ⟨there, hthere, hunbounded, .hit hc hin rfl rfl hsame⟩
    · obtain ⟨err, hinvoked⟩ | ⟨config, hinvoked⟩ := e.invoked_cases f scope c world.now
      · rw [hinvoked]
        obtain ⟨new, hnew, hstays, hmoves⟩ :=
          moves_afterwards hunbounded hafter world.now ⟨.error err, 0⟩
        exact ⟨new, hnew, hstays, hmoves.of_eq hsame⟩
      · rw [hinvoked]
        obtain ⟨new, hnew, hstays, hmoves⟩ :=
          moves_underway hunbounded hafter world.now _
        exact ⟨new, hnew, hstays, hmoves.of_eq hsame⟩

/-! ### The annals -/

/-- The executions that have ended, with what is left of one that has been driven. -/
def noted (c : Call) (rest : Work (Shared κ) Event Result) (ended : List (Call × Result)) :
    List (Call × Result) :=
  match rest with
  | .done x => (c, x) :: ended
  | _ => ended

/-- A cache that is empty at first and whose entries stay, and the executions that have ended, the
last one first. Executions may begin and be driven on in any order, in whatever world has this
cache. -/
inductive Annals (e : Engine κ) : Cache → List (Call × Result) → Prop
  | start : Annals e (.new none none) []
  | drive {cache new ended c w} {world : World (Shared κ) Event} (h : Annals e cache ended)
    (hw : e.Remains c w) (hopen : ∀ x, w ≠ .done x) (hworld : world.state.cache? = some cache)
    (hnew : (w.drive world).1.state.cache? = some new) :
    Annals e new (noted c (w.drive world).2 ended)

/-- What is noted beside a call is a record of its node. -/
theorem Annals.nodeId_eq {ended : List (Call × Result)} (h : e.Annals cache ended) {d : Call}
    {x : Result} (hx : (d, x) ∈ ended) : x.nodeId = d.nodeId := by
  induction h with
  | start => exact absurd hx List.not_mem_nil
  | @drive _ _ ended c w world _ hw _ _ _ ih =>
    have hrest := hw.driven world
    generalize (w.drive world).2 = rest at hx hrest
    cases rest with
    | done y =>
      rcases List.mem_cons.mp hx with heq | hx
      · cases heq
        exact hrest.nodeId_eq
      · exact ih hx
    | _ => exact ih hx

/-- Whether an execution has stored its outputs. -/
def hasStored (p : Call × Result) : Bool :=
  p.1.cacheable && p.2.success && !p.2.metadata.cached

/-- The last execution that has stored its outputs under a key. -/
def lastStored? (e : Engine κ) (ended : List (Call × Result)) (key : String) : Option Result :=
  (ended.find? fun p => hasStored p && decide (e.callKey p.1 = key)).map (·.2)

theorem lastStored?_cons (p : Call × Result) (ended : List (Call × Result)) (key : String) :
    e.lastStored? (p :: ended) key =
      if hasStored p = true ∧ e.callKey p.1 = key then some p.2 else e.lastStored? ended key := by
  rw [lastStored?, List.find?_cons]
  by_cases h : hasStored p = true ∧ e.callKey p.1 = key
  · rw [if_pos h, show (hasStored p && decide (e.callKey p.1 = key)) = true by simp [h]]
    rfl
  · rw [if_neg h, show (hasStored p && decide (e.callKey p.1 = key)) = false by simpa using h]
    rfl

/-- What holds of the annals of an engine. -/
structure IsSound (e : Engine κ) (cache : Cache) (ended : List (Call × Result)) : Prop where
  unbounded : cache.IsUnbounded
  /-- The cache holds what was stored last. -/
  outputs?_eq : ∀ key, cache.outputs? key = (e.lastStored? ended key).map (·.outputs)
  /-- Whoever has succeeded has stored its outputs, or found some that had been stored. -/
  isSome : ∀ c x, (c, x) ∈ ended → c.cacheable = true → x.success = true →
    (e.lastStored? ended (e.callKey c)).isSome = true
  /-- Whoever has been ended by the cache has the outputs that had been stored last. -/
  hits : ∀ newer older c x, ended = newer ++ (c, x) :: older → x.metadata.cached = true →
    c.cacheable = true ∧ x.success = true ∧
      (e.lastStored? older (e.callKey c)).map (·.outputs) = some x.outputs

/-- An end keeps the annals sound, if it leaves in the cache what was stored last. -/
theorem IsSound.cons {old new : Cache} {ended : List (Call × Result)} {x : Result}
    (h : e.IsSound old ended) (hnew : new.IsUnbounded)
    (houtputs : ∀ key, new.outputs? key = (e.lastStored? ((c, x) :: ended) key).map (·.outputs))
    (hsuccess : c.cacheable = true → x.success = true →
      (e.lastStored? ((c, x) :: ended) (e.callKey c)).isSome = true)
    (hhit : x.metadata.cached = true → c.cacheable = true ∧ x.success = true ∧
      (e.lastStored? ended (e.callKey c)).map (·.outputs) = some x.outputs) :
    e.IsSound new ((c, x) :: ended) where
  unbounded := hnew
  outputs?_eq := houtputs
  isSome d y hmem hcacheable hy := by
    rcases List.mem_cons.mp hmem with heq | hmem
    · cases heq
      exact hsuccess hcacheable hy
    · rw [lastStored?_cons]
      split
      · rfl
      · exact h.isSome d y hmem hcacheable hy
  hits newer older d y heq hcached := by
    cases newer with
    | nil =>
      cases heq
      exact hhit hcached
    | cons p newer =>
      cases heq
      exact h.hits newer older d y rfl hcached

/-- **The cache holds what was stored last**, however the executions are interleaved. -/
theorem Annals.isSound {ended : List (Call × Result)} (h : e.Annals cache ended) :
    e.IsSound cache ended := by
  induction h with
  | start =>
    refine ⟨Cache.isUnbounded_new, Cache.outputs?_new none none, fun c x h => ?_,
      fun newer older c x heq => ?_⟩
    · exact absurd h List.not_mem_nil
    · cases newer <;> cases heq
  | @drive cache new ended c w world _ hw hopen hworld hnew ih =>
    obtain ⟨there, hthere, hunbounded, hmoves⟩ := hw.moves hopen ih.unbounded hworld
    cases hnew.symm.trans hthere
    generalize (w.drive world).2 = rest at hmoves
    cases hmoves with
    | @hit x hcacheable hfound hsuccess hcached hsame =>
      have hskip : ∀ key, e.lastStored? ((c, x) :: ended) key = e.lastStored? ended key := by
        intro key
        rw [lastStored?_cons, if_neg (by simp [hasStored, hcached])]
      rw [ih.outputs?_eq] at hfound
      refine ih.cons hunbounded (fun key => ?_) (fun _ _ => ?_)
        fun _ => ⟨hcacheable, hsuccess, hfound⟩
      · rw [hsame, ih.outputs?_eq, hskip]
      · obtain ⟨y, hy, -⟩ := Option.map_eq_some_iff.mp hfound
        rw [hskip, hy]
        rfl
    | @stored x hcacheable hsuccess hcached hentry =>
      have hstored : hasStored (c, x) = true := by simp [hasStored, hcacheable, hsuccess, hcached]
      refine ih.cons hunbounded (fun key => ?_) (fun _ _ => ?_) fun h => ?_
      · rw [hentry, lastStored?_cons]
        by_cases hkey : key = e.callKey c
        · rw [if_pos hkey, if_pos ⟨hstored, hkey.symm⟩]
          rfl
        · rw [if_neg hkey, if_neg fun h => hkey h.2.symm, ih.outputs?_eq]
      · rw [lastStored?_cons, if_pos ⟨hstored, rfl⟩]
        rfl
      · cases hcached.symm.trans h
    | @unstored x hfailed hcached hsame =>
      have hnot : ¬ hasStored (c, x) = true := by
        rw [hasStored, Bool.and_eq_true, Bool.and_eq_true]
        rintro ⟨⟨hc, hs⟩, -⟩
        cases (hfailed hc).symm.trans hs
      refine ih.cons hunbounded (fun key => ?_) (fun hc hs => ?_) fun h => ?_
      · rw [hsame, ih.outputs?_eq, lastStored?_cons, if_neg fun h => hnot h.1]
      · cases (hfailed hc).symm.trans hs
      · cases hcached.symm.trans h
    | left hleft hsame =>
      have hended : noted c rest ended = ended := by
        cases rest with
        | done x => exact absurd rfl (hleft x)
        | _ => rfl
      rw [hended]
      exact ⟨hunbounded, fun key => hsame ▸ ih.outputs?_eq key, ih.isSome, ih.hits⟩

/-! ### Executions that have been made before -/

/-- **An execution whose key is in the cache ends at once** with the outputs that were stored last,
whatever backend there is: nothing is dispatched, and bodies are left in peace. -/
theorem Annals.exists_hit {ended : List (Call × Result)} (h : e.Annals cache ended) {d : Call}
    (hcacheable : d.cacheable = true) {y : Result} (hy : e.lastStored? ended (e.callKey d) = some y)
    (scope : Scope) (f : NodeNews → Event) (hworld : world.state.cache? = some cache) :
    ∃ after hit, (∀ b, ((({ e with backend := b } : Engine κ).execute scope d.step d.inputs).mapNews
        f).drive world = (after, .done hit)) ∧
      after.state.host = world.state.host ∧ hit.nodeId = d.nodeId ∧ hit.success = true ∧
      hit.outputs = y.outputs ∧ hit.error = none ∧ hit.metadata.cached = true ∧
      hit.metadata.attempts = 0 := by
  have hsound := h.isSound
  obtain ⟨houtputs, -⟩ := hsound.unbounded.lookup_eq world.now (e.callKey d)
  rw [hsound.outputs?_eq, hy, Option.map_some] at houtputs
  have hfound : ∀ b, (({ e with backend := b } : Engine κ).found d world.now world.state) =
      e.found d world.now world.state := fun _ => rfl
  have hsome : (e.found d world.now world.state).1 = some y.outputs := by
    rw [found, if_pos hcacheable, Shared.lookup, hworld]
    exact houtputs
  let there := { world.tell (f (.started d.step.manifest.type)) with
    state := (e.found d world.now world.state).2 }
  refine ⟨there.tell (f (closing true 0 (.ok y.outputs))),
    record scope d.step 0 true 0 (.ok y.outputs), fun b => ?_, ?_, rfl, rfl, rfl, rfl, rfl, rfl⟩
  · rw [drive_execute, hfound, hsome]
  · show (e.found d world.now world.state).2.host = _
    rw [found, if_pos hcacheable, Shared.lookup, hworld]

end Engine

/-- The last execution that has succeeded without being ended by the cache, of those with a
triple. -/
def lastUncached? (ended : List (Call × Result)) (triple : String × Fields × Fields) :
    Option Result :=
  (ended.find? fun p => Engine.hasStored p && decide (p.1.triple = triple)).map (·.2)

/-- If the digest tells calls apart, what has been stored under the key of a call is what has been
stored under its triple. -/
theorem Engine.TellsApart.lastStored?_eq {e : Engine κ} {ended : List (Call × Result)} {d : Call}
    (h : e.TellsApart (d :: ended.map (·.1))) (hd : d.cacheable = true) :
    e.lastStored? ended (e.callKey d) = lastUncached? ended d.triple := by
  rw [lastStored?, lastUncached?, ← List.head?_filter, ← List.head?_filter]
  refine congrArg (fun l : List (Call × Result) => l.head?.map (·.2))
    (List.filter_congr fun p hp => ?_)
  cases hstored : hasStored p with
  | false => rfl
  | true =>
    rw [hasStored, Bool.and_eq_true, Bool.and_eq_true] at hstored
    rw [Bool.true_and, Bool.true_and, decide_eq_decide, ← Call.bytes_eq_iff]
    refine ⟨h p.1 (List.mem_cons_of_mem _ (List.mem_map_of_mem hp)) d List.mem_cons_self
      hstored.1.1 hd, congrArg e.digest⟩

end PortGraph
