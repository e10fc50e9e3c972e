import Mathlib.Algebra.BigOperators.Group.Finset.Basic
import PortGraph.Proofs.Engine.Cancelling
import PortGraph.Proofs.Engine.Metering
import PortGraph.Proofs.Engine.Records

/-!
# Counting attempts

The attempts that the record of a node counts are the starts that its meter has noted: as often as
it says the body of the node has been started, or a task has been submitted for it. This holds of
each execution by itself, since nobody else notes the node, and so for each phase and for each run.

## Main definitions

* `Terms.tally`: the terms on which nodes share a meter
* `RunResults.attemptsOf`: the attempts on record for a node

## Main results

* `Site.ensures_dispatch`: what is dispatched counts its starts
* `Engine.count_runPhase`, `Engine.count_runPhases`: so do phases
* `Engine.runPlan_accounts`: the records of a run account for all that has been started
-/

namespace PortGraph

variable {β κ ε α : Type}

/-! ### Terms -/

/-- The terms on which nodes share a meter: none notes another one, and none is noted but `ids`; the
others stay at their `count`. -/
def Terms.tally (κ : Type) (ids : List String) (count : String → Nat) :
    Terms String (Metered κ) where
  invariant s := ∀ id, id ∉ ids → s.starts.count id = count id
  rely i s s' := s'.starts.count i = s.starts.count i
  mayCancel := True
  refl _ _ := rfl
  trans _ _ _ _ hab hbc := hbc.trans hab

section

variable {ids : List String} {count : String → Nat} {i : String} {t n : Nat} {s : Metered κ}

/-- Work on a host notes nothing by itself. -/
theorem Work.ensures_onHost (w : Work κ ε α) (hs : s.starts.count i = n) :
    w.onHost.Ensures (.tally κ ids count) i (fun _ s _ => s.starts.count i = n) t s := by
  rw [onHost]
  induction w generalizing t s with
  | done a => exact hs
  | fault cause => trivial
  | observe next ih => exact fun m _ _ => ih m hs
  | tell news next ih => exact ih hs
  | cancel next ih => exact ⟨trivial, ih hs⟩
  | consult change next ih =>
    exact fun s' hI hrely => ⟨hI, fun _ _ => rfl, ih s'.host (hrely.trans hs)⟩
  | await w next ih => exact fun m _ _ _ _ => ih m hs
  | yield next ih => exact ih hs

/-- Work that is noted is noted once. -/
theorem Work.ensures_noted (w : Work κ ε α) (hi : i ∈ ids) (hs : s.starts.count i = n) :
    (w.noted i).Ensures (.tally κ ids count) i (fun _ s _ => s.starts.count i = n + 1) t s := by
  intro s' hI hrely
  have hother (j : String) (hj : j ≠ i) : (s'.note i).starts.count j = s'.starts.count j := by
    simp [Metered.note, List.count_append, Ne.symm hj]
  refine ⟨fun id hid => ?_, hother, w.ensures_onHost ?_⟩
  · rw [hother id fun h => hid (h ▸ hi)]
    exact hI id hid
  · rw [← hs, ← hrely]
    simp [Metered.note, List.count_append]

/-! ### What is dispatched -/

/-- Attempts are counted as the body is started. -/
theorem InProcess.ensures_attemptFrom {w : Work (Metered κ) Report Outcome}
    (hw : ∀ n t s, s.starts.count i = n →
      w.Ensures (.tally κ ids count) i (fun _ s _ => s.starts.count i = n + 1) t s)
    (base : UInt64) {left attempt : Nat} (hlt : attempt + left < UInt32.size)
    (hs : s.starts.count i + 1 = n + attempt) :
    (attemptFrom base w left attempt).Ensures (.tally κ ids count) i
      (fun _ s d => s.starts.count i = n + d.attempts.toNat) t s := by
  have hcount {k : Nat} (hk : k < UInt32.size) : (UInt32.ofNat k).toNat = k :=
    UInt32.toNat_ofNat_of_lt' hk
  induction left generalizing attempt t s with
  | zero =>
    rw [attemptFrom]
    refine ((hw _ t s rfl).mapNews _).bind fun t' s' o hstarted => ?_
    cases o <;> exact (hstarted.trans hs).trans (by rw [hcount (by omega)])
  | succ left ih =>
    rw [attemptFrom]
    refine ((hw _ t s rfl).mapNews _).bind fun t' s' o hstarted => ?_
    have hdone : s'.starts.count i = n + (UInt32.ofNat attempt).toNat := by
      rw [hcount (by omega), hstarted, hs]
    cases o with
    | ok outputs => exact hdone
    | error err =>
      dsimp only
      split
      · exact hdone
      · split
        · trivial
        · rintro m - - m' - - - -
          dsimp only
          split
          · exact ih (by omega) (by omega)
          · exact hdone

/-- **What is dispatched counts its starts.** -/
theorem Site.ensures_dispatch (site : Site κ) (i : Invocation) (hi : i.scope.nodeId ∈ ids)
    (hs : s.starts.count i.scope.nodeId = n) :
    (site.metered.backend.dispatch i).Ensures (.tally κ ids count) i.scope.nodeId
      (fun _ s d => s.starts.count i.scope.nodeId = n + d.attempts.toNat) t s := by
  cases site with
  | inProcess registry base =>
    simp only [metered, backend, Backend.inProcess, InProcess.dispatch, Registry.body?_metered]
    cases registry.body? i.manifest.type with
    | none => exact hs
    | some body =>
      refine InProcess.ensures_attemptFrom (fun n t s hs => Work.ensures_noted _ hi hs) base ?_
        (by rw [hs])
      have hmost : InProcess.mostAttempts i.manifest.retry ≤ UInt32.size - 1 := Nat.min_le_right _ _
      simp only [UInt32.size] at hmost ⊢
      omega
  | remote service c =>
    have hrun : (Polling.runTask service.metered (.ofConfig c) i).Ensures (.tally κ ids count)
        i.scope.nodeId (fun _ s _ => s.starts.count i.scope.nodeId = n + 1) t s := by
      rintro m - -
      refine ((Work.ensures_noted _ hi hs).mapNews _).bind fun t' s' receipt hs' => ?_
      cases receipt with
      | error err => exact hs'
      | ok receipt =>
        dsimp only
        rw [Polling.pollFrom_metered]
        exact Work.ensures_onHost _ hs'
    exact hrun.bind fun _ _ _ hs' => hs'

end

/-! ### Executions -/

namespace Engine

variable {e : Engine (Metered κ)} {ids : List String} {count : String → Nat} {i : String} {t n : Nat}
  {s : Shared (Metered κ)} {scope : Scope} {step : Step} {inputs : Fields}

theorem ensures_remembered_tally (hs : s.host.starts.count i = n) :
    (e.remembered step inputs).Ensures ((Terms.tally κ ids count).shared fun _ => True) i
      (fun _ s _ => s.host.starts.count i = n) t s := by
  rw [remembered]
  split
  · intro m _ _ s' hI hrely
    have hhost := Shared.host_lookup s' m.now (e.keyOf step inputs)
    have hcount (j : String) : ((s'.lookup m.now (e.keyOf step inputs)).2.host).starts.count j =
        s'.host.starts.count j := by rw [hhost]
    exact ⟨⟨trivial, hhost ▸ hI.2⟩, fun j _ => hcount j, (hcount i).trans (hrely.trans hs)⟩
  · exact hs

theorem ensures_remember_tally (o : Outcome) (hs : s.host.starts.count i = n) :
    (e.remember step inputs o).Ensures ((Terms.tally κ ids count).shared fun _ => True) i
      (fun _ s _ => s.host.starts.count i = n) t s := by
  cases o with
  | error err => exact hs
  | ok outputs =>
    simp only [remember]
    split
    · exact fun m _ _ s' hI hrely => ⟨⟨trivial, hI.2⟩, fun _ _ => rfl, hrely.trans hs⟩
    · exact hs

theorem ensures_invoke_tally {site : Site κ} (he : e.backend = site.metered.backend)
    (hi : scope.nodeId ∈ ids) (hs : s.host.starts.count scope.nodeId = n) :
    (e.invoke scope step inputs).Ensures ((Terms.tally κ ids count).shared fun _ => True)
      scope.nodeId (fun _ s d => s.host.starts.count scope.nodeId = n + d.attempts.toNat) t s := by
  rw [invoke]
  split
  · exact hs
  · split
    · exact hs
    · rename_i config _
      rw [he]
      let i : Invocation := ⟨scope, step.manifest, inputs, config⟩
      have hdispatch : (site.metered.backend.dispatch i).Ensures (.tally κ ids count) scope.nodeId
          (fun _ s d => s.starts.count scope.nodeId = n + d.attempts.toNat) t s.host :=
        site.ensures_dispatch i hi hs
      have hwithin : (((site.metered.backend.dispatch i).mapNews DispatchNews.news).within
          Shared.host Shared.withHost).Ensures ((Terms.tally κ ids count).shared fun _ => True)
            scope.nodeId (fun _ s d => s.host.starts.count scope.nodeId = n + d.attempts.toNat) t s :=
        (hdispatch.mapNews DispatchNews.news).within (fun y hy => hy.2) (fun y z hyz => hyz)
          (fun _ _ => rfl) (fun h y hh hy => ⟨hy.1, hh⟩) (fun j h y _ hj => hj) Iff.rfl
      refine hwithin.bind fun t' s' d hd => ?_
      show s'.host.starts.count scope.nodeId = n + (checked step.manifest d).attempts.toNat
      rw [attempts_checked]
      exact hd

/-- **An execution counts its starts.** -/
theorem ensures_execute_tally {site : Site κ} (he : e.backend = site.metered.backend)
    (scope : Scope) (step : Step) (inputs : Fields) (hi : scope.nodeId ∈ ids)
    (hs : s.host.starts.count scope.nodeId = n) :
    (e.execute scope step inputs).Ensures ((Terms.tally κ ids count).shared fun _ => True)
      scope.nodeId (fun _ s x => x.nodeId = step.node.id ∧
        s.host.starts.count scope.nodeId = n + x.metadata.attempts.toNat) t s := by
  have hclose (start : Nat) (cached : Bool) (attempts : UInt32) (o : Outcome) (t : Nat)
      (s : Shared (Metered κ)) (hs : s.host.starts.count scope.nodeId = n + attempts.toNat) :
      (close scope step start cached attempts o).Ensures
        ((Terms.tally κ ids count).shared fun _ => True) scope.nodeId
        (fun _ s x => x.nodeId = step.node.id ∧
          s.host.starts.count scope.nodeId = n + x.metadata.attempts.toNat) t s :=
    fun _ _ _ => ⟨rfl, hs⟩
  intro m _ _
  refine (ensures_remembered_tally hs).bind fun t s found hs => ?_
  cases found with
  | some outputs => exact hclose m.now true 0 (.ok outputs) t s hs
  | none =>
    refine (ensures_invoke_tally he hi hs).bind fun t s d hs => ?_
    refine (ensures_remember_tally d.result hs).bind fun t s _ hs => ?_
    exact hclose m.now false d.attempts d.result t s hs

end Engine

/-! ### Runs -/

/-- How often a node has been started. -/
def World.startsOf (world : World (Shared (Metered κ)) ε) (id : String) : Nat :=
  world.state.host.starts.count id

/-- The attempts that a record counts; without a record there are none. -/
def attemptsOn (x? : Option Result) : Nat := (x?.map (·.metadata.attempts.toNat)).getD 0

/-- Where a node has no record, none is found. -/
theorem find?_nodeId_eq_none {found : List Result} {id : String}
    (hid : id ∉ found.map (·.nodeId)) : found.find? (·.nodeId = id) = none :=
  List.find?_eq_none.mpr fun x hx hxid => hid (List.mem_map.mpr ⟨x, hx, of_decide_eq_true hxid⟩)

/-- The records of a phase add their attempts to those of the records before. No node has a record
among both. -/
theorem Plan.StagedFrom.attemptsOn_foldl {plan : Plan} {initial : Fields} {known : String → Prop}
    {phase : Phase} {rest : List Phase} {t : Table Result} {G : Call → Outcome → Prop}
    {found : List Result} (h : plan.StagedFrom known (phase :: rest))
    (ht : ∀ id, t.contains id = true ↔ known id)
    (hfound : Call.YieldAll G (plan.phaseCalls initial t phase) found) (id : String) :
    attemptsOn ((found.foldl addResult t).get? id) =
      attemptsOn (t.get? id) + attemptsOn (found.find? (·.nodeId = id)) := by
  rw [get?_foldl_addResult]
  cases hold : t.get? id with
  | none =>
    rw [Option.none_or]
    exact (Nat.zero_add _).symm
  | some x =>
    have hknown : known id := (ht id).mp (by rw [Table.contains, hold, Option.isSome_some])
    have hid : id ∉ found.map (·.nodeId) := by
      rw [(h.nodeIds_perm hfound).mem_iff]
      exact fun hid => (h.2.1 id hid).1 hknown
    rw [find?_nodeId_eq_none hid]
    rfl

namespace Engine

variable {e : Engine (Metered κ)} {site : Site κ} {plan : Plan} {scope : Scope} {initial : Fields}
  {t t' : Table Result} {world after : World (Shared (Metered κ)) Event}

/-- The nodes of a phase keep to the terms on which they share a meter. -/
theorem isKept_tally (he : e.backend = site.metered.backend) (phase : Phase) :
    (e.phasePool plan scope initial t phase world).IsKept
      ((Terms.tally κ ((plan.phaseCalls initial t phase).map (·.nodeId)) world.startsOf).shared
        fun _ => True)
      (nodeOf (plan.phaseCalls initial t phase))
      fun j _ s x => ∃ c, (plan.phaseCalls initial t phase)[j]? = some c ∧ x.nodeId = c.nodeId ∧
        s.host.starts.count c.nodeId = world.startsOf c.nodeId + x.metadata.attempts.toNat := by
  have hmeets : world.Meets ((Terms.tally κ
      ((plan.phaseCalls initial t phase).map (·.nodeId)) world.startsOf).shared fun _ => True) :=
    ⟨⟨trivial, fun _ _ => rfl⟩, fun _ => trivial, fun _ => trivial⟩
  exact isKept_phasePool_of hmeets fun c hc u => ensures_execute_tally he
    { scope with nodeId := c.nodeId } c.step c.inputs (List.mem_map_of_mem hc) rfl

/-- **A phase counts its starts.** -/
theorem count_runPhase (he : e.backend = site.metered.backend) {phase : Phase}
    (hids : ((plan.phaseCalls initial t phase).map (·.nodeId)).Nodup) {found : List Result}
    (hrun : e.runPhase plan scope initial t phase world = .ok (after, found)) (id : String) :
    after.startsOf id = world.startsOf id + attemptsOn (found.find? (·.nodeId = id)) := by
  have hperm := (runPhase_yieldAny hids hrun).nodeIds_perm
  obtain ⟨rs, hpool, rfl⟩ := exists_run_of_runPhase hrun
  obtain ⟨hafter, hlength, hresults⟩ := (isKept_tally he phase).run (nodeOf_ne hids) hpool
  by_cases hid : id ∈ (plan.phaseCalls initial t phase).map (·.nodeId)
  · obtain ⟨c, hc, rfl⟩ := List.mem_map.mp hid
    obtain ⟨j, hj⟩ := List.mem_iff_getElem?.mp hc
    have hlt : j < rs.length := by
      rw [hlength, length_phasePool]
      exact (List.getElem?_eq_some_iff.mp hj).1
    obtain ⟨_, -, s, hrely, c', hc', hnode, hcount⟩ :=
      hresults j rs[j] (List.getElem?_eq_getElem hlt)
    cases hj.symm.trans hc'
    have hmem : rs[j].2 ∈ e.takenUp phase rs :=
      (e.takenUp_perm phase rs).mem_iff.mpr (List.mem_map_of_mem (List.getElem_mem hlt))
    have hfind : (e.takenUp phase rs).find? (·.nodeId = c.nodeId) = some rs[j].2 :=
      hnode ▸ Table.find?_key_eq_some (hperm.nodup_iff.mpr hids) hmem
    have hthere : after.startsOf c.nodeId = s.host.starts.count c.nodeId := by
      simp only [nodeOf, hj] at hrely
      exact hrely
    rw [hthere, hcount, hfind]
    rfl
  · rw [find?_nodeId_eq_none fun hmem => hid (hperm.mem_iff.mp hmem)]
    exact hafter.state.2 id hid

/-- **The phases of a run count their starts.** -/
theorem count_runPhases (he : e.backend = site.metered.backend) {phases : List Phase}
    {known : String → Prop} {index : Nat} {ending : Ending} (hstaged : plan.StagedFrom known phases)
    (ht : ∀ id, t.contains id = true ↔ known id)
    (hrun : e.runPhases plan scope initial index t world phases = .ok (after, t', ending))
    (id : String) :
    after.startsOf id + attemptsOn (t.get? id) = world.startsOf id + attemptsOn (t'.get? id) := by
  induction phases generalizing known index t world with
  | nil =>
    cases hrun
    rfl
  | cons phase rest ih =>
    cases runPhases_cons_iff.mp hrun with
    | cancelled | stopped => rfl
    | @phase there found _ _ _ _ _ hphase hrest =>
      have hids : ((plan.phaseCalls initial t phase).map (·.nodeId)).Nodup :=
        hstaged.nodup_phaseCalls t
      have hfound := runPhase_yieldAny hids hphase
      have hadded := hstaged.attemptsOn_foldl ht hfound id
      have hcount : there.startsOf id = world.startsOf id +
          attemptsOn (found.find? (·.nodeId = id)) := count_runPhase he hids hphase id
      have hrests : after.startsOf id + attemptsOn ((found.foldl addResult t).get? id) =
          (completed scope index found there).startsOf id + attemptsOn (t'.get? id) :=
        ih hstaged.2.2 (hstaged.contains_foldl_iff ht hfound) hrest
      have hthere : (completed scope index found there).startsOf id = there.startsOf id := rfl
      omega

/-- If each node has been started as often as its record counts, then as many starts have been noted
as all records together count. -/
theorem length_eq_sum_attempts {starts : List String} {t : Table Result}
    (h : ∀ id, starts.count id = attemptsOn (t.get? id)) :
    starts.length = (t.values.map (·.metadata.attempts.toNat)).sum := by
  have hkeys : starts.toFinset ⊆ t.keys.toFinset := by
    intro id hid
    rw [List.mem_toFinset] at hid ⊢
    rw [← Table.contains_iff_mem_keys, Table.contains, Option.isSome_iff_ne_none]
    intro hnone
    have hzero := h id
    rw [hnone] at hzero
    exact List.count_eq_zero.mp hzero hid
  have hcounts : t.keys.map starts.count = t.values.map (·.metadata.attempts.toNat) := by
    rw [Table.keys, Table.values, List.map_map, List.map_map]
    refine List.map_congr_left fun entry hentry => ?_
    rw [Function.comp_apply, h, Table.get?_eq_some_iff.mpr hentry]
    rfl
  calc starts.length = ∑ id ∈ starts.toFinset, starts.count id :=
        (List.sum_toFinset_count_eq_length starts).symm
    _ = ∑ id ∈ t.keys.toFinset, starts.count id :=
        Finset.sum_subset hkeys fun id _ hid =>
          List.count_eq_zero.mpr fun hmem => hid (List.mem_toFinset.mpr hmem)
    _ = (t.keys.map starts.count).sum := List.sum_toFinset _ t.nodup_keys
    _ = (t.values.map (·.metadata.attempts.toNat)).sum := by rw [hcounts]

/-- **The records of a run account for all that has been started.** Each record is that of a step
with the inputs that the final results give it, and can be relied on. The run is also that of the
engine with a meter; the meter has noted each node as often as its record counts attempts, and
nobody else, so that all records together count as many attempts as there have been starts. -/
theorem runPlan_accounts {r : Registry β} {g : Graph} {plan : Plan} {site : Site κ} {e : Engine κ}
    {scope : Scope} {initial : Fields} {world after : World (Shared κ) Event} {run : RunResults}
    (hplan : g.compile r = .ok plan) (he : e.backend = site.backend)
    (hrun : e.runPlan plan scope initial world = .ok (after, run)) :
    (∀ id x, run.get? id = some x → ∃ step, plan.step? id = some step ∧ step.node.id = id ∧
      site.IsRecord step (gather step run.results initial) x) ∧
    ∃ metered, (e.metered site).runPlan plan scope initial
        (world.withState world.state.metered) = .ok (metered, run) ∧
      after = metered.seen (Shared.seen Metered.host) ∧
      (∀ id, metered.startsOf id = attemptsOn (run.get? id)) ∧
      metered.state.host.starts.length =
        (run.results.values.map (·.metadata.attempts.toNat)).sum := by
  have hstaged := (Graph.isPlan_of_compile hplan).1.isStaged
  refine ⟨fun id x hx => ?_, ?_⟩
  · obtain ⟨step, hstep, hid, hexit⟩ := exists_exit_of_runPlan hstaged hrun hx
    exact ⟨step, hstep, hid, hexit.isRecord he⟩
  · obtain ⟨metered, hmetered, hafter⟩ := exists_metered he hrun
    obtain ⟨last, t, ending, hphases, rfl, rfl⟩ := (runPlan_eq_ok_iff hstaged).mp hmetered
    have hcount (id : String) : last.startsOf id = attemptsOn (t.get? id) := by
      have hboth : last.startsOf id + 0 = 0 + attemptsOn (t.get? id) :=
        count_runPhases rfl hstaged (fun _ => by simp [Table.contains]) hphases id
      rwa [Nat.add_zero, Nat.zero_add] at hboth
    exact ⟨_, hmetered, hafter, hcount, length_eq_sum_attempts hcount⟩

/-- The small graph, whose sources have no value and are attempted again. -/
theorem accounts_sampleGraph :
    Graph.sampleGraph.compile stubbornRegistry = .ok stubbornPlan ∧ ∃ after run,
      stubbornEngine.runPlan stubbornPlan hastyScope Table.empty (.start 0 ⟨none, ()⟩) =
        .ok (after, run) ∧
      (∀ id x, run.get? id = some x → ∃ step, stubbornPlan.step? id = some step ∧
        step.node.id = id ∧ stubbornSite.IsRecord step (gather step run.results Table.empty) x) ∧
      ∃ metered, (stubbornEngine.metered stubbornSite).runPlan stubbornPlan hastyScope Table.empty
          (.start 0 ⟨none, ⟨(), []⟩⟩) = .ok (metered, run) ∧
        after = metered.seen (Shared.seen Metered.host) ∧
        (∀ id, metered.startsOf id = attemptsOn (run.get? id)) ∧
        metered.state.host.starts.length =
          (run.results.values.map (·.metadata.attempts.toNat)).sum := by
  have hstaged := (Graph.isPlan_of_compile compile_stubbornPlan).1.isStaged
  have hcompletes : stubbornSite.Completes stubbornPlan hastyScope := fun id step _ =>
    ⟨InProcess.isSome_delayMs?_of_base_le (by decide) step.manifest.retry,
      fun body hbody _ _ => eq_of_body?_stubbornRegistry hbody ▸ trivial⟩
  obtain ⟨after, run, hrun⟩ := Completes.exists_runPlan (e := stubbornEngine)
    (fun id step inputs config hstep => hcompletes.ends_dispatch hstep inputs config) hstaged
    Table.empty (.start 0 ⟨none, ()⟩)
  exact ⟨compile_stubbornPlan, after, run, hrun, runPlan_accounts compile_stubbornPlan rfl hrun⟩

end Engine

end PortGraph
