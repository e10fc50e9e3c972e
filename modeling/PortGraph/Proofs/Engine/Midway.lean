import PortGraph.Proofs.Engine.Coverage
import PortGraph.Proofs.Work.Steps

/-!
# Runs on their way

Where a run goes from the middle of a phase. If it comes to its end at all, it brings the phase to
its end first, from wherever the nodes of the phase stand, and goes on with their results. Until
then nothing is told but by these nodes.

Cancellation that has come stays. It keeps the next phase from starting, and all that follow, but
not the nodes of the phase that the run is in from coming to their ends.

## Main definitions

* `Engine.InPhase`: a run is in the middle of a phase
* `StartsNoPhase`: no phase starts between two worlds

## Main results

* `Engine.InPhase.exists_end`: how a run goes on from there
* `Engine.IsAt.expects`: a request from outside is granted at its instant
* `Engine.IsAt.startsNoPhase`: no phase starts after cancellation
* `Engine.cancelled_iff`, `Engine.InPhase.cancelled_iff`: when a run counts as cancelled
-/

namespace PortGraph

variable {κ : Type}

/-- No phase starts between the worlds `now` and `after` of a run. -/
def StartsNoPhase {σ : Type} (now after : World σ Event) : Prop :=
  ∃ rest, after.news = now.news ++ rest ∧ startedPhases rest = 0

namespace StartsNoPhase

variable {σ : Type} {now there after : World σ Event}

theorem refl (now : World σ Event) : StartsNoPhase now now := ⟨[], (List.append_nil _).symm, rfl⟩

theorem trans (h : StartsNoPhase now there) (h' : StartsNoPhase there after) :
    StartsNoPhase now after := by
  obtain ⟨rest, hrest, hnone⟩ := h
  obtain ⟨rest', hrest', hnone'⟩ := h'
  refine ⟨rest ++ rest', by rw [hrest', hrest, List.append_assoc], ?_⟩
  rw [startedPhases] at hnone hnone' ⊢
  rw [List.countP_append, hnone, hnone']

theorem tell {event : Event} (now : World σ Event) (h : event.startsPhase = false) :
    StartsNoPhase now (now.tell event) :=
  ⟨[event], World.news_tell _ _, by simp [startedPhases, h]⟩

instance : Trans (StartsNoPhase (σ := σ)) StartsNoPhase StartsNoPhase := ⟨trans⟩

end StartsNoPhase

/-- What is told to start is one of the phases. -/
theorem PhasesTold.exists_phase {x : String} {limit? : Option Nat} {t : Table Result} {i : Nat}
    {phases : List Phase} {log : List Event} (h : PhasesTold x limit? t i phases log) {y : String}
    {j : UInt64} {ids : List String} {parallel : Bool}
    (hmem : .run y (.phaseStarted j ids parallel) ∈ log) :
    ∃ phase ∈ phases, phase.nodeIds = ids := by
  induction h with
  | done => cases hmem
  | @phase i phase rest block log hblock _ ih =>
    simp only [List.cons_append, List.mem_cons, List.mem_append] at hmem
    rcases hmem with hstart | hmem | hend | hmem
    · cases hstart
      exact ⟨phase, List.mem_cons_self, rfl⟩
    · obtain ⟨id, -, news, hnode⟩ := hblock.about _ hmem
      cases hnode
    · cases hend
    · obtain ⟨other, hother, hids⟩ := ih hmem
      exact ⟨other, List.mem_cons_of_mem _ hother, hids⟩

namespace Engine

variable {e : Engine κ} {plan : Plan} {scope : Scope} {initial : Fields} {index k : Nat}
  {phase : Phase} {phases : List Phase} {t t' : Table Result} {ending : Ending}
  {world there now after : World (Shared κ) Event} {p : Pool (Shared κ) Event Result}
  {run : RunResults}

/-! ### In the middle of a phase -/

/-- A run that began in `world` is in its phase number `k`. It came there with the results `t`, and
the world was `there`; by now the nodes of the phase stand as in `p`. -/
structure InPhase (e : Engine κ) (plan : Plan) (scope : Scope) (initial : Fields)
    (world : World (Shared κ) Event) (k : Nat) (phase : Phase) (there : World (Shared κ) Event)
    (t : Table Result) (p : Pool (Shared κ) Event Result) : Prop where
  getElem?_eq : plan.phases[k]? = some phase
  comes : e.ComesTo plan scope initial world k there t
  goes : there.cancelled = false
  unfailed : e.stopOnError = true → failedIds t = []
  leads : Pool.Leads (e.phasePolicy plan phase)
    (e.phasePool plan scope initial t phase (begun scope k phase there)) p

/-- There is room for a node in each phase that has any. -/
theorem isSound_phasePool (e : Engine κ) (plan : Plan) (scope : Scope) (initial : Fields)
    (t : Table Result) (phase : Phase) (world : World (Shared κ) Event) :
    (e.phasePool plan scope initial t phase world).IsSound :=
  .start _ fun hne => e.room_pos phase (List.length_pos_iff.mpr hne)

namespace InPhase

theorem isAt (h : e.InPhase plan scope initial world k phase there t p) :
    e.IsAt plan scope initial world p.world
      (plan.callsOf initial t ++ plan.phaseCalls initial t phase) :=
  .within h.getElem?_eq h.comes h.goes h.unfailed h.leads

theorem isSound (h : e.InPhase plan scope initial world k phase there t p) : p.IsSound :=
  (isSound_phasePool ..).leads h.leads

/-- The run stays in the phase while its nodes go on. -/
theorem step (h : e.InPhase plan scope initial world k phase there t p)
    {q : Pool (Shared κ) Event Result} (hq : p.step (e.phasePolicy plan phase) = .ok q) :
    e.InPhase plan scope initial world k phase there t q :=
  ⟨h.getElem?_eq, h.comes, h.goes, h.unfailed, h.leads.tail hq⟩

end InPhase

/-- What the nodes of a phase tell is about them. -/
theorem isNumbered_of_chronicle
    (hids : (plan.phaseCalls initial t phase).map (·.nodeId) = phase.nodeIds) {limit : Nat}
    {told : List (Nat × Event)}
    (h : p.Chronicle world limit ((stepsOf plan phase).map (e.stepWork scope t initial)) told)
    (hp : p.IsSound) : IsNumbered scope.executionId phase.nodeIds told := by
  refine isNumbered_of_tells (e := e) hids fun y hy => ?_
  have hj : y.1 < p.pieces.length := Nat.lt_of_lt_of_le (h.entered y hy) hp.entered_le
  have hw := List.getElem?_eq_getElem (h.length ▸ hj)
  exact ⟨_, _, hw, h.tells y.1 _ _ hw (List.getElem?_eq_getElem hj)⟩

/-- **What has been told since a phase began** is news of its nodes, each piece telling its own. -/
theorem InPhase.exists_chronicle (h : e.InPhase plan scope initial world k phase there t p)
    (hstaged : plan.IsStaged) : ∃ limit told,
      p.Chronicle (begun scope k phase there) limit
        ((stepsOf plan phase).map (e.stepWork scope t initial)) told ∧
      IsNumbered scope.executionId phase.nodeIds told := by
  obtain ⟨told, htold⟩ := (Pool.Chronicle.start (begun scope k phase there) _ _).leads
    (isSound_phasePool ..) h.leads
  exact ⟨_, _, htold, isNumbered_of_chronicle
    ((hstaged.stagedFrom_cons h.getElem?_eq).nodeId_phaseCalls t) htold h.isSound⟩

/-! ### Going on -/

/-- A run that has come to a phase goes on from there. -/
theorem ComesTo.exists_runPhases (h : e.ComesTo plan scope initial world k there t)
    (hstaged : plan.IsStaged) (hk : k ≤ plan.phases.length)
    (hrun : e.runPlan plan scope initial world = .ok (after, run)) : ∃ last ending,
      e.runPhases plan scope initial k t there (plan.phases.drop k) =
        .ok (last, run.results, ending) ∧
      after = last.tell (.run scope.executionId
        (.completed (.ofNat run.succeeded) (.ofNat run.failed) run.durationMs)) ∧
      (run.cancelled = true ↔ ending = .cancelled) := by
  obtain ⟨last, t', ending, hphases, rfl, rfl⟩ := (runPlan_eq_ok_iff hstaged).mp hrun
  rw [ComesTo] at h
  rw [← List.take_append_drop k plan.phases, runPhases_append, List.take_append_drop, h,
    List.length_take, Nat.min_eq_left hk, Nat.zero_add] at hphases
  exact ⟨last, ending, hphases, rfl, decide_eq_true_iff⟩

/-- **A run that goes on brings the phase that it is in to its end**, and goes on with the results
of that phase. -/
theorem InPhase.exists_of_runPhases (h : e.InPhase plan scope initial world k phase there t p)
    (hrun : e.runPhases plan scope initial k t there (phase :: phases) = .ok (after, t', ending)) :
    ∃ q rs, Pool.Leads (e.phasePolicy plan phase) p q ∧ q.results? = some rs ∧
      e.runPhase plan scope initial t phase (begun scope k phase there) =
        .ok (q.world, e.takenUp phase rs) ∧
      e.runPhases plan scope initial (k + 1) ((e.takenUp phase rs).foldl addResult t)
        (completed scope k (e.takenUp phase rs) q.world) phases = .ok (after, t', ending) := by
  cases runPhases_cons_iff.mp hrun with
  | cancelled hcancelled => cases h.goes.symm.trans hcancelled
  | stopped _ hstop hfailed => exact absurd (h.unfailed hstop) hfailed
  | phase _ _ hphase hrest =>
    -- The nodes come to the same end from `p` as from where the phase began.
    obtain ⟨rs, hpool, rfl⟩ := exists_run_of_runPhase hphase
    obtain ⟨q, hleads, rfl, hrs⟩ :=
      Pool.exists_leads_of_run (((isSound_phasePool ..).run_of_leads h.leads).trans hpool)
    exact ⟨q, rs, hleads, hrs, hphase, hrest⟩

/-- A run that comes to its end brings the phase that it is in to its end. -/
theorem InPhase.exists_end (h : e.InPhase plan scope initial world k phase there t p)
    (hstaged : plan.IsStaged) (hrun : e.runPlan plan scope initial world = .ok (after, run)) :
    ∃ q rs last ending, Pool.Leads (e.phasePolicy plan phase) p q ∧ q.results? = some rs ∧
      e.runPhase plan scope initial t phase (begun scope k phase there) =
        .ok (q.world, e.takenUp phase rs) ∧
      e.runPhases plan scope initial (k + 1) ((e.takenUp phase rs).foldl addResult t)
        (completed scope k (e.takenUp phase rs) q.world) (plan.phases.drop (k + 1)) =
        .ok (last, run.results, ending) ∧
      after = last.tell (.run scope.executionId
        (.completed (.ofNat run.succeeded) (.ofNat run.failed) run.durationMs)) ∧
      (run.cancelled = true ↔ ending = .cancelled) := by
  obtain ⟨hlt, hget⟩ := List.getElem?_eq_some_iff.mp h.getElem?_eq
  obtain ⟨last, ending, hphases, hafter⟩ := h.comes.exists_runPhases hstaged hlt.le hrun
  rw [List.drop_eq_getElem_cons hlt, hget] at hphases
  obtain ⟨q, rs, hleads, hrs, hphase, hrest⟩ := h.exists_of_runPhases hphases
  exact ⟨q, rs, last, ending, hleads, hrs, hphase, hrest, hafter⟩

/-- What has been told is not lost. -/
theorem mem_log_of_runPhases {x : Nat × Event} (hx : x ∈ world.log)
    (hrun : e.runPhases plan scope initial index t world phases = .ok (after, t', ending)) :
    x ∈ after.log := by
  have htell {w : World (Shared κ) Event} (hw : x ∈ w.log) (event : Event) :
      x ∈ (w.tell event).log := Array.mem_push.mpr (.inl hw)
  induction phases generalizing index t world with
  | nil =>
    cases hrun
    exact hx
  | cons phase rest ih =>
    cases runPhases_cons_iff.mp hrun with
    | cancelled | stopped => exact htell hx _
    | phase _ _ hphase hrest =>
      obtain ⟨rs, hpool, rfl⟩ := exists_run_of_runPhase hphase
      obtain ⟨q, hleads, rfl, -⟩ := Pool.exists_leads_of_run hpool
      exact ih (htell (Pool.mem_log_leads hleads (htell hx _)) _) hrest

/-- **The records of a phase are among those of the run**, and what its nodes have told is in the
log. -/
theorem InPhase.exists_records (h : e.InPhase plan scope initial world k phase there t p)
    (hstaged : plan.IsStaged) (hrun : e.runPlan plan scope initial world = .ok (after, run)) :
    ∃ q rs, Pool.Leads (e.phasePolicy plan phase) p q ∧ q.results? = some rs ∧
      (∀ r ∈ rs, run.get? r.2.nodeId = some r.2) ∧ ∀ y ∈ q.world.log, y ∈ after.log := by
  obtain ⟨q, rs, last, ending, hleads, hrs, hphase, hphases, rfl, -⟩ := h.exists_end hstaged hrun
  have hnext := hstaged.stagedFrom_cons h.getElem?_eq
  have hfound := runPhase_yieldAny (hnext.nodup_phaseCalls t) hphase
  refine ⟨q, rs, hleads, hrs, fun r hr => ?_, fun y hy => ?_⟩
  · have hmem : r.2 ∈ e.takenUp phase rs :=
      (e.takenUp_perm phase rs).mem_iff.mpr (List.mem_map_of_mem hr)
    refine runPhases_isPartOf hphases _ _ (hnext.get?_of_mem (fun id => ?_) hfound hmem)
    rw [h.comes.contains_iff hstaged, false_or]
  · have hcompleted : y ∈ (completed scope k (e.takenUp phase rs) q.world).log :=
      Array.mem_push.mpr (.inl hy)
    exact Array.mem_push.mpr (.inl (mem_log_of_runPhases hcompleted hphases))

/-- **Each phase that has started has settled**: its nodes have records when the run has come to its
end. -/
theorem exists_contains_of_phaseStarted (hstaged : plan.IsStaged)
    (hrun : e.runPlan plan scope initial world = .ok (after, run)) :
    ∃ log, after.news = world.news ++ log ∧ ∀ x i ids parallel,
      Event.run x (.phaseStarted i ids parallel) ∈ log →
        ∀ id ∈ ids, run.results.contains id = true := by
  obtain ⟨k, -, told, closing, ending, hnews, htold, hclosing, -, -, -, hcontains⟩ :=
    exists_of_runPlan hstaged hrun
  refine ⟨_, hnews, fun x i ids parallel hmem id hid => (hcontains id).mpr ?_⟩
  have hmem' : Event.run x (.phaseStarted i ids parallel) ∈ told := by
    simp only [List.cons_append, List.mem_cons, List.mem_append, List.not_mem_nil, or_false] at hmem
    rcases hmem with hstart | (hmem | hmem) | hend
    · cases hstart
    · exact hmem
    · cases hclosing <;> simp at hmem
    · cases hend
  obtain ⟨phase, hphase, rfl⟩ := htold.exists_phase hmem'
  exact List.mem_flatMap.mpr ⟨phase, hphase, hid⟩

/-! ### Requests from outside -/

theorem runPhases_expects {u : Nat} (h : world.Expects u)
    (hrun : e.runPhases plan scope initial index t world phases = .ok (after, t', ending)) :
    after.Expects u := by
  induction phases generalizing index t world with
  | nil =>
    cases hrun
    exact h
  | cons phase rest ih =>
    cases runPhases_cons_iff.mp hrun with
    | cancelled | stopped => exact h
    | phase _ _ hphase hrest =>
      obtain ⟨rs, hpool, rfl⟩ := exists_run_of_runPhase hphase
      obtain ⟨q, hleads, rfl, -⟩ := Pool.exists_leads_of_run hpool
      have hq : q.world.Expects u := Pool.expects_leads hleads h
      exact ih (by exact hq) hrest

theorem ComesTo.expects (h : e.ComesTo plan scope initial world k there t) {u : Nat}
    (hworld : world.Expects u) : there.Expects u := by
  rw [ComesTo] at h
  exact runPhases_expects (by exact hworld) h

/-- **A request from outside is granted at its instant**, wherever the run is then. -/
theorem IsAt.expects {calls : List Call} (h : e.IsAt plan scope initial world now calls) {u : Nat}
    (hworld : world.Expects u) : now.Expects u := by
  cases h with
  | between h => exact h.expects hworld
  | within _ h _ _ hpool => exact Pool.expects_leads hpool (by exact h.expects hworld)

/-! ### After cancellation -/

/-- Nodes do not start phases. -/
theorem InPhase.startsNoPhase (h : e.InPhase plan scope initial world k phase there t p)
    (hstaged : plan.IsStaged) {q : Pool (Shared κ) Event Result}
    (hq : Pool.Leads (e.phasePolicy plan phase) p q) : StartsNoPhase p.world q.world := by
  obtain ⟨limit, told, htold, -⟩ := h.exists_chronicle hstaged
  obtain ⟨more, hmore⟩ := htold.leads h.isSound hq
  have hnumbered := isNumbered_of_chronicle
    ((hstaged.stagedFrom_cons h.getElem?_eq).nodeId_phaseCalls t) hmore (h.isSound.leads hq)
  refine ⟨more.map (·.2), ?_, List.countP_eq_zero.mpr fun event hevent => ?_⟩
  · rw [hmore.news, htold.news, List.map_append, List.append_assoc]
  · obtain ⟨y, hy, rfl⟩ := List.mem_map.mp hevent
    obtain ⟨id, news, -, hnews⟩ := hnumbered.of_append.2 y hy
    rw [hnews]
    exact Bool.false_ne_true

/-- No phase starts when the run has been cancelled. -/
theorem startsNoPhase_of_cancelled (h : world.cancelled = true)
    (hrun : e.runPhases plan scope initial index t world phases = .ok (after, t', ending)) :
    StartsNoPhase world after := by
  cases phases with
  | nil =>
    cases hrun
    exact .refl _
  | cons phase others =>
    cases hrun.symm.trans (runPhases_cons_iff.mpr (.cancelled h))
    exact .tell _ rfl

/-- A run that has been cancelled when a phase is to start ends as cancelled. -/
theorem ending_eq_of_cancelled (h : world.cancelled = true)
    (hrun : e.runPhases plan scope initial index t world (phase :: phases) =
      .ok (after, t', ending)) :
    ending = .cancelled := by
  cases hrun.symm.trans (runPhases_cons_iff.mpr (.cancelled h))
  rfl

/-- A run that has gone through all phases goes through no more of them. -/
theorem ComesTo.min_length (h : e.ComesTo plan scope initial world k there t) :
    e.ComesTo plan scope initial world (min k plan.phases.length) there t := by
  rwa [ComesTo, ← List.take_take, List.take_length]

/-- **No phase starts after cancellation**, wherever the run is then. -/
theorem IsAt.startsNoPhase {calls : List Call} (h : e.IsAt plan scope initial world now calls)
    (hstaged : plan.IsStaged) (hcancelled : now.cancelled = true)
    (hrun : e.runPlan plan scope initial world = .ok (after, run)) : StartsNoPhase now after := by
  cases h with
  | between h =>
    obtain ⟨last, ending, hphases, rfl, -⟩ :=
      h.min_length.exists_runPhases hstaged (Nat.min_le_right _ _) hrun
    exact (startsNoPhase_of_cancelled hcancelled hphases).trans (.tell _ rfl)
  | @within k phase there t p hk h hgo hfailed hpool =>
    have hin : e.InPhase plan scope initial world k phase there t p := ⟨hk, h, hgo, hfailed, hpool⟩
    obtain ⟨q, rs, last, ending, hleads, -, -, hphases, rfl, -⟩ := hin.exists_end hstaged hrun
    have hq : q.world.cancelled = true := Pool.cancelled_leads hleads hcancelled
    calc StartsNoPhase p.world q.world := hin.startsNoPhase hstaged hleads
      StartsNoPhase _ (completed scope k (e.takenUp phase rs) q.world) := .tell _ rfl
      StartsNoPhase _ last := startsNoPhase_of_cancelled (by exact hq) hphases
      StartsNoPhase _ _ := .tell _ rfl

/-- **Cancellation that has come in a phase has come in one of its steps.** -/
theorem InPhase.exists_step_of_cancelled (h : e.InPhase plan scope initial world k phase there t p)
    (hcancelled : p.world.cancelled = true) : ∃ before after,
      e.InPhase plan scope initial world k phase there t before ∧
      before.step (e.phasePolicy plan phase) = .ok after ∧ before.world.cancelled = false ∧
      after.world.cancelled = true ∧ Pool.Leads (e.phasePolicy plan phase) after p := by
  obtain ⟨hk, hcomes, hgo, hfailed, hleads⟩ := h
  induction hleads with
  | refl => cases hgo.symm.trans hcancelled
  | @tail before after hbefore hstep ih =>
    cases hstill : before.world.cancelled with
    | false =>
      exact ⟨before, after, ⟨hk, hcomes, hgo, hfailed, hbefore⟩, hstep, hstill, hcancelled, .refl⟩
    | true =>
      obtain ⟨first, next, hin, hfirst, hnot, hnext, hrest⟩ := ih hstill
      exact ⟨first, next, hin, hfirst, hnot, hnext, hrest.tail hstep⟩

/-- A run comes to a later phase by way of the ones before. -/
theorem ComesTo.runPhases_eq (h : e.ComesTo plan scope initial world k there t) {l : Nat}
    (hkl : k ≤ l) (hl : l < plan.phases.length) {there' : World (Shared κ) Event}
    (h' : e.ComesTo plan scope initial world l there' t') :
    e.runPhases plan scope initial k t there ((plan.phases.drop k).take (l - k)) =
      .ok (there', t', .finished) := by
  obtain ⟨n, rfl⟩ := Nat.exists_eq_add_of_le hkl
  have hk : k ≤ plan.phases.length := by omega
  rw [ComesTo] at h h'
  rw [List.take_add, runPhases_append, h, List.length_take, Nat.min_eq_left hk, Nat.zero_add] at h'
  rwa [Nat.add_sub_cancel_left]

/-- **A phase never starts if the run has been cancelled when it is to start**, nor does a later
one. -/
theorem ComesTo.not_inPhase (h : e.ComesTo plan scope initial world k there t)
    (hcancelled : there.cancelled = true) {l : Nat} (hkl : k ≤ l)
    {there' : World (Shared κ) Event} :
    ¬ e.InPhase plan scope initial world l phase there' t' p := by
  intro hin
  obtain ⟨hlt, -⟩ := List.getElem?_eq_some_iff.mp hin.getElem?_eq
  have hrun := h.runPhases_eq hkl hlt hin.comes
  -- If there are phases in between, the run stops at the first of them.
  cases hrest : (plan.phases.drop k).take (l - k) with
  | nil =>
    rw [hrest] at hrun
    cases hrun
    cases hin.goes.symm.trans hcancelled
  | cons next others =>
    rw [hrest] at hrun
    cases ending_eq_of_cancelled hcancelled hrun

/-- **No later phase ever starts if the run is cancelled in a phase**, be it that the run comes to
its end or not. -/
theorem InPhase.not_inPhase (h : e.InPhase plan scope initial world k phase there t p)
    (hcancelled : p.world.cancelled = true) {l : Nat} (hkl : k < l) {phase' : Phase}
    {there' : World (Shared κ) Event} {p' : Pool (Shared κ) Event Result} :
    ¬ e.InPhase plan scope initial world l phase' there' t' p' := by
  intro hin
  obtain ⟨hlt, -⟩ := List.getElem?_eq_some_iff.mp hin.getElem?_eq
  obtain ⟨hk, hget⟩ := List.getElem?_eq_some_iff.mp h.getElem?_eq
  obtain ⟨n, rfl⟩ := Nat.exists_eq_add_of_lt hkl
  have hrun := h.comes.runPhases_eq hkl.le hlt hin.comes
  rw [List.drop_eq_getElem_cons hk, hget, show k + n + 1 - k = n + 1 by omega,
    List.take_succ_cons] at hrun
  obtain ⟨q, rs, hleads, -, -, hrest⟩ := h.exists_of_runPhases hrun
  have hq : q.world.cancelled = true := Pool.cancelled_leads hleads hcancelled
  cases hothers : (plan.phases.drop (k + 1)).take n with
  | nil =>
    rw [hothers] at hrest
    cases hrest
    cases hin.goes.symm.trans hq
  | cons next others =>
    rw [hothers] at hrest
    cases ending_eq_of_cancelled (by exact hq) hrest

/-- A run that ends as cancelled has come to a phase that it does not start. -/
theorem exists_cancelled_of_runPhases
    (hrun : e.runPhases plan scope initial index t world phases = .ok (after, t', .cancelled)) :
    ∃ k < phases.length, ∃ there t'', e.runPhases plan scope initial index t world
      (phases.take k) = .ok (there, t'', .finished) ∧ there.cancelled = true := by
  induction phases generalizing index t world with
  | nil => cases hrun
  | cons phase rest ih =>
    cases runPhases_cons_iff.mp hrun with
    | cancelled hcancelled => exact ⟨0, Nat.zero_lt_succ _, world, _, rfl, hcancelled⟩
    | phase hgo hunfailed hphase hrest =>
      obtain ⟨k, hk, there, t'', hthere, hcancelled⟩ := ih hrest
      exact ⟨k + 1, Nat.succ_lt_succ hk, there, t'',
        runPhases_cons_iff.mpr (.phase hgo hunfailed hphase hthere), hcancelled⟩

/-- **A run counts as cancelled if it had been when one of its phases was to start**, which
therefore did not. -/
theorem cancelled_iff (hstaged : plan.IsStaged)
    (hrun : e.runPlan plan scope initial world = .ok (after, run)) :
    run.cancelled = true ↔ ∃ k < plan.phases.length, ∃ there t,
      e.ComesTo plan scope initial world k there t ∧ there.cancelled = true := by
  have hstart : e.ComesTo plan scope initial world 0 (world.tell (.run scope.executionId
      (.started plan.graphId (.ofNat plan.phases.length)))) Table.empty := rfl
  obtain ⟨last, ending, hphases, -, hending⟩ :=
    hstart.exists_runPhases hstaged (Nat.zero_le _) hrun
  constructor
  · intro h
    obtain rfl := hending.mp h
    obtain ⟨k, hk, there, t, hthere, hcancelled⟩ := exists_cancelled_of_runPhases hphases
    exact ⟨k, hk, there, t, hthere, hcancelled⟩
  · rintro ⟨k, hk, there, t, hthere, hcancelled⟩
    obtain ⟨last, ending, hphases, -, hending⟩ := hthere.exists_runPhases hstaged hk.le hrun
    rw [List.drop_eq_getElem_cons hk] at hphases
    exact hending.mpr (ending_eq_of_cancelled hcancelled hphases)

/-- **A run that is cancelled in a phase counts as cancelled just if that is not its last one.** -/
theorem InPhase.cancelled_iff (h : e.InPhase plan scope initial world k phase there t p)
    (hstaged : plan.IsStaged) (hcancelled : p.world.cancelled = true)
    (hrun : e.runPlan plan scope initial world = .ok (after, run)) :
    run.cancelled = true ↔ k + 1 < plan.phases.length := by
  obtain ⟨q, rs, last, ending, hleads, -, -, hphases, -, hending⟩ := h.exists_end hstaged hrun
  have hq : (completed scope k (e.takenUp phase rs) q.world).cancelled = true :=
    Pool.cancelled_leads hleads hcancelled
  rw [hending]
  by_cases hlt : k + 1 < plan.phases.length
  · rw [List.drop_eq_getElem_cons hlt] at hphases
    exact iff_of_true (ending_eq_of_cancelled hq hphases) hlt
  · rw [List.drop_eq_nil_of_le (Nat.le_of_not_lt hlt)] at hphases
    obtain rfl : Ending.finished = ending := congrArg (·.2.2) (Except.ok.inj hphases)
    exact iff_of_false Ending.noConfusion hlt

end Engine

end PortGraph
