import PortGraph.Proofs.Engine.Annals
import PortGraph.Proofs.Engine.Contents
import PortGraph.Proofs.Work.Steps

/-!
# Calls that are made again

Each run of an engine adds to its annals, one drive at a time: whoever is driven in the pool of a
phase is an execution of a call of that phase. So what is known of the annals is known of any
history of runs, finished ones and such as are left off at whatever time, one after the other or
side by side.

A call that succeeded before it is made again is not dispatched any more, and what has failed is
never found.

## Main definitions

* `Pool.EndedIn`: a call has ended in a pool
* `Pool.IsNoted`: the executions of a pool that have ended are in the annals

## Main results

* `Pool.IsNoted.step`, `Pool.IsNoted.leads`: steps add to the annals
* `Engine.Annals.within`, `Engine.Annals.runPlan`: what a run adds to the annals
* `Engine.Annals.idempotent`: calls that are made again
-/

namespace PortGraph

variable {β κ : Type}

/-! ### The pool of a phase -/

/-- Of some pieces that execute calls, one has ended the call `c` with the record `x`. -/
def Pool.EndedIn (calls : List Call) (pieces : List (Piece (Shared κ) Event Result)) (c : Call)
    (x : Result) : Prop :=
  ∃ (j : Nat) (q : Piece (Shared κ) Event Result) (t : Nat),
    pieces[j]? = some q ∧ calls[j]? = some c ∧ q.result? = some (t, x)

/-- The pieces of a pool are what is left of executions of some calls, and those that have ended are
in the annals, before those that had ended before. -/
structure Pool.IsNoted (e : Engine κ) (calls : List Call) (old : List (Call × Result))
    (p : Pool (Shared κ) Event Result) : Prop where
  remains : ∀ (j : Nat) q, p.pieces[j]? = some q → ∃ c, calls[j]? = some c ∧ e.Remains c q.rest
  /-- Who has not started has not ended. -/
  fresh : ∀ (j : Nat) q, p.pieces[j]? = some q → q.stopped? = none → ∀ x, q.rest ≠ .done x
  annals : ∃ cache new, p.world.state.cache? = some cache ∧ e.Annals cache (new ++ old) ∧
    ∀ c x, (c, x) ∈ new ↔ EndedIn calls p.pieces c x

namespace Pool

variable {e : Engine κ} {calls : List Call} {old : List (Call × Result)}
  {p q : Pool (Shared κ) Event Result}

/-- The invariant looks at nothing but the pieces and what is shared. -/
theorem IsNoted.of_eq (h : p.IsNoted e calls old) (hpieces : q.pieces = p.pieces)
    (hstate : q.world.state = p.world.state) : q.IsNoted e calls old where
  remains := hpieces ▸ h.remains
  fresh := hpieces ▸ h.fresh
  annals := by
    rw [hpieces, hstate]
    exact h.annals

/-- What is resumed of a piece that can be driven is what is left of an execution, and not its
end. -/
theorem IsNoted.resume (h : p.IsNoted e calls old) {i : Nat} {s : Piece (Shared κ) Event Result}
    (hs : p.pieces[i]? = some s) (hopen : s.isOpen = true) :
    ∃ c, calls[i]? = some c ∧ e.Remains c s.resume ∧ ∀ x, s.resume ≠ .done x := by
  obtain ⟨c, hc, hremains⟩ := h.remains i s hs
  refine ⟨c, hc, ?_⟩
  obtain ⟨rest, stopped?⟩ := s
  cases stopped? with
  | none => exact ⟨hremains, h.fresh i _ hs rfl⟩
  | some k =>
    cases rest with
    | yield next => exact ⟨.passed hremains, hremains.ne_done_of_yield⟩
    | await w next => exact ⟨hremains, nofun⟩
    | _ => cases hopen

/-- When a piece has been driven, the same have ended as before, and this one if it has come to its
end. -/
theorem endedIn_set_iff {pieces : List (Piece (Shared κ) Event Result)} {i : Nat}
    {s : Piece (Shared κ) Event Result} (hs : pieces[i]? = some s) (hopen : s.isOpen = true)
    {c : Call} (hc : calls[i]? = some c) (rest : Work (Shared κ) Event Result) (k : Nat) (d : Call)
    (x : Result) : EndedIn calls (pieces.set i ⟨rest, some k⟩) d x ↔
      (rest = .done x ∧ d = c) ∨ EndedIn calls pieces d x := by
  constructor
  · rintro ⟨j, q, t, hq, hd, hresult⟩
    by_cases hj : j = i
    · subst hj
      rw [List.getElem?_set_self (List.getElem?_eq_some_iff.mp hs).1] at hq
      cases hq
      cases hc.symm.trans hd
      cases rest <;> cases hresult
      exact .inl ⟨rfl, rfl⟩
    · exact .inr ⟨j, q, t, List.getElem?_set_ne (Ne.symm hj) ▸ hq, hd, hresult⟩
  · rintro (⟨rfl, rfl⟩ | ⟨j, q, t, hq, hd, hresult⟩)
    · exact ⟨i, _, k, List.getElem?_set_self (List.getElem?_eq_some_iff.mp hs).1, hc, rfl⟩
    · have hj : j ≠ i := by
        rintro rfl
        cases hs.symm.trans hq
        cases (Piece.result?_of_isOpen hopen).symm.trans hresult
      exact ⟨j, q, t, (List.getElem?_set_ne (Ne.symm hj)).trans hq, hd, hresult⟩

theorem mem_noted_iff {c d : Call} {x : Result} {rest : Work (Shared κ) Event Result}
    {new : List (Call × Result)} :
    (d, x) ∈ Engine.noted c rest new ↔ (rest = .done x ∧ d = c) ∨ (d, x) ∈ new := by
  cases rest with
  | done y =>
    rw [Engine.noted, List.mem_cons, Prod.mk.injEq, Work.done.injEq, and_comm, eq_comm (a := y)]
  | _ => simp [Engine.noted]

/-- A drive adds to the annals. -/
theorem IsNoted.drive (h : p.IsNoted e calls old) {i : Nat} (hq : p.drive i = .ok q) :
    q.IsNoted e calls old := by
  obtain ⟨s, hs, rfl | ⟨hopen, -, rfl⟩⟩ := drive_inv hq
  · exact h.of_eq rfl rfl
  · obtain ⟨c, hc, hremains, hne⟩ := h.resume hs hopen
    obtain ⟨cache, new, hcache, hannals, hnew⟩ := h.annals
    obtain ⟨after, hafter, -, -⟩ :=
      hremains.moves hne hannals.isSound.unbounded hcache
    refine ⟨fun j r hr => ?_, fun j r hr hstop => ?_, ?_⟩
    · rcases getElem?_settle hr with ⟨rfl, rfl⟩ | ⟨-, hr⟩
      · exact ⟨c, hc, .driven hremains p.world⟩
      · exact h.remains j r hr
    · rcases getElem?_settle hr with ⟨-, rfl⟩ | ⟨-, hr⟩
      · cases hstop
      · exact h.fresh j r hr hstop
    · have hdriven := hannals.drive hremains hne hcache hafter
      have happend : Engine.noted c (s.resume.drive p.world).2 (new ++ old) =
          Engine.noted c (s.resume.drive p.world).2 new ++ old := by
        cases (s.resume.drive p.world).2 <;> rfl
      rw [happend] at hdriven
      refine ⟨after, _, by rw [settle_world, hafter], hdriven, fun d x => ?_⟩
      rw [settle_pieces, mem_noted_iff, hnew]
      exact (endedIn_set_iff hs hopen hc _ _ d x).symm

/-- **A step adds to the annals.** -/
theorem IsNoted.step (h : p.IsNoted e calls old) {policy : Policy} (hq : p.step policy = .ok q) :
    q.IsNoted e calls old := by
  obtain ⟨r, i, rfl | hr, -, hq⟩ := step_inv hq
  · exact h.drive hq
  · exact (h.of_eq (nextTurn_pieces hr) ((nextTurn_keeps hr).1)).drive hq

/-- **Any number of steps add to the annals.** -/
theorem IsNoted.leads (h : p.IsNoted e calls old) {policy : Policy} (hq : Leads policy p q) :
    q.IsNoted e calls old := by
  induction hq with
  | refl => exact h
  | tail _ hstep ih => exact ih.step hstep

/-- A pool that has come to its end has added its results to the annals. -/
theorem IsNoted.run (h : p.IsNoted e calls old) {policy : Policy}
    {world : World (Shared κ) Event} {rs : List (Nat × Result)}
    (hrun : p.run policy = .ok (world, rs)) :
    rs.length = p.pieces.length ∧
      ∃ cache new, world.state.cache? = some cache ∧ e.Annals cache (new ++ old) ∧
        ∀ c x, (c, x) ∈ new ↔
          ∃ (j : Nat) (t : Nat), calls[j]? = some c ∧ rs[j]? = some (t, x) := by
  obtain ⟨q, hq, rfl, hrs⟩ := exists_leads_of_run hrun
  obtain ⟨hlength, hpieces⟩ := exists_piece_of_results? hrs
  obtain ⟨cache, new, hcache, hannals, hnew⟩ := (h.leads hq).annals
  refine ⟨hlength.trans (length_pieces_leads hq), cache, new, hcache, hannals, fun c x => ?_⟩
  rw [hnew]
  constructor
  · rintro ⟨j, s, t, hs, hc, hresult⟩
    have hlt : j < rs.length := hlength ▸ (List.getElem?_eq_some_iff.mp hs).1
    have hget := List.getElem?_eq_getElem hlt
    cases hs.symm.trans (hpieces j _ hget)
    exact ⟨j, t, hc, hget.trans hresult⟩
  · rintro ⟨j, t, hc, hr⟩
    exact ⟨j, _, t, hpieces j _ hr, hc, rfl⟩

end Pool

/-! ### Runs -/

/-- Of some results there is one call for each node. -/
theorem Plan.IsStaged.eq_of_mem_callsOf {plan : Plan} (h : plan.IsStaged) {initial : Fields}
    {t : Table Result} {c d : Call} (hc : c ∈ plan.callsOf initial t)
    (hd : d ∈ plan.callsOf initial t) (hnode : c.nodeId = d.nodeId) : c = d := by
  have hcall : ∀ b ∈ plan.callsOf initial t, plan.step? b.nodeId = some b.step ∧
      b.inputs = gather b.step t initial := by
    intro b hb
    obtain ⟨id, hid, hmap⟩ := List.mem_filterMap.mp hb
    obtain ⟨step, hstep, rfl⟩ := Option.map_eq_some_iff.mp hmap
    obtain ⟨phase, hphase, hid⟩ := List.mem_flatMap.mp (List.mem_filter.mp hid).1
    obtain ⟨k, hk, rfl⟩ := List.getElem_of_mem hphase
    obtain ⟨-, step', hstep', hnode, -⟩ :=
      (h.stagedFrom_cons (List.getElem?_eq_getElem hk)).2.1 id hid
    cases hstep.symm.trans hstep'
    exact ⟨by rw [Call.nodeId, hnode, hstep], rfl⟩
  obtain ⟨hcstep, hcinputs⟩ := hcall c hc
  obtain ⟨hdstep, hdinputs⟩ := hcall d hd
  have hstep : c.step = d.step := Option.some.inj (hcstep.symm.trans (hnode ▸ hdstep))
  obtain ⟨cstep, cinputs⟩ := c
  obtain ⟨dstep, dinputs⟩ := d
  simp only at hstep hcinputs hdinputs
  rw [hcinputs, hdinputs, hstep]

namespace Engine

variable {e : Engine κ} {plan : Plan} {scope : Scope} {initial : Fields} {cache : Cache}
  {old : List (Call × Result)} {world after : World (Shared κ) Event}

/-- No execution of a phase has ended before the phase begins. -/
theorem isNoted_phasePool (h : e.Annals cache old) (hworld : world.state.cache? = some cache)
    (t : Table Result) (phase : Phase) :
    (e.phasePool plan scope initial t phase world).IsNoted e (plan.phaseCalls initial t phase)
      old := by
  have hget {j : Nat} {q : Piece (Shared κ) Event Result}
      (hq : (e.phasePool plan scope initial t phase world).pieces[j]? = some q) :
      q.stopped? = none ∧ ∃ c, (plan.phaseCalls initial t phase)[j]? = some c ∧
        q.rest = (e.execute { scope with nodeId := c.nodeId } c.step c.inputs).mapNews
          (Event.node scope.executionId c.nodeId) := by
    obtain ⟨w, hw, rfl⟩ := Option.map_eq_some_iff.mp (List.getElem?_map ▸ hq)
    exact ⟨rfl, exists_call_of_getElem? hw⟩
  refine ⟨fun j q hq => ?_, fun j q hq _ x hx => ?_, cache, [], hworld, h, fun c x => ?_⟩
  · obtain ⟨-, c, hc, hrest⟩ := hget hq
    exact ⟨c, hc, hrest ▸ .whole _ _⟩
  · obtain ⟨-, c, -, hrest⟩ := hget hq
    cases hrest.symm.trans hx
  · refine iff_of_false List.not_mem_nil ?_
    rintro ⟨j, q, t, hq, -, hresult⟩
    obtain ⟨hstop, -⟩ := hget hq
    rw [Piece.result?, hstop] at hresult
    cases hresult

/-- What a phase adds to the annals. -/
theorem Annals.runPhase (h : e.Annals cache old) (hworld : world.state.cache? = some cache)
    {t : Table Result} {phase : Phase} {found : List Result}
    (hids : ((plan.phaseCalls initial t phase).map (·.nodeId)).Nodup)
    (hrun : e.runPhase plan scope initial t phase world = .ok (after, found)) :
    ∃ cache' new, after.state.cache? = some cache' ∧ e.Annals cache' (new ++ old) ∧
      (∀ c x, (c, x) ∈ new → c ∈ plan.phaseCalls initial t phase ∧ x ∈ found ∧
        x.nodeId = c.nodeId) ∧
      ∀ x ∈ found, ∃ c, (c, x) ∈ new := by
  have hyields := runPhase_yieldAny hids hrun
  obtain ⟨rs, hpool, rfl⟩ := exists_run_of_runPhase hrun
  have hnoted : (e.phasePool plan scope initial t phase world).IsNoted e
      (plan.phaseCalls initial t phase) old := isNoted_phasePool h hworld t phase
  obtain ⟨hlength, cache', new, hcache, hannals, hnew⟩ := hnoted.run hpool
  have hperm := e.takenUp_perm phase rs
  refine ⟨cache', new, hcache, hannals, fun c x hx => ?_, fun x hx => ?_⟩
  · obtain ⟨j, k, hc, hr⟩ := (hnew c x).mp hx
    refine ⟨List.mem_of_getElem? hc, ?_, hannals.nodeId_eq (List.mem_append_left _ hx)⟩
    exact hperm.mem_iff.mpr (List.mem_map.mpr ⟨_, List.mem_of_getElem? hr, rfl⟩)
  · obtain ⟨⟨k, y⟩, hy, rfl⟩ := List.mem_map.mp (hperm.mem_iff.mp hx)
    obtain ⟨j, hj, hget⟩ := List.getElem_of_mem hy
    rw [length_phasePool] at hlength
    have hc := List.getElem?_eq_getElem (hlength ▸ hj)
    exact ⟨_, (hnew _ y).mpr ⟨j, k, hc, by rw [List.getElem?_eq_getElem hj, hget]⟩⟩

/-- What some phases add to the annals: the calls of the nodes that get results, with these. -/
theorem Annals.runPhases {phases : List Phase} {known : String → Prop} {index : Nat}
    {t t' : Table Result} {ending : Ending} (hstaged : plan.StagedFrom known phases)
    (hsub : ∀ phase ∈ phases, phase ∈ plan.phases) (ht : ∀ id, t.contains id = true ↔ known id)
    (h : e.Annals cache old) (hworld : world.state.cache? = some cache)
    (hrun : e.runPhases plan scope initial index t world phases = .ok (after, t', ending)) :
    ∃ cache' new, after.state.cache? = some cache' ∧ e.Annals cache' (new ++ old) ∧
      (∀ c x, (c, x) ∈ new → c ∈ plan.callsOf initial t' ∧ t'.get? c.nodeId = some x) ∧
      ∀ id x, t'.get? id = some x → t.get? id = some x ∨ ∃ c, (c, x) ∈ new ∧ c.nodeId = id := by
  induction phases generalizing known index t world cache old with
  | nil =>
    cases hrun
    exact ⟨cache, [], hworld, h, fun c x hx => absurd hx List.not_mem_nil,
      fun id x hx => .inl hx⟩
  | cons phase rest ih =>
    cases runPhases_cons_iff.mp hrun with
    | cancelled | stopped =>
      exact ⟨cache, [], hworld, h, fun c x hx => absurd hx List.not_mem_nil,
        fun id x hx => .inl hx⟩
    | phase _ _ hphase hphases =>
      have hids : ((plan.phaseCalls initial t phase).map (·.nodeId)).Nodup :=
        hstaged.nodup_phaseCalls t
      have hfound := runPhase_yieldAny hids hphase
      obtain ⟨cache', now, hcache, hannals, hnow, hall⟩ :=
        h.runPhase (by exact hworld) hids hphase
      obtain ⟨cache'', new, hcache', hannals', hnew, hrest⟩ := ih hstaged.2.2
        (fun p hp => hsub p (List.mem_cons_of_mem _ hp)) (hstaged.contains_foldl_iff ht hfound)
        hannals (by exact hcache) hphases
      have hpart := runPhases_isPartOf hphases
      have hcalls := hstaged.phaseCalls_subset (fun id => (ht id).mpr)
        (fun id hid => List.mem_flatMap.mpr ⟨phase, hsub phase List.mem_cons_self, hid⟩)
        hfound hpart
      refine ⟨cache'', new ++ now, hcache', by rwa [List.append_assoc], ?_, ?_⟩
      · intro c x hx
        rcases List.mem_append.mp hx with hx | hx
        · exact hnew c x hx
        · obtain ⟨hc, hxfound, hnode⟩ := hnow c x hx
          refine ⟨hcalls hc, ?_⟩
          rw [← hnode]
          exact hpart _ _ (hstaged.get?_of_mem ht hfound hxfound)
      · intro id x hx
        rcases hrest id x hx with hx | ⟨c, hc, hid⟩
        · rw [get?_foldl_addResult, Option.or_eq_some_iff] at hx
          refine hx.imp_right fun hfind => ?_
          obtain ⟨c, hc⟩ := hall x (List.mem_of_find?_eq_some hfind.2)
          obtain ⟨-, -, hnode⟩ := hnow c x hc
          refine ⟨c, List.mem_append_right _ hc, ?_⟩
          rw [← hnode]
          simpa using List.find?_some hfind.2
        · exact .inr ⟨c, List.mem_append_left _ hc, hid⟩

/-- What the phases from the first one on add to the annals: the calls of all nodes that have got
results, with these. -/
theorem Annals.runPhases_of_empty (h : e.Annals cache old) (hstaged : plan.IsStaged)
    (hworld : world.state.cache? = some cache) {k : Nat} {t : Table Result} {ending : Ending}
    (hrun : e.runPhases plan scope initial 0 Table.empty world (plan.phases.take k) =
      .ok (after, t, ending)) :
    ∃ cache' new, after.state.cache? = some cache' ∧ e.Annals cache' (new ++ old) ∧
      ∀ c x, (c, x) ∈ new ↔ c ∈ plan.callsOf initial t ∧ t.get? c.nodeId = some x := by
  obtain ⟨cache', new, hcache, hannals, hnew, hall⟩ := h.runPhases (hstaged.take k)
    (fun _ hp => List.mem_of_mem_take hp) (fun id => by simp [Table.contains, Table.get?_empty])
    hworld hrun
  refine ⟨cache', new, hcache, hannals, fun c x => ⟨hnew c x, ?_⟩⟩
  rintro ⟨hc, hx⟩
  obtain hempty | ⟨d, hd, hnode⟩ := hall c.nodeId x hx
  · cases hempty
  · rwa [hstaged.eq_of_mem_callsOf hc (hnew d x hd).1 hnode.symm]

/-- **A run adds to the annals** wherever it is left off: the calls of the phases that it has gone
through, with their records, and those of the phase that it is in that have ended by then. -/
theorem Annals.within (h : e.Annals cache old) (hstaged : plan.IsStaged)
    (hworld : world.state.cache? = some cache) {k : Nat} {phase : Phase}
    {there now : World (Shared κ) Event} {t : Table Result} {pool : Pool (Shared κ) Event Result}
    (hcomes : e.ComesTo plan scope initial world k there t) (hnow : now.state = there.state)
    (hpool : Pool.Leads (e.phasePolicy plan phase)
      (e.phasePool plan scope initial t phase now) pool) :
    ∃ cache' new, pool.world.state.cache? = some cache' ∧ e.Annals cache' (new ++ old) ∧
      ∀ c x, (c, x) ∈ new ↔ (c ∈ plan.callsOf initial t ∧ t.get? c.nodeId = some x) ∨
        Pool.EndedIn (plan.phaseCalls initial t phase) pool.pieces c x := by
  obtain ⟨cache', before, hcache, hannals, hbefore⟩ :=
    h.runPhases_of_empty hstaged (by exact hworld) hcomes
  obtain ⟨cache'', new, hcache', hannals', hnew⟩ :=
    ((isNoted_phasePool hannals (hnow ▸ hcache) t phase).leads hpool).annals
  refine ⟨cache'', new ++ before, hcache', by rwa [List.append_assoc], fun c x => ?_⟩
  rw [List.mem_append, hnew, hbefore, or_comm]

/-- **A run that has come to its end has added its records to the annals**, each with the call of
its node. -/
theorem Annals.runPlan (h : e.Annals cache old) (hstaged : plan.IsStaged)
    (hworld : world.state.cache? = some cache) {run : RunResults}
    (hrun : e.runPlan plan scope initial world = .ok (after, run)) :
    ∃ cache' new, after.state.cache? = some cache' ∧ e.Annals cache' (new ++ old) ∧
      ∀ c x, (c, x) ∈ new ↔
        c ∈ plan.callsOf initial run.results ∧ run.results.get? c.nodeId = some x := by
  obtain ⟨last, t, ending, hphases, rfl, rfl⟩ := (runPlan_eq_ok_iff hstaged).mp hrun
  have hall : e.runPhases plan scope initial 0 Table.empty (world.tell
      (.run scope.executionId (.started plan.graphId (.ofNat plan.phases.length))))
      (plan.phases.take plan.phases.length) = .ok (last, t, ending) := by
    rw [List.take_length]
    exact hphases
  obtain ⟨cache', new, hcache, hannals, hnew⟩ :=
    h.runPhases_of_empty hstaged (by exact hworld) hall
  exact ⟨cache', new, hcache, hannals, hnew⟩

/-! ### Calls that are made again -/

/-- **Calls that are made again.** Take any history of the executions of an engine that share a
cache whose entries stay, and the executions that have ended in it.

If one of them succeeded, an execution of a call with the same triple that begins now ends at once,
and what backend there is makes no difference: nothing is dispatched. Its record tells of success by
the cache after no attempts, with the outputs of the last execution that succeeded without being
ended by the cache, among those with that key, which are those with that triple if the digest tells
calls apart.

And whoever has been ended by the cache has the outputs of the last execution that had so succeeded
by then: what has failed never makes a later execution end.

The runs of the engine make such histories: a run goes on with the history of the cache that it
begins with. In the middle of a phase it has added the calls of the phases before with their
records, and the calls of the phase that have ended by then; at its end, the calls of all nodes that
have got results. -/
theorem Annals.idempotent (e : Engine κ) (cache : Cache) (ended : List (Call × Result))
    (h : e.Annals cache ended) :
    (∀ c x d, (c, x) ∈ ended → c.cacheable = true → x.success = true → d.cacheable = true →
      c.triple = d.triple → ∃ y, e.lastStored? ended (e.callKey d) = some y ∧
        (e.TellsApart (d :: ended.map (·.1)) → lastUncached? ended d.triple = some y) ∧
        ∀ (scope : Scope) f (world : World (Shared κ) Event), world.state.cache? = some cache →
          ∃ after hit, (∀ b, ((({ e with backend := b } : Engine κ).execute scope d.step
              d.inputs).mapNews f).drive world = (after, .done hit)) ∧
            after.state.host = world.state.host ∧ hit.nodeId = d.nodeId ∧ hit.success = true ∧
            hit.outputs = y.outputs ∧ hit.error = none ∧ hit.metadata.cached = true ∧
            hit.metadata.attempts = 0) ∧
    (∀ newer older c x, ended = newer ++ (c, x) :: older → x.metadata.cached = true →
      x.success = true ∧ ∃ y, e.lastStored? older (e.callKey c) = some y ∧
        (e.TellsApart (ended.map (·.1)) → lastUncached? older c.triple = some y) ∧
        x.outputs = y.outputs) ∧
    ∀ (r : Registry β) (g : Graph) plan scope initial (world : World (Shared κ) Event),
      g.compile r = .ok plan → world.state.cache? = some cache →
      (∀ k phase there t pool, plan.phases[k]? = some phase →
        e.ComesTo plan scope initial world k there t →
        Pool.Leads (e.phasePolicy plan phase) (e.phasePool plan scope initial t phase (there.tell
          (.run scope.executionId (.phaseStarted (.ofNat k) phase.nodeIds phase.parallel)))) pool →
        ∃ cache' new, pool.world.state.cache? = some cache' ∧ e.Annals cache' (new ++ ended) ∧
          ∀ c x, (c, x) ∈ new ↔ (c ∈ plan.callsOf initial t ∧ t.get? c.nodeId = some x) ∨
            Pool.EndedIn (plan.phaseCalls initial t phase) pool.pieces c x) ∧
      ∀ after run, e.runPlan plan scope initial world = .ok (after, run) →
        ∃ cache' new, after.state.cache? = some cache' ∧ e.Annals cache' (new ++ ended) ∧
          ∀ c x, (c, x) ∈ new ↔
            c ∈ plan.callsOf initial run.results ∧ run.results.get? c.nodeId = some x := by
  have hsound := h.isSound
  refine ⟨?again, ?cause, ?runs⟩
  case again =>
    intro c x d hx hc hsuccess hd htriple
    have hkey : e.callKey c = e.callKey d := congrArg e.digest (Call.bytes_eq_iff.mpr htriple)
    obtain ⟨y, hy⟩ := Option.isSome_iff_exists.mp (hsound.isSome c x hx hc hsuccess)
    rw [hkey] at hy
    exact ⟨y, hy, fun hapart => hapart.lastStored?_eq hd ▸ hy,
      fun scope f world hworld => h.exists_hit hd hy scope f hworld⟩
  case cause =>
    intro newer older c x hsplit hcached
    obtain ⟨hc, hsuccess, hfound⟩ := hsound.hits newer older c x hsplit hcached
    obtain ⟨y, hy, houtputs⟩ := Option.map_eq_some_iff.mp hfound
    refine ⟨hsuccess, y, hy, fun hapart => ?_, houtputs.symm⟩
    have hsub : c :: older.map (·.1) ⊆ ended.map (·.1) := by
      rw [hsplit, List.map_append, List.map_cons]
      exact List.subset_append_right _ _
    exact (hapart.mono hsub).lastStored?_eq hc ▸ hy
  case runs =>
    intro r g plan scope initial world hplan hworld
    have hstaged := (Graph.isPlan_of_compile hplan).1.isStaged
    exact ⟨fun k phase there t pool _ hcomes hpool => h.within hstaged hworld hcomes (by rfl) hpool,
      fun after run hrun => h.runPlan hstaged hworld hrun⟩

/-- The call of a source of the small graph. -/
def sourceCall (id : String) : Call := ⟨(Graph.samplePlan.step? id).getD default, Table.empty⟩

/-- What a call of the source `q` comes to when nothing has been stored. -/
def firstSource : World (Shared Unit) Event × Work (Shared Unit) Event Result :=
  ((promptEngine.execute ⟨"run", "sample", "q", none⟩ (sourceCall "q").step
    (sourceCall "q").inputs).mapNews (Event.node "run" "q")).drive promptWorld

/-- The source `q` is called, and then the source `p`, which has the same type and configuration. -/
theorem idempotent_sourceCall :
    (sourceCall "q").nodeId ≠ (sourceCall "p").nodeId ∧ ∃ cache x,
      promptEngine.Annals cache [(sourceCall "q", x)] ∧ x.success = true ∧
      x.metadata.cached = false ∧ ∀ (scope : Scope) f (world : World (Shared Unit) Event),
        world.state.cache? = some cache → ∃ after hit,
          ((promptEngine.execute scope (sourceCall "p").step (sourceCall "p").inputs).mapNews
            f).drive world = (after, .done hit) ∧ hit.nodeId = "p" ∧ hit.success = true ∧
          hit.outputs = x.outputs ∧ hit.metadata.cached = true ∧ hit.metadata.attempts = 0 := by
  obtain ⟨cache, hcache⟩ : ∃ cache, firstSource.1.state.cache? = some cache :=
    Option.isSome_iff_exists.mp (by decide +kernel)
  have hdrive : promptEngine.Annals cache (noted (sourceCall "q") firstSource.2 []) :=
    .drive .start (.whole _ _) (by rintro x ⟨⟩) rfl hcache
  have heval : (noted (sourceCall "q") firstSource.2 []).map
      (fun y => (y.2.success, y.2.metadata.cached)) = [(true, false)] := by decide +kernel
  obtain ⟨x, hannals, hsuccess, hcached⟩ : ∃ x, promptEngine.Annals cache [(sourceCall "q", x)] ∧
      x.success = true ∧ x.metadata.cached = false := by
    cases hrest : firstSource.2 with
    | done x =>
      rw [hrest] at hdrive heval
      exact ⟨x, hdrive, by simpa [noted] using heval⟩
    | _ => rw [hrest] at heval; cases heval
  obtain ⟨hagain, -⟩ :=
    @Annals.idempotent Unit Unit promptEngine cache [(sourceCall "q", x)] hannals
  obtain ⟨y, hy, -, hhit⟩ := hagain (sourceCall "q") x (sourceCall "p") List.mem_cons_self
    (by decide +kernel) hsuccess (by decide +kernel) (by decide +kernel)
  have hyx : y = x := by
    rw [lastStored?_cons] at hy
    split at hy
    · exact (Option.some.inj hy).symm
    · cases hy
  refine ⟨by decide +kernel, cache, x, hannals, hsuccess, hcached, fun scope f world hworld => ?_⟩
  obtain ⟨after, hit, hdrive, -, hnode, hok, houtputs, -, hfrom, hattempts⟩ :=
    hhit scope f world hworld
  have hp : (sourceCall "p").nodeId = "p" := by decide +kernel
  exact ⟨after, hit, hdrive promptEngine.backend, hnode.trans hp, hok, hyx ▸ houtputs, hfrom,
    hattempts⟩

end Engine

end PortGraph
