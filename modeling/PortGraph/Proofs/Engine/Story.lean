import PortGraph.Proofs.Engine.Course
import PortGraph.Proofs.Work.Chronicle
import PortGraph.Proofs.Work.Ends

/-!
# What is told of a node and of a phase

Whatever a node meets with, be it a remembered outcome, inputs or a configuration that are not
valid, a body with attempts and progress of its own, or outputs that are not valid, its start is
told once, then whatever there is to tell on the way, and then once its end, which is that of its
record.

What is told of the nodes of a phase is an interleaving of that. No more nodes than there is room
for have started and not ended at any time, and a phase whose nodes are not to run side by side
tells of one node after the other.

## Main definitions

* `IsStory`: what is told of one node, from its start to its end
* `newsAbout`, `IsUnderWay`: what some events tell of a node
* `IsBlock`: what is told of the nodes of a phase

## Main results

* `Engine.isStory_execute`: a node that has ended has told its story
* `Engine.isBlock_runPhase`: a phase that has ended has told the stories of its nodes
* `Engine.ends_execute`: a node comes to its end if what is dispatched for it does
-/

namespace PortGraph

variable {κ : Type}

/-! ### Stories -/

namespace NodeNews

/-- Told of a node that has started and not ended. -/
def isInterim : NodeNews → Bool
  | .retrying .. | .progress .. | .submitted .. => true
  | .started .. | .completed .. | .failed .. => false

/-- Told of the end of a node: whether it has succeeded. -/
def verdict? : NodeNews → Option Bool
  | .completed .. => some true
  | .failed .. => some false
  | .started .. | .retrying .. | .progress .. | .submitted .. => none

end NodeNews

/-- What is told of a node from its start to its end, which is a success or not. -/
inductive IsStory (success : Bool) : List NodeNews → Prop
  | intro {type : String} {between : List NodeNews} {closing : NodeNews}
    (hbetween : ∀ n ∈ between, n.isInterim = true) (hclosing : closing.verdict? = some success) :
    IsStory success (.started type :: between ++ [closing])

namespace Engine

variable {e : Engine κ} {scope : Scope} {step : Step} {inputs : Fields}

/-- Looking for a remembered outcome is not told of. -/
theorem told_remembered {told : List NodeNews} {found : Option Fields}
    (h : (e.remembered step inputs).Tells told (.done found)) : told = [] := by
  rw [remembered] at h
  split at h
  · cases h with
    | observe h =>
      cases h with
      | consult h =>
        cases h
        rfl
  · cases h
    rfl

/-- Remembering an outcome is not told of. -/
theorem told_remember {told : List NodeNews} {o : Outcome} {u : Unit}
    (h : (e.remember step inputs o).Tells told (.done u)) : told = [] := by
  cases o with
  | error err =>
    cases h
    rfl
  | ok outputs =>
    simp only [remember] at h
    split at h
    · cases h with
      | observe h =>
        cases h with
        | consult h =>
          cases h
          rfl
    · cases h
      rfl

/-- What is told while a node is validated and dispatched. -/
theorem isInterim_of_invoke {told : List NodeNews} {d : Dispatch}
    (h : (e.invoke scope step inputs).Tells told (.done d)) : ∀ n ∈ told, n.isInterim = true := by
  rw [invoke] at h
  split at h
  · cases h
    simp
  · split at h
    · cases h
      simp
    · rename_i config _
      obtain ⟨d', l, m, rfl, hl, hm⟩ := h.of_bind
      cases hm
      obtain ⟨l', rfl, -⟩ := hl.of_within.of_mapNews
      intro n hn
      rw [List.append_nil] at hn
      obtain ⟨n', -, rfl⟩ := List.mem_map.mp hn
      cases n' <;> rfl

/-- The end of a node is told once, as its record has it. -/
theorem told_close {start : Nat} {cached : Bool} {attempts : UInt32} {o : Outcome}
    {told : List NodeNews} {r : Result}
    (h : (close (κ := κ) scope step start cached attempts o).Tells told (.done r)) :
    ∃ closing, told = [closing] ∧ closing.verdict? = some r.success ∧ r.nodeId = step.node.id := by
  rw [close] at h
  cases h with
  | observe h =>
    cases h with
    | tell h =>
      cases h
      refine ⟨_, rfl, ?_, rfl⟩
      cases o <;> rfl

/-- **A node that has ended has told its story**: its start, what there was to tell on the way, and
its end, which is that of its record. -/
theorem isStory_execute {told : List NodeNews} {r : Result}
    (h : (e.execute scope step inputs).Tells told (.done r)) :
    IsStory r.success told ∧ r.nodeId = step.node.id := by
  rw [execute] at h
  cases h with
  | observe h =>
    cases h with
    | tell h =>
      obtain ⟨found, l, rest, rfl, hl, h⟩ := h.of_bind
      rw [told_remembered hl, List.nil_append]
      cases found with
      | some outputs =>
        obtain ⟨closing, rfl, hclosing, hid⟩ := told_close h
        have hbetween : ∀ n ∈ ([] : List NodeNews), n.isInterim = true := by simp
        exact ⟨.intro hbetween hclosing, hid⟩
      | none =>
        obtain ⟨d, between, rest, rfl, hbetween, h⟩ := Work.Tells.of_bind h
        obtain ⟨u, l', rest, rfl, hl', h⟩ := h.of_bind
        rw [told_remember hl', List.nil_append]
        obtain ⟨closing, rfl, hclosing, hid⟩ := told_close h
        exact ⟨.intro (isInterim_of_invoke hbetween) hclosing, hid⟩

/-! ### Nodes that end -/

theorem ends_remembered (e : Engine κ) (step : Step) (inputs : Fields) :
    (e.remembered step inputs).Ends := by
  rw [remembered]
  split
  · exact fun m s => trivial
  · trivial

theorem ends_remember (e : Engine κ) (step : Step) (inputs : Fields) (o : Outcome) :
    (e.remember step inputs o).Ends := by
  cases o with
  | error err => trivial
  | ok outputs =>
    simp only [remember]
    split
    · exact fun m s => trivial
    · trivial

/-- **A node comes to its end if what is dispatched for it does.** -/
theorem ends_execute
    (h : ∀ config, (e.backend.dispatch ⟨scope, step.manifest, inputs, config⟩).Ends) :
    (e.execute scope step inputs).Ends := by
  have hinvoke : (e.invoke scope step inputs).Ends := by
    rw [invoke]
    split
    · trivial
    · split
      · trivial
      · exact (((h _).mapNews _).within _ _).bind fun d => trivial
  intro m
  refine (ends_remembered e step inputs).bind fun found => ?_
  cases found with
  | some outputs => exact fun _ => trivial
  | none =>
    refine hinvoke.bind fun d => ?_
    exact (ends_remember e step inputs d.result).bind fun _ _ => trivial

end Engine

/-! ### Blocks -/

/-- What some events tell of a node. -/
def newsAbout (id : String) (events : List Event) : List NodeNews :=
  events.filterMap fun
    | .node _ id' news => if id' = id then some news else none
    | .run .. => none

/-- The events tell of the start of a node, and not of its end. -/
def IsUnderWay (events : List Event) (id : String) : Prop :=
  (∃ type, .started type ∈ newsAbout id events) ∧ ∀ n ∈ newsAbout id events, n.verdict? = none

/-- What is told of the nodes of a phase from its start to its end in a run that comes to the
results `t`, when no more nodes than `limit?` may be under way, or any number. -/
structure IsBlock (x : String) (limit? : Option Nat) (t : Table Result) (phase : Phase)
    (block : List Event) : Prop where
  /-- Nobody else is told of. -/
  about : ∀ event ∈ block, ∃ id ∈ phase.nodeIds, ∃ news, event = .node x id news
  /-- Of each node its story is told, with an end that is that of its record. -/
  story : ∀ id ∈ phase.nodeIds, ∃ r, t.get? id = some r ∧ IsStory r.success (newsAbout id block)
  /-- No more nodes than allowed are under way at any time. -/
  capped : ∀ before rest, block = before ++ rest → phase.parallel = true →
    ∀ limit, limit? = some limit → {id | IsUnderWay before id}.encard ≤ (max 1 limit : Nat)
  /-- If nodes are not to run side by side, one at most is under way at any time. -/
  single : ∀ before rest, block = before ++ rest → phase.parallel = false →
    {id | IsUnderWay before id}.encard ≤ 1
  /-- And then their stories are told one after the other, in the order of the phase. -/
  inOrder : phase.parallel = false →
    block = phase.nodeIds.flatMap fun id => (newsAbout id block).map (.node x id)

theorem newsAbout_append (id : String) (l m : List Event) :
    newsAbout id (l ++ m) = newsAbout id l ++ newsAbout id m :=
  List.filterMap_append

theorem mem_newsAbout {id : String} {events : List Event} {n : NodeNews} :
    n ∈ newsAbout id events ↔ ∃ x, .node x id n ∈ events := by
  rw [newsAbout, List.mem_filterMap]
  constructor
  · rintro ⟨event, hevent, hn⟩
    cases event with
    | run => cases hn
    | node x id' news =>
      dsimp only at hn
      split at hn
      · rename_i hid
        cases hn
        exact ⟨x, hid ▸ hevent⟩
      · cases hn
  · rintro ⟨x, hx⟩
    exact ⟨_, hx, if_pos rfl⟩

theorem newsAbout_map_node (x id : String) (l : List NodeNews) :
    newsAbout id (l.map (.node x id)) = l := by
  rw [newsAbout, List.filterMap_map]
  simp

/-- Who is under way before the end of a story is told of later on. -/
theorem IsUnderWay.mem_rest {before rest : List Event} {id : String} (h : IsUnderWay before id)
    {success : Bool} (hstory : IsStory success (newsAbout id (before ++ rest))) :
    ∃ n, n ∈ newsAbout id rest := by
  obtain ⟨closing, hmem, hclosing⟩ :
      ∃ n ∈ newsAbout id (before ++ rest), n.verdict? = some success := by
    generalize newsAbout id (before ++ rest) = story at hstory
    cases hstory with
    | intro _ hclosing => exact ⟨_, by simp, hclosing⟩
  rw [newsAbout_append, List.mem_append] at hmem
  rcases hmem with hmem | hmem
  · rw [h.2 closing hmem] at hclosing
    cases hclosing
  · exact ⟨closing, hmem⟩

/-! ### The phase -/

section

variable {ids : List String} {x : String} {told : List (Nat × Event)}

/-- News of piece `j` is about node `j`. -/
def IsNumbered (x : String) (ids : List String) (told : List (Nat × Event)) : Prop :=
  ∀ y ∈ told, ∃ id news, ids[y.1]? = some id ∧ y.2 = .node x id news

theorem IsNumbered.of_append {l m : List (Nat × Event)} (h : IsNumbered x ids (l ++ m)) :
    IsNumbered x ids l ∧ IsNumbered x ids m :=
  ⟨fun y hy => h y (List.mem_append_left m hy), fun y hy => h y (List.mem_append_right l hy)⟩

/-- **What is told of a node is told by its piece.** -/
theorem newsAbout_map_snd (hids : ids.Nodup) (h : IsNumbered x ids told) {j : Nat} {id : String}
    (hj : ids[j]? = some id) :
    newsAbout id (told.map (·.2)) = newsAbout id (Pool.newsOf j told) := by
  induction told with
  | nil => rfl
  | cons y rest ih =>
    obtain ⟨hy, hrest⟩ := List.forall_mem_cons.mp h
    obtain ⟨id', news, hget, hnews⟩ := hy
    obtain ⟨k, event⟩ := y
    cases hnews
    have hlater := ih hrest
    by_cases hkj : k = j
    · subst hkj
      cases hget.symm.trans hj
      simp only [newsAbout, Pool.newsOf, List.map_cons, List.filter_cons, decide_true, if_true,
        List.filterMap_cons] at hlater ⊢
      rw [hlater]
    · have hne : id' ≠ id := by
        rintro rfl
        obtain ⟨hlt, -⟩ := List.getElem?_eq_some_iff.mp hget
        exact hkj ((List.getElem?_inj hlt hids).mp (hget.trans hj.symm))
      simp only [newsAbout, Pool.newsOf, List.map_cons, List.filter_cons, hkj, decide_false, hne,
        Bool.false_eq_true, if_false, List.filterMap_cons] at hlater ⊢
      exact hlater

theorem exists_of_mem_newsAbout (h : IsNumbered x ids told) {id : String} {n : NodeNews}
    (hn : n ∈ newsAbout id (told.map (·.2))) : ∃ j ∈ told.map (·.1), ids[j]? = some id := by
  obtain ⟨x', hx'⟩ := mem_newsAbout.mp hn
  obtain ⟨y, hy, hevent⟩ := List.mem_map.mp hx'
  obtain ⟨id', news, hget, hnews⟩ := h y hy
  cases hnews.symm.trans hevent
  exact ⟨y.1, List.mem_map_of_mem hy, hget⟩

/-- **Nodes under way are pieces that have told something and will again.** -/
theorem encard_isUnderWay_le (hids : ids.Nodup) (h : IsNumbered x ids told)
    (hstory : ∀ id ∈ ids, ∃ success, IsStory success (newsAbout id (told.map (·.2)))) {limit : Nat}
    (hlimit : ∀ before rest, told = before ++ rest →
      {j | j ∈ before.map (·.1) ∧ j ∈ rest.map (·.1)}.encard ≤ limit)
    {before rest : List Event} (hcut : told.map (·.2) = before ++ rest) :
    {id | IsUnderWay before id}.encard ≤ limit := by
  obtain ⟨l, m, rfl, rfl, rfl⟩ := List.map_eq_append_iff.mp hcut
  obtain ⟨hl, hm⟩ := h.of_append
  let pieces := {j | j ∈ l.map (·.1) ∧ j ∈ m.map (·.1)}
  have hsub : {id | IsUnderWay (l.map (·.2)) id} ⊆ (fun j => ids.getD j "") '' pieces := by
    intro id hid
    obtain ⟨type, htype⟩ := hid.1
    obtain ⟨j, hj, hget⟩ := exists_of_mem_newsAbout hl htype
    obtain ⟨success, hsuccess⟩ := hstory id (List.mem_of_getElem? hget)
    rw [List.map_append] at hsuccess
    obtain ⟨n, hn⟩ := IsUnderWay.mem_rest hid hsuccess
    obtain ⟨k, hk, hget'⟩ := exists_of_mem_newsAbout hm hn
    obtain ⟨hlt, -⟩ := List.getElem?_eq_some_iff.mp hget
    have hjk : j = k := (List.getElem?_inj hlt hids).mp (hget.trans hget'.symm)
    refine ⟨j, ⟨hj, hjk ▸ hk⟩, ?_⟩
    show ids.getD j "" = id
    rw [List.getD_eq_getElem?_getD, hget]
    rfl
  calc {id | IsUnderWay (l.map (·.2)) id}.encard
      ≤ ((fun j => ids.getD j "") '' pieces).encard := Set.encard_le_encard hsub
    _ ≤ pieces.encard := Set.encard_image_le _ _
    _ ≤ limit := hlimit l m rfl

end

namespace Engine

variable {e : Engine κ} {plan : Plan} {scope : Scope} {initial : Fields} {t : Table Result}
  {phase : Phase} {world after : World (Shared κ) Event}

section Account

variable {limit : Nat} {rs : List (Nat × Result)} {told : List (Nat × Event)}

theorem length_works (hids : (plan.phaseCalls initial t phase).map (·.nodeId) = phase.nodeIds) :
    ((stepsOf plan phase).map (e.stepWork scope t initial)).length = phase.nodeIds.length := by
  rw [← hids]
  simp [Plan.phaseCalls]

/-- What has been told is numbered by the nodes of a phase if each piece has told news of its own
work. -/
theorem isNumbered_of_tells
    (hids : (plan.phaseCalls initial t phase).map (·.nodeId) = phase.nodeIds)
    (h : ∀ y ∈ told, ∃ w rest,
      ((stepsOf plan phase).map (e.stepWork scope t initial))[y.1]? = some w ∧
        w.Tells (Pool.newsOf y.1 told) rest) :
    IsNumbered scope.executionId phase.nodeIds told := by
  rintro ⟨j, event⟩ hy
  obtain ⟨w, rest, hw, htells⟩ := h _ hy
  obtain ⟨c, hc, rfl⟩ := exists_call_of_getElem? hw
  obtain ⟨l, -, hl, -, -⟩ := htells.exists_of_mapNews
  have hmem : event ∈ Pool.newsOf j told :=
    List.mem_map_of_mem (List.mem_filter.mpr ⟨hy, decide_eq_true rfl⟩)
  rw [hl] at hmem
  obtain ⟨news, -, rfl⟩ := List.mem_map.mp hmem
  refine ⟨c.nodeId, news, ?_, rfl⟩
  rw [← hids, List.getElem?_map, hc, Option.map_some]

/-- **What each piece of a phase has told is the story of its node**, when all have ended. -/
theorem exists_story_of_account
    (hids : (plan.phaseCalls initial t phase).map (·.nodeId) = phase.nodeIds)
    (h : Pool.Account limit ((stepsOf plan phase).map (e.stepWork scope t initial)) rs told)
    {j : Nat} {id : String} (hid : phase.nodeIds[j]? = some id) :
    ∃ r ∈ rs, r.2.nodeId = id ∧ ∃ story, IsStory r.2.success story ∧
      Pool.newsOf j told = story.map (.node scope.executionId id) := by
  have hlt : j < ((stepsOf plan phase).map (e.stepWork scope t initial)).length :=
    (length_works hids).symm ▸ (List.getElem?_eq_some_iff.mp hid).1
  rw [← hids, List.getElem?_map] at hid
  obtain ⟨c, hc, rfl⟩ := Option.map_eq_some_iff.mp hid
  have hw := List.getElem?_eq_getElem hlt
  have hltr : j < rs.length := h.length ▸ hlt
  have hr : rs[j]? = some rs[j] := List.getElem?_eq_getElem hltr
  have htells := h.tells j _ _ hw hr
  obtain ⟨c', hc', hwork⟩ := exists_call_of_getElem? hw
  cases hc.symm.trans hc'
  rw [hwork] at htells
  obtain ⟨story, hstory, hexecute⟩ := htells.of_mapNews
  obtain ⟨hisStory, hnode⟩ := isStory_execute hexecute
  exact ⟨_, List.getElem_mem _, hnode, story, hisStory, hstory⟩

/-- All that is told is about the node whose piece tells it. -/
theorem isNumbered_of_account
    (hids : (plan.phaseCalls initial t phase).map (·.nodeId) = phase.nodeIds)
    (h : Pool.Account limit ((stepsOf plan phase).map (e.stepWork scope t initial)) rs told) :
    IsNumbered scope.executionId phase.nodeIds told := by
  refine isNumbered_of_tells (e := e) hids fun y hy => ?_
  have hlt := h.known y hy
  have hw := List.getElem?_eq_getElem hlt
  exact ⟨_, _, hw, h.tells y.1 _ _ hw (List.getElem?_eq_getElem (h.length ▸ hlt))⟩

/-- **What is told about a node is the story of its piece**, and ends as the record of the node
says. -/
theorem newsAbout_of_account
    (hids : (plan.phaseCalls initial t phase).map (·.nodeId) = phase.nodeIds)
    (h : Pool.Account limit ((stepsOf plan phase).map (e.stepWork scope t initial)) rs told)
    (hnodup : phase.nodeIds.Nodup) {j : Nat} {id : String} (hid : phase.nodeIds[j]? = some id) :
    (newsAbout id (told.map (·.2))).map (.node scope.executionId id) = Pool.newsOf j told ∧
      ∃ r ∈ rs, r.2.nodeId = id ∧ IsStory r.2.success (newsAbout id (told.map (·.2))) := by
  obtain ⟨r, hr, hnode, story, hisStory, hstory⟩ := exists_story_of_account hids h hid
  rw [newsAbout_map_snd hnodup (isNumbered_of_account hids h) hid, hstory, newsAbout_map_node]
  exact ⟨rfl, r, hr, hnode, hisStory⟩

/-- Each node of the phase has its story. -/
theorem exists_isStory_of_account
    (hids : (plan.phaseCalls initial t phase).map (·.nodeId) = phase.nodeIds)
    (h : Pool.Account limit ((stepsOf plan phase).map (e.stepWork scope t initial)) rs told)
    (hnodup : phase.nodeIds.Nodup) {id : String} (hid : id ∈ phase.nodeIds) :
    ∃ r ∈ rs, r.2.nodeId = id ∧ IsStory r.2.success (newsAbout id (told.map (·.2))) := by
  obtain ⟨j, hj⟩ := List.mem_iff_getElem?.mp hid
  exact (newsAbout_of_account hids h hnodup hj).2

/-- Where there is room for one node at a time, the stories follow one another. -/
theorem map_snd_eq_flatMap_of_account
    (hids : (plan.phaseCalls initial t phase).map (·.nodeId) = phase.nodeIds)
    (h : Pool.Account limit ((stepsOf plan phase).map (e.stepWork scope t initial)) rs told)
    (hnodup : phase.nodeIds.Nodup) (hone : limit ≤ 1) : told.map (·.2) =
      phase.nodeIds.flatMap fun id =>
        (newsAbout id (told.map (·.2))).map (.node scope.executionId id) := by
  refine (h.eq_flatMap hone).trans ?_
  rw [List.flatMap_def, List.flatMap_def, length_works hids]
  congr 1
  refine List.ext_getElem (by simp) fun j hj hj' => ?_
  rw [List.getElem_map, List.getElem_map, List.getElem_range]
  exact (newsAbout_of_account hids h hnodup (List.getElem?_eq_getElem _)).1.symm

end Account

/-- **A phase that has ended has told the stories of its nodes**, with their ends as the results
have them. -/
theorem isBlock_runPhase {known : String → Prop} {rest : List Phase}
    (hstaged : plan.StagedFrom known (phase :: rest)) {found : List Result}
    (hrun : e.runPhase plan scope initial t phase world = .ok (after, found)) :
    ∃ block, after.news = world.news ++ block ∧
      ∀ t' : Table Result, (∀ r ∈ found, t'.get? r.nodeId = some r) →
        IsBlock scope.executionId e.limit? t' phase block := by
  have hids : (plan.phaseCalls initial t phase).map (·.nodeId) = phase.nodeIds :=
    hstaged.nodeId_phaseCalls t
  obtain ⟨rs, hpool, rfl⟩ := exists_run_of_runPhase hrun
  rw [phasePool] at hpool
  obtain ⟨told, hnews, haccount⟩ := Pool.exists_account
    (fun hne => e.room_pos phase (List.length_pos_iff.mpr hne)) hpool
  have hnumbered := isNumbered_of_account hids haccount
  have hroom {before after : List Event} (hcut : told.map (·.2) = before ++ after) :=
    encard_isUnderWay_le hstaged.1 hnumbered (fun id hid => by
      obtain ⟨r, -, -, hstory⟩ := exists_isStory_of_account hids haccount hstaged.1 hid
      exact ⟨_, hstory⟩) haccount.atAnyTime hcut
  refine ⟨told.map (·.2), hnews, fun t' ht' => ?_⟩
  constructor
  case about =>
    intro event hevent
    obtain ⟨y, hy, rfl⟩ := List.mem_map.mp hevent
    obtain ⟨id, news, hget, hnews⟩ := hnumbered y hy
    exact ⟨id, List.mem_of_getElem? hget, news, hnews⟩
  case story =>
    intro id hid
    obtain ⟨r, hr, rfl, hstory⟩ := exists_isStory_of_account hids haccount hstaged.1 hid
    have htaken : r.2 ∈ e.takenUp phase rs :=
      (e.takenUp_perm phase rs).mem_iff.mpr (List.mem_map_of_mem hr)
    exact ⟨r.2, ht' r.2 htaken, hstory⟩
  case capped =>
    intro before after hcut hparallel limit hlimit
    have := hroom hcut
    rw [room, if_pos hparallel, hlimit] at this
    exact this
  case single =>
    intro before after hcut hparallel
    have := hroom hcut
    rw [room, if_neg (by simp [hparallel])] at this
    exact this
  case inOrder =>
    intro hparallel
    refine map_snd_eq_flatMap_of_account hids haccount hstaged.1 ?_
    rw [room, if_neg (by simp [hparallel])]

end Engine

end PortGraph
