import PortGraph.Graph
import PortGraph.Proofs.Document
import PortGraph.Remote.Task
import PortGraph.Result

/-!
# What is sent is what arrives

Graphs, tasks, results, the shapes of plans and events are written as documents and read again at
the other end. What is read is what was written, whether the document is read as it stands or from
the value that its members are put together to.

Two things cannot come back. A value within a configuration, or within inputs or outputs, has its
members in ascending order when it is read, so those that are written have to have that order too.
And there is no number for progress that is not finite.

## Main definitions

* `Json.RoundTrips`: a document is read as what it was written from
* `Graph.IsCollated`, `Task.Request.IsCollated`: values within have their members in order
* `Event.IsFinite`: progress is a number

## Main results

* `Graph.isReadAs`, `Task.Request.isReadAs`, `Result.isReadAs`, `PlanSummary.isReadAs`,
  `Event.isReadAs`: what each document is read as, in whatever order its members are
* `wire_round_trips`: all of them
-/

namespace PortGraph

open Json

/-- A document is read as what it was written from: from the value that its members are put together
to, and as it stands. -/
structure Json.RoundTrips {α : Type} (doc : Json) (read? : Written → Option α) (x : α) : Prop where
  collated : read? (.ofJson doc.collated) = some x
  asWritten : read? (.ofJson doc) = some x

theorem Json.IsReadAs.roundTrips {α : Type} {doc : Json} {read? : Written → Option α} {x : α}
    (h : doc.IsReadAs read? x) (hdoc : doc.IsUnambiguous) : doc.RoundTrips read? x :=
  ⟨h _ (arranges_collated doc), h _ hdoc.arranges⟩

/-! ### Graphs -/

/-- The values within the configurations of a graph have their members in order. -/
def Graph.IsCollated (g : Graph) : Prop := ∀ n ∈ g.nodes, n.config.IsCollated

theorem Node.isReadAs {n : Node} (h : n.config.IsCollated) : n.toJson.IsReadAs ofDocument? n := by
  intro j hj
  have ⟨_, hrecord, .cons hid (.cons htype (.cons hconfig .nil))⟩ := hj.exists_record?
    [["id"], ["type"], ["config"]] ["id", "type", "config"] (.refl _) (by decide)
  rw [ofDocument?, hrecord]
  simp only [Option.bind_eq_bind, Option.bind_some, hid.required? (isReadAs_str _),
    htype.required? (isReadAs_str _), hconfig.orDefault? (isReadAs_ofFields h)]
  rfl

theorem Endpoint.isReadAs (e : Endpoint) : e.toJson.IsReadAs ofDocument? e := by
  intro j hj
  have ⟨_, hrecord, .cons hnode (.cons hport .nil)⟩ := hj.exists_record?
    [["nodeId"], ["port", "portName"]] ["nodeId", "port"] (.refl _) (by decide)
  rw [ofDocument?, hrecord]
  simp only [Option.bind_eq_bind, Option.bind_some, hnode.required? (isReadAs_str _),
    hport.required? (isReadAs_str _)]
  rfl

theorem Connection.isReadAs (c : Connection) : c.toJson.IsReadAs ofDocument? c := by
  intro j hj
  have ⟨_, hrecord, .cons hsource (.cons htarget .nil)⟩ := hj.exists_record?
    [["from"], ["to"]] ["from", "to"] (.refl _) (by decide)
  rw [ofDocument?, hrecord]
  simp only [Option.bind_eq_bind, Option.bind_some, hsource.required? (Endpoint.isReadAs _),
    htarget.required? (Endpoint.isReadAs _)]
  rfl

theorem Graph.isReadAs {g : Graph} (h : g.IsCollated) : g.toJson.IsReadAs ofDocument? g := by
  intro j hj
  have ⟨_, hrecord, .cons hid (.cons hnodes (.cons hconnections .nil))⟩ := hj.exists_record?
    [["id"], ["nodes"], ["connections", "edges"]] ["id", "nodes", "connections"] (.refl _) (by decide)
  rw [ofDocument?, hrecord]
  simp only [Option.bind_eq_bind, Option.bind_some, hid.orDefault? (isReadAs_str _),
    hnodes.orDefault? (isReadAs_list fun n hn => Node.isReadAs (h n hn)),
    hconnections.orDefault? (isReadAs_list fun c _ => c.isReadAs)]
  rfl

theorem Graph.isUnambiguous {g : Graph} (h : g.IsCollated) : g.toJson.IsUnambiguous := by
  have hnode : ∀ n ∈ g.nodes, n.toJson.IsUnambiguous := fun n hn =>
    isUnambiguous_obj (by simp) (by simp [(h n hn).isUnambiguous])
  have hendpoint (e : Endpoint) : e.toJson.IsUnambiguous := isUnambiguous_obj (by simp) (by simp)
  have hconnection (c : Connection) : c.toJson.IsUnambiguous :=
    isUnambiguous_obj (by simp) (by simp [hendpoint])
  refine isUnambiguous_obj (by simp) ?_
  simp only [List.forall_mem_cons, isUnambiguous_str, true_and, List.not_mem_nil, false_imp_iff,
    implies_true, and_true]
  exact ⟨isUnambiguous_arr (List.forall_mem_map.mpr hnode),
    isUnambiguous_arr (List.forall_mem_map.mpr fun c _ => hconnection c)⟩

/-! ### Tasks -/

/-- The values within the configuration and the inputs have their members in order. -/
structure Task.Request.IsCollated (r : Task.Request) : Prop where
  config : r.config.IsCollated
  inputs : r.inputs.IsCollated

theorem Task.Request.isReadAs {r : Task.Request} (h : r.IsCollated) :
    r.toJson.IsReadAs ofDocument? r := by
  intro j hj
  have ⟨_, hrecord, .cons hnode (.cons htype (.cons hconfig (.cons hinputs .nil)))⟩ :=
    hj.exists_record? [["nodeId"], ["type"], ["config"], ["inputs"]]
      ["nodeId", "type", "config", "inputs"] (.refl _) (by decide)
  rw [ofDocument?, hrecord]
  simp only [Option.bind_eq_bind, Option.bind_some, hnode.required? (isReadAs_str _),
    htype.required? (isReadAs_str _), hconfig.required? (isReadAs_ofFields h.config),
    hinputs.required? (isReadAs_ofFields h.inputs)]
  rfl

theorem Task.Request.isUnambiguous {r : Task.Request} (h : r.IsCollated) :
    r.toJson.IsUnambiguous :=
  isUnambiguous_obj (by simp) (by simp [h.config.isUnambiguous, h.inputs.isUnambiguous])

/-! ### Results -/

theorem ErrorCode.isReadAs (c : ErrorCode) : c.toJson.IsReadAs ofDocument? c := by
  refine isReadAs_of_leaf nofun nofun ?_
  cases c <;> rfl

theorem Failure.isReadAs (f : Failure) : f.toJson.IsReadAs ofDocument? f := by
  obtain ⟨code, message, details⟩ := f
  intro j hj
  have ⟨_, hrecord, .cons hcode (.cons hmessage (.cons hdetails .nil))⟩ := hj.exists_record?
    [["code"], ["message"], ["details"]] ["code", "message", "details"]
    (by cases details <;> simp [memberOf]) (by decide)
  have hmember : Written.member? ["details"] ([("code", code.toJson), ("message", .str message)] ++
      memberOf "details" .str details) = details.map .str := by
    cases details <;> rfl
  rw [ofDocument?, hrecord]
  simp only [Option.bind_eq_bind, Option.bind_some, hcode.required? code.isReadAs,
    hmessage.required? (isReadAs_str _), (hmember ▸ hdetails).optional?_map isReadAs_str rfl]
  rfl

theorem Result.Metadata.isReadAs (m : Result.Metadata) : m.toJson.IsReadAs ofDocument? m := by
  intro j hj
  have ⟨_, hrecord, .cons hduration (.cons hcached (.cons hattempts (.cons hversion
    (.cons htrace .nil))))⟩ := hj.exists_record?
      [["durationMs"], ["cached"], ["attempts"], ["nodeVersion"], ["traceId"]]
      ["durationMs", "cached", "attempts", "nodeVersion", "traceId"] (.refl _) (by decide)
  rw [ofDocument?, hrecord]
  simp only [Option.bind_eq_bind, Option.bind_some, hduration.required? (isReadAs_ofWord64 _),
    hcached.required? (isReadAs_bool _), hattempts.required? (isReadAs_ofWord32 _),
    hversion.required? (isReadAs_str _), htrace.required? (isReadAs_str _)]
  rfl

theorem Result.isReadAs {r : Result} (h : r.outputs.IsCollated) :
    r.toJson.IsReadAs ofDocument? r := by
  obtain ⟨nodeId, success, outputs, error, metadata⟩ := r
  intro j hj
  have ⟨_, hrecord, .cons hnode (.cons hsuccess (.cons houtputs (.cons herror
    (.cons hmetadata .nil))))⟩ := hj.exists_record?
      [["nodeId"], ["success"], ["outputs"], ["error"], ["metadata"]]
      ["nodeId", "success", "outputs", "error", "metadata"]
      (by cases error <;> simp [memberOf]) (by decide)
  have hmember : Written.member? ["error"] ([("nodeId", .str nodeId), ("success", .bool success),
      ("outputs", .ofFields outputs)] ++ memberOf "error" Failure.toJson error ++
      [("metadata", metadata.toJson)]) = error.map Failure.toJson := by
    cases error <;> rfl
  have hlast : Written.member? ["metadata"] ([("nodeId", .str nodeId), ("success", .bool success),
      ("outputs", .ofFields outputs)] ++ memberOf "error" Failure.toJson error ++
      [("metadata", metadata.toJson)]) = some metadata.toJson := by
    cases error <;> rfl
  rw [ofDocument?, hrecord]
  simp only [Option.bind_eq_bind, Option.bind_some, hnode.required? (isReadAs_str _),
    hsuccess.required? (isReadAs_bool _), houtputs.orDefault? (isReadAs_ofFields h),
    (hmember ▸ herror).optional?_map Failure.isReadAs rfl,
    (hlast ▸ hmetadata).required? metadata.isReadAs]
  rfl

theorem Result.isUnambiguous {r : Result} (h : r.outputs.IsCollated) : r.toJson.IsUnambiguous := by
  have hfailure (f : Failure) : f.toJson.IsUnambiguous := by
    obtain ⟨code, message, details⟩ := f
    cases details <;> exact isUnambiguous_obj (by simp [memberOf]) (by simp [memberOf, ErrorCode.toJson])
  have hmetadata : r.metadata.toJson.IsUnambiguous :=
    isUnambiguous_obj (by simp) (by simp)
  obtain ⟨nodeId, success, outputs, error, metadata⟩ := r
  cases error <;>
    exact isUnambiguous_obj (by simp [memberOf]) (by simp [memberOf, h.isUnambiguous, hfailure, hmetadata])

/-! ### Shapes of plans -/

theorem PlanSummary.isReadAs (s : PlanSummary) : s.toJson.IsReadAs ofDocument? s := by
  intro j hj
  have ⟨_, hrecord, .cons hphases (.cons hnodes (.cons hparallel (.cons hwidth
    (.cons hfactor .nil))))⟩ := hj.exists_record?
      [["totalPhases"], ["totalNodes"], ["parallelPhases"], ["maxPhaseWidth"],
        ["parallelizationFactor"]]
      ["totalPhases", "totalNodes", "parallelPhases", "maxPhaseWidth", "parallelizationFactor"]
      (.refl _) (by decide)
  rw [ofDocument?, hrecord]
  simp only [Option.bind_eq_bind, Option.bind_some, hphases.required? (isReadAs_ofWord64 _),
    hnodes.required? (isReadAs_ofWord64 _), hparallel.required? (isReadAs_ofWord64 _),
    hwidth.required? (isReadAs_ofWord64 _), hfactor.required? (isReadAs_ofDouble _)]
  rfl

theorem PlanSummary.isUnambiguous (s : PlanSummary) : s.toJson.IsUnambiguous :=
  isUnambiguous_obj (by simp) (by simp)

/-! ### Events -/

/-- Progress, if an event tells of any, is a number. -/
def Event.IsFinite (e : Event) : Prop :=
  ∀ executionId nodeId percent message, e = .node executionId nodeId (.progress percent message) →
    ∃ x, percent = .finite x

/-- **The kind of an event is found** wherever it stands, and the other members are left. -/
theorem Event.exists_split? {l doc : List (String × Json)} {kind : String}
    (h : ArrangesMembers l (("type", .str kind) :: doc)) (hdoc : "type" ∉ doc.map (·.1)) :
    ∃ rest, split? (.ofJson (.obj l)) = some (kind, .ofJson (.obj rest)) ∧
      ArrangesMembers rest doc := by
  obtain ⟨v, hv, hkind⟩ := h.exists_mem "type" _ List.mem_cons_self
  obtain rfl : v = .str kind := hkind.eq_of_leaf nofun nofun
  have hothers : (("type", Json.str kind) :: doc).filter (fun e => e.1 ≠ "type") = doc := by
    rw [List.filter_cons_of_neg (by simp), List.filter_eq_self]
    intro e he
    simpa using fun hk : e.1 = "type" => hdoc (hk ▸ List.mem_map_of_mem he)
  refine ⟨l.filter fun e => e.1 ≠ "type", ?_, hothers ▸ h.filter fun k => k ≠ "type"⟩
  have htype : (Written.ofMembers l).filter (·.1 = some "type") = [(some "type", .str kind)] := by
    rw [Written.ofMembers_eq_map, List.filter_map]
    simp only [Function.comp_def, Option.some.injEq, Table.filter_key_eq h.nodup hv]
    rfl
  have hrest : (Written.ofMembers l).filter (·.1 ≠ some "type") =
      Written.ofMembers (l.filter fun e => e.1 ≠ "type") := by
    rw [Written.ofMembers_eq_map, Written.ofMembers_eq_map, List.filter_map]
    simp only [Function.comp_def, ne_eq, Option.some.injEq]
  simp only [Written.ofJson, split?, htype, hrest]

/-- The fields of a report about a run are read as that report. -/
theorem Event.readRun?_fields {l : List (String × Json)} {e : String} {news : RunNews}
    (h : ArrangesMembers l (("executionId", .str e) :: news.fields)) :
    readRun? news.kind (.ofJson (.obj l)) = some (.run e news) := by
  cases news with
  | started graphId total =>
    have ⟨_, hrecord, .cons he (.cons hgraph (.cons htotal .nil))⟩ := h.exists_record?
      [["executionId"], ["graphId"], ["totalPhases"]] ["executionId", "graphId", "totalPhases"]
      (.refl _) (by decide)
    simp only [readRun?, RunNews.kind, hrecord, Option.bind_eq_bind, Option.bind_some,
      he.required? (isReadAs_str _), hgraph.required? (isReadAs_str _),
      htotal.required? (isReadAs_ofWord64 _)]
    rfl
  | phaseStarted phase nodeIds parallel =>
    have ⟨_, hrecord, .cons he (.cons hphase (.cons hids (.cons hparallel .nil)))⟩ :=
      h.exists_record? [["executionId"], ["phase"], ["nodeIds"], ["parallel"]]
        ["executionId", "phase", "nodeIds", "parallel"] (.refl _) (by decide)
    simp only [readRun?, RunNews.kind, hrecord, Option.bind_eq_bind, Option.bind_some,
      he.required? (isReadAs_str _), hphase.required? (isReadAs_ofWord64 _),
      hids.required? (isReadAs_ofTexts _), hparallel.required? (isReadAs_bool _)]
    rfl
  | phaseCompleted phase failed =>
    have ⟨_, hrecord, .cons he (.cons hphase (.cons hfailed .nil))⟩ := h.exists_record?
      [["executionId"], ["phase"], ["failed"]] ["executionId", "phase", "failed"] (.refl _)
      (by decide)
    simp only [readRun?, RunNews.kind, hrecord, Option.bind_eq_bind, Option.bind_some,
      he.required? (isReadAs_str _), hphase.required? (isReadAs_ofWord64 _),
      hfailed.required? (isReadAs_ofWord64 _)]
    rfl
  | completed succeeded failed duration =>
    have ⟨_, hrecord, .cons he (.cons hsucceeded (.cons hfailed (.cons hduration .nil)))⟩ :=
      h.exists_record? [["executionId"], ["succeeded"], ["failed"], ["durationMs"]]
        ["executionId", "succeeded", "failed", "durationMs"] (.refl _) (by decide)
    simp only [readRun?, RunNews.kind, hrecord, Option.bind_eq_bind, Option.bind_some,
      he.required? (isReadAs_str _), hsucceeded.required? (isReadAs_ofWord64 _),
      hfailed.required? (isReadAs_ofWord64 _), hduration.required? (isReadAs_ofWord64 _)]
    rfl
  | cancelled completed =>
    have ⟨_, hrecord, .cons he (.cons hcompleted .nil)⟩ := h.exists_record?
      [["executionId"], ["completedPhases"]] ["executionId", "completedPhases"] (.refl _)
      (by decide)
    simp only [readRun?, RunNews.kind, hrecord, Option.bind_eq_bind, Option.bind_some,
      he.required? (isReadAs_str _), hcompleted.required? (isReadAs_ofWord64 _)]
    rfl
  | stopped completed failed =>
    have ⟨_, hrecord, .cons he (.cons hcompleted (.cons hfailed .nil))⟩ := h.exists_record?
      [["executionId"], ["completedPhases"], ["failed"]]
      ["executionId", "completedPhases", "failed"] (.refl _) (by decide)
    simp only [readRun?, RunNews.kind, hrecord, Option.bind_eq_bind, Option.bind_some,
      he.required? (isReadAs_str _), hcompleted.required? (isReadAs_ofWord64 _),
      hfailed.required? (isReadAs_ofTexts _)]
    rfl

/-- Inside an event a code is read as elsewhere. -/
theorem Event.isReadAs_code (c : ErrorCode) : c.toJson.IsReadAs code? c := by
  refine isReadAs_of_leaf nofun nofun ?_
  cases c <;> rfl

/-- The fields of a report about a node are read as that report. -/
theorem Event.readNode?_fields {l : List (String × Json)} {e n : String} {news : NodeNews}
    (hfinite : (Event.node e n news).IsFinite)
    (h : ArrangesMembers l (("executionId", .str e) :: ("nodeId", .str n) :: news.fields)) :
    readNode? news.kind (.ofJson (.obj l)) = some (.node e n news) := by
  cases news with
  | started type =>
    have ⟨_, hrecord, .cons he (.cons hn (.cons htype .nil))⟩ := h.exists_record?
      [["executionId"], ["nodeId"], ["nodeType"]] ["executionId", "nodeId", "nodeType"]
      (.refl _) (by decide)
    simp only [readNode?, NodeNews.kind, hrecord, Option.bind_eq_bind, Option.bind_some,
      he.required? (isReadAs_str _), hn.required? (isReadAs_str _),
      htype.required? (isReadAs_str _)]
    rfl
  | completed cached duration =>
    have ⟨_, hrecord, .cons he (.cons hn (.cons hcached (.cons hduration .nil)))⟩ :=
      h.exists_record? [["executionId"], ["nodeId"], ["cached"], ["durationMs"]]
        ["executionId", "nodeId", "cached", "durationMs"] (.refl _) (by decide)
    simp only [readNode?, NodeNews.kind, hrecord, Option.bind_eq_bind, Option.bind_some,
      he.required? (isReadAs_str _), hn.required? (isReadAs_str _),
      hcached.required? (isReadAs_bool _), hduration.required? (isReadAs_ofWord64 _)]
    rfl
  | failed code message =>
    have ⟨_, hrecord, .cons he (.cons hn (.cons hcode (.cons hmessage .nil)))⟩ :=
      h.exists_record? [["executionId"], ["nodeId"], ["code"], ["message"]]
        ["executionId", "nodeId", "code", "message"] (.refl _) (by decide)
    simp only [readNode?, NodeNews.kind, hrecord, Option.bind_eq_bind, Option.bind_some,
      he.required? (isReadAs_str _), hn.required? (isReadAs_str _),
      hcode.required? (isReadAs_code _), hmessage.required? (isReadAs_str _)]
    rfl
  | retrying attempt delay error =>
    have ⟨_, hrecord, .cons he (.cons hn (.cons hattempt (.cons hdelay (.cons herror .nil))))⟩ :=
      h.exists_record? [["executionId"], ["nodeId"], ["attempt"], ["delayMs"], ["error"]]
        ["executionId", "nodeId", "attempt", "delayMs", "error"] (.refl _) (by decide)
    simp only [readNode?, NodeNews.kind, hrecord, Option.bind_eq_bind, Option.bind_some,
      he.required? (isReadAs_str _), hn.required? (isReadAs_str _),
      hattempt.required? (isReadAs_ofWord32 _), hdelay.required? (isReadAs_ofWord64 _),
      herror.required? (isReadAs_str _)]
    rfl
  | progress percent message =>
    obtain ⟨x, rfl⟩ := hfinite e n percent message rfl
    have ⟨_, hrecord, .cons he (.cons hn (.cons hpercent (.cons hmessage .nil)))⟩ :=
      h.exists_record? [["executionId"], ["nodeId"], ["progress"], ["message"]]
        ["executionId", "nodeId", "progress", "message"] (.refl _) (by decide)
    simp only [readNode?, NodeNews.kind, hrecord, Option.bind_eq_bind, Option.bind_some,
      he.required? (isReadAs_str _), hn.required? (isReadAs_str _),
      hpercent.required? (isReadAs_ofSingle x),
      hmessage.optional? (isReadAs_ofOption isReadAs_str rfl message)]
    rfl
  | submitted taskId =>
    have ⟨_, hrecord, .cons he (.cons hn (.cons htask .nil))⟩ := h.exists_record?
      [["executionId"], ["nodeId"], ["taskId"]] ["executionId", "nodeId", "taskId"] (.refl _)
      (by decide)
    simp only [readNode?, NodeNews.kind, hrecord, Option.bind_eq_bind, Option.bind_some,
      he.required? (isReadAs_str _), hn.required? (isReadAs_str _),
      htask.required? (isReadAs_str _)]
    rfl

/-- The kind of a report about a node is none of a report about a run. -/
theorem Event.readRun?_kind (news : NodeNews) (w : Written) : readRun? news.kind w = none := by
  cases news <;> rfl

theorem RunNews.nodup_keys (news : RunNews) :
    ("type" :: "executionId" :: news.fields.map (·.1)).Nodup := by
  cases news <;> simp [fields]

theorem NodeNews.nodup_keys (news : NodeNews) :
    ("type" :: "executionId" :: "nodeId" :: news.fields.map (·.1)).Nodup := by
  cases news <;> simp [fields]

/-- A document is kept as a whole, and its fields are read once its kind is known. -/
theorem Event.ofDocument?_of_arranges {j : Json} {kind : String} {doc : List (String × Json)}
    (h : j.Arranges (.obj (("type", .str kind) :: doc)))
    (hdoc : ("type" :: doc.map (·.1)).Nodup) : ∃ rest, ArrangesMembers rest doc ∧
      ofDocument? (.ofJson j) =
        (readRun? kind (.ofJson (.obj rest))).or (readNode? kind (.ofJson (.obj rest))) := by
  obtain ⟨l, rfl, hl⟩ := Arranges.exists_obj (by exact hdoc) h
  obtain ⟨rest, hsplit, hrest⟩ := exists_split? hl (List.nodup_cons.mp hdoc).1
  refine ⟨rest, hrest, ?_⟩
  have hkept : (Written.ofJson (.obj l)).isKept = true := by
    rw [Written.isKept, Written.toJson?_ofJson, Option.isSome_some]
  simp [ofDocument?, hkept, hsplit]

theorem Event.isReadAs {e : Event} (h : e.IsFinite) : e.toJson.IsReadAs ofDocument? e := by
  intro j hj
  cases e with
  | run id news =>
    obtain ⟨rest, hrest, hread⟩ := ofDocument?_of_arranges hj news.nodup_keys
    rw [hread, readRun?_fields hrest, Option.some_or]
  | node id nodeId news =>
    obtain ⟨rest, hrest, hread⟩ := ofDocument?_of_arranges hj news.nodup_keys
    rw [hread, readRun?_kind, Option.none_or, readNode?_fields h hrest]

theorem Event.isUnambiguous (e : Event) : e.toJson.IsUnambiguous := by
  cases e with
  | run id news =>
    refine isUnambiguous_obj news.nodup_keys ?_
    cases news <;> simp [RunNews.fields]
  | node id nodeId news =>
    refine isUnambiguous_obj news.nodup_keys ?_
    cases news <;> simp [NodeNews.fields, ErrorCode.toJson, isUnambiguous_ofOption]

/-! ### All of them -/

/-- **What is sent is what arrives.** A graph, a task, a result, the shape of a plan and an event are
read as what they were written from: both from the document as it was written and from the value that
its members are put together to, in which they stand in ascending order. The values within graphs,
tasks and results have their members in that order already, one for each name, and the progress that
an event tells of is a number. -/
theorem wire_round_trips :
    (∀ g : Graph, g.IsCollated → g.toJson.RoundTrips Graph.ofDocument? g) ∧
    (∀ r : Task.Request, r.IsCollated → r.toJson.RoundTrips Task.Request.ofDocument? r) ∧
    (∀ r : Result, r.outputs.IsCollated → r.toJson.RoundTrips Result.ofDocument? r) ∧
    (∀ s : PlanSummary, s.toJson.RoundTrips PlanSummary.ofDocument? s) ∧
    ∀ e : Event, e.IsFinite → e.toJson.RoundTrips Event.ofDocument? e :=
  ⟨fun _ h => (Graph.isReadAs h).roundTrips (Graph.isUnambiguous h),
    fun _ h => (Task.Request.isReadAs h).roundTrips (Task.Request.isUnambiguous h),
    fun _ h => (Result.isReadAs h).roundTrips (Result.isUnambiguous h),
    fun s => s.isReadAs.roundTrips s.isUnambiguous,
    fun e h => (Event.isReadAs h).roundTrips e.isUnambiguous⟩

/-- Values within values, with an empty name and a fraction among them. -/
def nestedFields : Fields :=
  .ofList [("deep", .obj [("", .arr [.null, .ofDouble Double.one]), ("a", .obj [("b", .ofNat 1)])])]

/-- A graph and a task with values within values, a failed node with details, and an event that tells
of progress without a message. -/
theorem wire_round_trips_nested :
    let g : Graph := ⟨"g", [⟨"a", "constant", nestedFields⟩], [⟨⟨"a", "value"⟩, ⟨"b", "value"⟩⟩]⟩
    let request : Task.Request := ⟨"a", "constant", nestedFields, nestedFields⟩
    let result : Result := ⟨"a", false, nestedFields, some ⟨.timeout, "late", some "taskId=1"⟩,
      ⟨0, false, 2, "1.0.0", "t"⟩⟩
    let event : Event := .node "e" "a" (.progress (.finite Single.hundred) none)
    (g.IsCollated ∧ g.toJson.RoundTrips Graph.ofDocument? g) ∧
      (request.IsCollated ∧ request.toJson.RoundTrips Task.Request.ofDocument? request) ∧
      (result.outputs.IsCollated ∧ result.toJson.RoundTrips Result.ofDocument? result) ∧
      event.IsFinite ∧ event.toJson.RoundTrips Event.ofDocument? event := by
  intro g request result event
  have hnested : nestedFields.IsCollated := by
    rw [Fields.IsCollated]
    decide +kernel
  have hgraph : g.IsCollated := fun n hn => List.mem_singleton.mp hn ▸ hnested
  have hevent : event.IsFinite := by
    intro id nodeId percent message h
    simp only [event, Event.node.injEq, NodeNews.progress.injEq] at h
    exact ⟨_, h.2.2.1.symm⟩
  obtain ⟨hgraphs, htasks, hresults, -, hevents⟩ := wire_round_trips
  exact ⟨⟨hgraph, hgraphs g hgraph⟩, ⟨⟨hnested, hnested⟩, htasks request ⟨hnested, hnested⟩⟩,
    ⟨hnested, hresults result hnested⟩, hevent, hevents event hevent⟩

end PortGraph
