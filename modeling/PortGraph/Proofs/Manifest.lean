import PortGraph.Proofs.Schema
import PortGraph.Proofs.Wire

/-!
# Manifests that are written and read

A manifest is written as a document and read from it, as in a listing or by another tool. Two things
are not the same afterwards. A default that is `null` is written as `null`, which is read as no
default at all; and a bound that is not finite has no number, so that it is read as no bound.

The first of them changes what validation says. A field that is required and has the default `null`
accepts a configuration without a value, as the default stands in for it; without its default it
does not.

## Main definitions

* `ConfigField.asRead`, `Manifest.asRead`: what is left once it was written and read
* `ConfigField.HasFiniteBounds`: bounds are numbers
* `Manifest.IsCollated`: values within have their members in order

## Main results

* `Manifest.isReadAs`: what a manifest is read as, in whatever order its fields are
* `Manifest.roundTrips_asRead`: when that is the manifest that was written, and when it validates
  alike
-/

namespace PortGraph

open Json

/-! ### Members that may be left out -/

namespace Written

variable {names : List String} {l m : List (String × Json)}

theorem member?_append : member? names (l ++ m) = (member? names l).or (member? names m) := by
  rw [member?, List.find?_append]
  cases h : l.find? (·.1 ∈ names) <;> simp [member?, h]

theorem member?_memberOf {α : Type} (name : String) (write : α → Json) (x? : Option α) :
    member? names (memberOf name write x?) = if name ∈ names then x?.map write else none := by
  by_cases h : name ∈ names <;> cases x? <;> simp [member?, memberOf, h]

end Written

namespace Json

variable {α : Type} {name : String} {write : α → Json} {x? : Option α}

theorem sublist_keys_memberOf : ((memberOf name write x?).map (·.1)).Sublist [name] := by
  cases x? <;> simp [memberOf]

theorem isUnambiguous_memberOf (h : ∀ x ∈ x?, (write x).IsUnambiguous) :
    ∀ e ∈ memberOf name write x?, e.2.IsUnambiguous := by
  cases x? <;> simp_all [memberOf]

end Json

theorem filter_eq_self_iff {α : Type} {p : α → Bool} {x? : Option α} :
    x?.filter p = x? ↔ ∀ x ∈ x?, p x = true := by
  cases x? <;> simp [Option.filter]

/-- A member that is left out if there is no value is read as what is left of that value, and as no
value if nothing is left of it. -/
theorem Slot.Shows.optional?_filter {α : Type} {s : Slot} {read? : Written → Option α}
    {write : α → Json} {x? : Option α} {p : α → Bool} (h : s.Shows (x?.map write))
    (hread : ∀ x ∈ x?,
      (write x).IsReadAs (Written.nullable? read?) (if p x then some x else none)) :
    s.optional? read? = some (x?.filter p) := by
  cases x? with
  | none =>
    obtain rfl : s = none := h
    rfl
  | some x => exact h.optional? (hread x rfl)

/-! ### Values within -/

/-- A value as it is after it has been put together. -/
def Json.IsCollated (a : Json) : Prop := a.collated = a

theorem Json.IsCollated.isUnambiguous {a : Json} (h : a.IsCollated) : a.IsUnambiguous :=
  h ▸ isUnambiguous_collated a

theorem Json.isReadAs_of_isCollated {a : Json} (h : a.IsCollated) :
    a.IsReadAs Written.toJson? a := by
  intro j hj
  rw [Written.toJson?_ofJson, hj.collated_eq, h]

/-- Where a value might be absent, `null` is read as its absence. -/
theorem Json.isReadAs_nullable_of_isCollated {a : Json} (h : a.IsCollated) :
    a.IsReadAs (Written.nullable? Written.toJson?) (if !a.isNull then some a else none) := by
  intro j hj
  have hread := isReadAs_of_isCollated h j hj
  by_cases hnull : Written.ofJson j = .null
  · rw [hnull] at hread
    obtain rfl : Json.null = a := Option.some.inj hread
    rw [hnull]
    rfl
  · rw [nullable?_of_ne_null hnull, hread]
    cases a with
    | null => rw [hj.eq_of_leaf (by simp) (by simp)] at hnull; exact absurd rfl hnull
    | _ => rfl

theorem Json.isReadAs_nullable_ofExtended (x : Binary.Extended .double) :
    (ofExtended x).IsReadAs (Written.nullable? Written.extended?)
      (if x.isFinite then some x else none) :=
  isReadAs_of_leaf (by cases x <;> nofun) (by cases x <;> nofun) (by cases x <;> rfl)

/-! ### Ports -/

theorem DataType.isReadAs (t : DataType) : t.toJson.IsReadAs ofDocument? t := by
  refine isReadAs_of_leaf nofun nofun ?_
  cases t <;> rfl

/-- **One type is told from a list of types**, also if the list has one member or none. -/
theorem PortType.isReadAs (p : PortType) : p.toJson.IsReadAs ofDocument? p := by
  intro j hj
  cases p with
  | single t => rw [ofDocument?, t.isReadAs j hj]
  | oneOf ts =>
    have hlist := isReadAs_list (fun t _ => DataType.isReadAs t) j hj
    obtain ⟨items, rfl, -⟩ := hj.exists_arr
    have hname : DataType.ofDocument? (.ofJson (.arr items)) = none := rfl
    rw [ofDocument?, hname]
    show (Written.list? DataType.ofDocument? (.ofJson (.arr items))).map oneOf = _
    rw [hlist, Option.map_some]

theorem PortType.isUnambiguous (p : PortType) : p.toJson.IsUnambiguous := by
  cases p with
  | single t => exact isUnambiguous_str _
  | oneOf ts => exact isUnambiguous_arr (List.forall_mem_map.mpr fun t _ => isUnambiguous_str _)

namespace Port

/-- The names of the members a port may have. -/
def keys : List String := ["name", "type", "required"] ++ ["description"]

theorem sublist_keys (p : Port) :
    (([("name", .str p.name), ("type", p.type.toJson), ("required", .bool p.required)] ++
      memberOf "description" .str p.description).map (·.1)).Sublist keys := by
  rw [List.map_append]
  exact (List.Sublist.refl _).append sublist_keys_memberOf

theorem isReadAs (p : Port) : p.toJson.IsReadAs ofDocument? p := by
  intro j hj
  have ⟨_, hrecord, .cons hname (.cons htype (.cons hrequired (.cons hdescription .nil)))⟩ :=
    hj.exists_record? [["name"], ["type"], ["required"], ["description"]] keys p.sublist_keys
      (by decide)
  simp only [Written.member?_append, Written.member?_memberOf] at hname htype hrequired hdescription
  rw [ofDocument?, hrecord]
  simp only [Option.bind_eq_bind, Option.bind_some, hname.required? (isReadAs_str _),
    htype.required? p.type.isReadAs, hrequired.orDefault? (isReadAs_bool _),
    hdescription.optional?_map isReadAs_str rfl]
  rfl

theorem isUnambiguous (p : Port) : p.toJson.IsUnambiguous := by
  refine isUnambiguous_obj (List.Nodup.sublist p.sublist_keys (by decide)) ?_
  rw [List.forall_mem_append]
  exact ⟨by simp [p.type.isUnambiguous], isUnambiguous_memberOf fun s _ => isUnambiguous_str s⟩

end Port

/-! ### Fields of a schema -/

theorem FieldKind.isReadAs (k : FieldKind) : (str k.name).IsReadAs ofDocument? k := by
  refine isReadAs_of_leaf nofun nofun ?_
  cases k <;> rfl

namespace ConfigField

/-- The bounds of a field are numbers. -/
def HasFiniteBounds (f : ConfigField) : Prop :=
  (∀ b ∈ f.min, b.isFinite) ∧ ∀ b ∈ f.max, b.isFinite

/-- The values within a field have their members in order. -/
def IsCollated (f : ConfigField) : Prop :=
  (∀ d ∈ f.default, d.IsCollated) ∧ ∀ o ∈ f.options, o.IsCollated

/-- What is left of a field once it was written and read. -/
def asRead (f : ConfigField) : ConfigField :=
  { f with
    default := f.default.filter (!·.isNull)
    min := f.min.filter (·.isFinite)
    max := f.max.filter (·.isFinite) }

theorem orDefault?_options {f : ConfigField} {s : Slot} (h : ∀ o ∈ f.options, o.IsCollated)
    (hs : s.Shows ((if f.options.isEmpty then none else some f.options).map .arr)) :
    s.orDefault? [] (Written.list? Written.toJson?) = some f.options := by
  split at hs
  · rename_i hempty
    obtain rfl : s = none := hs
    rw [List.isEmpty_iff.mp hempty]
    rfl
  · have hlist : (Json.arr (f.options.map id)).IsReadAs (Written.list? Written.toJson?) f.options :=
      isReadAs_list fun o ho => isReadAs_of_isCollated (h o ho)
    rw [List.map_id] at hlist
    exact hs.orDefault? hlist []

/-- The names of the members a field may have. -/
def keys : List String :=
  ["name", "kind", "required"] ++ ["default"] ++ ["options"] ++ ["min"] ++ ["max"] ++
    ["description"]

/-- The members of a field. -/
def members (f : ConfigField) : List (String × Json) :=
  [("name", .str f.name), ("kind", .str f.kind.name), ("required", .bool f.required)] ++
    memberOf "default" id f.default ++
    memberOf "options" .arr (if f.options.isEmpty then none else some f.options) ++
    memberOf "min" .ofExtended f.min ++ memberOf "max" .ofExtended f.max ++
    memberOf "description" .str f.description

theorem toJson_eq (f : ConfigField) : f.toJson = .obj f.members := by
  have hoptions : (if f.options.isEmpty then [] else [("options", Json.arr f.options)]) =
      memberOf "options" .arr (if f.options.isEmpty then none else some f.options) := by
    split <;> rfl
  rw [toJson, hoptions, members]

theorem sublist_keys (f : ConfigField) : (f.members.map (·.1)).Sublist keys := by
  simp only [members, List.map_append]
  exact (((((List.Sublist.refl _).append sublist_keys_memberOf).append
    sublist_keys_memberOf).append sublist_keys_memberOf).append
    sublist_keys_memberOf).append sublist_keys_memberOf

theorem IsCollated.isReadAs {f : ConfigField} (h : f.IsCollated) :
    f.toJson.IsReadAs ofDocument? f.asRead := by
  intro j hj
  rw [toJson_eq] at hj
  have ⟨_, hrecord, .cons hname (.cons hkind (.cons hrequired (.cons hdefault (.cons hoptions
    (.cons hmin (.cons hmax (.cons hdescription .nil)))))))⟩ := hj.exists_record?
      [["name"], ["kind"], ["required"], ["default"], ["options"], ["min"], ["max"],
        ["description"]]
      keys f.sublist_keys (by decide)
  simp only [members, Written.member?_append, Written.member?_memberOf, List.mem_singleton,
    String.reduceEq, if_true, if_false, Option.or_none] at *
  rw [ofDocument?, hrecord]
  simp only [Option.bind_eq_bind, Option.bind_some, hname.required? (isReadAs_str _),
    hkind.required? (FieldKind.isReadAs _), hrequired.orDefault? (isReadAs_bool _),
    hdefault.optional?_filter fun d hd => isReadAs_nullable_of_isCollated (h.1 d hd),
    orDefault?_options h.2 hoptions,
    hmin.optional?_filter fun b _ => isReadAs_nullable_ofExtended b,
    hmax.optional?_filter fun b _ => isReadAs_nullable_ofExtended b,
    hdescription.optional?_map isReadAs_str rfl]
  rfl

theorem IsCollated.isUnambiguous {f : ConfigField} (h : f.IsCollated) : f.toJson.IsUnambiguous := by
  rw [toJson_eq]
  refine isUnambiguous_obj (List.Nodup.sublist f.sublist_keys (by decide)) ?_
  simp only [members, List.forall_mem_append]
  refine ⟨⟨⟨⟨⟨by simp, ?default⟩, ?options⟩, ?min⟩, ?max⟩, ?description⟩
  case default => exact isUnambiguous_memberOf fun d hd => (h.1 d hd).isUnambiguous
  case options =>
    refine isUnambiguous_memberOf fun options hoptions => isUnambiguous_arr fun o ho => ?_
    obtain ⟨-, hsome⟩ := Option.ite_none_left_eq_some.mp hoptions
    cases hsome
    exact (h.2 o ho).isUnambiguous
  case min | max => exact isUnambiguous_memberOf fun b _ => isUnambiguous_ofExtended b
  case description => exact isUnambiguous_memberOf fun s _ => isUnambiguous_str s

/-- **Nothing is lost of a field** with finite bounds whose default is not `null`. -/
theorem asRead_eq_iff {f : ConfigField} :
    f.asRead = f ↔ f.default ≠ some .null ∧ f.HasFiniteBounds := by
  have hparts : f.asRead = f ↔ f.default.filter (!·.isNull) = f.default ∧
      f.min.filter (·.isFinite) = f.min ∧ f.max.filter (·.isFinite) = f.max := by
    cases f
    simp [asRead]
  rw [hparts, filter_eq_self_iff, filter_eq_self_iff, filter_eq_self_iff, HasFiniteBounds]
  refine and_congr_left fun _ => ⟨fun h hnull => ?_, fun h d hd => ?_⟩
  · cases h .null hnull
  · cases d <;> first | rfl | exact absurd hd h

variable {f : ConfigField} {config : Fields}

/-- A field with finite bounds says the same about every value. -/
theorem problem?_asRead (h : f.HasFiniteBounds) (v : Json) :
    f.asRead.problem? v = f.problem? v := by
  rw [asRead, filter_eq_self_iff.mpr h.1, filter_eq_self_iff.mpr h.2]
  rfl

/-- A default that is not `null` stands in for a missing value as before. -/
theorem standIn?_asRead (h : f.default = some .null → config.getNonNull? f.name ≠ none) :
    f.asRead.standIn? config = f.standIn? config := by
  have hname : f.asRead.name = f.name := rfl
  rw [standIn?, standIn?, hname]
  cases hgiven : config.getNonNull? f.name with
  | some v => rfl
  | none =>
    refine filter_eq_self_iff.mpr fun d hd => ?_
    cases d <;> first | rfl | exact absurd hgiven (h hd)

theorem fieldProblemIn?_asRead (hbounds : f.HasFiniteBounds)
    (h : f.default = some .null → config.getNonNull? f.name ≠ none) :
    Manifest.fieldProblemIn? config f.asRead = Manifest.fieldProblemIn? config f := by
  have hdefault := standIn?_asRead h
  simp only [standIn?, Manifest.fieldProblemIn?] at hdefault ⊢
  have hname : f.asRead.name = f.name := rfl
  rw [hname] at hdefault ⊢
  cases hgiven : config.getNonNull? f.name with
  | some v => exact problem?_asRead hbounds v
  | none =>
    simp only [hgiven] at hdefault
    rw [hdefault]
    rfl

end ConfigField

/-! ### Manifests -/

theorem Category.isReadAs (c : Category) : (str c.name).IsReadAs ofDocument? c := by
  refine isReadAs_of_leaf nofun nofun ?_
  cases c <;> rfl

theorem Capabilities.isReadAs (c : Capabilities) : c.toJson.IsReadAs ofDocument? c := by
  intro j hj
  have ⟨_, hrecord, .cons hcacheable (.cons hparallel (.cons hstreaming .nil))⟩ :=
    hj.exists_record? [["cacheable"], ["parallel"], ["streaming"]]
      ["cacheable", "parallel", "streaming"] (.refl _) (by decide)
  rw [ofDocument?, hrecord]
  simp only [Option.bind_eq_bind, Option.bind_some, hcacheable.orDefault? (isReadAs_bool _),
    hparallel.orDefault? (isReadAs_bool _), hstreaming.orDefault? (isReadAs_bool _)]
  rfl

namespace Manifest

/-- The values within a manifest have their members in order. -/
def IsCollated (m : Manifest) : Prop := ∀ f ∈ m.configSchema, f.IsCollated

/-- What is left of a manifest once it was written and read. -/
def asRead (m : Manifest) : Manifest :=
  { m with configSchema := m.configSchema.map ConfigField.asRead }

theorem isReadAs {m : Manifest} (h : m.IsCollated) : m.toJson.IsReadAs ofDocument? m.asRead := by
  intro j hj
  have ⟨_, hrecord, .cons htype (.cons hversion (.cons hcategory (.cons hlabel (.cons hdescription
    (.cons hinputs (.cons houtputs (.cons hschema (.cons hcapabilities (.cons hretry
    .nil)))))))))⟩ := hj.exists_record?
      [["type"], ["version"], ["category"], ["label"], ["description"], ["inputs"], ["outputs"],
        ["configSchema"], ["capabilities"], ["retry"]]
      ["type", "version", "category", "label", "description", "inputs", "outputs", "configSchema",
        "capabilities", "retry"] (.refl _) (by decide)
  rw [ofDocument?, hrecord]
  simp only [Option.bind_eq_bind, Option.bind_some, htype.required? (isReadAs_str _),
    hversion.required? (isReadAs_str _), hcategory.required? (Category.isReadAs _),
    hlabel.orDefault? (isReadAs_str _), hdescription.orDefault? (isReadAs_str _),
    hinputs.orDefault? (isReadAs_list fun p _ => Port.isReadAs p),
    houtputs.orDefault? (isReadAs_list fun p _ => Port.isReadAs p),
    hschema.orDefault? (isReadAs_list_map fun f hf => (h f hf).isReadAs),
    hcapabilities.orDefault? (Capabilities.isReadAs _), hretry.orDefault? (isReadAs_ofWord32 _)]
  rfl

theorem isUnambiguous {m : Manifest} (h : m.IsCollated) : m.toJson.IsUnambiguous := by
  have hports (ports : List Port) : (arr (ports.map Port.toJson)).IsUnambiguous :=
    isUnambiguous_arr (List.forall_mem_map.mpr fun p _ => p.isUnambiguous)
  have hschema : (arr (m.configSchema.map ConfigField.toJson)).IsUnambiguous :=
    isUnambiguous_arr (List.forall_mem_map.mpr fun f hf => (h f hf).isUnambiguous)
  have hcapabilities : m.capabilities.toJson.IsUnambiguous :=
    isUnambiguous_obj (by simp) (by simp)
  exact isUnambiguous_obj (by simp) (by simp [hports, hschema, hcapabilities])

/-! ### Validation -/

variable {m : Manifest}

/-- **Nothing is lost of a manifest** just if nothing is lost of its fields. -/
theorem asRead_eq_iff : m.asRead = m ↔
    ∀ f ∈ m.configSchema, f.default ≠ some .null ∧ f.HasFiniteBounds := by
  have hschema : m.asRead = m ↔ m.configSchema.map ConfigField.asRead = m.configSchema := by
    cases m
    simp [asRead]
  rw [hschema]
  simp only [← ConfigField.asRead_eq_iff]
  refine ⟨fun hmap f hf => List.map_inj_left.mp (hmap.trans (List.map_id _).symm) f hf, fun h => ?_⟩
  rw [List.map_congr_left h, List.map_id']

/-- **A configuration is validated alike** if a value is given wherever the default is `null`. -/
theorem validateConfig_asRead (hbounds : ∀ f ∈ m.configSchema, f.HasFiniteBounds) {config : Fields}
    (h : ∀ f ∈ m.configSchema, f.default = some .null → config.getNonNull? f.name ≠ none) :
    m.asRead.validateConfig config = m.validateConfig config := by
  have hproblems : m.asRead.configProblems config = m.configProblems config := by
    show (m.configSchema.map ConfigField.asRead).filterMap (fieldProblemIn? config) = _
    rw [List.filterMap_map, configProblems]
    exact List.filterMap_congr fun f hf =>
      ConfigField.fieldProblemIn?_asRead (hbounds f hf) (h f hf)
  have hdefaults : m.asRead.withDefaults config = m.withDefaults config := by
    rw [withDefaults_eq_foldl, withDefaults_eq_foldl]
    show (m.configSchema.map ConfigField.asRead).foldl _ config = _
    rw [List.foldl_map]
    refine List.foldl_ext _ _ _ fun filled f hf => ?_
    rw [ConfigField.standIn?_asRead (h f hf)]
    rfl
  rw [validateConfig, validateConfig, hproblems, hdefaults]

/-- **A required value is missing** by the schema that was read, if only the default `null` stood
in for it. -/
theorem validateConfig_asRead_of_null {f : ConfigField} (hf : f ∈ m.configSchema)
    (hrequired : f.required) (hnull : f.default = some .null) {config : Fields}
    (h : config.getNonNull? f.name = none) :
    ∃ ps, m.asRead.validateConfig config = .error (.invalidConfig ps) ∧
      "missing required config '" ++ f.name ++ "'" ∈ ps := by
  have hproblem : fieldProblemIn? config f.asRead =
      some ("missing required config '" ++ f.name ++ "'") := by
    have hname : config.getNonNull? f.asRead.name = none := h
    have hdefault : f.asRead.default = none := by rw [ConfigField.asRead, hnull]; rfl
    have hstill : f.asRead.required = true := hrequired
    rw [fieldProblemIn?, hname, hdefault, hstill]
    rfl
  have hmem : "missing required config '" ++ f.name ++ "'" ∈ m.asRead.configProblems config :=
    List.mem_filterMap.mpr ⟨_, List.mem_map_of_mem hf, hproblem⟩
  refine ⟨m.asRead.configProblems config, ?_, hmem⟩
  rw [validateConfig]
  split
  · rename_i hnone
    exact absurd (hnone ▸ hmem) List.not_mem_nil
  · rfl

/-- **A manifest that is written and read stays what it is**, except that a default that is `null`
becomes none, and so do bounds that are not numbers. Without either it is the same manifest. Inputs
and outputs are held against it as before in any case. So is every configuration that has a value
wherever the default is `null`, if the bounds are numbers; but where such a value is required and
missing, the configuration is now refused. -/
theorem roundTrips_asRead (m : Manifest) (h : m.IsCollated) :
    m.toJson.RoundTrips ofDocument? m.asRead ∧
    (m.asRead = m ↔ ∀ f ∈ m.configSchema, f.default ≠ some .null ∧ f.HasFiniteBounds) ∧
    (∀ inputs, m.asRead.validateInputs inputs = m.validateInputs inputs) ∧
    (∀ outputs, m.asRead.validateOutputs outputs = m.validateOutputs outputs) ∧
    ((∀ f ∈ m.configSchema, f.HasFiniteBounds) → ∀ config : Fields,
      (∀ f ∈ m.configSchema, f.default = some .null → config.getNonNull? f.name ≠ none) →
        m.asRead.validateConfig config = m.validateConfig config) ∧
    ∀ f ∈ m.configSchema, f.required → f.default = some .null → ∀ config : Fields,
      config.getNonNull? f.name = none →
        ∃ ps, m.asRead.validateConfig config = .error (.invalidConfig ps) ∧
          "missing required config '" ++ f.name ++ "'" ∈ ps :=
  ⟨(isReadAs h).roundTrips (isUnambiguous h), asRead_eq_iff, fun _ => rfl, fun _ => rfl,
    fun hbounds _ => validateConfig_asRead hbounds,
    fun _ hf hrequired hnull _ => validateConfig_asRead_of_null hf hrequired hnull⟩

/-- A manifest with a list of one type, a described port, options, bounds, and a default with
members of its own. -/
def varied : Manifest where
  type := "t"
  version := "1"
  category := .utility
  inputs := [{ name := "a", type := .oneOf [.string], required := true },
    { name := "b", type := .oneOf [.number, .any], description := some "either" }]
  outputs := [{ name := "c", type := .single .object }]
  configSchema := [{ name := "s", kind := .select, options := [.null, .ofNat 1] },
    { name := "n", kind := .number, required := true, min := some (.finite Double.zero),
      max := some (.finite Double.one) },
    { name := "o", kind := .json, default := some (.obj [("k", .arr [.null])]) }]
  retry := 3

theorem roundTrips_asRead_varied : varied.problem? = none ∧ varied.IsCollated ∧
    varied.asRead = varied ∧ varied.toJson.RoundTrips ofDocument? varied := by
  have hcollated : varied.IsCollated := by
    unfold IsCollated ConfigField.IsCollated Json.IsCollated
    decide +kernel
  obtain ⟨hread, hsame, -⟩ := roundTrips_asRead varied hcollated
  have hall : varied.asRead = varied := hsame.mpr (by
    unfold ConfigField.HasFiniteBounds
    decide +kernel)
  exact ⟨by decide +kernel, hcollated, hall, hall ▸ hread⟩

/-- A manifest whose only field is required and has the default `null`. -/
def nulled : Manifest :=
  (named "t" "1" .utility).withField
    { name := "n", kind := .json, required := true, default := some .null }

/-- What it is read as is another manifest, and that refuses the empty configuration, which it
accepts itself. -/
theorem nulled_not_roundTrips : nulled.problem? = none ∧
    (∀ f ∈ nulled.configSchema, f.HasFiniteBounds) ∧
    ofDocument? (.ofJson nulled.toJson.collated) ≠ some nulled ∧
    ofDocument? (.ofJson nulled.toJson.collated) = some nulled.asRead ∧
    nulled.validateConfig .empty = .ok (.ofList [("n", .null)]) ∧
    nulled.asRead.validateConfig .empty =
      .error (.invalidConfig ["missing required config 'n'"]) := by
  have hcollated : nulled.IsCollated := by
    unfold IsCollated ConfigField.IsCollated Json.IsCollated
    decide +kernel
  have hread : ofDocument? (.ofJson nulled.toJson.collated) = some nulled.asRead :=
    ((isReadAs hcollated).roundTrips (isUnambiguous hcollated)).collated
  have hother : nulled.asRead ≠ nulled := by decide +kernel
  refine ⟨by decide +kernel, ?_, fun h => hother (Option.some.inj (hread ▸ h)), hread,
    by decide +kernel, by decide +kernel⟩
  unfold ConfigField.HasFiniteBounds
  decide +kernel

end Manifest

end PortGraph
