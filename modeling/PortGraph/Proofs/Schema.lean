import PortGraph.Nodes.Threshold
import PortGraph.Proofs.Registry
import PortGraph.Validation

/-!
# Configurations and their schema

What validation makes of a configuration. Values that are given are held against the schema and stay
as they are. Where a value is missing, the default of its field takes its place, and nobody looks at
it: that a default is a value of the field is left to those who write manifests. So a validated
configuration satisfies the schema just if the defaults that were filled in do, and then validating
it once more changes nothing.

## Main definitions

* `ConfigField.Admits`: what a value of a field is
* `ConfigField.AdmitsDefault`: the default may stand in for a missing value
* `Manifest.IsSatisfiedBy`: a configuration as the schema wants it

## Main results

* `ConfigField.problem?_eq_none_iff`: nothing is said against a value just if it is admitted
* `Manifest.get?_withDefaults`: what a configuration holds once defaults are filled in
* `Manifest.isSatisfiedBy_withDefaults_iff`: which defaults may stand in for missing values
* `Manifest.isSatisfiedBy_of_validateConfig`: when a validated configuration satisfies the schema
-/

namespace PortGraph

/-! ### Values of a field -/

/-- A value of the field: of its kind, among its options, and within its bounds. -/
def ConfigField.Admits (f : ConfigField) (v : Json) : Prop :=
  match f.kind with
  | .string => ∃ s, v = .str s
  | .boolean => ∃ b, v = .bool b
  | .number => ∃ x : Double, v.toDouble? = some x ∧
      (∀ least, f.min = some least → Binary.Extended.lt x least = false) ∧
      ∀ most, f.max = some most → Binary.Extended.lt most x = false
  | .select => ∃ option ∈ f.options, option.same v = true
  | .json => True

/-- **Nothing is said against a value just if the field admits it.** -/
theorem ConfigField.problem?_eq_none_iff {f : ConfigField} {v : Json} :
    f.problem? v = none ↔ f.Admits v := by
  simp only [problem?, Admits]
  cases f.kind with
  | string => cases v <;> simp
  | boolean => cases v <;> simp
  | json => simp
  | select => simp [List.any_eq_true]
  | number =>
    cases v.toDouble? with
    | none => simp
    | some x =>
      have hbound (bound? : Option (Binary.Extended .double))
          (violates : Binary.Extended .double → Bool) :
          bound?.filter violates = none ↔ ∀ b, bound? = some b → violates b = false := by
        cases bound? <;> simp [Option.filter]
      simp only [Option.some.injEq, exists_eq_left', ← hbound]
      cases f.min.filter (Binary.Extended.lt x ·) <;>
        cases f.max.filter (Binary.Extended.lt · x) <;> simp

/-- The default of a field may stand in for a missing value: it is a value of the field, or `null`
where none is required. -/
def ConfigField.AdmitsDefault (f : ConfigField) : Prop :=
  ∀ d, f.default = some d → (d = .null → f.required = false) ∧ (d ≠ .null → f.Admits d)

/-- A configuration as the schema wants it: whatever is required is there, and whatever is there is a
value of its field. -/
structure Manifest.IsSatisfiedBy (m : Manifest) (config : Fields) : Prop where
  required : ∀ f ∈ m.configSchema, f.required = true → ∃ v, config.getNonNull? f.name = some v
  admits : ∀ f ∈ m.configSchema, ∀ v, config.getNonNull? f.name = some v → f.Admits v

/-! ### Missing values -/

section Missing

variable {config : Fields} {f : ConfigField}

theorem Table.getNonNull?_eq_some_iff {key : String} {v : Json} :
    config.getNonNull? key = some v ↔ config.get? key = some v ∧ v ≠ .null := by
  rw [getNonNull?, Option.filter_eq_some_iff]
  refine and_congr_right fun _ => ?_
  cases v <;> simp [Json.isNull]

/-- What takes the place of the value of a field: its default, if the value is missing. -/
def ConfigField.standIn? (f : ConfigField) (config : Fields) : Option Json :=
  match config.getNonNull? f.name with
  | none => f.default
  | some _ => none

/-- When nothing is wrong with a field of a configuration. -/
theorem Manifest.fieldProblemIn?_eq_none_iff :
    fieldProblemIn? config f = none ↔
      (∀ v, config.getNonNull? f.name = some v → f.Admits v) ∧
        (config.getNonNull? f.name = none → f.required = true → ∃ d, f.default = some d) := by
  rw [fieldProblemIn?]
  cases config.getNonNull? f.name with
  | some v => simp [ConfigField.problem?_eq_none_iff]
  | none =>
    cases f.default <;> simp

end Missing

namespace Manifest

variable {m : Manifest} {config normalized : Fields} {f : ConfigField}

/-- When a configuration is valid, and what becomes of it. -/
theorem validateConfig_eq_ok_iff : m.validateConfig config = .ok normalized ↔
    (∀ f ∈ m.configSchema, fieldProblemIn? config f = none) ∧
      normalized = m.withDefaults config := by
  rw [← List.filterMap_eq_nil_iff, ← configProblems, validateConfig]
  cases m.configProblems config <;> simp [eq_comm]

/-! ### Filling in -/

theorem withDefaults_eq_foldl (m : Manifest) (config : Fields) : m.withDefaults config =
    m.configSchema.foldl (fun filled f => filled.insert? f.name (f.standIn? config)) config := by
  rw [withDefaults]
  congr 1
  funext filled f
  rw [ConfigField.standIn?]
  cases config.getNonNull? f.name <;> cases f.default <;> rfl

/-- **What a configuration holds once defaults are filled in**: the default of a field where its
value is missing, and otherwise what it held before. -/
theorem get?_withDefaults (hm : (m.configSchema.map (·.name)).Nodup) (hf : f ∈ m.configSchema) :
    (m.withDefaults config).get? f.name = (f.standIn? config).or (config.get? f.name) := by
  rw [withDefaults_eq_foldl, Table.get?_foldl_insert? hm hf]

/-- Keys that the schema does not name stay as they are. -/
theorem get?_withDefaults_of_notMem {key : String} (h : key ∉ m.configSchema.map (·.name)) :
    (m.withDefaults config).get? key = config.get? key := by
  rw [withDefaults_eq_foldl, Table.get?_foldl_insert?_of_notMem h]

/-- A value that is given stays. -/
theorem getNonNull?_withDefaults_of_some (hm : (m.configSchema.map (·.name)).Nodup)
    (hf : f ∈ m.configSchema) {v : Json} (hv : config.getNonNull? f.name = some v) :
    (m.withDefaults config).getNonNull? f.name = some v := by
  obtain ⟨hget, hnull⟩ := Table.getNonNull?_eq_some_iff.mp hv
  refine Table.getNonNull?_eq_some_iff.mpr ⟨?_, hnull⟩
  rw [get?_withDefaults hm hf, ConfigField.standIn?, hv, Option.none_or, hget]

/-- Where a value is missing, there is the default afterwards, unless it is `null`. -/
theorem getNonNull?_withDefaults_of_none (hm : (m.configSchema.map (·.name)).Nodup)
    (hf : f ∈ m.configSchema) (hnone : config.getNonNull? f.name = none) {v : Json} :
    (m.withDefaults config).getNonNull? f.name = some v ↔ f.default = some v ∧ v ≠ .null := by
  rw [Table.getNonNull?_eq_some_iff, get?_withDefaults hm hf, ConfigField.standIn?, hnone]
  refine and_congr_left fun hnull => ?_
  cases f.default with
  | some d => simp
  | none =>
    refine ⟨fun hget => ?_, nofun⟩
    cases hnone.symm.trans (Table.getNonNull?_eq_some_iff.mpr ⟨hget, hnull⟩)

/-- Defaults are filled in once and for all. -/
theorem withDefaults_withDefaults (hm : (m.configSchema.map (·.name)).Nodup) (config : Fields) :
    m.withDefaults (m.withDefaults config) = m.withDefaults config := by
  refine Table.ext_get? fun key => ?_
  by_cases hkey : key ∈ m.configSchema.map (·.name)
  · obtain ⟨f, hf, rfl⟩ := List.mem_map.mp hkey
    rw [get?_withDefaults hm hf]
    cases hfilled : (m.withDefaults config).getNonNull? f.name with
    | some v => rw [ConfigField.standIn?, hfilled, Option.none_or]
    | none =>
      -- The default stood in already, or else there would be a value now.
      have hnone : config.getNonNull? f.name = none := by
        by_contra hsome
        obtain ⟨v, hv⟩ := Option.ne_none_iff_exists'.mp hsome
        cases hfilled.symm.trans (getNonNull?_withDefaults_of_some hm hf hv)
      rw [get?_withDefaults hm hf, ConfigField.standIn?, ConfigField.standIn?, hfilled, hnone]
      cases f.default <;> rfl
  · exact get?_withDefaults_of_notMem hkey

/-! ### Validated configurations -/

/-- A configuration that satisfies the schema, and in which all defaults are filled in, stays as it
is. -/
theorem IsSatisfiedBy.validateConfig_eq (h : m.IsSatisfiedBy config)
    (hfilled : m.withDefaults config = config) : m.validateConfig config = .ok config := by
  refine validateConfig_eq_ok_iff.mpr ⟨fun f hf => ?_, hfilled.symm⟩
  refine fieldProblemIn?_eq_none_iff.mpr ⟨h.admits f hf, fun hnone hrequired => ?_⟩
  obtain ⟨v, hv⟩ := h.required f hf hrequired
  cases hnone.symm.trans hv

/-- A valid configuration satisfies the schema, once defaults are filled in, just if those defaults
may stand in for the values that were missing. -/
theorem isSatisfiedBy_withDefaults_iff (hm : (m.configSchema.map (·.name)).Nodup)
    (hvalid : ∀ f ∈ m.configSchema, fieldProblemIn? config f = none) :
    m.IsSatisfiedBy (m.withDefaults config) ↔
      ∀ f ∈ m.configSchema, config.getNonNull? f.name = none → f.AdmitsDefault := by
  constructor
  · intro hsat f hf hnone d hd
    refine ⟨?_, fun hnull =>
      hsat.admits f hf d ((getNonNull?_withDefaults_of_none hm hf hnone).mpr ⟨hd, hnull⟩)⟩
    rintro rfl
    by_contra hrequired
    obtain ⟨v, hv⟩ := hsat.required f hf (Bool.not_eq_false _ ▸ hrequired)
    obtain ⟨hv, hnull⟩ := (getNonNull?_withDefaults_of_none hm hf hnone).mp hv
    cases hd.symm.trans hv
    exact hnull rfl
  · refine fun hdefaults => ⟨fun f hf hrequired => ?_, fun f hf v hv => ?_⟩
    · cases hget : config.getNonNull? f.name with
      | some v => exact ⟨v, getNonNull?_withDefaults_of_some hm hf hget⟩
      | none =>
        obtain ⟨d, hd⟩ := (fieldProblemIn?_eq_none_iff.mp (hvalid f hf)).2 hget hrequired
        have hnull : d ≠ .null := fun hnull => by
          cases hrequired.symm.trans ((hdefaults f hf hget d hd).1 hnull)
        exact ⟨d, (getNonNull?_withDefaults_of_none hm hf hget).mpr ⟨hd, hnull⟩⟩
    · cases hget : config.getNonNull? f.name with
      | some w =>
        cases hv.symm.trans (getNonNull?_withDefaults_of_some hm hf hget)
        exact (fieldProblemIn?_eq_none_iff.mp (hvalid f hf)).1 v hget
      | none =>
        obtain ⟨hd, hnull⟩ := (getNonNull?_withDefaults_of_none hm hf hget).mp hv
        exact (hdefaults f hf hget v hd).2 hnull

/-- **When a validated configuration satisfies the schema.** The manifest is well formed and the
configuration has been found valid. Each value that was given is still there and is admitted by its
field. As for the others, the schema is satisfied just if each default that was filled in is a value
of its field, or `null` where none is required. A configuration that satisfies the schema is valid
again, and nothing is filled in any more. -/
theorem isSatisfiedBy_of_validateConfig (m : Manifest) (config normalized : Fields)
    (hm : m.problem? = none) (h : m.validateConfig config = .ok normalized) :
    (∀ f ∈ m.configSchema, ∀ v, config.getNonNull? f.name = some v →
      normalized.getNonNull? f.name = some v ∧ f.Admits v) ∧
    (m.IsSatisfiedBy normalized ↔
      ∀ f ∈ m.configSchema, config.getNonNull? f.name = none → f.AdmitsDefault) ∧
    (m.IsSatisfiedBy normalized → m.validateConfig normalized = .ok normalized) := by
  obtain ⟨hvalid, rfl⟩ := validateConfig_eq_ok_iff.mp h
  have hnodup := (fieldProblem?_eq_none_iff.mp (fieldProblem?_eq_none hm)).2
  refine ⟨fun f hf v hv => ⟨?_, ?_⟩, isSatisfiedBy_withDefaults_iff hnodup hvalid, fun hsat =>
    hsat.validateConfig_eq (withDefaults_withDefaults hnodup config)⟩
  · exact getNonNull?_withDefaults_of_some hnodup hf hv
  · exact (fieldProblemIn?_eq_none_iff.mp (hvalid f hf)).1 v hv

/-! ### A schema with defaults, and one with a default that does not fit -/

/-- A threshold that is configured without a field, and with no side rather than one. -/
theorem isSatisfiedBy_threshold :
    let config : Fields := .ofList [("threshold", .ofNat 10), ("mode", .null)]
    let normalized : Fields :=
      .ofList [("field", .str "amount"), ("threshold", .ofNat 10), ("mode", .str "above")]
    Nodes.Threshold.manifest.problem? = none ∧
      Nodes.Threshold.manifest.validateConfig config = .ok normalized ∧
      Nodes.Threshold.manifest.IsSatisfiedBy normalized ∧
      Nodes.Threshold.manifest.validateConfig normalized = .ok normalized := by
  intro config normalized
  have hm : Nodes.Threshold.manifest.problem? = none := by decide +kernel
  have h : Nodes.Threshold.manifest.validateConfig config = .ok normalized := by decide +kernel
  obtain ⟨-, hiff, hagain⟩ := isSatisfiedBy_of_validateConfig _ config normalized hm h
  have hsat : Nodes.Threshold.manifest.IsSatisfiedBy normalized := by
    refine hiff.mpr fun f hf _ d hd => ?_
    have hadmitted : ∀ f ∈ Nodes.Threshold.manifest.configSchema, ∀ d ∈ f.default,
        d ≠ .null ∧ f.problem? d = none := by decide +kernel
    obtain ⟨hnull, hproblem⟩ := hadmitted f hf d hd
    exact ⟨fun h => absurd h hnull, fun _ => ConfigField.problem?_eq_none_iff.mp hproblem⟩
  exact ⟨hm, h, hsat, hagain hsat⟩

/-- A well-formed manifest whose one field, a number, has a text as its default. -/
def misdefaulted : Manifest where
  type := "t"
  version := "1"
  category := .transform
  configSchema := [{ name := "n", kind := .number, required := true, default := some (.str "ten") }]

/-- The empty configuration of a field whose default does not fit is valid, and what becomes of it
is neither as the schema wants it nor valid itself. -/
theorem misdefaulted_not_isSatisfiedBy :
    let normalized : Fields := .ofList [("n", .str "ten")]
    misdefaulted.problem? = none ∧ misdefaulted.validateConfig .empty = .ok normalized ∧
      ¬ misdefaulted.IsSatisfiedBy normalized ∧
      misdefaulted.validateConfig normalized ≠ .ok normalized := by
  intro normalized
  refine ⟨by decide +kernel, by decide +kernel, fun h => ?_, by decide +kernel⟩
  have hadmits := h.admits _ (List.mem_singleton.mpr rfl) (.str "ten") (by decide +kernel)
  exact absurd (ConfigField.problem?_eq_none_iff.mpr hadmits) (by decide +kernel)

end Manifest

end PortGraph
