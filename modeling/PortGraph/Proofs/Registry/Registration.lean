import PortGraph.Proofs.Registry

/-!
# Registering one type after the other

Types are handed in one by one, and some of them are refused: those whose manifest is not well formed,
and those whose name is taken. A refusal leaves the registry as it was. So what is known of a type is
the first registration under its name that has a well-formed manifest, and whatever comes later
changes nothing of it.

Listings and counts are all made from the entries. Here they are held against the lookups, as those
who ask for them see the registry: each listing shows the types that can be looked up, in order and
once, and each count is the length of a listing.

## Main definitions

* `Manifest.IsWellFormed`: what is asked of a manifest, each condition on its own
* `Registration`: a manifest that is handed in, with a body or without
* `Registry.enrol`, `Registry.enrolAll`: what becomes of a registry by registrations
* `Registry.IsCatalogue`: entries, listings and counts are in order and describe one set of types

## Main results

* `Manifest.problem?_eq_none_iff`: a manifest has no problem just if it is well formed
* `Registry.get?_enrolAll`: what is known of a type after any registrations
* `Registry.reachable_iff_exists_enrolAll`: registries come about by registrations and nothing else
* `Registry.Reachable.isCatalogue`: whatever can come about is a catalogue
* `Registry.first_valid_registration_wins`: the whole of it, for any registrations
-/

namespace PortGraph

/-! ### Well-formed manifests -/

/-- Ports of one side as they should be: each has a name, no two have the same, and each declares a
type. -/
structure Port.AreDeclared (ports : List Port) : Prop where
  named : ∀ p ∈ ports, p.name ≠ ""
  distinct : (ports.map (·.name)).Nodup
  typed : ∀ p ∈ ports, p.type.members ≠ []

namespace Manifest

/-- What is asked of a manifest. -/
structure IsWellFormed (m : Manifest) : Prop where
  type_notBlank : ∃ c ∈ m.type.toList, Text.isBlank c = false
  version_notBlank : ∃ c ∈ m.version.toList, Text.isBlank c = false
  inputs : Port.AreDeclared m.inputs
  outputs : Port.AreDeclared m.outputs
  fields_distinct : (m.configSchema.map (·.name)).Nodup
  options : ∀ f ∈ m.configSchema, f.kind = .select → f.options ≠ []

theorem portProblem?_nil_eq_none_iff {side : String} {ports : List Port} :
    portProblem? side [] ports = none ↔ Port.AreDeclared ports := by
  rw [portProblem?_eq_none_iff]
  constructor
  · rintro ⟨h, hdistinct⟩
    exact ⟨fun p hp => (h p hp).1, hdistinct, fun p hp => (h p hp).2.2⟩
  · intro h
    exact ⟨fun p hp => ⟨h.named p hp, List.not_mem_nil, h.typed p hp⟩, h.distinct⟩

/-- **A manifest has no problem just if it is well formed.** -/
theorem problem?_eq_none_iff {m : Manifest} : m.problem? = none ↔ m.IsWellFormed := by
  have hblank (s : String) : Text.isBlankText s = false ↔
      ∃ c ∈ s.toList, Text.isBlank c = false := by
    simp [Text.isBlankText, List.all_eq_false]
  constructor
  · intro h
    obtain ⟨hinputs, houtputs⟩ := portProblems_eq_none h
    obtain ⟨hfields, hdistinct⟩ := fieldProblem?_eq_none_iff.mp (fieldProblem?_eq_none h)
    rw [problem?] at h
    split at h
    · cases h
    · rename_i htype
      split at h
      · cases h
      · rename_i hversion
        exact ⟨(hblank _).mp (Bool.eq_false_iff.mpr htype),
          (hblank _).mp (Bool.eq_false_iff.mpr hversion),
          portProblem?_nil_eq_none_iff.mp hinputs, portProblem?_nil_eq_none_iff.mp houtputs,
          hdistinct, fun f hf => (hfields f hf).2⟩
  · intro h
    have hfields : fieldProblem? [] m.configSchema = none := fieldProblem?_eq_none_iff.mpr
      ⟨fun f hf => ⟨List.not_mem_nil, h.options f hf⟩, h.fields_distinct⟩
    rw [problem?, (hblank _).mpr h.type_notBlank, (hblank _).mpr h.version_notBlank,
      portProblem?_nil_eq_none_iff.mpr h.inputs, portProblem?_nil_eq_none_iff.mpr h.outputs, hfields]
    rfl

end Manifest

/-! ### Registrations -/

/-- A manifest that is handed in, with the body of the type if it runs in process. -/
structure Registration (β : Type) where
  manifest : Manifest
  body? : Option β

namespace Registration

variable {β : Type}

/-- What a registry keeps of a registration. -/
def entry (a : Registration β) : Registry.Entry β := ⟨a.manifest, a.body?⟩

/-- The registration is one of the type, and its manifest has no problem. -/
def isValidFor (type : String) (a : Registration β) : Bool :=
  a.manifest.type = type && a.manifest.problem?.isNone

end Registration

namespace Registry

variable {β : Type} {r s : Registry β} {a : Registration β} {type : String}

/-- Hand in a registration. One that is refused leaves the registry as it was. -/
def enrol (r : Registry β) (a : Registration β) : Registry β :=
  match r.register a.manifest a.body? with
  | .ok s => s
  | .error _ => r

/-- Hand in registrations one after the other. -/
def enrolAll (r : Registry β) (l : List (Registration β)) : Registry β := l.foldl enrol r

theorem enrolAll_append (r : Registry β) (l m : List (Registration β)) :
    r.enrolAll (l ++ m) = (r.enrolAll l).enrolAll m := List.foldl_append

theorem enrol_of_error {err : RegistryError} (h : r.register a.manifest a.body? = .error err) :
    r.enrol a = r := by
  rw [enrol, h]

theorem enrol_of_ok (h : r.register a.manifest a.body? = .ok s) : r.enrol a = s := by
  rw [enrol, h]

/-- A manifest that is not well formed is refused for that, whether its type is taken or not. -/
theorem register_of_problem {reason : String} (h : a.manifest.problem? = some reason) :
    r.register a.manifest a.body? = .error (.invalidManifest a.manifest.type reason) := by
  rw [register, h]

/-- A well-formed manifest is refused if its type is taken. -/
theorem register_of_contains (h : a.manifest.problem? = none)
    (htaken : r.entries.contains a.manifest.type = true) :
    r.register a.manifest a.body? = .error (.duplicateType a.manifest.type) := by
  rw [register, h]
  exact if_pos htaken

/-- **What is known of a type after a registration**: what was known before, and otherwise the
registration, if it is a valid one of that type. -/
theorem get?_enrol (r : Registry β) (a : Registration β) (type : String) :
    (r.enrol a).entries.get? type =
      (r.entries.get? type).or (if a.isValidFor type then some a.entry else none) := by
  cases hproblem : a.manifest.problem? with
  | some reason =>
    rw [enrol_of_error (register_of_problem hproblem), Registration.isValidFor, hproblem]
    simp
  | none =>
    have hvalid : a.isValidFor type = decide (a.manifest.type = type) := by
      simp [Registration.isValidFor, hproblem]
    rw [hvalid]
    cases htaken : r.entries.contains a.manifest.type with
    | true =>
      rw [enrol_of_error (register_of_contains hproblem htaken)]
      by_cases htype : a.manifest.type = type
      · rw [← htype]
        rw [Table.contains, Option.isSome_iff_exists] at htaken
        obtain ⟨e, he⟩ := htaken
        rw [he, Option.some_or]
      · simp [htype]
    | false =>
      rw [enrol_of_ok (register_eq_ok_iff.mpr ⟨hproblem, htaken, rfl⟩), Table.get?_insert]
      rw [Table.contains, Option.isSome_eq_false_iff, Option.isNone_iff_eq_none] at htaken
      by_cases htype : a.manifest.type = type
      · rw [if_pos htype.symm, ← htype, htaken]
        simp [Registration.entry]
      · rw [if_neg (Ne.symm htype)]
        simp [htype]

/-- **What is known of a type after any registrations**: what was known before, and otherwise the
first valid registration of that type. -/
theorem get?_enrolAll (r : Registry β) (l : List (Registration β)) (type : String) :
    (r.enrolAll l).entries.get? type =
      (r.entries.get? type).or ((l.find? (·.isValidFor type)).map (·.entry)) := by
  induction l generalizing r with
  | nil => simp [enrolAll]
  | cons a rest ih =>
    have hstep : r.enrolAll (a :: rest) = (r.enrol a).enrolAll rest := rfl
    rw [hstep, ih, get?_enrol, Option.or_assoc, List.find?_cons]
    cases a.isValidFor type <;> simp

theorem get?_enrolAll_empty (l : List (Registration β)) (type : String) :
    ((empty : Registry β).enrolAll l).entries.get? type =
      (l.find? (·.isValidFor type)).map (·.entry) := by
  rw [get?_enrolAll]
  exact Option.none_or

/-- What is known of a type stays as it is. -/
theorem get?_enrolAll_of_some {e : Entry β} (h : r.entries.get? type = some e)
    (l : List (Registration β)) : (r.enrolAll l).entries.get? type = some e := by
  rw [get?_enrolAll, h, Option.some_or]

/-! ### What can come about -/

theorem Reachable.enrol (h : r.Reachable) (a : Registration β) : (r.enrol a).Reachable := by
  cases hs : r.register a.manifest a.body? with
  | error err => rwa [enrol_of_error hs]
  | ok s =>
    rw [enrol_of_ok hs]
    exact h.register hs

theorem Reachable.enrolAll (h : r.Reachable) (l : List (Registration β)) :
    (r.enrolAll l).Reachable := by
  induction l generalizing r with
  | nil => exact h
  | cons a rest ih => exact ih (h.enrol a)

/-- What can come about is what registrations make of the registry without types. -/
theorem reachable_iff_exists_enrolAll : r.Reachable ↔ ∃ l, empty.enrolAll l = r := by
  constructor
  · intro h
    induction h with
    | empty => exact ⟨[], rfl⟩
    | @register r s m body? _ hs ih =>
      obtain ⟨l, rfl⟩ := ih
      refine ⟨l ++ [⟨m, body?⟩], ?_⟩
      rw [enrolAll_append]
      exact enrol_of_ok hs
  · rintro ⟨l, rfl⟩
    exact Reachable.empty.enrolAll l

/-! ### Listings -/

theorem types_ascending (r : Registry β) : r.types.Pairwise (· < ·) :=
  List.pairwise_map.mpr r.entries.ascending

theorem manifest?_eq_some_iff {m : Manifest} :
    r.manifest? type = some m ↔ ∃ body?, (type, (⟨m, body?⟩ : Entry β)) ∈ r.entries.entries := by
  rw [manifest?, Option.map_eq_some_iff]
  constructor
  · rintro ⟨⟨_, body?⟩, he, rfl⟩
    exact ⟨body?, Table.get?_eq_some_iff.mp he⟩
  · rintro ⟨body?, he⟩
    exact ⟨⟨m, body?⟩, Table.get?_eq_some_iff.mpr he, rfl⟩

theorem mem_types_iff : type ∈ r.types ↔ ∃ m, r.manifest? type = some m := by
  rw [types, ← Table.contains_iff_mem_keys, Table.contains, Option.isSome_iff_exists]
  simp [manifest?]

/-- The manifests follow one another as their types do. -/
theorem Reachable.map_type_manifests (h : r.Reachable) : r.manifests.map (·.type) = r.types := by
  rw [manifests, Table.values, types, Table.keys, List.map_map, List.map_map]
  refine List.map_congr_left fun e he => ?_
  exact h.type_eq (manifest?_eq_some_iff.mpr ⟨e.2.body?, he⟩)

theorem Reachable.mem_manifests_iff (h : r.Reachable) {m : Manifest} :
    m ∈ r.manifests ↔ r.manifest? m.type = some m := by
  rw [manifests, Table.values, List.map_map, List.mem_map, manifest?_eq_some_iff]
  constructor
  · rintro ⟨⟨type, e⟩, he, rfl⟩
    obtain rfl := h.type_eq (manifest?_eq_some_iff.mpr ⟨e.body?, he⟩)
    exact ⟨e.body?, he⟩
  · rintro ⟨body?, he⟩
    exact ⟨_, he, rfl⟩

/-- Whatever is picked from the manifests is in ascending order of type. -/
theorem Reachable.pairwise_filter (h : r.Reachable) (wanted : Manifest → Bool) :
    (r.manifests.filter wanted).Pairwise (·.type < ·.type) := by
  have hall : (r.manifests.map (·.type)).Pairwise (· < ·) := by
    rw [h.map_type_manifests]
    exact r.types_ascending
  exact (List.pairwise_map.mp hall).filter wanted

theorem mem_byCategory_iff {c : Category} {g : List Manifest} :
    (c, g) ∈ r.byCategory ↔ g = r.inCategory c ∧ g ≠ [] := by
  have hall : c ∈ Category.all := by cases c <;> decide
  simp only [byCategory, List.mem_filter, List.mem_map, Prod.mk.injEq]
  constructor
  · rintro ⟨⟨c', -, rfl, rfl⟩, hne⟩
    exact ⟨rfl, by simpa using hne⟩
  · rintro ⟨rfl, hne⟩
    exact ⟨⟨c, hall, rfl, rfl⟩, by simpa using hne⟩

/-- Each category stands once, in the order of listings. -/
theorem categories_sublist (r : Registry β) : (r.byCategory.map (·.1)).Sublist Category.all := by
  have hsub := (List.filter_sublist (p := fun g => !g.2.isEmpty)
    (l := Category.all.map fun c => (c, r.inCategory c))).map Prod.fst
  have hid : (Prod.fst ∘ fun c => (c, r.inCategory c)) = id := rfl
  rwa [List.map_map, hid, List.map_id] at hsub

theorem countP_body (r : Registry β) : r.entries.values.countP (·.body?.isSome) =
    (r.types.filter fun type => (r.body? type).isSome).length := by
  rw [Table.values, types, Table.keys, List.countP_map, ← List.countP_eq_length_filter,
    List.countP_map]
  refine List.countP_congr fun e he => ?_
  have hget : r.entries.get? e.1 = some e.2 := Table.get?_eq_some_iff.mpr he
  simp [body?, hget]

/-! ### Catalogues -/

/-- Entries, listings and counts are in order and describe one set of types: those that can be looked
up. -/
structure IsCatalogue (r : Registry β) : Prop where
  type_eq : ∀ type m, r.manifest? type = some m → m.type = type
  isWellFormed : ∀ type m, r.manifest? type = some m → m.IsWellFormed
  /-- The types stand in ascending order, so each of them stands once. -/
  types : r.types.Pairwise (· < ·) ∧ ∀ type, type ∈ r.types ↔ ∃ m, r.manifest? type = some m
  manifests : r.manifests.map (·.type) = r.types ∧
    ∀ m, m ∈ r.manifests ↔ r.manifest? m.type = some m
  withCapabilities : ∀ wanted, (r.withCapabilities wanted).Pairwise (·.type < ·.type) ∧
    ∀ m, m ∈ r.withCapabilities wanted ↔
      r.manifest? m.type = some m ∧ wanted m.capabilities = true
  /-- The categories stand in their order, each at most once, and only those that have types. -/
  categories : (r.byCategory.map (·.1)).Sublist Category.all ∧ ∀ g ∈ r.byCategory, g.2 ≠ []
  byCategory : (∀ g ∈ r.byCategory, g.2.Pairwise (·.type < ·.type)) ∧
    ∀ c m, (∃ g, (c, g) ∈ r.byCategory ∧ m ∈ g) ↔ r.manifest? m.type = some m ∧ m.category = c
  census : r.census = {
    total := r.types.length
    executable := (r.types.filter fun type => (r.body? type).isSome).length
    byCategory := r.byCategory.map fun g => (g.1, g.2.length)
    cacheable := (r.withCapabilities (·.cacheable)).length
    parallel := (r.withCapabilities (·.parallel)).length
    streaming := (r.withCapabilities (·.streaming)).length }

/-- **Whatever can come about is a catalogue.** -/
theorem Reachable.isCatalogue (h : r.Reachable) : r.IsCatalogue where
  type_eq _ _ hm := h.type_eq hm
  isWellFormed _ _ hm := Manifest.problem?_eq_none_iff.mp (h.problem?_eq_none hm)
  types := ⟨r.types_ascending, fun _ => mem_types_iff⟩
  manifests := ⟨h.map_type_manifests, fun _ => h.mem_manifests_iff⟩
  withCapabilities wanted := by
    refine ⟨h.pairwise_filter _, fun m => ?_⟩
    rw [Registry.withCapabilities, List.mem_filter, h.mem_manifests_iff]
  categories := ⟨r.categories_sublist, fun g hg => (mem_byCategory_iff.mp hg).2⟩
  byCategory := by
    refine ⟨fun g hg => ?_, fun c m => ?_⟩
    · rw [(mem_byCategory_iff.mp hg).1]
      exact h.pairwise_filter _
    · simp only [mem_byCategory_iff]
      have hmem : m ∈ r.inCategory c ↔ r.manifest? m.type = some m ∧ m.category = c := by
        rw [inCategory, List.mem_filter, decide_eq_true_eq, h.mem_manifests_iff]
      constructor
      · rintro ⟨_, ⟨rfl, -⟩, hm⟩
        exact hmem.mp hm
      · intro hm
        exact ⟨_, ⟨rfl, List.ne_nil_of_mem (hmem.mpr hm)⟩, hmem.mpr hm⟩
  census := by
    have hsize : r.size = r.types.length := by simp [size, Table.size, Registry.types, Table.keys]
    rw [Registry.census, hsize, countP_body]
    simp only [Registry.withCapabilities, List.countP_eq_length_filter]

/-! ### Any registrations -/

/-- **The first valid registration of a type wins.** After any registrations, beginning with a
registry without types:

* one more succeeds just if its manifest is well formed and its type is not taken; a manifest that is
  not well formed is refused for that, even if its type is taken too; and a refusal leaves the
  registry as it was;
* what is known of a type is what its first valid registration said, manifest and body, and whatever
  comes later changes nothing of it;
* entries, listings and counts are in order and describe one set of types. -/
theorem first_valid_registration_wins (l : List (Registration β)) :
    let r := (empty : Registry β).enrolAll l
    (∀ a : Registration β,
      ((∃ s, r.register a.manifest a.body? = .ok s) ↔
        a.manifest.IsWellFormed ∧ a.manifest.type ∉ r.types) ∧
      (¬ a.manifest.IsWellFormed → ∃ reason,
        r.register a.manifest a.body? = .error (.invalidManifest a.manifest.type reason)) ∧
      (a.manifest.IsWellFormed → a.manifest.type ∈ r.types →
        r.register a.manifest a.body? = .error (.duplicateType a.manifest.type)) ∧
      ∀ err, r.register a.manifest a.body? = .error err → empty.enrolAll (l ++ [a]) = r) ∧
    (∀ type, r.manifest? type = (l.find? (·.isValidFor type)).map (·.manifest) ∧
      r.body? type = (l.find? (·.isValidFor type)).bind (·.body?)) ∧
    (∀ type ∈ r.types, ∀ more, (empty.enrolAll (l ++ more)).manifest? type = r.manifest? type ∧
      (empty.enrolAll (l ++ more)).body? type = r.body? type) ∧
    r.IsCatalogue := by
  intro r
  have hcontains (type : String) : r.entries.contains type = true ↔ type ∈ r.types :=
    Table.contains_iff_mem_keys
  refine ⟨fun a => ⟨?_, fun h => ?_, fun h htaken => ?_, fun err herr => ?_⟩, fun type => ?_,
    fun type htype more => ?_, (Reachable.empty.enrolAll l).isCatalogue⟩
  · rw [← Manifest.problem?_eq_none_iff, ← hcontains, Bool.not_eq_true]
    constructor
    · rintro ⟨s, hs⟩
      obtain ⟨hproblem, hnew, -⟩ := register_eq_ok_iff.mp hs
      exact ⟨hproblem, hnew⟩
    · rintro ⟨hproblem, hnew⟩
      exact ⟨_, register_eq_ok_iff.mpr ⟨hproblem, hnew, rfl⟩⟩
  · obtain ⟨reason, hreason⟩ :=
      Option.ne_none_iff_exists'.mp (mt Manifest.problem?_eq_none_iff.mp h)
    exact ⟨reason, register_of_problem hreason⟩
  · exact register_of_contains (Manifest.problem?_eq_none_iff.mpr h) ((hcontains _).mpr htaken)
  · rw [enrolAll_append]
    exact enrol_of_error herr
  · rw [manifest?, body?, get?_enrolAll_empty]
    cases l.find? (·.isValidFor type) <;> exact ⟨rfl, rfl⟩
  · rw [← hcontains, Table.contains, Option.isSome_iff_exists] at htype
    obtain ⟨e, he⟩ := htype
    rw [enrolAll_append, manifest?, manifest?, body?, body?, get?_enrolAll_of_some he more, he]
    exact ⟨rfl, rfl⟩

/-- A type that is handed in three times: without a version, then well-formed and without a body, and
then once more with another version and a body. -/
def sampleRegistrations : List (Registration Unit) :=
  [⟨.named "t" " " .utility, none⟩, ⟨.named "t" "1" .utility, none⟩, ⟨.named "t" "2" .audit, some ()⟩]

/-- The second one wins, for good. A fourth one without a version is refused for that, although its
type is taken. -/
theorem registrations_sample :
    let r := (empty : Registry Unit).enrolAll sampleRegistrations
    let a : Registration Unit := ⟨.named "t" "\t" .input, some ()⟩
    r.manifest? "t" = some (.named "t" "1" .utility) ∧ r.body? "t" = none ∧
      (¬ a.manifest.IsWellFormed ∧ ∃ reason,
        r.register a.manifest a.body? = .error (.invalidManifest "t" reason)) ∧
      ("t" ∈ r.types ∧ ∀ more,
        (empty.enrolAll (sampleRegistrations ++ more)).manifest? "t" = r.manifest? "t") ∧
      r.IsCatalogue := by
  intro r a
  obtain ⟨hnext, hknown, hkept, hcatalogue⟩ := first_valid_registration_wins sampleRegistrations
  have hill : ¬ a.manifest.IsWellFormed :=
    mt Manifest.problem?_eq_none_iff.mpr (by decide +kernel)
  have hmem : "t" ∈ r.types := by decide +kernel
  refine ⟨(hknown "t").1.trans (by decide +kernel), (hknown "t").2.trans (by decide +kernel),
    ⟨hill, (hnext a).2.1 hill⟩, ⟨hmem, fun more => (hkept "t" hmem more).1⟩, hcatalogue⟩

end Registry

end PortGraph
