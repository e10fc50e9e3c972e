import PortGraph.Registry
import PortGraph.Proofs.Table

/-!
# Registries that can come about

A registry is filled by registering one type after the other, which is how it comes that each
manifest is found under its own type, and that each is well formed: the ports of one side have
different names.

## Main definitions

* `Registry.Reachable`: what can be registered, beginning with nothing

## Main results

* `Registry.Reachable.type_eq`: a manifest is found under its own type
* `Registry.Reachable.problem?_eq_none`: registered manifests are well formed
-/

namespace PortGraph

/-! ### Manifests without problems -/

namespace Manifest

/-- Ports have no problem just if their names are there, are new and different from one another,
and each of them declares a type. -/
theorem portProblem?_eq_none_iff {side : String} {before : List String} {ports : List Port} :
    portProblem? side before ports = none ↔
      (∀ p ∈ ports, p.name ≠ "" ∧ p.name ∉ before ∧ p.type.members ≠ []) ∧
        (ports.map (·.name)).Nodup := by
  induction ports generalizing before with
  | nil => simp [portProblem?]
  | cons p rest ih =>
    have hp : portProblem? side before (p :: rest) = none ↔
        (p.name ≠ "" ∧ p.name ∉ before ∧ p.type.members ≠ []) ∧
          portProblem? side (before ++ [p.name]) rest = none := by
      simp only [portProblem?]
      by_cases hempty : p.name = "" <;> by_cases hold : p.name ∈ before <;>
        by_cases htypes : p.type.members = [] <;> simp [hempty, hold, htypes]
    rw [hp, ih, List.forall_mem_cons, List.map_cons, List.nodup_cons, List.mem_map]
    simp only [List.mem_append, List.mem_singleton, not_or]
    constructor
    · rintro ⟨hp, hrest, hnodup⟩
      refine ⟨⟨hp, fun q hq => ⟨(hrest q hq).1, (hrest q hq).2.1.1, (hrest q hq).2.2⟩⟩, ?_, hnodup⟩
      rintro ⟨q, hq, hname⟩
      exact (hrest q hq).2.1.2 hname
    · rintro ⟨⟨hp, hrest⟩, hnew, hnodup⟩
      refine ⟨hp, fun q hq => ⟨(hrest q hq).1, ⟨(hrest q hq).2.1, ?_⟩, (hrest q hq).2.2⟩, hnodup⟩
      exact fun hname => hnew ⟨q, hq, hname⟩

/-- Fields have no problem just if their names are new and different from one another, and each of
them that is chosen from options has some. -/
theorem fieldProblem?_eq_none_iff {before : List String} {fields : List ConfigField} :
    fieldProblem? before fields = none ↔
      (∀ f ∈ fields, f.name ∉ before ∧ (f.kind = .select → f.options ≠ [])) ∧
        (fields.map (·.name)).Nodup := by
  induction fields generalizing before with
  | nil => simp [fieldProblem?]
  | cons f rest ih =>
    have hf : fieldProblem? before (f :: rest) = none ↔
        (f.name ∉ before ∧ (f.kind = .select → f.options ≠ [])) ∧
          fieldProblem? (before ++ [f.name]) rest = none := by
      simp only [fieldProblem?]
      by_cases hold : f.name ∈ before <;> by_cases hkind : f.kind = .select <;>
        by_cases hoptions : f.options = [] <;> simp [hold, hkind, hoptions]
    rw [hf, ih, List.forall_mem_cons, List.map_cons, List.nodup_cons, List.mem_map]
    simp only [List.mem_append, List.mem_singleton, not_or]
    constructor
    · rintro ⟨hf, hrest, hnodup⟩
      refine ⟨⟨hf, fun x hx => ⟨(hrest x hx).1.1, (hrest x hx).2⟩⟩, ?_, hnodup⟩
      rintro ⟨x, hx, hname⟩
      exact (hrest x hx).1.2 hname
    · rintro ⟨⟨hf, hrest⟩, hnew, hnodup⟩
      refine ⟨hf, fun x hx => ⟨⟨(hrest x hx).1, ?_⟩, (hrest x hx).2⟩, hnodup⟩
      exact fun hname => hnew ⟨x, hx, hname⟩

variable {m : Manifest}

/-- A manifest without problems has none with its fields. -/
theorem fieldProblem?_eq_none (h : m.problem? = none) : fieldProblem? [] m.configSchema = none := by
  rw [problem?] at h
  split at h
  · cases h
  · split at h
    · cases h
    · rw [Option.or_eq_none_iff, Option.or_eq_none_iff] at h
      exact h.2.2

/-- A manifest without problems has none with its ports. -/
theorem portProblems_eq_none (h : m.problem? = none) :
    portProblem? "input" [] m.inputs = none ∧ portProblem? "output" [] m.outputs = none := by
  rw [problem?] at h
  split at h
  · cases h
  · split at h
    · cases h
    · rw [Option.or_eq_none_iff, Option.or_eq_none_iff] at h
      exact ⟨h.1, h.2.1⟩

/-- An input port of a well-formed manifest is found by its name. -/
theorem inputPort?_eq_some (h : m.problem? = none) {p : Port} (hp : p ∈ m.inputs) :
    m.inputPort? p.name = some p := by
  have hnodup := (portProblem?_eq_none_iff.mp (portProblems_eq_none h).1).2
  exact Table.find?_key_eq_some hnodup hp

/-- An output port of a well-formed manifest is found by its name. -/
theorem outputPort?_eq_some (h : m.problem? = none) {p : Port} (hp : p ∈ m.outputs) :
    m.outputPort? p.name = some p := by
  have hnodup := (portProblem?_eq_none_iff.mp (portProblems_eq_none h).2).2
  exact Table.find?_key_eq_some hnodup hp

end Manifest

/-! ### Registries -/

namespace Registry

variable {β : Type}

/-- What can come about by registering types, beginning with nothing. -/
inductive Reachable : Registry β → Prop
  | empty : Reachable empty
  | register {r s : Registry β} {m : Manifest} {body? : Option β} (h : Reachable r)
    (hs : r.register m body? = .ok s) : Reachable s

theorem register_eq_ok_iff {r s : Registry β} {m : Manifest} {body? : Option β} :
    r.register m body? = .ok s ↔ m.problem? = none ∧ r.entries.contains m.type = false ∧
      s = ⟨r.entries.insert m.type ⟨m, body?⟩⟩ := by
  rw [register]
  cases m.problem? with
  | some reason => simp
  | none => cases r.entries.contains m.type <;> simp [eq_comm]

/-- **A manifest is found under its own type.** -/
theorem Reachable.type_eq {r : Registry β} (h : r.Reachable) {type : String} {m : Manifest}
    (hm : r.manifest? type = some m) : m.type = type := by
  induction h with
  | empty => cases hm
  | register _ hs ih =>
    obtain ⟨-, -, rfl⟩ := register_eq_ok_iff.mp hs
    simp only [manifest?, Table.get?_insert] at hm ih
    split at hm
    · rename_i htype
      cases hm
      exact htype.symm
    · exact ih hm

/-- **Registered manifests are well formed.** -/
theorem Reachable.problem?_eq_none {r : Registry β} (h : r.Reachable) {type : String} {m : Manifest}
    (hm : r.manifest? type = some m) : m.problem? = none := by
  induction h with
  | empty => cases hm
  | register _ hs ih =>
    obtain ⟨hproblem, -, rfl⟩ := register_eq_ok_iff.mp hs
    simp only [manifest?, Table.get?_insert] at hm ih
    split at hm
    · cases hm
      exact hproblem
    · exact ih hm

end Registry

end PortGraph
