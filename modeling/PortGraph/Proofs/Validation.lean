import PortGraph.Validation

/-!
# What validation lets pass

The compiler compares declared types and validation looks at values. The two agree: where a port
accepts the type of another, each value of that type is one of its own. The only exception is the
wildcard of a source, which the compiler lets into any port.

## Main results

* `PortType.matchesValue_of_acceptsPort`: accepted types have accepted values
* `Port.problem?_eq_none_iff`: when nothing is wrong with the value of a port
* `Manifest.validateOutputs_eq_ok_iff`: what validated outputs are
-/

namespace PortGraph

/-! ### Types -/

theorem PortType.matchesValue_of_isAny {p : PortType} (h : p.isAny = true) (v : Json) :
    p.matchesValue v = true :=
  List.any_eq_true.mpr ⟨.any, by simpa [isAny] using h, rfl⟩

/-- **A value of a type that a port accepts is of the type of the port**, unless it is the wildcard
of the source that lets it in. -/
theorem PortType.matchesValue_of_acceptsPort {p q : PortType} (h : p.acceptsPort q = true)
    (hany : q.isAny = false ∨ p.isAny = true) {v : Json} (hv : q.matchesValue v = true) :
    p.matchesValue v = true := by
  cases hp : p.isAny with
  | true => exact matchesValue_of_isAny hp v
  | false =>
    have hq : q.isAny = false := hany.resolve_right (by simp [hp])
    obtain ⟨t, ht, htv⟩ := List.any_eq_true.mp hv
    have hne : t ≠ .any := by
      rintro rfl
      simp [isAny, ht] at hq
    simp only [acceptsPort, hp, hq, Bool.or_self, Bool.false_eq_true, if_false,
      Bool.and_eq_true, List.all_eq_true] at h
    have hmem : t ∈ p.members := by simpa [accepts, hp, hne] using h.2 t ht
    exact List.any_eq_true.mpr ⟨t, hmem, htv⟩

/-! ### Values -/

/-- When nothing is wrong with the value of a port. -/
theorem Port.problem?_eq_none_iff {side : String} {p : Port} {values : Fields} :
    p.problem? side values = none ↔
      (∀ v, values.getNonNull? p.name = some v → p.type.matchesValue v = true) ∧
        (p.required = true → (values.getNonNull? p.name).isSome = true) := by
  rw [problem?]
  cases values.getNonNull? p.name with
  | none => simp
  | some v => simp

/-- What is wrong with a required port that has no value. -/
theorem Port.problem?_of_missing {p : Port} {values : Fields} (side : String)
    (hrequired : p.required = true) (hnone : values.getNonNull? p.name = none) :
    p.problem? side values = some ("missing required " ++ side ++ " '" ++ p.name ++ "'") := by
  rw [problem?, hnone]
  exact if_pos hrequired

/-- Outputs are valid just if nothing is wrong with the value of any port. -/
theorem Manifest.validateOutputs_eq_ok_iff {m : Manifest} {outputs : Fields} :
    m.validateOutputs outputs = .ok () ↔
      ∀ p ∈ m.outputs, p.problem? "output" outputs = none := by
  rw [← List.filterMap_eq_nil_iff, ← outputProblems, validateOutputs]
  cases m.outputProblems outputs <;> simp

/-- The reported problems of inputs are those of the ports, in order. -/
theorem Manifest.validateInputs_eq_error_iff {m : Manifest} {inputs : Fields} {err : NodeError} :
    m.validateInputs inputs = .error err ↔
      m.inputProblems inputs ≠ [] ∧ err = .invalidInputs (m.inputProblems inputs) := by
  rw [validateInputs]
  cases m.inputProblems inputs <;> simp [eq_comm]

end PortGraph
