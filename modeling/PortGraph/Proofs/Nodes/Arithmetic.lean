import PortGraph.Proofs.Nodes.Builtin
import PortGraph.Proofs.Number.Order
import PortGraph.Proofs.Work.Telling

/-!
# Totals beyond the range

The nodes that compute with numbers add up what they are given, one number after the other, and
each sum is rounded. There is a total as long as no exact sum leaves the range. Once one has left it
there is no number, and what comes out is `null`: the output need not be there, so the node succeeds
all the same.

## Main definitions

* `Nodes.InRange`: no sum leaves the range while the terms are added up
* `Nodes.Adds`: the terms that a node adds up

## Main results

* `Nodes.Sum.exists_total_iff`: when there is a total
* `Nodes.exists_adds`: the outputs of a node that has succeeded
-/

namespace PortGraph.Nodes

variable {inputs config normalized : Fields}

/-! ### Totals -/

/-- The terms can be added to `s` one after the other: each exact sum is below the limit, and it is
rounded before the next term is added. -/
def StaysInRange : Double → List Double → Prop
  | _, [] => True
  | s, x :: rest =>
    |s.value + x.value| < Binary.Format.double.limit ∧ ∀ t, s.add x = some t → StaysInRange t rest

/-- No sum leaves the range while the terms are added up. -/
def InRange : List Double → Prop
  | [] => True
  | x :: rest => StaysInRange x rest

namespace Sum

/-- One more term. -/
def step (sum : Option Double) (x : Double) : Option Double := sum.bind (·.add x)

/-- There is no way back into the range. -/
theorem foldl_step_none (terms : List Double) : terms.foldl step none = none := by
  induction terms with
  | nil => rfl
  | cons x rest ih => exact ih

theorem exists_foldl_step_iff (s : Double) (terms : List Double) :
    (∃ z, terms.foldl step (some s) = some z) ↔ StaysInRange s terms := by
  induction terms generalizing s with
  | nil => exact iff_of_true ⟨s, rfl⟩ trivial
  | cons x rest ih =>
    rw [List.foldl_cons, StaysInRange,
      ← Binary.exists_add_iff Binary.Format.isProper_double (by decide) s x]
    cases hadd : s.add x with
    | none =>
      have hstep : step (some s) x = none := hadd
      rw [hstep, foldl_step_none]
      simp
    | some t =>
      have hstep : step (some s) x = some t := hadd
      rw [hstep, ih]
      simp

/-- The sum begins with its first term. -/
theorem total_cons (x : Double) (rest : List Double) :
    total (x :: rest) = rest.foldl step (some x) := by
  have hfirst : Double.negativeZero.add x = some x :=
    Binary.add_of_mantissa_eq_zero Binary.Format.isProper_double rfl rfl x
  rw [total, List.foldl_cons, Option.bind_some, hfirst]
  rfl

/-- **There is a total just if no sum leaves the range.** -/
theorem exists_total_iff (terms : List Double) : (∃ z, total terms = some z) ↔ InRange terms := by
  cases terms with
  | nil => exact iff_of_true ⟨_, rfl⟩ trivial
  | cons x rest => rw [total_cons, exists_foldl_step_iff, InRange]

theorem total_pair (x y : Double) : total [x, y] = x.add y := total_cons x [y]

end Sum

/-! ### What is added up -/

/-- The numbers that a node adds up, by its manifest: its input and the amount that is configured,
or all of its inputs. -/
inductive Adds (inputs config : Fields) : Manifest → List Double → Prop
  | offset {n k x y} (hvalue : inputs.get? "value" = some (.num n)) (hx : n.toDouble? = some x)
    (hamount : config.get? "amount" = some (.num k)) (hy : k.toDouble? = some y) :
    Adds inputs config Offset.manifest [x, y]
  | sum : Adds inputs config Sum.manifest (Sum.terms inputs)

theorem exists_num_of_toDouble? {v : Json} {x : Double} (h : v.toDouble? = some x) :
    ∃ n, v = .num n ∧ n.toDouble? = some x := by
  cases v with
  | num n => exact ⟨n, rfl, h⟩
  | _ => cases h

theorem Offset.exists_adds (hconfig : manifest.validateConfig config = .ok normalized)
    {outputs : Fields} (h : outcome inputs normalized = .ok outputs) :
    ∃ terms, Adds inputs normalized manifest terms ∧
      outputs = output "value" (.ofReal? (Sum.total terms)) := by
  obtain ⟨v, hv, y, hy, -⟩ := Manifest.exists_admits_of_validateConfig (by decide) hconfig
    (List.mem_singleton.mpr rfl) (.inr ⟨.ofNat 0, rfl, nofun, by decide +kernel⟩)
  have hnumber : v.asNumber = .ok y := by simp only [Json.asNumber, hy]
  rw [outcome] at h
  cases hamount : amount normalized with
  | error e => simp [hamount] at h
  | ok shift =>
    have hshift : shift = y := by
      refine PortGraph.Settings.holds_of_read (P := (· = y)) rfl (fun s t hset => ?_)
        (fun r hr hne => ?_) hv hamount
      · exact Except.ok.inj (hset.symm.trans hnumber)
      · exact absurd (congrArg Prod.fst (List.mem_singleton.mp hr)) hne
    subst hshift
    simp only [hamount] at h
    split at h
    · rename_i x hx
      obtain ⟨w, hw, hx⟩ := Option.bind_eq_some_iff.mp hx
      obtain ⟨n, rfl, hx⟩ := exists_num_of_toDouble? hx
      obtain ⟨k, rfl, hy⟩ := exists_num_of_toDouble? hy
      cases h
      exact ⟨_, .offset hw hx hv hy, by rw [Sum.total_pair]⟩
    · cases h

/-- **The outputs of a node that has succeeded**: there is one port for the total. -/
theorem exists_adds {κ : Type} {b : Manifest × Body κ}
    (hb : b = (Offset.manifest, Offset.body) ∨ b = (Sum.manifest, Sum.body))
    (hconfig : b.1.validateConfig config = .ok normalized) {scope : Scope} {told : List Report}
    {outputs : Fields} (h : (b.2 scope inputs normalized).Tells told (.done (.ok outputs))) :
    ∃ q terms, b.1.outputs = [q] ∧ q.type = .single .number ∧ Adds inputs normalized b.1 terms ∧
      outputs = output q.name (.ofReal? (Sum.total terms)) := by
  rcases hb with rfl | rfl
  · obtain ⟨terms, hadds, houtputs⟩ := Offset.exists_adds hconfig h.eq_of_done
    exact ⟨_, terms, rfl, rfl, hadds, houtputs⟩
  · exact ⟨_, _, rfl, rfl, .sum, (Except.ok.inj h.eq_of_done).symm⟩

/-- The greatest number. -/
def greatest : Double := ⟨false, 2 ^ 53 - 1, 971, by decide⟩

/-- **Successes without a number**, of nodes whose inputs, configuration and outputs are valid:
twice the greatest number is out of range, and what is taken away from it then does not bring it
back. -/
theorem null_beyond_range :
    let value := Json.ofDouble greatest
    let inputs : Fields := .ofList [("value", value)]
    let config : Fields := .ofList [("amount", value)]
    let terms : Fields := .ofList [("a", value), ("b", value),
      ("c", .ofDouble { greatest with negative := true })]
    (Offset.manifest.validateInputs inputs = .ok () ∧
      Offset.manifest.validateConfig config = .ok config ∧
      Offset.outcome inputs config = .ok (output "value" .null) ∧
      Offset.manifest.validateOutputs (output "value" .null) = .ok ()) ∧
    Sum.manifest.validateInputs terms = .ok () ∧ Sum.outcome terms = .ok (output "sum" .null) ∧
      Sum.manifest.validateOutputs (output "sum" .null) = .ok () := by
  decide +kernel

end PortGraph.Nodes
