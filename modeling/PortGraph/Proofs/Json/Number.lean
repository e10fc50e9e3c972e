import PortGraph.Json.Printer
import PortGraph.Json.Token
import PortGraph.Proofs.Number.Shortest

/-!
# The text of numbers

A number is printed by way of a literal: whole digits, perhaps digits after a point, perhaps an
exponent. The reader finds the same parts again (`Literal.ofChars?_chars`), and of a fractional
number the parts have its value (`Number.number?_literal`). So different numbers have different
texts, a whole number being told from a fractional one by the missing point and exponent.

## Main definitions

* `Json.Literal.chars`: the text of a literal
* `Json.Literal.IsWellFormed`: the literals that can be read
* `Json.Number.literal`: the literal that a number is printed by

## Main results

* `Json.Literal.ofChars?_chars`: the text of a well-formed literal is read as that literal
* `Json.Number.chars_injective`: different numbers have different texts
-/

namespace PortGraph.Json

/-! ### Digits -/

theorem isDigit_of_mem_toDigits {n : Nat} {c : Char} (h : c ∈ Nat.toDigits 10 n) :
    isDigit c = true := by
  have hc : c.isDigit = true := Nat.isDigit_of_mem_toDigits (by decide) (by decide) h
  simpa [isDigit, Char.isDigit, Char.le_def] using hc

theorem digitsValue_toDigits (n : Nat) : digitsValue (Nat.toDigits 10 n) = n :=
  Nat.ofDigitChars_ten_toDigits

theorem digitsValue_append (cs ds : List Char) :
    digitsValue (cs ++ ds) = 10 ^ ds.length * digitsValue cs + digitsValue ds := by
  show Nat.ofDigitChars 10 (cs ++ ds) 0 = _
  rw [Nat.ofDigitChars_append, Nat.ofDigitChars_eq_ofDigitChars_zero]
  rfl

theorem digitsValue_zeros (n : Nat) : digitsValue (Decimal.zeros n) = 0 := by
  show Nat.ofDigitChars 10 (List.replicate n '0') 0 = 0
  simp

/-- Only zero is written with a zero in front. -/
theorem head?_toDigits {n : Nat} (h : (Nat.toDigits 10 n).head? = some '0') : n = 0 := by
  induction n using Nat.strong_induction_on with
  | _ n ih =>
    by_cases hn : n < 10
    · rw [Nat.toDigits_of_lt_base hn] at h
      have key : ∀ m < 10, Nat.digitChar m = '0' → m = 0 := by decide
      exact key n hn (by simpa using h)
    · rw [Nat.toDigits_of_base_le (by decide) (by omega),
        List.head?_append_of_ne_nil _ Nat.toDigits_ne_nil] at h
      have := ih (n / 10) (by omega) h
      omega

/-- Where a run of characters ends is seen from what follows it. -/
theorem takeWhile_append_of_head? {p : Char → Bool} {cs rest : List Char}
    (hcs : ∀ c ∈ cs, p c = true) (hrest : ∀ c ∈ rest.head?, p c = false) :
    (cs ++ rest).takeWhile p = cs ∧ (cs ++ rest).dropWhile p = rest := by
  rw [List.takeWhile_append_of_pos hcs, List.dropWhile_append_of_pos hcs]
  cases rest with
  | nil => simp
  | cons c rest => simp [hrest c rfl]

/-! ### Literals -/

/-- The text of an exponent, with its mark and sign, if there is one. -/
def exponentChars : Option Int → List Char
  | some e => 'e' :: (if e < 0 then '-' else '+') :: Nat.toDigits 10 e.natAbs
  | none => []

namespace Literal

/-- What follows the digits before the point. -/
def tailChars (l : Literal) : List Char :=
  (match l.fraction with
    | some digits => '.' :: digits
    | none => []) ++ exponentChars l.exponent

/-- The text of a literal. -/
def chars (l : Literal) : List Char :=
  (if l.negative then ['-'] else []) ++ (l.whole ++ l.tailChars)

/-- A literal that can be read: nothing but digits, on both sides of the point, and no needless zero
in front. -/
structure IsWellFormed (l : Literal) : Prop where
  whole_ne_nil : l.whole ≠ []
  whole_digits : ∀ c ∈ l.whole, isDigit c = true
  no_leading_zero : l.whole.head? = some '0' → l.whole.length = 1
  fraction_ne_nil : l.fraction ≠ some []
  fraction_digits : ∀ digits, l.fraction = some digits → ∀ c ∈ digits, isDigit c = true

/-- The decimal that a literal stands for, apart from its sign. -/
def decimal (l : Literal) : Decimal :=
  ⟨digitsValue (l.whole ++ l.fraction.getD []), l.exponent.getD 0 - (l.fraction.getD []).length⟩

theorem exponentOf?_chars (e : Int) :
    exponentOf? ((if e < 0 then '-' else '+') :: Nat.toDigits 10 e.natAbs) = some e := by
  have hall (n : Nat) : (Nat.toDigits 10 n).all isDigit = true :=
    List.all_eq_true.mpr fun c hc => isDigit_of_mem_toDigits hc
  obtain ⟨n, rfl | rfl⟩ := e.eq_nat_or_neg
  · simp [exponentOf?, hall, digitsValue_toDigits, Int.not_lt.mpr (Int.natCast_nonneg n)]
  · cases n with
    | zero => decide
    | succ n =>
      have hneg : -((n + 1 : Nat) : Int) < 0 := by omega
      simp only [hneg, if_true, Int.natAbs_neg, Int.natAbs_natCast]
      simp [exponentOf?, hall, digitsValue_toDigits]

/-- The sign is told from the digits that follow. -/
theorem splitSign_chars {l : Literal} (h : l.IsWellFormed) :
    splitSign l.chars = (l.negative, l.whole ++ l.tailChars) := by
  cases hn : l.negative with
  | true => simp [chars, hn, splitSign]
  | false =>
    obtain ⟨c, cs, hcs⟩ := List.exists_cons_of_ne_nil h.whole_ne_nil
    have hc := h.whole_digits c (hcs ▸ List.mem_cons_self)
    simp only [chars, hn, hcs, Bool.false_eq_true, if_false, List.nil_append, List.cons_append]
    rw [splitSign]
    intro rest heq
    cases heq
    cases hc

theorem isDigit_head?_exponentChars (e? : Option Int) :
    ∀ c ∈ (exponentChars e?).head?, isDigit c = false := by
  intro c hc
  cases e? <;> cases hc
  rfl

/-- The digits before the point end where the rest begins. -/
theorem isDigit_head?_tailChars (l : Literal) : ∀ c ∈ l.tailChars.head?, isDigit c = false := by
  intro c hc
  rw [tailChars] at hc
  cases hf : l.fraction with
  | none => exact isDigit_head?_exponentChars l.exponent c (by simpa [hf] using hc)
  | some digits =>
    simp only [hf, List.cons_append, List.head?_cons, Option.mem_def, Option.some.injEq] at hc
    exact hc ▸ rfl

/-- The exponent is found behind its mark. -/
theorem markedExponent?_chars (e? : Option Int) :
    markedExponent? (exponentChars e?) = some e? := by
  cases e? with
  | none => rfl
  | some e => simp only [markedExponent?, exponentChars, true_or, if_true, exponentOf?_chars]; rfl

theorem splitFraction?_tailChars {l : Literal} (h : l.IsWellFormed) :
    splitFraction? l.tailChars = some (l.fraction, exponentChars l.exponent) := by
  cases hf : l.fraction with
  | none => cases he : l.exponent <;> simp [tailChars, hf, he, splitFraction?, exponentChars]
  | some digits =>
    have hne : digits ≠ [] := fun hd => h.fraction_ne_nil (hd ▸ hf)
    obtain ⟨htake, hdrop⟩ := takeWhile_append_of_head? (h.fraction_digits digits hf)
      (isDigit_head?_exponentChars l.exponent)
    simp only [tailChars, hf, List.cons_append, splitFraction?, htake, hdrop]
    rw [if_neg (by simpa using hne)]

/-- **The text of a well-formed literal is read as that literal.** -/
theorem ofChars?_chars {l : Literal} (h : l.IsWellFormed) : ofChars? l.chars = some l := by
  obtain ⟨htake, hdrop⟩ := takeWhile_append_of_head? h.whole_digits l.isDigit_head?_tailChars
  have hwhole : (l.whole.isEmpty ||
      (decide (l.whole.head? = some '0') && decide (l.whole.length > 1))) = false := by
    rw [Bool.or_eq_false_iff, Bool.and_eq_false_iff]
    refine ⟨by simpa using h.whole_ne_nil, ?_⟩
    by_cases h0 : l.whole.head? = some '0'
    · exact .inr (by simp [h.no_leading_zero h0])
    · exact .inl (decide_eq_false h0)
  simp only [ofChars?, splitSign_chars h, htake, hdrop, hwhole, Bool.false_eq_true, if_false,
    splitFraction?_tailChars h, Option.bind_some, markedExponent?_chars, Option.map_some]

end Literal

/-! ### Four layouts -/

theorem isDigit_of_mem_zeros {n : Nat} {c : Char} (h : c ∈ Decimal.zeros n) : isDigit c = true := by
  rw [List.eq_of_mem_replicate h]
  rfl

namespace Literal

/-- All digits before the point, filled up with zeros. -/
def padded (negative : Bool) (cs : List Char) (n : Nat) : Literal :=
  ⟨negative, cs ++ Decimal.zeros n, some ['0'], none⟩

/-- The point among the digits. -/
def pointed (negative : Bool) (cs : List Char) (k : Nat) : Literal :=
  ⟨negative, cs.take k, some (cs.drop k), none⟩

/-- All digits behind the point, after zeros. -/
def fractional (negative : Bool) (cs : List Char) (n : Nat) : Literal :=
  ⟨negative, ['0'], some (Decimal.zeros n ++ cs), none⟩

/-- The point behind the first digit, if there are more, and an exponent. -/
def scientific (negative : Bool) (cs : List Char) (e : Int) : Literal :=
  ⟨negative, cs.take 1, if (cs.drop 1).isEmpty then none else some (cs.drop 1), some e⟩

variable {negative : Bool} {cs : List Char}

theorem isWellFormed_padded (hcs : cs ≠ []) (hdigits : ∀ c ∈ cs, isDigit c = true) {n : Nat}
    (hlead : cs.head? = some '0' → cs ++ Decimal.zeros n = ['0']) :
    (padded negative cs n).IsWellFormed where
  whole_ne_nil := List.append_ne_nil_of_left_ne_nil hcs _
  whole_digits c hc := (List.mem_append.mp hc).elim (hdigits c) isDigit_of_mem_zeros
  no_leading_zero h := by
    have h0 : (cs ++ Decimal.zeros n).head? = some '0' := h
    rw [List.head?_append_of_ne_nil _ hcs] at h0
    exact congrArg List.length (hlead h0)
  fraction_ne_nil := nofun
  fraction_digits := by simp [padded, isDigit]

theorem isWellFormed_pointed (hdigits : ∀ c ∈ cs, isDigit c = true) {k : Nat} (hpos : 0 < k)
    (hk : k < cs.length) (hlead : cs.head? ≠ some '0') : (pointed negative cs k).IsWellFormed where
  whole_ne_nil h := by
    have := congrArg List.length h
    simp only [pointed, List.length_take, List.length_nil] at this
    omega
  whole_digits c hc := hdigits c (List.mem_of_mem_take hc)
  no_leading_zero h := by
    rw [pointed, List.head?_take, if_neg (Nat.pos_iff_ne_zero.mp hpos)] at h
    exact absurd h hlead
  fraction_ne_nil h := by
    have hdrop : cs.drop k = [] := Option.some.inj h
    rw [List.drop_eq_nil_iff] at hdrop
    omega
  fraction_digits digits h c hc := by
    cases h
    exact hdigits c (List.mem_of_mem_drop hc)

theorem isWellFormed_fractional (hcs : cs ≠ []) (hdigits : ∀ c ∈ cs, isDigit c = true) (n : Nat) :
    (fractional negative cs n).IsWellFormed where
  whole_ne_nil := nofun
  whole_digits := by simp [fractional, isDigit]
  no_leading_zero _ := rfl
  fraction_ne_nil h := List.append_ne_nil_of_right_ne_nil _ hcs (Option.some.inj h)
  fraction_digits digits h c hc := by
    cases h
    exact (List.mem_append.mp hc).elim isDigit_of_mem_zeros (hdigits c)

theorem isWellFormed_scientific (hcs : cs ≠ []) (hdigits : ∀ c ∈ cs, isDigit c = true) (e : Int) :
    (scientific negative cs e).IsWellFormed where
  whole_ne_nil := by simp [scientific, hcs]
  whole_digits c hc := hdigits c (List.mem_of_mem_take hc)
  no_leading_zero _ := by
    have := List.length_pos_iff.mpr hcs
    rw [scientific, List.length_take]
    omega
  fraction_ne_nil := by cases h : cs.drop 1 <;> simp [scientific, h]
  fraction_digits digits h c hc := by
    simp only [scientific] at h
    split at h
    · cases h
    · cases h
      exact hdigits c (List.mem_of_mem_drop hc)

theorem decimal_padded (negative : Bool) (cs : List Char) (n : Nat) :
    (padded negative cs n).decimal = ⟨digitsValue cs * 10 ^ (n + 1), -1⟩ := by
  have hzero : digitsValue ['0'] = 0 := by decide
  have hvalue : digitsValue (cs ++ Decimal.zeros n ++ ['0']) = digitsValue cs * 10 ^ (n + 1) := by
    rw [digitsValue_append, digitsValue_append, digitsValue_zeros, hzero, Decimal.zeros,
      List.length_replicate, List.length_singleton, Nat.add_zero, Nat.add_zero, Nat.pow_one,
      Nat.mul_comm 10, Nat.mul_comm (10 ^ n), Nat.mul_assoc, Nat.pow_succ]
  simp only [decimal, padded, Option.getD_some, Option.getD_none, hvalue, List.length_singleton]
  rfl

theorem decimal_pointed (negative : Bool) {k : Nat} (hk : k ≤ cs.length) :
    (pointed negative cs k).decimal = ⟨digitsValue cs, (k : Int) - cs.length⟩ := by
  simp only [decimal, pointed, Option.getD_some, Option.getD_none, List.take_append_drop,
    List.length_drop, Decimal.mk.injEq, true_and]
  omega

theorem decimal_fractional (negative : Bool) (cs : List Char) (n : Nat) :
    (fractional negative cs n).decimal = ⟨digitsValue cs, -((n + cs.length : Nat) : Int)⟩ := by
  have hzero : digitsValue ['0'] = 0 := by decide
  have hvalue : digitsValue (['0'] ++ (Decimal.zeros n ++ cs)) = digitsValue cs := by
    rw [digitsValue_append, digitsValue_append, digitsValue_zeros, hzero]
    omega
  simp only [decimal, fractional, Option.getD_some, Option.getD_none, hvalue]
  rw [List.length_append, Decimal.zeros, List.length_replicate, Int.zero_sub]

theorem decimal_scientific (negative : Bool) (hcs : cs ≠ []) (e : Int) :
    (scientific negative cs e).decimal = ⟨digitsValue cs, e - (cs.length - 1)⟩ := by
  have hpos := List.length_pos_iff.mpr hcs
  have hfraction : (scientific negative cs e).fraction.getD [] = cs.drop 1 := by
    cases h : cs.drop 1 <;> simp [scientific, h]
  rw [decimal, hfraction]
  simp only [scientific, List.take_append_drop, Option.getD_some, List.length_drop,
    Decimal.mk.injEq, true_and]
  omega

end Literal

/-! ### The literals of numbers -/

/-- The literal that a decimal is printed by as data, behind a sign. -/
def literalOf (negative : Bool) (d : Decimal) : Literal :=
  let cs := Decimal.digitChars d.digits
  let lead : Int := decimalLength d.digits + d.exponent - 1
  let point : Int := cs.length + d.exponent
  if d.digits = 0 ∨ (-5 ≤ lead ∧ lead ≤ 15) then
    if 0 ≤ d.exponent then .padded negative cs d.exponent.toNat
    else if 0 < point then .pointed negative cs point.toNat
    else .fractional negative cs (-point).toNat
  else .scientific negative cs lead

/-- The literal that a number is printed by. -/
def Number.literal : Number → Literal
  | .whole i => ⟨decide (i < 0), Decimal.digitChars i.natAbs, none, none⟩
  | .real x => literalOf x.negative (x.shortest .toEven)

theorem chars_literalOf (negative : Bool) (d : Decimal) :
    (literalOf negative d).chars =
      (if negative then ['-'] else []) ++ d.chars Binary.dataLayout := by
  simp only [literalOf, Decimal.chars, Binary.dataLayout, Decimal.positionalChars]
  split
  · split
    · cases negative <;>
        simp [Literal.padded, Literal.chars, Literal.tailChars, exponentChars]
    · split
      · cases negative <;>
          simp [Literal.pointed, Literal.chars, Literal.tailChars, exponentChars]
      · cases negative <;>
          simp [Literal.fractional, Literal.chars, Literal.tailChars, exponentChars]
  · simp only [Literal.scientific, Literal.chars, Literal.tailChars, exponentChars,
      Decimal.scientificChars]
    cases htail : (Decimal.digitChars d.digits).drop 1 <;> cases negative <;>
      simp [decimalLength, Decimal.digitChars]

theorem Number.chars_literal (n : Number) : n.literal.chars = n.chars := by
  cases n with
  | whole i => simp [Number.literal, Number.chars, Literal.chars, Literal.tailChars, exponentChars]
  | real x => exact chars_literalOf x.negative _

theorem Number.isWellFormed_whole (i : Int) : (Number.whole i).literal.IsWellFormed where
  whole_ne_nil := Nat.toDigits_ne_nil
  whole_digits _ hc := isDigit_of_mem_toDigits hc
  no_leading_zero h := by
    have hi : i.natAbs = 0 := head?_toDigits h
    simp [Number.literal, Decimal.digitChars, hi]
  fraction_ne_nil := nofun
  fraction_digits := nofun

/-- A decimal in its simplest form, zero being `0 * 10 ^ 0`, is printed by a well-formed literal. -/
theorem isWellFormed_literalOf (negative : Bool) {d : Decimal}
    (hd : d.digits = 0 → d.exponent = 0) : (literalOf negative d).IsWellFormed := by
  have hcs : Decimal.digitChars d.digits ≠ [] := Nat.toDigits_ne_nil
  have hdigits : ∀ c ∈ Decimal.digitChars d.digits, isDigit c = true := fun c =>
    isDigit_of_mem_toDigits
  have hhead : (Decimal.digitChars d.digits).head? = some '0' → d.digits = 0 := head?_toDigits
  simp only [literalOf]
  split
  · split
    · refine Literal.isWellFormed_padded hcs hdigits fun h => ?_
      rw [hhead h, hd (hhead h)]
      rfl
    · rename_i hexp
      split
      · refine Literal.isWellFormed_pointed hdigits (by omega) (by omega) fun h => ?_
        exact hexp (by rw [hd (hhead h)])
      · exact Literal.isWellFormed_fractional hcs hdigits _
  · exact Literal.isWellFormed_scientific hcs hdigits _

/-- The parts of the literal have the value of the decimal. -/
theorem ofDecimal_literalOf {f : Binary.Format} (negative : Bool) (d : Decimal) :
    Binary.ofDecimal f negative (literalOf negative d).decimal = Binary.ofDecimal f negative d := by
  have hcs : Decimal.digitChars d.digits ≠ [] := Nat.toDigits_ne_nil
  have hvalue : digitsValue (Decimal.digitChars d.digits) = d.digits := digitsValue_toDigits _
  simp only [literalOf]
  split
  · split
    · rw [Literal.decimal_padded, hvalue]
      by_cases hzero : d.digits = 0
      · simp [Binary.ofDecimal, hzero]
      · have hshift := Binary.ofDecimal_shift (f := f) negative hzero (d.exponent.toNat + 1)
        have he : d.exponent - ((d.exponent.toNat + 1 : Nat) : Int) = -1 := by omega
        rw [he] at hshift
        exact hshift
    · split
      · rw [Literal.decimal_pointed negative (by omega), hvalue]
        congr 2
        omega
      · rw [Literal.decimal_fractional, hvalue]
        congr 2
        omega
  · rw [Literal.decimal_scientific negative hcs, hvalue]
    have hlength : decimalLength d.digits = (Decimal.digitChars d.digits).length := rfl
    congr 2
    omega

/-! ### Numbers read back -/

/-- A literal with a point or an exponent. -/
def Literal.isFractional (l : Literal) : Bool := l.fraction.isSome || l.exponent.isSome

theorem isFractional_literalOf (negative : Bool) (d : Decimal) :
    (literalOf negative d).isFractional = true := by
  simp only [literalOf]
  repeat' split
  all_goals simp [Literal.isFractional, Literal.padded, Literal.pointed, Literal.fractional,
    Literal.scientific]

theorem negative_literalOf (negative : Bool) (d : Decimal) :
    (literalOf negative d).negative = negative := by
  simp only [literalOf]
  repeat' split
  all_goals rfl

/-- The literal of a fractional number is read as that number. -/
theorem Number.number?_literal (x : Double) : (Number.real x).literal.number? = some (.real x) := by
  have hfractional := isFractional_literalOf x.negative (x.shortest .toEven)
  have hnegative := negative_literalOf x.negative (x.shortest .toEven)
  have hdecimal : Binary.ofDecimal .double x.negative
      (literalOf x.negative (x.shortest .toEven)).decimal = some x := by
    rw [ofDecimal_literalOf, Binary.ofDecimal_shortest Binary.Format.isProper_double]
  simp only [Literal.isFractional] at hfractional
  simp only [Literal.decimal] at hdecimal
  simp only [Number.literal, Literal.number?, hfractional, hnegative, if_true, hdecimal,
    Option.map_some]

theorem Number.isWellFormed_literal (n : Number) : n.literal.IsWellFormed := by
  cases n with
  | whole i => exact Number.isWellFormed_whole i
  | real x =>
    exact isWellFormed_literalOf x.negative
      (Binary.exponent_shortest Binary.Format.isProper_double .toEven x)

/-- The text of a number is read as the literal that it was printed by. -/
theorem Number.ofChars?_chars (n : Number) : Literal.ofChars? n.chars = some n.literal := by
  rw [← Number.chars_literal, Literal.ofChars?_chars n.isWellFormed_literal]

theorem Number.literal_injective {m n : Number} (h : m.literal = n.literal) : m = n := by
  cases m with
  | whole i =>
    cases n with
    | whole j =>
      simp only [Number.literal, Literal.mk.injEq, decide_eq_decide] at h
      have habs := congrArg digitsValue h.2.1
      simp only [Decimal.digitChars, digitsValue_toDigits] at habs
      congr 1
      omega
    | real y =>
      have hy := isFractional_literalOf y.negative (y.shortest .toEven)
      have hi : literalOf y.negative (y.shortest .toEven) = (Number.whole i).literal := h.symm
      rw [hi] at hy
      cases hy
  | real x =>
    cases n with
    | whole j =>
      have hx := isFractional_literalOf x.negative (x.shortest .toEven)
      have hj : literalOf x.negative (x.shortest .toEven) = (Number.whole j).literal := h
      rw [hj] at hx
      cases hx
    | real y =>
      have hx := Number.number?_literal x
      rw [h, Number.number?_literal y] at hx
      exact (Option.some.inj hx).symm

/-- **Different numbers have different texts.** -/
theorem Number.chars_injective {m n : Number} (h : m.chars = n.chars) : m = n := by
  have hm := Number.ofChars?_chars m
  rw [h, Number.ofChars?_chars n] at hm
  exact Number.literal_injective (Option.some.inj hm).symm

/-! ### The characters of numbers -/

theorem isNumeric_of_isDigit {c : Char} (h : isDigit c = true) : isNumeric c = true := by
  simp [isNumeric, h]

theorem Literal.isNumeric_of_mem_chars {l : Literal} (h : l.IsWellFormed) {c : Char}
    (hc : c ∈ l.chars) : isNumeric c = true := by
  have hsign : ∀ x ∈ (if l.negative then ['-'] else []), isNumeric x = true := by
    split <;> simp [isNumeric]
  have hfraction : ∀ x ∈ (match l.fraction with
      | some digits => '.' :: digits
      | none => []), isNumeric x = true := by
    cases hf : l.fraction with
    | none => simp
    | some digits =>
      refine List.forall_mem_cons.mpr ⟨by simp [isNumeric], fun x hx => ?_⟩
      exact isNumeric_of_isDigit (h.fraction_digits digits hf x hx)
  have hexponent : ∀ x ∈ exponentChars l.exponent, isNumeric x = true := by
    cases l.exponent with
    | none => simp [exponentChars]
    | some e =>
      refine List.forall_mem_cons.mpr ⟨by simp [isNumeric], List.forall_mem_cons.mpr ⟨?_, ?_⟩⟩
      · split <;> simp [isNumeric]
      · exact fun x hx => isNumeric_of_isDigit (isDigit_of_mem_toDigits hx)
  simp only [chars, tailChars, List.mem_append] at hc
  rcases hc with hc | hc | hc | hc
  · exact hsign c hc
  · exact isNumeric_of_isDigit (h.whole_digits c hc)
  · exact hfraction c hc
  · exact hexponent c hc

theorem Number.isNumeric_of_mem_chars {n : Number} {c : Char} (hc : c ∈ n.chars) :
    isNumeric c = true :=
  Literal.isNumeric_of_mem_chars n.isWellFormed_literal (n.chars_literal.symm ▸ hc)

theorem Number.chars_ne_nil (n : Number) : n.chars ≠ [] := by
  rw [← n.chars_literal, Literal.chars]
  simp [n.isWellFormed_literal.whole_ne_nil]

end PortGraph.Json
