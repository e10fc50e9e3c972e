import PortGraph.Text.Blank
import PortGraph.Text.Lowercase
import Mathlib.Data.List.Infix

/-!
# Lowercase in context

Lowercasing a text gives each character its own form, apart from the capital sigma, whose form
depends on what stands before and after it. So a part of a text need not have the form in it that it
has alone, and a text in lowercase need not hold what is the lowercase of a part of it.

Whether the form of a capital sigma is settled can be told from the part: what stands around it
decides as far as there are characters that are not looked through. Where all sigmas of a part are
settled, the part has one form wherever it stands. Where one is not, a letter before or behind the
part changes its form, and then the part cannot be found any more: by an `A` before the part, sigmas
of it only become final, and by one behind it they only cease to be, so that there are too few of
the other kind.

## Main definitions

* `Text.formOf`, `Text.formsIn`: the forms of a character and of a part of a text between others
* `Text.Settles`, `Text.IsSettled`: the forms of a sigma, of a part do not depend on what stands
  around it

## Main results

* `Text.lowercaseFrom_eq`, `Text.formsIn_append`: a text in lowercase is made of the forms of its
  parts
* `Text.Settles.isFinal_eq`, `Text.isFinal_of_not_settles`: what settles a sigma and what does not
* `Text.IsSettled.formsIn_eq`: a settled part has one form wherever it stands
* `Text.exists_lost`: a part that is not settled cannot be found in the lowercase of some text
-/

namespace PortGraph.Text

/-! ### Parts of texts -/

theorem occursIn_iff {part cs : List Char} : occursIn part cs = true ↔ part <:+: cs := by
  induction cs with
  | nil => simp [occursIn, List.isEmpty_iff]
  | cons c rest ih =>
    rw [occursIn, Bool.or_eq_true, ih, List.isPrefixOf_iff_prefix, List.infix_cons_iff]

theorem contains_iff {s part : String} : contains s part = true ↔ part.toList <:+: s.toList :=
  occursIn_iff

/-! ### Forms -/

/-- The capital sigma. -/
def sigma : Char := Char.ofNat 0x3A3

/-- The lowercase form of a sigma. -/
def sigmaForm (final : Bool) : Char := if final then Char.ofNat 0x3C2 else Char.ofNat 0x3C3

/-- Whether a capital sigma between `before`, which is in reverse order, and `after` is final. -/
def isFinal (before after : List Char) : Bool := seesCased before && !seesCased after

/-- The form of a character between `before`, which is in reverse order, and `after`. -/
def formOf (before : List Char) (c : Char) (after : List Char) : List Char :=
  if c = sigma then [sigmaForm (isFinal before after)] else lowerChars c

/-- The forms of the characters of a part between `before`, which is in reverse order, and
`after`. -/
def formsIn (before : List Char) : List Char → List Char → List Char
  | [], _ => []
  | c :: rest, after => formOf before c (rest ++ after) ++ formsIn (c :: before) rest after

theorem toNat_eq_iff {c : Char} : c.toNat = 0x3A3 ↔ c = sigma := by
  constructor
  · intro h
    rw [← Char.ofNat_toNat c, h, sigma]
  · rintro rfl
    decide

/-- A text in lowercase is made of the forms of its characters. -/
theorem lowercaseFrom_eq (before cs : List Char) :
    lowercaseFrom before cs = formsIn before cs [] := by
  induction cs generalizing before with
  | nil => rfl
  | cons c rest ih =>
    rw [lowercaseFrom, formsIn, ih, List.append_nil, formOf]
    by_cases hc : c = sigma
    · rw [if_pos (toNat_eq_iff.mpr hc), if_pos hc, sigmaForm, isFinal]
    · rw [if_neg (mt toNat_eq_iff.mp hc), if_neg hc]

/-- **The forms of a text are those of its parts**, each between the others. -/
theorem formsIn_append (before cs ds after : List Char) :
    formsIn before (cs ++ ds) after =
      formsIn before cs (ds ++ after) ++ formsIn (cs.reverse ++ before) ds after := by
  induction cs generalizing before with
  | nil => rfl
  | cons c rest ih =>
    rw [List.cons_append, formsIn, formsIn, ih, List.reverse_cons]
    simp only [List.append_assoc, List.singleton_append]

theorem formsIn_sigma (b before after a : List Char) :
    formsIn b (before ++ sigma :: after) a =
      formsIn b before (sigma :: after ++ a) ++
        sigmaForm (isFinal (before.reverse ++ b) (after ++ a)) ::
          formsIn (sigma :: (before.reverse ++ b)) after a := by
  rw [formsIn_append, formsIn, formOf, if_pos rfl, List.singleton_append]

/-- A sigma has one of its two forms. -/
theorem exists_sigmaForm_mem {part : List Char} (h : sigma ∈ part) :
    ∃ final, sigmaForm final ∈ formsIn [] part [] := by
  obtain ⟨before, after, rfl⟩ := List.append_of_mem h
  exact ⟨_, formsIn_sigma [] before after [] ▸ List.mem_append_right _ List.mem_cons_self⟩

/-- A text in lowercase holds the forms that a part of it has there. -/
theorem formsIn_infix (before part after : List Char) :
    formsIn before.reverse part after <:+: formsIn [] (before ++ part ++ after) [] := by
  rw [formsIn_append, formsIn_append, List.append_nil, List.append_nil]
  exact ⟨_, _, rfl⟩

/-! ### What settles the form of a sigma -/

/-- Whether the first character that is not looked through has no case. -/
def seesCaseless (cs : List Char) : Bool :=
  match cs.dropWhile isCaseIgnorable with
  | c :: _ => !isCased c
  | [] => false

/-- What stands before a sigma, in reverse order, and after it settles its form: a cased character
after it, or one without case before it, or a cased one before and one without case after it. -/
def Settles (before after : List Char) : Prop :=
  seesCased after = true ∨ seesCaseless before = true ∨
    seesCased before = true ∧ seesCaseless after = true

/-- The form of each capital sigma of a part is settled by the part. -/
def IsSettled (part : List Char) : Prop :=
  ∀ before after, part = before ++ sigma :: after → Settles before.reverse after

theorem isSettled_of_notMem {part : List Char} (h : sigma ∉ part) : IsSettled part := by
  rintro before after rfl
  simp at h

/-- Either nothing but characters that are looked through can be seen, or a cased character, or one
without case. -/
theorem sees_cases (cs : List Char) :
    (∀ ds, seesCased (cs ++ ds) = seesCased ds) ∧ seesCased cs = false ∧ seesCaseless cs = false ∨
      (∀ ds, seesCased (cs ++ ds) = true) ∧ seesCased cs = true ∧ seesCaseless cs = false ∨
        (∀ ds, seesCased (cs ++ ds) = false) ∧ seesCased cs = false ∧ seesCaseless cs = true := by
  induction cs with
  | nil => exact .inl ⟨fun _ => rfl, rfl, rfl⟩
  | cons c rest ih =>
    by_cases hc : isCaseIgnorable c = true
    · simpa [seesCased, seesCaseless, List.dropWhile_cons, hc] using ih
    · cases hcased : isCased c <;>
        simp [seesCased, seesCaseless, hc, hcased]

/-- What is seen first stays so when something is added behind. -/
theorem seesCased_append_of_seesCased {cs : List Char} (h : seesCased cs = true) (ds : List Char) :
    seesCased (cs ++ ds) = true := by
  rcases sees_cases cs with ⟨-, hno, -⟩ | ⟨hall, -, -⟩ | ⟨-, hno, -⟩
  · simp [hno] at h
  · exact hall ds
  · simp [hno] at h

theorem isFinal_append_left {before after : List Char} (h : isFinal before after = true)
    (b : List Char) : isFinal (before ++ b) after = true := by
  simp only [isFinal, Bool.and_eq_true] at h ⊢
  exact ⟨seesCased_append_of_seesCased h.1 b, h.2⟩

theorem isFinal_of_append_right {before after a : List Char}
    (h : isFinal before (after ++ a) = true) : isFinal before after = true := by
  simp only [isFinal, Bool.and_eq_true, Bool.not_eq_true'] at h ⊢
  refine ⟨h.1, Bool.eq_false_iff.mpr fun hcased => ?_⟩
  simp [seesCased_append_of_seesCased hcased] at h

theorem Settles.isFinal_eq {before after : List Char} (h : Settles before after) (b a : List Char) :
    isFinal (before ++ b) (after ++ a) = isFinal before after := by
  rw [isFinal, isFinal]
  rw [Settles] at h
  rcases sees_cases before with ⟨hb, hb1, hb2⟩ | ⟨hb, hb1, hb2⟩ | ⟨hb, hb1, hb2⟩ <;>
    rcases sees_cases after with ⟨ha, ha1, ha2⟩ | ⟨ha, ha1, ha2⟩ | ⟨ha, ha1, ha2⟩ <;>
      simp_all

theorem inRanges_eq (ranges : Array (Nat × Nat)) (n : Nat) :
    inRanges ranges n = ranges.toList.any fun r => r.1 ≤ n && n ≤ r.2 := by
  rw [inRanges, Array.any_toList]

theorem seesCased_cons {c : Char} (hseen : isCaseIgnorable c = false) (hcased : isCased c = true)
    (cs : List Char) : seesCased (c :: cs) = true := by
  rw [seesCased, List.dropWhile_cons_of_neg (by simp [hseen])]
  exact hcased

/-- A letter. -/
def letter : List Char := ['A']

theorem seesCased_letter : seesCased letter = true := by
  refine seesCased_cons ?_ ?_ []
  · rw [isCaseIgnorable, inRanges_eq]
    decide +kernel
  · rw [isCased, inRanges_eq]
    decide +kernel

/-- Where the form of a sigma is not settled, a letter behind or before it all changes the form. -/
theorem isFinal_of_not_settles {before after : List Char} (h : ¬ Settles before after) :
    isFinal before after = true ∧ isFinal before (after ++ letter) = false ∨
      isFinal before after = false ∧ isFinal (before ++ letter) after = true := by
  have hletter := seesCased_letter
  simp only [isFinal]
  rw [Settles] at h
  rcases sees_cases before with ⟨hb, hb1, hb2⟩ | ⟨hb, hb1, hb2⟩ | ⟨hb, hb1, hb2⟩ <;>
    rcases sees_cases after with ⟨ha, ha1, ha2⟩ | ⟨ha, ha1, ha2⟩ | ⟨ha, ha1, ha2⟩ <;>
      simp_all

/-! ### Parts that are settled -/

/-- The forms of a part are the same between other characters where those of its sigmas are. -/
theorem formsIn_congr {part b a b' a' : List Char}
    (h : ∀ before after, part = before ++ sigma :: after →
      isFinal (before.reverse ++ b) (after ++ a) = isFinal (before.reverse ++ b') (after ++ a')) :
    formsIn b part a = formsIn b' part a' := by
  induction part generalizing b b' with
  | nil => rfl
  | cons c rest ih =>
    have hrest : formsIn (c :: b) rest a = formsIn (c :: b') rest a' := by
      refine ih fun before after he => ?_
      have := h (c :: before) after (by rw [he, List.cons_append])
      simpa using this
    rw [formsIn, formsIn, hrest, formOf, formOf]
    split
    · rename_i hc
      have hfinal := h [] rest (by rw [hc, List.nil_append])
      simp only [List.reverse_nil, List.nil_append] at hfinal
      rw [hfinal]
    · rfl

/-- **A settled part has one form wherever it stands.** -/
theorem IsSettled.formsIn_eq {part : List Char} (h : IsSettled part) (before after : List Char) :
    formsIn before part after = formsIn [] part [] := by
  refine formsIn_congr fun b a he => ?_
  rw [(h b a he).isFinal_eq, List.append_nil, List.append_nil]

/-! ### Parts that are not settled -/

/-- A form of sigma occurs more often where more sigmas have it, whatever the other characters
are. -/
theorem count_formsIn_le {part b a b' a' : List Char} {x : Char}
    (h : ∀ before after, part = before ++ sigma :: after →
      sigmaForm (isFinal (before.reverse ++ b) (after ++ a)) = x →
        sigmaForm (isFinal (before.reverse ++ b') (after ++ a')) = x) :
    (formsIn b part a).count x ≤ (formsIn b' part a').count x := by
  induction part generalizing b b' with
  | nil => exact Nat.le_refl _
  | cons c rest ih =>
    rw [formsIn, formsIn, List.count_append, List.count_append]
    refine Nat.add_le_add ?_ (ih fun before after he => ?_)
    · rw [formOf, formOf]
      split
      · rename_i hc
        have hform := h [] rest (by rw [hc, List.nil_append])
        simp only [List.reverse_nil, List.nil_append] at hform
        by_cases hx : sigmaForm (isFinal b (rest ++ a)) = x
        · simp [hx, hform hx]
        · simp [hx]
      · exact Nat.le_refl _
    · have := h (c :: before) after (by rw [he, List.cons_append])
      simpa using this

/-- It occurs strictly more often if some sigma has it that had it not. -/
theorem count_formsIn_lt {before after b a b' a' : List Char} {x : Char}
    (h : ∀ before' after', before ++ sigma :: after = before' ++ sigma :: after' →
      sigmaForm (isFinal (before'.reverse ++ b) (after' ++ a)) = x →
        sigmaForm (isFinal (before'.reverse ++ b') (after' ++ a')) = x)
    (hold : sigmaForm (isFinal (before.reverse ++ b) (after ++ a)) ≠ x)
    (hnew : sigmaForm (isFinal (before.reverse ++ b') (after ++ a')) = x) :
    (formsIn b (before ++ sigma :: after) a).count x <
      (formsIn b' (before ++ sigma :: after) a').count x := by
  have hbefore : (formsIn b before (sigma :: after ++ a)).count x ≤
      (formsIn b' before (sigma :: after ++ a')).count x := by
    refine count_formsIn_le fun before' after' he => ?_
    have := h before' (after' ++ sigma :: after) (by rw [he]; simp)
    simpa using this
  have hafter : (formsIn (sigma :: (before.reverse ++ b)) after a).count x ≤
      (formsIn (sigma :: (before.reverse ++ b')) after a').count x := by
    refine count_formsIn_le fun before' after' he => ?_
    have := h (before ++ sigma :: before') after' (by rw [he]; simp)
    simpa using this
  rw [formsIn_sigma, formsIn_sigma, List.count_append, List.count_append,
    List.count_cons_of_ne hold, hnew, List.count_cons_self]
  omega

/-- A letter has no form of sigma. -/
theorem notMem_formsIn_letter (before : List Char) (final : Bool) :
    sigmaForm final ∉ formsIn before letter [] := by
  have hforms : formsIn before letter [] = ['a'] := by
    rw [letter, formsIn, formsIn, formOf, if_neg (by decide)]
    decide
  rw [hforms]
  cases final <;> decide

theorem sigmaForm_inj {x y : Bool} : sigmaForm x = sigmaForm y ↔ x = y := by
  cases x <;> cases y <;> decide

/-- Where a sigma is final in a part but not with a text behind the part, there are fewer final ones
with that text, unless it has some itself. -/
theorem not_infix_followed (before after text : List Char)
    (halone : isFinal before.reverse after = true)
    (hfollowed : isFinal before.reverse (after ++ text) = false)
    (htext : sigmaForm true ∉ formsIn (before ++ sigma :: after).reverse text []) :
    ¬ formsIn [] (before ++ sigma :: after) [] <:+:
      formsIn [] (before ++ sigma :: after ++ text) [] := by
  intro hin
  have hlt : (formsIn [] (before ++ sigma :: after) text).count (sigmaForm true) <
      (formsIn [] (before ++ sigma :: after) []).count (sigmaForm true) := by
    refine count_formsIn_lt (fun b a _ hform => ?_) ?_ ?_
    · rw [sigmaForm_inj, List.append_nil] at hform ⊢
      rw [List.append_nil]
      exact isFinal_of_append_right hform
    · simp [sigmaForm_inj, hfollowed]
    · simp [halone]
  have hle := hin.sublist.count_le (sigmaForm true)
  rw [formsIn_append [] _ text, List.append_nil, List.append_nil, List.count_append,
    List.count_eq_zero_of_not_mem htext] at hle
  omega

/-- Where a sigma that is not final is not settled, there are fewer such ones with a letter before
the part. -/
theorem not_infix_led {before after : List Char} (halone : isFinal before.reverse after = false)
    (hled : isFinal (before.reverse ++ letter) after = true) :
    ¬ formsIn [] (before ++ sigma :: after) [] <:+:
      formsIn [] (letter ++ (before ++ sigma :: after)) [] := by
  intro hin
  have hlt : (formsIn letter (before ++ sigma :: after) []).count (sigmaForm false) <
      (formsIn [] (before ++ sigma :: after) []).count (sigmaForm false) := by
    refine count_formsIn_lt (fun b a _ hform => ?_) ?_ ?_
    · rw [sigmaForm_inj] at hform ⊢
      rw [List.append_nil]
      by_contra hfinal
      rw [isFinal_append_left (Bool.not_eq_false _ ▸ hfinal)] at hform
      cases hform
    · simp [sigmaForm_inj, hled]
    · simp [halone]
  have hle := hin.sublist.count_le (sigmaForm false)
  have hletter : formsIn [] letter (before ++ sigma :: after) = formsIn [] letter [] := rfl
  have hreverse : letter.reverse = letter := rfl
  rw [formsIn_append [] letter, List.append_nil, List.append_nil, List.count_append, hletter,
    hreverse, List.count_eq_zero_of_not_mem (notMem_formsIn_letter [] false)] at hle
  omega

/-- **A part that is not settled cannot be found in the lowercase of some text** that holds it. -/
theorem exists_lost {part : List Char} (h : ¬ IsSettled part) :
    ∃ text, part <:+: text ∧ ¬ formsIn [] part [] <:+: formsIn [] text [] := by
  simp only [IsSettled, not_forall] at h
  obtain ⟨before, after, rfl, hsettles⟩ := h
  rcases isFinal_of_not_settles hsettles with ⟨halone, hfollowed⟩ | ⟨halone, hled⟩
  · exact ⟨_, (List.prefix_append _ letter).isInfix,
      not_infix_followed before after letter halone hfollowed (notMem_formsIn_letter _ true)⟩
  · exact ⟨_, (List.suffix_append letter _).isInfix, not_infix_led halone hled⟩

end PortGraph.Text
