import PortGraph.Proofs.Json.Number

/-!
# JSON texts tell values apart

Compact text can be taken apart again: where the text of a value ends is seen from the text itself,
given that no number goes on behind it. So two values with the same text are the same value, in the
order and with the repetitions of their members.

## Main results

* `Json.scanString_escape`: a string between quotes is read as that string
* `Json.chars_append_inj`: a value and what follows it are found again from the text of both
* `Json.chars_injective`: different values have different texts
* `Json.le_toNat_of_mem_chars`: there is no control character in a text
-/

namespace PortGraph.Json

/-! ### Strings -/

theorem hexValue?_hexDigit {n : Nat} (h : n < 0x20) :
    hexValue? '0' '0' (hexDigit (n / 16)) (hexDigit (n % 16)) = some n := by
  have key : ∀ m < 0x20, hexValue? '0' '0' (hexDigit (m / 16)) (hexDigit (m % 16)) = some m := by
    decide
  exact key n h

/-- An escaped character is read as that character. -/
theorem scanString_escape_append (done : List Char) (c : Char) (rest : List Char) :
    scanString (some done) none (escape c ++ rest) = scanString (some (c :: done)) none rest := by
  have hnat {n : Nat} (h : c.toNat = n) : Char.ofNat n = c := h ▸ Char.ofNat_toNat c
  rw [escape]
  split
  · rename_i h
    subst h
    simp [scanString, letterEscape?]
  split
  · rename_i h
    subst h
    simp [scanString, letterEscape?]
  rename_i hquote hslash
  split
  · rename_i h
    rw [List.singleton_append, scanString]
    · simp [hslash, Nat.not_lt.mpr h]
    · exact hquote
    · exact fun _ _ _ _ _ => fun hc => absurd hc hslash
    · exact fun _ _ hc => absurd hc hslash
  -- The five controls with an escape of one letter.
  iterate 5
    split
    · rename_i h
      rw [← hnat h]
      simp [scanString, letterEscape?]
  · rename_i hblank _ _ _ _ _
    have hc : c.toNat < 0x20 := Nat.lt_of_not_le hblank
    have hhigh : isHighSurrogate c.toNat = false := by
      simp [isHighSurrogate]
      omega
    have hlow : isLowSurrogate c.toNat = false := by
      simp [isLowSurrogate]
      omega
    simp [scanString, hexValue?_hexDigit hc, hhigh, hlow]

/-- **A string between quotes is read as that string.** -/
theorem scanString_escape (s : String) (rest : List Char) :
    scanString (some []) none (s.toList.flatMap escape ++ '"' :: rest) = some (some s, rest) := by
  have key (cs done : List Char) : scanString (some done) none (cs.flatMap escape ++ '"' :: rest) =
      some (some (String.ofList (done.reverse ++ cs)), rest) := by
    induction cs generalizing done with
    | nil => simp [scanString]
    | cons c cs ih =>
      rw [List.flatMap_cons, List.append_assoc, scanString_escape_append, ih]
      simp
  rw [key s.toList []]
  simp

theorem stringChars_append_inj {s t : String} {u v : List Char}
    (h : stringChars s ++ u = stringChars t ++ v) : s = t ∧ u = v := by
  simp only [stringChars, List.cons_append, List.append_assoc, List.cons.injEq, true_and,
    List.nil_append] at h
  have hs := scanString_escape s u
  rw [h, scanString_escape t v] at hs
  simp only [Option.some.injEq, Prod.mk.injEq] at hs
  exact ⟨hs.1.symm, hs.2.symm⟩

/-! ### The first character of a text -/

/-- The kind of value whose text begins with a character, if there is one. -/
def kindOfHead? (c : Char) : Option String :=
  if c = 'n' then some "null"
  else if c = 't' ∨ c = 'f' then some "boolean"
  else if c = '"' then some "string"
  else if c = '[' then some "array"
  else if c = '\x7b' then some "object"
  else if isNumeric c then some "number"
  else none

/-- **The kind of a value is seen from the first character of its text.** -/
theorem exists_chars_eq_cons (a : Json) :
    ∃ c cs, a.chars = c :: cs ∧ kindOfHead? c = some a.kind := by
  cases a with
  | null => exact ⟨_, _, rfl, by decide⟩
  | bool b => cases b <;> exact ⟨_, _, rfl, by decide⟩
  | str s => exact ⟨_, _, rfl, rfl⟩
  | arr items => exact ⟨_, _, by rw [chars], rfl⟩
  | obj members => exact ⟨_, _, by rw [chars], rfl⟩
  | num n =>
    obtain ⟨c, cs, hcs⟩ := List.exists_cons_of_ne_nil n.chars_ne_nil
    have hc : isNumeric c = true :=
      Number.isNumeric_of_mem_chars (n := n) (hcs ▸ List.mem_cons_self)
    have hne (d : Char) (hd : isNumeric d = false) : c ≠ d := by
      rintro rfl
      exact Bool.false_ne_true (hd.symm.trans hc)
    refine ⟨c, cs, by rw [chars, hcs], ?_⟩
    simp [kindOfHead?, hne 'n' rfl, hne 't' rfl, hne 'f' rfl, hne '"' rfl, hne '[' rfl,
      hne '\x7b' rfl, hc, kind]

theorem kind_eq_of_chars_append {a b : Json} {u v : List Char} (h : a.chars ++ u = b.chars ++ v) :
    a.kind = b.kind := by
  obtain ⟨c, cs, hcs, hc⟩ := a.exists_chars_eq_cons
  obtain ⟨d, ds, hds, hd⟩ := b.exists_chars_eq_cons
  rw [hcs, hds, List.cons_append, List.cons_append, List.cons.injEq] at h
  rw [h.1, hd] at hc
  exact (Option.some.inj hc).symm

/-- No value begins with a comma or a closing bracket. -/
theorem cons_ne_chars_append {c : Char} (hc : kindOfHead? c = none) (a : Json) (u v : List Char) :
    c :: u ≠ a.chars ++ v := by
  obtain ⟨d, ds, hds, hd⟩ := a.exists_chars_eq_cons
  rw [hds, List.cons_append, ne_eq, List.cons.injEq]
  rintro ⟨rfl, -⟩
  cases hc.symm.trans hd

/-! ### Whole texts -/

/-- No number goes on in what follows. -/
def Ends (rest : List Char) : Prop := ∀ c ∈ rest.head?, isNumeric c = false

theorem ends_cons {c : Char} (hc : isNumeric c = false) (rest : List Char) : Ends (c :: rest) := by
  rintro d hd
  cases hd
  exact hc

/-- The items of an array after the first, each behind a comma. -/
def itemsTail : List Json → List Char
  | [] => []
  | a :: rest => ',' :: itemsChars (a :: rest)

/-- The members of an object after the first, each behind a comma. -/
def membersTail : List (String × Json) → List Char
  | [] => []
  | m :: rest => ',' :: membersChars (m :: rest)

theorem itemsChars_cons (a : Json) (rest : List Json) :
    itemsChars (a :: rest) = a.chars ++ itemsTail rest := by
  cases rest <;> simp [itemsChars, itemsTail]

theorem membersChars_cons (k : String) (a : Json) (rest : List (String × Json)) :
    membersChars ((k, a) :: rest) = stringChars k ++ ':' :: (a.chars ++ membersTail rest) := by
  cases rest <;> simp [membersChars, membersTail]

theorem ends_itemsTail (l : List Json) (u : List Char) : Ends (itemsTail l ++ ']' :: u) := by
  cases l <;> exact ends_cons rfl _

theorem ends_membersTail (l : List (String × Json)) (u : List Char) :
    Ends (membersTail l ++ '\x7d' :: u) := by
  cases l <;> exact ends_cons rfl _

theorem Number.chars_append_inj {m n : Number} {u v : List Char} (hu : Ends u) (hv : Ends v)
    (h : m.chars ++ u = n.chars ++ v) : m = n ∧ u = v := by
  obtain ⟨htake, hdrop⟩ := takeWhile_append_of_head? (fun c => Number.isNumeric_of_mem_chars) hu
  rw [h] at htake hdrop
  obtain ⟨htake', hdrop'⟩ := takeWhile_append_of_head? (fun c => Number.isNumeric_of_mem_chars) hv
  exact ⟨Number.chars_injective (htake.symm.trans htake'), hdrop.symm.trans hdrop'⟩

mutual

/-- **A value and what follows it are found again from the text of both.** -/
theorem chars_append_inj (a b : Json) {u v : List Char} (hu : Ends u) (hv : Ends v)
    (h : a.chars ++ u = b.chars ++ v) : a = b ∧ u = v := by
  have hkind := kind_eq_of_chars_append h
  cases a <;> cases b <;> simp only [kind, String.reduceEq] at hkind
  case null.null => exact ⟨rfl, List.append_cancel_left h⟩
  case bool.bool p q => cases p <;> cases q <;> simp_all [chars, boolChars]
  case num.num m n =>
    obtain ⟨rfl, huv⟩ := Number.chars_append_inj hu hv h
    exact ⟨rfl, huv⟩
  case str.str s t =>
    obtain ⟨rfl, huv⟩ := stringChars_append_inj h
    exact ⟨rfl, huv⟩
  case arr.arr as bs =>
    simp only [chars, List.cons_append, List.append_assoc, List.cons.injEq, true_and,
      List.nil_append] at h
    obtain ⟨rfl, huv⟩ := itemsChars_append_inj as bs h
    exact ⟨rfl, huv⟩
  case obj.obj as bs =>
    simp only [chars, List.cons_append, List.append_assoc, List.cons.injEq, true_and,
      List.nil_append] at h
    obtain ⟨rfl, huv⟩ := membersChars_append_inj as bs h
    exact ⟨rfl, huv⟩

theorem itemsChars_append_inj (as bs : List Json) {u v : List Char}
    (h : itemsChars as ++ ']' :: u = itemsChars bs ++ ']' :: v) : as = bs ∧ u = v := by
  match as, bs with
  | [], [] => simpa [itemsChars] using h
  | [], b :: bs =>
    rw [itemsChars_cons, List.append_assoc] at h
    exact absurd h (cons_ne_chars_append (by decide) b _ _)
  | a :: as, [] =>
    rw [itemsChars_cons, List.append_assoc] at h
    exact absurd h.symm (cons_ne_chars_append (by decide) a _ _)
  | a :: as, b :: bs =>
    rw [itemsChars_cons, itemsChars_cons, List.append_assoc, List.append_assoc] at h
    obtain ⟨rfl, htail⟩ := chars_append_inj a b (ends_itemsTail as u) (ends_itemsTail bs v) h
    match as, bs with
    | [], [] => simpa [itemsTail] using htail
    | [], _ :: _ => simp [itemsTail] at htail
    | _ :: _, [] => simp [itemsTail] at htail
    | c :: as, d :: bs =>
      simp only [itemsTail, List.cons_append, List.cons.injEq, true_and] at htail
      obtain ⟨hrest, huv⟩ := itemsChars_append_inj (c :: as) (d :: bs) htail
      exact ⟨congrArg (a :: ·) hrest, huv⟩

theorem membersChars_append_inj (as bs : List (String × Json)) {u v : List Char}
    (h : membersChars as ++ '\x7d' :: u = membersChars bs ++ '\x7d' :: v) : as = bs ∧ u = v := by
  match as, bs with
  | [], [] => simpa [membersChars] using h
  | [], (k, b) :: bs =>
    rw [membersChars_cons] at h
    simp [membersChars, stringChars] at h
  | (k, a) :: as, [] =>
    rw [membersChars_cons] at h
    simp [membersChars, stringChars] at h
  | (k, a) :: as, (l, b) :: bs =>
    rw [membersChars_cons, membersChars_cons, List.append_assoc, List.append_assoc] at h
    obtain ⟨rfl, hvalue⟩ := stringChars_append_inj h
    simp only [List.cons_append, List.append_assoc, List.cons.injEq, true_and] at hvalue
    obtain ⟨rfl, htail⟩ :=
      chars_append_inj a b (ends_membersTail as u) (ends_membersTail bs v) hvalue
    match as, bs with
    | [], [] => simpa [membersTail] using htail
    | [], _ :: _ => simp [membersTail] at htail
    | _ :: _, [] => simp [membersTail] at htail
    | c :: as, d :: bs =>
      simp only [membersTail, List.cons_append, List.cons.injEq, true_and] at htail
      obtain ⟨hrest, huv⟩ := membersChars_append_inj (c :: as) (d :: bs) htail
      exact ⟨congrArg ((k, a) :: ·) hrest, huv⟩

end

/-- **Different values have different texts.** -/
theorem chars_injective {a b : Json} (h : a.chars = b.chars) : a = b := by
  have hnil : Ends [] := fun _ hc => nomatch hc
  exact (chars_append_inj a b hnil hnil (by rw [h])).1

/-! ### Control characters -/

theorem le_toNat_of_isNumeric {c : Char} (h : isNumeric c = true) : 0x20 ≤ c.toNat := by
  simp only [isNumeric, isDigit, Bool.or_eq_true, Bool.and_eq_true, decide_eq_true_eq,
    or_assoc] at h
  rcases h with ⟨h, -⟩ | rfl | rfl | rfl | rfl | rfl
  · have : '0'.toNat ≤ c.toNat := h
    exact Nat.le_trans (by decide) this
  all_goals decide

theorem le_toNat_of_mem_escape {c d : Char} (h : d ∈ escape c) : 0x20 ≤ d.toNat := by
  have hhex : ∀ n < 16, 0x20 ≤ (hexDigit n).toNat := by decide
  rw [escape] at h
  iterate 2
    split at h
    · simp only [List.mem_cons, List.not_mem_nil, or_false] at h
      rcases h with rfl | rfl <;> decide
  split at h
  · rename_i hc
    rwa [List.mem_singleton.mp h]
  rename_i hc
  iterate 5
    split at h
    · simp only [List.mem_cons, List.not_mem_nil, or_false] at h
      rcases h with rfl | rfl <;> decide
  simp only [List.mem_cons, List.not_mem_nil, or_false] at h
  rcases h with rfl | rfl | rfl | rfl | rfl | rfl
  any_goals decide
  · exact hhex _ (by omega)
  · exact hhex _ (by omega)

theorem le_toNat_of_mem_stringChars {s : String} {c : Char} (h : c ∈ stringChars s) :
    0x20 ≤ c.toNat := by
  simp only [stringChars, List.mem_cons, List.mem_append, List.mem_flatMap, List.not_mem_nil,
    or_false] at h
  rcases h with rfl | ⟨d, -, hd⟩ | rfl
  · decide
  · exact le_toNat_of_mem_escape hd
  · decide

mutual

/-- **There is no control character in a text.** -/
theorem le_toNat_of_mem_chars {c : Char} (a : Json) (h : c ∈ a.chars) : 0x20 ≤ c.toNat := by
  cases a with
  | null =>
    have key : ∀ d ∈ nullChars, 0x20 ≤ d.toNat := by simp [nullChars]
    exact key c h
  | bool b =>
    have key : ∀ b, ∀ d ∈ boolChars b, 0x20 ≤ d.toNat := by simp [boolChars]
    exact key b c h
  | num n => exact le_toNat_of_isNumeric (Number.isNumeric_of_mem_chars h)
  | str s => exact le_toNat_of_mem_stringChars h
  | arr items =>
    simp only [chars, List.mem_cons, List.mem_append, List.not_mem_nil, or_false] at h
    rcases h with rfl | h | rfl
    · decide
    · exact le_toNat_of_mem_itemsChars items h
    · decide
  | obj members =>
    simp only [chars, List.mem_cons, List.mem_append, List.not_mem_nil, or_false] at h
    rcases h with rfl | h | rfl
    · decide
    · exact le_toNat_of_mem_membersChars members h
    · decide

theorem le_toNat_of_mem_itemsChars {c : Char} (l : List Json) (h : c ∈ itemsChars l) :
    0x20 ≤ c.toNat := by
  match l with
  | [] => simp [itemsChars] at h
  | [a] => exact le_toNat_of_mem_chars a (by simpa [itemsChars] using h)
  | a :: b :: rest =>
    simp only [itemsChars, List.mem_append, List.mem_cons] at h
    rcases h with h | rfl | h
    · exact le_toNat_of_mem_chars a h
    · decide
    · exact le_toNat_of_mem_itemsChars (b :: rest) h

theorem le_toNat_of_mem_membersChars {c : Char} (l : List (String × Json))
    (h : c ∈ membersChars l) : 0x20 ≤ c.toNat := by
  match l with
  | [] => simp [membersChars] at h
  | [(k, a)] =>
    simp only [membersChars, List.mem_append, List.mem_cons] at h
    rcases h with h | rfl | h
    · exact le_toNat_of_mem_stringChars h
    · decide
    · exact le_toNat_of_mem_chars a h
  | (k, a) :: b :: rest =>
    simp only [membersChars, List.mem_append, List.mem_cons] at h
    rcases h with h | rfl | h | rfl | h
    · exact le_toNat_of_mem_stringChars h
    · decide
    · exact le_toNat_of_mem_chars a h
    · decide
    · exact le_toNat_of_mem_membersChars (b :: rest) h

end

end PortGraph.Json
