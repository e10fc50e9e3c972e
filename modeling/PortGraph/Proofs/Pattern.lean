import Mathlib.Data.Nat.Bitwise
import PortGraph.Pattern.Basic

/-!
# What patterns accept

A pattern says of a stretch of a text whether it looks as it should. Whether it is met somewhere is
found out with sets of places, all at once and in rounds. There are as many rounds for a pattern
that may come as often as one likes as the text has characters. That is enough: a pattern does not
go back in the text, and to meet it without going on leads to no other place.

## Main definitions

* `Pattern.Repeats`: one step after the other
* `Pattern.Spans`: what stands between two places of a text is as a pattern says
* `Pattern.Carries`: a map of sets of places that goes by steps

## Main results

* `Pattern.Repeats.exists_le`: as many steps as places are enough
* `Pattern.carries_advance`: the places behind a pattern are those where what it spans ends
* `Pattern.occursIn_iff`: a pattern is met in a text just if it spans a part of it
-/

namespace PortGraph

namespace Pattern

/-! ### What a pattern says -/

/-- `n` steps, one after the other. -/
def Repeats (R : Nat → Nat → Prop) : Nat → Nat → Nat → Prop
  | 0, i, j => i = j
  | n + 1, i, k => ∃ j, R i j ∧ Repeats R n j k

/-- The character before a place of a text. -/
def before? (text : List Char) : Nat → Option Char
  | 0 => none
  | i + 1 => text[i]?

/-- **What stands between two places of a text is as a pattern says.** Where the most is below the
least, it is the least that counts. -/
def Spans (text : List Char) : Pattern → Nat → Nat → Prop
  | .nothing, i, j => i = j
  | .one set, i, j => i + 1 = j ∧ ∃ c, text[i]? = some c ∧ set.contains c = true
  | .place a, i, j => i = j ∧ a.holds (before? text i) text[i]? = true
  | .seq p q, i, k => ∃ j, Spans text p i j ∧ Spans text q j k
  | .alt p q, i, j => Spans text p i j ∨ Spans text q i j
  | .times p least most?, i, j => ∃ n, least ≤ n ∧
    (∀ most, most? = some most → n ≤ max least most) ∧ Repeats (Spans text p) n i j

variable {R : Nat → Nat → Prop} {f : Nat → Nat} {text : List Char} {p : Pattern} {i j k m n s : Nat}

theorem Repeats.trans (h : Repeats R m i j) (h' : Repeats R n j k) : Repeats R (m + n) i k := by
  induction m generalizing i with
  | zero => rwa [Nat.zero_add, show i = j from h]
  | succ m ih =>
    obtain ⟨i', hstep, hrest⟩ := h
    rw [Nat.succ_add]
    exact ⟨i', hstep, ih hrest⟩

theorem Repeats.exists_of_add (h : Repeats R (m + n) i k) :
    ∃ j, Repeats R m i j ∧ Repeats R n j k := by
  induction m generalizing i with
  | zero => exact ⟨i, rfl, by rwa [Nat.zero_add] at h⟩
  | succ m ih =>
    rw [Nat.succ_add] at h
    obtain ⟨i', hstep, hrest⟩ := h
    obtain ⟨j, hfirst, hlast⟩ := ih hrest
    exact ⟨j, ⟨i', hstep, hfirst⟩, hlast⟩

/-! ### Patterns go on -/

/-- Steps do not go back, nor beyond the end of a text. -/
structure GoesOn (text : List Char) (R : Nat → Nat → Prop) : Prop where
  le : ∀ i j, R i j → i ≤ j
  le_length : ∀ i j, R i j → i ≤ text.length → j ≤ text.length

theorem GoesOn.repeats (h : GoesOn text R) (n : Nat) : GoesOn text (Repeats R n) := by
  induction n with
  | zero => exact ⟨fun _ _ hij => Nat.le_of_eq hij, fun _ _ hij hi => hij ▸ hi⟩
  | succ n ih =>
    refine ⟨?_, ?_⟩
    · rintro i k ⟨j, hstep, hrest⟩
      exact Nat.le_trans (h.le i j hstep) (ih.le j k hrest)
    · rintro i k ⟨j, hstep, hrest⟩ hi
      exact ih.le_length j k hrest (h.le_length i j hstep hi)

theorem goesOn_spans (text : List Char) (p : Pattern) : GoesOn text (Spans text p) := by
  induction p with
  | nothing => exact ⟨fun _ _ hij => Nat.le_of_eq hij, fun _ _ hij hi => hij ▸ hi⟩
  | one set =>
    refine ⟨?_, ?_⟩
    · rintro i _ ⟨rfl, -⟩
      exact Nat.le_succ i
    · rintro i _ ⟨rfl, c, hc, -⟩ -
      exact (List.getElem?_eq_some_iff.mp hc).1
  | place a => exact ⟨fun _ _ h => Nat.le_of_eq h.1, fun _ _ h hi => h.1 ▸ hi⟩
  | seq p q ihp ihq =>
    refine ⟨?_, ?_⟩
    · rintro i k ⟨j, hp, hq⟩
      exact Nat.le_trans (ihp.le i j hp) (ihq.le j k hq)
    · rintro i k ⟨j, hp, hq⟩ hi
      exact ihq.le_length j k hq (ihp.le_length i j hp hi)
  | alt p q ihp ihq =>
    exact ⟨fun i j h => h.elim (ihp.le i j) (ihq.le i j),
      fun i j h => h.elim (ihp.le_length i j) (ihq.le_length i j)⟩
  | times p least most? ih =>
    refine ⟨?_, ?_⟩
    · rintro i j ⟨n, -, -, h⟩
      exact (ih.repeats n).le i j h
    · rintro i j ⟨n, -, -, h⟩
      exact (ih.repeats n).le_length i j h

/-- **As many steps as places are enough**, since those that do not go on can be left out. -/
theorem Repeats.exists_le (hR : GoesOn text R) (h : Repeats R n i k) :
    ∃ m ≤ k - i, Repeats R m i k := by
  induction n generalizing i with
  | zero => exact ⟨0, Nat.zero_le _, h⟩
  | succ n ih =>
    obtain ⟨j, hstep, hrest⟩ := h
    obtain ⟨m, hm, hless⟩ := ih hrest
    obtain rfl | hlt := Nat.eq_or_lt_of_le (hR.le i j hstep)
    · exact ⟨m, hm, hless⟩
    · have hle : j ≤ k := (hR.repeats m).le j k hless
      exact ⟨m + 1, by omega, j, hstep, hless⟩

/-! ### Sets of places -/

/-- All of the set are places of the text. -/
def IsWithin (text : List Char) (s : Nat) : Prop := ∀ i, s.testBit i = true → i ≤ text.length

/-- A map of sets of places of a text takes each place where the steps from it lead to. -/
def Carries (text : List Char) (f : Nat → Nat) (R : Nat → Nat → Prop) : Prop :=
  ∀ s, IsWithin text s → ∀ j, (f s).testBit j = true ↔ ∃ i, s.testBit i = true ∧ R i j

theorem Carries.isWithin (hf : Carries text f R) (hR : GoesOn text R) (hs : IsWithin text s) :
    IsWithin text (f s) := by
  intro j hj
  obtain ⟨i, hi, hstep⟩ := (hf s hs j).mp hj
  exact hR.le_length i j hstep (hs i hi)

/-- Not to do anything is to go by no step. -/
theorem carries_id (text : List Char) : Carries text (fun s => s) fun i j => i = j :=
  fun _ _ j => ⟨fun hj => ⟨j, hj, rfl⟩, fun ⟨_, hi, hij⟩ => hij ▸ hi⟩

/-- One map after the other goes by steps of both. -/
theorem Carries.comp {f' : Nat → Nat} {R' : Nat → Nat → Prop} (hf : Carries text f R)
    (hR : GoesOn text R) (hf' : Carries text f' R') :
    Carries text (fun s => f' (f s)) fun i k => ∃ j, R i j ∧ R' j k := by
  intro s hs k
  rw [hf' _ (hf.isWithin hR hs)]
  constructor
  · rintro ⟨j, hj, hlast⟩
    obtain ⟨i, hi, hfirst⟩ := (hf s hs j).mp hj
    exact ⟨i, hi, j, hfirst, hlast⟩
  · rintro ⟨i, hi, j, hfirst, hlast⟩
    exact ⟨j, (hf s hs j).mpr ⟨i, hi, hfirst⟩, hlast⟩

/-- Two maps side by side go by the steps of either. -/
theorem Carries.or {f' : Nat → Nat} {R' : Nat → Nat → Prop} (hf : Carries text f R)
    (hf' : Carries text f' R') :
    Carries text (fun s => f s ||| f' s) fun i j => R i j ∨ R' i j := by
  intro s hs j
  rw [Nat.testBit_or, Bool.or_eq_true, hf s hs, hf' s hs, ← exists_or]
  simp only [and_or_left]

/-! ### Rounds -/

/-- A set that does not change any more is not looked at further. -/
theorem iterate_succ (f : Nat → Nat) (n s : Nat) : iterate f (n + 1) s = iterate f n (f s) := by
  rw [iterate]
  split
  · rename_i h
    rw [h]
    cases n with
    | zero => rfl
    | succ n => rw [iterate, if_pos h]
  · rfl

theorem carries_iterate (hf : Carries text f R) (hR : GoesOn text R) (n : Nat) :
    Carries text (iterate f n) (Repeats R n) := by
  induction n with
  | zero => exact carries_id text
  | succ n ih =>
    intro s hs k
    rw [iterate_succ]
    exact hf.comp hR ih s hs k

/-- To collect is to do something over and over that keeps what there is. -/
theorem closure_eq_iterate (f : Nat → Nat) (n s : Nat) :
    closure f n s = iterate (fun s => s ||| f s) n s := by
  induction n generalizing s with
  | zero => rfl
  | succ n ih => rw [closure, iterate, ih]

/-- A round is a step or none, so that rounds are as many steps at most. -/
theorem repeats_or_iff : Repeats (fun i j => i = j ∨ R i j) n i k ↔ ∃ m ≤ n, Repeats R m i k := by
  induction n generalizing i with
  | zero =>
    constructor
    · exact fun h => ⟨0, Nat.le_refl 0, h⟩
    · rintro ⟨m, hm, h⟩
      obtain rfl := Nat.le_zero.mp hm
      exact h
  | succ n ih =>
    constructor
    · rintro ⟨j, hround, hrest⟩
      obtain ⟨m, hm, h⟩ := ih.mp hrest
      obtain rfl | hstep := hround
      · exact ⟨m, Nat.le_succ_of_le hm, h⟩
      · exact ⟨m + 1, Nat.succ_le_succ hm, j, hstep, h⟩
    · rintro ⟨m, hm, h⟩
      cases m with
      | zero => exact ⟨i, .inl rfl, ih.mpr ⟨0, Nat.zero_le n, h⟩⟩
      | succ m =>
        obtain ⟨j, hstep, hrest⟩ := h
        exact ⟨j, .inr hstep, ih.mpr ⟨m, Nat.le_of_succ_le_succ hm, hrest⟩⟩

theorem carries_closure (hf : Carries text f R) (hR : GoesOn text R) (n : Nat) :
    Carries text (closure f n) fun i j => ∃ m ≤ n, Repeats R m i j := by
  have hround : GoesOn text fun i j => i = j ∨ R i j :=
    ⟨fun i j h => h.elim Nat.le_of_eq (hR.le i j),
      fun i j h hi => h.elim (fun hij => hij ▸ hi) fun hstep => hR.le_length i j hstep hi⟩
  intro s hs k
  simp only [closure_eq_iterate, ← repeats_or_iff]
  exact carries_iterate ((carries_id text).or hf) hround n s hs k

/-! ### Places by their characters -/

theorem testBit_placesFrom (test : Option Char → Option Char → Bool) (last? : Option Char)
    (text : List Char) (i : Nat) : (placesFrom test last? text).testBit i =
      (decide (i ≤ text.length) && test (if i = 0 then last? else before? text i) text[i]?) := by
  induction text generalizing last? i with
  | nil =>
    rw [placesFrom, Nat.testBit_bool_toNat]
    cases i with
    | zero => simp
    | succ i => simp
  | cons c rest ih =>
    rw [placesFrom, ← Nat.bit_val]
    cases i with
    | zero => simp
    | succ i =>
      rw [Nat.testBit_bit_succ, ih]
      cases i with
      | zero => simp [before?]
      | succ i => simp [before?]

theorem testBit_places (test : Option Char → Option Char → Bool) (text : List Char) (i : Nat) :
    (places test text).testBit i = true ↔
      i ≤ text.length ∧ test (before? text i) text[i]? = true := by
  rw [places, testBit_placesFrom, Bool.and_eq_true, decide_eq_true_eq]
  cases i <;> rfl

/-! ### The places behind a pattern -/

theorem carries_one (text : List Char) (set : CharSet) :
    Carries text (advance text (.one set)) (Spans text (.one set)) := by
  intro s hs j
  rw [advance, Nat.testBit_shiftLeft, Bool.and_eq_true, decide_eq_true_eq, Nat.testBit_and,
    Bool.and_eq_true, testBit_places, Option.any_eq_true]
  constructor
  · rintro ⟨hpos, hi, -, hone⟩
    exact ⟨j - 1, hi, Nat.sub_add_cancel hpos, hone⟩
  · rintro ⟨i, hi, rfl, hone⟩
    exact ⟨Nat.succ_pos i, hi, hs i hi, hone⟩

theorem carries_place (text : List Char) (a : Assertion) :
    Carries text (advance text (.place a)) (Spans text (.place a)) := by
  intro s hs j
  rw [advance, Nat.testBit_and, Bool.and_eq_true, testBit_places]
  constructor
  · rintro ⟨hj, -, hplace⟩
    exact ⟨j, hj, rfl, hplace⟩
  · rintro ⟨_, hi, rfl, hplace⟩
    exact ⟨hi, hs _ hi, hplace⟩

/-- **Steps at least and at most so often are first those that there must be, and then some more.**
There are no more of these than the text has places, unless they are limited otherwise. -/
theorem exists_repeats_iff (hR : GoesOn text R) {least : Nat} {most? : Option Nat}
    (hi : i ≤ text.length) :
    (∃ j, Repeats R least i j ∧
        ∃ m ≤ (most?.map (· - least)).getD text.length, Repeats R m j k) ↔
      ∃ n, least ≤ n ∧ (∀ most, most? = some most → n ≤ max least most) ∧ Repeats R n i k := by
  constructor
  · rintro ⟨j, hfirst, m, hm, hmore⟩
    refine ⟨least + m, Nat.le_add_right _ _, ?_, hfirst.trans hmore⟩
    rintro most rfl
    rw [Option.map_some, Option.getD_some] at hm
    omega
  · rintro ⟨n, hn, hmost, h⟩
    obtain ⟨m, rfl⟩ := Nat.exists_eq_add_of_le hn
    obtain ⟨j, hfirst, hmore⟩ := h.exists_of_add
    cases most? with
    | some most =>
      have hm : least + m ≤ max least most := hmost most rfl
      exact ⟨j, hfirst, m, by rw [Option.map_some, Option.getD_some]; omega, hmore⟩
    | none =>
      obtain ⟨m', hm', hless⟩ := hmore.exists_le hR
      have hj := (hR.repeats least).le_length i j hfirst hi
      have hk := (hR.repeats m').le_length j k hless hj
      exact ⟨j, hfirst, m', by rw [Option.map_none, Option.getD_none]; omega, hless⟩

/-- **The places behind a pattern are those where what it spans ends.** -/
theorem carries_advance (text : List Char) (p : Pattern) :
    Carries text (advance text p) (Spans text p) := by
  induction p with
  | nothing => exact carries_id text
  | one set => exact carries_one text set
  | place a => exact carries_place text a
  | seq p q ihp ihq => exact ihp.comp (goesOn_spans text p) ihq
  | alt p q ihp ihq => exact ihp.or ihq
  | times p least most? ih =>
    have hgoes := goesOn_spans text p
    have hcarries := (carries_iterate ih hgoes least).comp (hgoes.repeats least)
      (carries_closure ih hgoes ((most?.map (· - least)).getD text.length))
    intro s hs k
    refine (hcarries s hs k).trans (exists_congr fun i => and_congr_right fun hi => ?_)
    exact exists_repeats_iff hgoes (hs i hi)

/-- **A pattern is met in a text just if it spans a part of it.** -/
theorem occursIn_iff (p : Pattern) (text : List Char) :
    p.occursIn text = true ↔ ∃ i j, i ≤ j ∧ j ≤ text.length ∧ Spans text p i j := by
  have hall (i : Nat) : (allPlaces text).testBit i = true ↔ i ≤ text.length := by
    rw [allPlaces, testBit_places, and_iff_left rfl]
  have hadvance := carries_advance text p (allPlaces text) fun i => (hall i).mp
  have hgoes := goesOn_spans text p
  rw [occursIn, bne_iff_ne]
  constructor
  · intro hne
    obtain ⟨j, hj⟩ := Nat.exists_testBit_of_ne_zero hne
    obtain ⟨i, hi, hspans⟩ := (hadvance j).mp hj
    exact ⟨i, j, hgoes.le i j hspans, hgoes.le_length i j hspans ((hall i).mp hi), hspans⟩
  · rintro ⟨i, j, hij, hj, hspans⟩ hzero
    have hbit := (hadvance j).mpr ⟨i, (hall i).mpr (Nat.le_trans hij hj), hspans⟩
    rw [hzero, Nat.zero_testBit] at hbit
    cases hbit

end Pattern

end PortGraph
