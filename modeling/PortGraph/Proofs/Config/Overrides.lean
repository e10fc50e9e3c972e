import Mathlib.Data.List.Forall2
import PortGraph.Config

/-!
# Configuration from variables

Four variables set the mode, the endpoint, the interval between polls and the time a task may take.
They are applied in this order up to the first whose text does not fit it, which is then the error.

What was set before that variable stays set: the configuration is not put back. So after an error it
is as it was if the variables before are absent, but in general it is not.

## Main definitions

* `Config.Variable`: the variables, in the order in which they are applied
* `Config.Variable.Shows`, `Admits`: what a text says about a setting, and which texts say anything
* `Config.IsOverridden`: some settings are as their variables say, and all else is as it was
* `Config.overrideAll`: any list of variables, applied in turn

## Main results

* `Config.IsOverridden.unique`: the texts determine what they override
* `Config.apply_cases`: one variable
* `Config.overrideAll_outcome`: any list of variables
* `Config.override_outcome`: when the variables apply, to what effect, and what an error leaves
-/

namespace PortGraph

/-! ### What a text says -/

/-- A text spells the name of a mode, in letters of either case and with blanks around it. -/
def Mode.IsSpelled (m : Mode) (s : String) : Prop :=
  List.Forall₂ (fun letter c => c = letter ∨ c = letter.toUpper) m.name.toList
    (Text.trimChars s.toList)

/-- A text is a 64-bit number in decimal digits, with blanks around it and maybe a plus before. -/
def IsNumeral (s : String) (n : UInt64) : Prop :=
  ∃ digits, (Text.trimChars s.toList = digits ∨ Text.trimChars s.toList = '+' :: digits) ∧
    digits ≠ [] ∧ (∀ c ∈ digits, Json.isDigit c) ∧ Json.digitsValue digits = n.toNat

theorem Text.toNat_toLower (c : Char) :
    c.toLower.toNat = if 65 ≤ c.toNat ∧ c.toNat ≤ 90 then c.toNat + 32 else c.toNat := by
  have hcapital : (c.val ≥ 'A'.val ∧ c.val ≤ 'Z'.val) ↔ 65 ≤ c.toNat ∧ c.toNat ≤ 90 := by
    rw [ge_iff_le, UInt32.le_iff_toNat_le, UInt32.le_iff_toNat_le]
    exact Iff.rfl
  by_cases h : c.val ≥ 'A'.val ∧ c.val ≤ 'Z'.val
  · have hlower : c.toLower = _ := dif_pos h
    have hle : c.val.toNat ≤ 90 := (hcapital.mp h).2
    rw [if_pos (hcapital.mp h), hlower, ← Char.toNat_val, UInt32.toNat_add]
    exact Nat.mod_eq_of_lt (Nat.lt_of_le_of_lt (Nat.add_le_add_right hle 32) (by decide))
  · rw [if_neg (mt hcapital.mpr h)]
    exact congrArg Char.toNat (dif_neg h)

theorem Text.toNat_toUpper (c : Char) :
    c.toUpper.toNat = if 97 ≤ c.toNat ∧ c.toNat ≤ 122 then c.toNat - 32 else c.toNat := by
  have hsmall : (c.val ≥ 'a'.val ∧ c.val ≤ 'z'.val) ↔ 97 ≤ c.toNat ∧ c.toNat ≤ 122 := by
    rw [ge_iff_le, UInt32.le_iff_toNat_le, UInt32.le_iff_toNat_le]
    exact Iff.rfl
  by_cases h : c.val ≥ 'a'.val ∧ c.val ≤ 'z'.val
  · have hupper : c.toUpper = _ := dif_pos h
    -- the difference is taken modulo `2 ^ 32`
    have hdown : ('A'.val - 'a'.val).toNat = 2 ^ 32 - 32 := rfl
    have hmod {n : Nat} (hn : 97 ≤ n ∧ n ≤ 122) : (n + (2 ^ 32 - 32)) % 2 ^ 32 = n - 32 := by omega
    rw [if_pos (hsmall.mp h), hupper, ← Char.toNat_val, UInt32.toNat_add, hdown]
    exact hmod (hsmall.mp h)
  · rw [if_neg (mt hsmall.mpr h)]
    exact congrArg Char.toNat (dif_neg h)

/-- A character becomes a small letter if it is that letter or the capital of it. -/
theorem Text.toLower_eq_iff {c letter : Char} (h : letter.isLower) :
    c.toLower = letter ↔ c = letter ∨ c = letter.toUpper := by
  have hbetween : (decide (letter.val ≥ 'a'.val) && decide (letter.val ≤ 'z'.val)) = true := h
  obtain ⟨hfirst, hlast⟩ := Bool.and_eq_true_iff.mp hbetween
  have hsmall : 97 ≤ letter.toNat ∧ letter.toNat ≤ 122 :=
    ⟨UInt32.le_iff_toNat_le.mp (of_decide_eq_true hfirst),
      UInt32.le_iff_toNat_le.mp (of_decide_eq_true hlast)⟩
  simp only [← Char.toNat_inj, toNat_toLower, toNat_toUpper, if_pos hsmall]
  split <;> omega

/-- A mode is spelled by the texts that become its name in small letters. -/
theorem Mode.isSpelled_iff {m : Mode} {s : String} :
    m.IsSpelled s ↔ Text.lowercaseAscii (Text.trim s) = m.name := by
  have hname : m.name.toList.all Char.isLower = true := by cases m <;> decide
  have hlower := List.all_eq_true.mp hname
  have hletters (letter c : Char) : letter.isLower ∧ (c = letter ∨ c = letter.toUpper) ↔
      letter.isLower ∧ letter = c.toLower :=
    and_congr_right fun h => (Text.toLower_eq_iff h).symm.trans eq_comm
  calc m.IsSpelled s
    _ ↔ List.Forall₂ (fun letter c => letter.isLower ∧ letter = c.toLower) m.name.toList
        (Text.trimChars s.toList) := by
      simp only [← hletters, List.forall₂_and_left]
      exact (and_iff_right hlower).symm
    _ ↔ m.name.toList = (Text.trimChars s.toList).map Char.toLower := by
      rw [List.forall₂_and_left, and_iff_right hlower, ← List.forall₂_eq_eq_eq,
        List.forall₂_map_right_iff]
    _ ↔ Text.lowercaseAscii (Text.trim s) = m.name := by
      rw [eq_comm, ← String.toList_inj, Text.lowercaseAscii, Text.trim, String.toList_ofList,
        String.toList_ofList]

theorem Mode.toOption_ofText_eq_some_iff {s : String} {m : Mode} :
    (ofText s).toOption = some m ↔ m.IsSpelled s := by
  rw [isSpelled_iff, ofText]
  split <;> cases m <;> simp_all [name, Except.toOption]

/-- The characters without a plus before them. -/
def unsigned (cs : List Char) : List Char :=
  match cs with
  | '+' :: rest => rest
  | _ => cs

/-- Of digits, and of a plus and digits, the digits are what is left without the plus. -/
theorem exists_digits_iff {cs : List Char} {p : List Char → Prop}
    (hp : ∀ digits, p digits → ∀ c ∈ digits, Json.isDigit c) :
    (∃ digits, (cs = digits ∨ cs = '+' :: digits) ∧ p digits) ↔ p (unsigned cs) := by
  constructor
  · rintro ⟨digits, rfl | rfl, h⟩
    · unfold unsigned
      split
      · exact absurd (hp _ h '+' List.mem_cons_self) (by decide)
      · exact h
    · exact h
  · refine fun h => ⟨_, ?_, h⟩
    unfold unsigned
    split
    · exact .inr rfl
    · exact .inl rfl

/-- The positive 64-bit number that digits stand for. -/
def ofDigits? (digits : List Char) : Option UInt64 :=
  if digits.isEmpty || !digits.all Json.isDigit then none
  else
    let n := Json.digitsValue digits
    if 0 < n ∧ n < UInt64.size then some (UInt64.ofNat n) else none

theorem positive?_eq (s : String) : positive? s = ofDigits? (unsigned (Text.trimChars s.toList)) :=
  rfl

theorem ofDigits?_eq_some_iff {digits : List Char} {n : UInt64} :
    ofDigits? digits = some n ↔ (digits ≠ [] ∧ (∀ c ∈ digits, Json.isDigit c) ∧
      Json.digitsValue digits = n.toNat) ∧ 0 < n := by
  have hdigits : ¬(digits.isEmpty || !digits.all Json.isDigit) = true ↔
      digits ≠ [] ∧ ∀ c ∈ digits, Json.isDigit c := by
    simp
  rw [ofDigits?, Option.ite_none_left_eq_some, Option.ite_none_right_eq_some, hdigits,
    Option.some.injEq, UInt64.lt_iff_toNat_lt, UInt64.toNat_zero]
  simp only [and_assoc]
  refine and_congr_right fun _ => and_congr_right fun _ => ⟨?_, ?_⟩
  · rintro ⟨hpos, hsize, rfl⟩
    rw [UInt64.toNat_ofNat_of_lt' hsize]
    exact ⟨rfl, hpos⟩
  · rintro ⟨hvalue, hpos⟩
    rw [hvalue, UInt64.ofNat_toNat]
    exact ⟨hpos, n.toNat_lt, rfl⟩

theorem positive?_eq_some_iff {s : String} {n : UInt64} :
    positive? s = some n ↔ IsNumeral s n ∧ 0 < n := by
  rw [positive?_eq, ofDigits?_eq_some_iff, IsNumeral, exists_digits_iff fun _ h => h.2.1]

namespace Config

/-! ### Variables -/

/-- The variables, in the order in which they are applied. -/
inductive Variable where
  | mode | endpoint | interval | timeout
deriving DecidableEq

namespace Variable

/-- All variables, in that order. -/
def all : List Variable := [.mode, .endpoint, .interval, .timeout]

theorem mem_all (v : Variable) : v ∈ all := by cases v <;> decide

/-- The name of a variable. -/
def key : Variable → String
  | .mode => modeKey
  | .endpoint => endpointKey
  | .interval => intervalKey
  | .timeout => timeoutKey

/-- The setting of a variable is what a text says. -/
def Shows (s : String) (d : Config) : Variable → Prop
  | .mode => d.mode.IsSpelled s
  | .endpoint => d.remote.endpoint = s
  | .interval => IsNumeral s d.remote.pollIntervalMs ∧ 0 < d.remote.pollIntervalMs
  | .timeout => IsNumeral s d.remote.timeoutMs ∧ 0 < d.remote.timeoutMs

/-- The setting of a variable is the same in two configurations. -/
def Keeps (c d : Config) : Variable → Prop
  | .mode => d.mode = c.mode
  | .endpoint => d.remote.endpoint = c.remote.endpoint
  | .interval => d.remote.pollIntervalMs = c.remote.pollIntervalMs
  | .timeout => d.remote.timeoutMs = c.remote.timeoutMs

/-- A text fits a variable if it says anything about its setting. -/
def Admits (v : Variable) (s : String) : Prop := ∃ d, v.Shows s d

/-- A variable is absent, or its text fits it. -/
def Fits (lookup : String → Option String) (v : Variable) : Prop :=
  ∀ s, lookup v.key = some s → v.Admits s

variable {v : Variable} {s : String} {c d e : Config}

theorem Keeps.symm (h : v.Keeps c d) : v.Keeps d c := by
  cases v <;> exact Eq.symm h

theorem Keeps.trans (h : v.Keeps c d) (h' : v.Keeps d e) : v.Keeps c e := by
  cases v <;> exact Eq.trans h' h

theorem Shows.keeps (h : v.Shows s c) (hkeeps : v.Keeps c d) : v.Shows s d := by
  cases v <;> simp_all [Shows, Keeps]

/-- **A text says one thing** about a setting. -/
theorem Shows.unique (h : v.Shows s c) (h' : v.Shows s d) : v.Keeps c d := by
  cases v with
  | mode =>
    exact Option.some.inj ((Mode.toOption_ofText_eq_some_iff.mpr h').symm.trans
      (Mode.toOption_ofText_eq_some_iff.mpr h))
  | endpoint => exact Eq.trans h' h.symm
  | interval | timeout =>
    exact Option.some.inj ((positive?_eq_some_iff.mpr h').symm.trans (positive?_eq_some_iff.mpr h))

end Variable

/-- A configuration without the settings that have a variable. -/
def unset (c : Config) : Config :=
  { c with
    mode := .local
    remote := { c.remote with endpoint := "", pollIntervalMs := 0, timeoutMs := 0 } }

/-- Some settings are as their variables say, and everything else is as it was. -/
structure IsOverridden (given : Variable → Option String) (c d : Config) : Prop where
  shows : ∀ v s, given v = some s → v.Shows s d
  keeps : ∀ v, given v = none → v.Keeps c d
  others : d.unset = c.unset

namespace IsOverridden

variable {given given' : Variable → Option String} {c d e : Config}

theorem refl (h : ∀ v, given v = none) (c : Config) : IsOverridden given c c where
  shows v s hs := absurd hs (by simp [h v])
  keeps v _ := by cases v <;> rfl
  others := rfl

/-- What is overridden twice is as the later variables say, and else as the earlier ones. -/
theorem trans (h : IsOverridden given c d) (h' : IsOverridden given' d e) :
    IsOverridden (fun v => (given' v).or (given v)) c e where
  shows v s hs := by
    rcases Option.or_eq_some_iff.mp hs with hlater | ⟨hnone, hearlier⟩
    · exact h'.shows v s hlater
    · exact (h.shows v s hearlier).keeps (h'.keeps v hnone)
  keeps v hnone := by
    obtain ⟨hlater, hearlier⟩ := Option.or_eq_none_iff.mp hnone
    exact (h.keeps v hearlier).trans (h'.keeps v hlater)
  others := h'.others.trans h.others

/-- **What is overridden is determined** by the texts and by what was there before. -/
theorem unique (h : IsOverridden given c d) (h' : IsOverridden given c e) : e = d := by
  have hkeeps (v : Variable) : v.Keeps d e := by
    cases hv : given v with
    | none => exact (h.keeps v hv).symm.trans (h'.keeps v hv)
    | some s => exact (h.shows v s hv).unique (h'.shows v s hv)
  have hmode : e.mode = d.mode := hkeeps .mode
  have hendpoint : e.remote.endpoint = d.remote.endpoint := hkeeps .endpoint
  have hinterval : e.remote.pollIntervalMs = d.remote.pollIntervalMs := hkeeps .interval
  have htimeout : e.remote.timeoutMs = d.remote.timeoutMs := hkeeps .timeout
  have hothers : e.unset = d.unset := h'.others.trans h.others.symm
  obtain ⟨_, ⟨_, _, _, _, _, _⟩, _⟩ := d
  obtain ⟨_, ⟨_, _, _, _, _, _⟩, _⟩ := e
  simp_all [unset]

end IsOverridden

/-! ### One after another -/

/-- Set one setting to what a text says about it, if it says anything. -/
def set? (c : Config) (s : String) : Variable → Option Config
  | .mode => (Mode.ofText s).toOption.map fun m => { c with mode := m }
  | .endpoint => some { c with remote := { c.remote with endpoint := s } }
  | .interval =>
    (positive? s).map fun n => { c with remote := { c.remote with pollIntervalMs := n } }
  | .timeout => (positive? s).map fun n => { c with remote := { c.remote with timeoutMs := n } }

/-- Apply one variable, if it is given. -/
def apply (lookup : String → Option String) (v : Variable) (c : Config) :
    Except OverrideError Config :=
  match lookup v.key with
  | none => .ok c
  | some s =>
    match c.set? s v with
    | none => .error ⟨v.key, s⟩
    | some d => .ok d

/-- Apply variables one after another up to the first that does not fit. -/
def overrideAll (lookup : String → Option String) :
    List Variable → Config → Config × Option OverrideError
  | [], c => (c, none)
  | v :: vs, c =>
    match c.apply lookup v with
    | .error e => (c, some e)
    | .ok d => overrideAll lookup vs d

/-- The texts of some of the variables. -/
def given (lookup : String → Option String) (vs : List Variable) (v : Variable) : Option String :=
  if v ∈ vs then lookup v.key else none

section

variable {lookup : String → Option String} {v : Variable} {vs : List Variable} {s : String}
  {c d : Config}

/-- The configuration is overridden by all variables in turn. -/
theorem override_eq_overrideAll (lookup : String → Option String) (c : Config) :
    c.override lookup = overrideAll lookup Variable.all c := by
  have hmode (c : Config) : c.overrideMode lookup = c.apply lookup .mode := by
    rw [overrideMode, apply, Variable.key]
    cases lookup modeKey with
    | none => rfl
    | some s => cases hs : Mode.ofText s <;> simp [set?, hs, Except.toOption]
  have hendpoint (c : Config) : .ok (c.overrideEndpoint lookup) = c.apply lookup .endpoint := by
    rw [overrideEndpoint, apply, Variable.key]
    cases lookup endpointKey <;> rfl
  have hinterval (c : Config) : c.overrideInterval lookup = c.apply lookup .interval := by
    rw [overrideInterval, apply, Variable.key]
    cases lookup intervalKey with
    | none => rfl
    | some s => cases hs : positive? s <;> simp [set?, hs]
  have htimeout (c : Config) : c.overrideTimeout lookup = c.apply lookup .timeout := by
    rw [overrideTimeout, apply, Variable.key]
    cases lookup timeoutKey with
    | none => rfl
    | some s => cases hs : positive? s <;> simp [set?, hs]
  rw [override, Variable.all, overrideAll, hmode]
  cases c.apply lookup .mode with
  | error e => rfl
  | ok d =>
    dsimp only
    rw [overrideAll, ← hendpoint, hinterval]
    dsimp only
    rw [overrideAll]
    cases (d.overrideEndpoint lookup).apply lookup .interval with
    | error e => rfl
    | ok d =>
      dsimp only
      rw [overrideAll, htimeout]
      cases d.apply lookup .timeout <;> rfl

/-- **A setting is set to what the text says**, and every other one stays. -/
theorem effects_of_set? (h : c.set? s v = some d) :
    v.Shows s d ∧ (∀ u, u ≠ v → u.Keeps c d) ∧ d.unset = c.unset := by
  cases v with
  | endpoint =>
    cases h
    refine ⟨rfl, fun u hu => ?_, rfl⟩
    cases u <;> first | rfl | exact absurd rfl hu
  | mode =>
    rw [set?] at h
    obtain ⟨m, hm, rfl⟩ := Option.map_eq_some_iff.mp h
    refine ⟨Mode.toOption_ofText_eq_some_iff.mp hm, fun u hu => ?_, rfl⟩
    cases u <;> first | rfl | exact absurd rfl hu
  | interval | timeout =>
    obtain ⟨n, hn, rfl⟩ := Option.map_eq_some_iff.mp h
    refine ⟨positive?_eq_some_iff.mp hn, fun u hu => ?_, rfl⟩
    cases u <;> first | rfl | exact absurd rfl hu

/-- A setting is set just if the text fits its variable. -/
theorem exists_set?_iff : (∃ d, c.set? s v = some d) ↔ v.Admits s := by
  refine ⟨fun ⟨d, h⟩ => ⟨d, (effects_of_set? h).1⟩, fun ⟨d, h⟩ => ?_⟩
  cases v with
  | mode => exact ⟨_, by rw [set?, Mode.toOption_ofText_eq_some_iff.mpr h, Option.map_some]⟩
  | endpoint => exact ⟨_, rfl⟩
  | interval | timeout => exact ⟨_, by rw [set?, positive?_eq_some_iff.mpr h, Option.map_some]⟩

theorem given_cons (lookup : String → Option String) (v : Variable) (vs : List Variable) :
    given lookup (v :: vs) = fun u => (given lookup vs u).or (given lookup [v] u) := by
  funext u
  by_cases hv : u = v
  · subst hv
    by_cases hvs : u ∈ vs <;> simp [given, hvs]
  · simp [given, hv]

/-- **One variable** that is given overrides its own setting, and nothing else. -/
theorem isOverridden_of_set? (hs : lookup v.key = some s) (h : c.set? s v = some d) :
    IsOverridden (given lookup [v]) c d := by
  have hgiven (u : Variable) : given lookup [v] u = if u = v then some s else none := by
    by_cases hu : u = v <;> simp [given, hu, hs]
  obtain ⟨hshows, hkeeps, hothers⟩ := effects_of_set? h
  refine ⟨fun u t ht => ?_, fun u hnone => hkeeps u ?_, hothers⟩
  · rw [hgiven, Option.ite_none_right_eq_some] at ht
    obtain ⟨rfl, heq⟩ := ht
    cases heq
    exact hshows
  · rintro rfl
    simp [hgiven] at hnone

/-- One variable either fits and overrides its setting, or does not fit and is the error. -/
theorem apply_cases (lookup : String → Option String) (v : Variable) (c : Config) :
    (∃ d, c.apply lookup v = .ok d ∧ v.Fits lookup ∧ IsOverridden (given lookup [v]) c d) ∨
      ∃ s, c.apply lookup v = .error ⟨v.key, s⟩ ∧ lookup v.key = some s ∧ ¬v.Admits s := by
  rw [apply]
  cases hs : lookup v.key with
  | none =>
    refine .inl ⟨c, rfl, fun s h => ?_, .refl (fun u => ?_) c⟩
    · cases hs.symm.trans h
    · by_cases hu : u = v <;> simp [given, hu, hs]
  | some s =>
    cases hd : c.set? s v with
    | none =>
      refine .inr ⟨s, by simp only [hd], rfl, fun h => ?_⟩
      obtain ⟨d, hsome⟩ := exists_set?_iff.mpr h
      cases hd.symm.trans hsome
    | some d =>
      refine .inl ⟨d, by simp only [hd], fun t ht => ?_, isOverridden_of_set? hs hd⟩
      cases hs.symm.trans ht
      exact exists_set?_iff.mp ⟨d, hd⟩

/-- What variables come to: all fit and each overrides its setting, or the error is about the first
that does not, and only those before it have overridden theirs. -/
def Outcome (lookup : String → Option String) (vs : List Variable) (c d : Config) :
    Option OverrideError → Prop
  | none => (∀ v ∈ vs, v.Fits lookup) ∧ IsOverridden (given lookup vs) c d
  | some e => ∃ before v after, vs = before ++ v :: after ∧ (∀ u ∈ before, u.Fits lookup) ∧
      e.key = v.key ∧ lookup v.key = some e.value ∧ ¬v.Admits e.value ∧
      IsOverridden (given lookup before) c d

/-- What the later variables come to, after the first. -/
theorem Outcome.cons {e? : Option OverrideError} {b : Config} (hv : v.Fits lookup)
    (hfirst : IsOverridden (given lookup [v]) b c) (h : Outcome lookup vs c d e?) :
    Outcome lookup (v :: vs) b d e? := by
  cases e? with
  | none =>
    refine ⟨List.forall_mem_cons.mpr ⟨hv, h.1⟩, ?_⟩
    rw [given_cons]
    exact hfirst.trans h.2
  | some e =>
    obtain ⟨before, u, after, rfl, hbefore, hkey, hlookup, hu, hoverridden⟩ := h
    refine ⟨v :: before, u, after, rfl, List.forall_mem_cons.mpr ⟨hv, hbefore⟩, hkey, hlookup, hu,
      ?_⟩
    rw [given_cons]
    exact hfirst.trans hoverridden

/-- **Variables are applied in turn up to the first that does not fit.** -/
theorem overrideAll_outcome (lookup : String → Option String) (vs : List Variable) (c : Config) :
    Outcome lookup vs c (overrideAll lookup vs c).1 (overrideAll lookup vs c).2 := by
  induction vs generalizing c with
  | nil => exact ⟨List.forall_mem_nil _, .refl (fun _ => rfl) c⟩
  | cons v vs ih =>
    rw [overrideAll]
    obtain ⟨d, hd, hv, hfirst⟩ | ⟨s, herror, hs, hv⟩ := apply_cases lookup v c
    · rw [hd]
      exact (ih d).cons hv hfirst
    · rw [herror]
      exact ⟨[], v, vs, rfl, List.forall_mem_nil _, rfl, hs, hv, .refl (fun _ => rfl) c⟩

end

/-- **Variables are applied one after another.** They are applied without an error just if each that
is given has a text that fits it: a mode in letters of either case, or a positive 64-bit number,
with blanks around it; the endpoint may be any text. Then exactly the settings of those given
change, to what their texts say.

Otherwise the error has the first that does not fit, and its text as it was given. The settings of
those before it have been changed and stay so; without any before it nothing has changed. -/
theorem override_outcome (lookup : String → Option String) (c : Config) :
    ((c.override lookup).2 = none ↔ ∀ v : Variable, v.Fits lookup) ∧
    ((c.override lookup).2 = none →
      IsOverridden (fun v => lookup v.key) c (c.override lookup).1) ∧
    ∀ e, (c.override lookup).2 = some e → ∃ before v after,
      Variable.all = before ++ v :: after ∧ (∀ u ∈ before, u.Fits lookup) ∧
      e.key = v.key ∧ lookup v.key = some e.value ∧ ¬v.Admits e.value ∧
      IsOverridden (given lookup before) c (c.override lookup).1 ∧
      ((∀ u ∈ before, lookup u.key = none) → (c.override lookup).1 = c) := by
  have hall : given lookup Variable.all = fun v => lookup v.key :=
    funext fun v => if_pos v.mem_all
  have houtcome := overrideAll_outcome lookup Variable.all c
  rw [← override_eq_overrideAll] at houtcome
  cases herror : (c.override lookup).2 with
  | none =>
    rw [herror] at houtcome
    obtain ⟨hfits, hoverridden⟩ := houtcome
    exact ⟨iff_of_true rfl fun v => hfits v v.mem_all, fun _ => hall ▸ hoverridden, nofun⟩
  | some e =>
    rw [herror] at houtcome
    obtain ⟨before, v, after, hvs, hbefore, hkey, hlookup, hv, hoverridden⟩ := houtcome
    refine ⟨iff_of_false nofun fun h => hv (h v _ hlookup), nofun, ?_⟩
    rintro _ ⟨⟩
    refine ⟨before, v, after, hvs, hbefore, hkey, hlookup, hv, hoverridden, fun hnone => ?_⟩
    -- Without variables before it, what is overridden is what was there.
    refine IsOverridden.unique (.refl (fun u => ?_) c) hoverridden
    by_cases hu : u ∈ before <;> simp [given, hu, hnone]

/-- A mode that fits, and an interval of zero, which does not: the mode has been set. -/
theorem override_remote_zero :
    let lookup (key : String) : Option String :=
      if key = modeKey then some "remote" else if key = intervalKey then some "0" else none
    let c : Config := {}
    c.override lookup = ({ c with mode := .remote }, some ⟨intervalKey, "0"⟩) ∧
      (c.override lookup).1 ≠ c := by
  decide +kernel

end Config

end PortGraph
