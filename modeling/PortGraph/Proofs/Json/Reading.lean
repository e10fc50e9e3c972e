import PortGraph.Json.Parser
import PortGraph.Proofs.Json.Printer

/-!
# Indented text is read back

An indented text is cut into the tokens of the value that it was written from, and these are put
together to that value: with its members in the order in which they were written, and a name that
was written twice still there twice.

Two kinds of values have no text of their own. A whole number beyond 64 bits is read as a fractional
one, and what is nested deeper than the limit can only be skipped. All others are legible.

## Main definitions

* `Json.IsLegible`: values that a text can hold
* `Json.tokens`: the tokens of a value

## Main results

* `Json.ofChars?_prettyChars`: how an indented text is cut into tokens
* `Json.assemble_tokens`: how the tokens of a value are put together
* `Written.ofText?_pretty`: an indented text is read as the value it was written from
-/

namespace PortGraph.Json

/-! ### Legible values -/

/-- A whole number that a text can hold: one of 64 bits, with a sign or without. -/
def Number.IsLegible : Number → Prop
  | .whole i => -(2 : Int) ^ 63 ≤ i ∧ i < 2 ^ 64
  | .real _ => True

mutual

/-- A value that a text can hold: of at most `levels` levels, its whole numbers of 64 bits. -/
def IsLegible (levels : Nat) : Json → Prop
  | .num n => n.IsLegible
  | .arr items => 0 < levels ∧ AreLegible (levels - 1) items
  | .obj members => 0 < levels ∧ AreLegibleMembers (levels - 1) members
  | _ => True

/-- `IsLegible` for the items of an array. -/
def AreLegible (levels : Nat) : List Json → Prop
  | [] => True
  | a :: rest => a.IsLegible levels ∧ AreLegible levels rest

/-- `IsLegible` for the members of an object. -/
def AreLegibleMembers (levels : Nat) : List (String × Json) → Prop
  | [] => True
  | (_, a) :: rest => a.IsLegible levels ∧ AreLegibleMembers levels rest

end

/-! ### Taking the first token off a text -/

namespace Token

/-- A text is cut by skipping blanks and taking off the first token. -/
theorem ofChars?_eq (cs : List Char) :
    ofChars? cs = if cs.dropWhile isBlank = [] then some [] else
      (next? (cs.dropWhile isBlank)).bind fun r => (ofChars? r.2).map (r.1 :: ·) := by
  rw [ofChars?]
  split
  · rename_i hnil
    rw [if_pos hnil]
  · rename_i c rest hcons
    simp only [hcons, List.cons_ne_nil, if_false]
    split
    · rename_i hnone
      rw [hnone, Option.bind_none]
    · rename_i hsome
      rw [hsome, Option.bind_some]

theorem ofChars?_nil : ofChars? [] = some [] := by
  rw [ofChars?_eq]
  rfl

/-- **The first token of a text** that does not begin with a blank. -/
theorem ofChars?_of_next? {c : Char} {cs : List Char} {t : Token} (after : List Char)
    (h : next? (c :: cs) = some (t, after)) (hc : isBlank c = false) :
    ofChars? (c :: cs) = (ofChars? after).map (t :: ·) := by
  have hdrop : (c :: cs).dropWhile isBlank = c :: cs := List.dropWhile_cons_of_neg (by simp [hc])
  rw [ofChars?_eq, hdrop, if_neg (List.cons_ne_nil _ _), h, Option.bind_some]

/-- A token of one character. -/
theorem ofChars?_cons (c : Char) (t : Token) (h : ∀ cs, next? (c :: cs) = some (t, cs))
    (hc : isBlank c = false) (cs : List Char) : ofChars? (c :: cs) = (ofChars? cs).map (t :: ·) :=
  ofChars?_of_next? cs (h cs) hc

theorem ofChars?_cons_of_isBlank {c : Char} (h : isBlank c = true) (cs : List Char) :
    ofChars? (c :: cs) = ofChars? cs := by
  rw [ofChars?_eq, ofChars?_eq cs, List.dropWhile_cons_of_pos h]

theorem ofChars?_lineBreak (level : Nat) (cs : List Char) :
    ofChars? (lineBreak level ++ cs) = ofChars? cs := by
  rw [lineBreak, List.cons_append, ofChars?_cons_of_isBlank rfl]
  generalize 2 * level = n
  induction n with
  | zero => rfl
  | succ n ih => rw [List.replicate_succ, List.cons_append, ofChars?_cons_of_isBlank rfl, ih]

end Token

theorem isBlank_of_isNumeric {c : Char} (h : isNumeric c = true) : isBlank c = false := by
  simp only [isBlank, Bool.or_eq_false_iff, decide_eq_false_iff_not]
  refine ⟨⟨⟨?_, ?_⟩, ?_⟩, ?_⟩ <;> rintro rfl <;> cases h

/-- The literal of a legible number is read as that number. -/
theorem Number.number?_literal_of_isLegible {n : Number} (h : n.IsLegible) :
    n.literal.number? = some n := by
  cases n with
  | real x => exact Number.number?_literal x
  | whole i =>
    obtain ⟨hleast, hmost⟩ := h
    have hvalue : digitsValue (Decimal.digitChars i.natAbs) = i.natAbs := digitsValue_toDigits _
    simp only [literal, Literal.number?, Option.getD_none, List.append_nil, hvalue,
      Option.isSome_none, Bool.or_self, Bool.false_eq_true, if_false, decide_eq_true_eq]
    by_cases hi : i < 0
    · have hkept : ¬ (i.natAbs = 0 ∨ Nat.pow 2 63 < i.natAbs) := by
        simp only [Nat.pow_eq]
        omega
      rw [if_pos hi, if_neg hkept]
      congr 2
      omega
    · have hkept : i.natAbs < UInt64.size := by
        simp only [UInt64.size]
        omega
      rw [if_neg hi, if_pos hkept]
      congr 2
      omega

theorem Number.ofChars?_chars_append {n : Number} (hn : n.IsLegible) {rest : List Char}
    (hrest : Ends rest) :
    Token.ofChars? (n.chars ++ rest) = (Token.ofChars? rest).map (.num n :: ·) := by
  obtain ⟨c, cs, hcs⟩ := List.exists_cons_of_ne_nil n.chars_ne_nil
  have hc : isNumeric c = true := isNumeric_of_mem_chars (n := n) (hcs ▸ List.mem_cons_self)
  have hrun : ∀ d ∈ cs, isNumeric d = true := fun d hd =>
    isNumeric_of_mem_chars (n := n) (hcs ▸ List.mem_cons_of_mem _ hd)
  obtain ⟨htake, hdrop⟩ := takeWhile_append_of_head? hrun hrest
  have hnext : Token.next? (c :: (cs ++ rest)) = some (.num n, rest) := by
    rw [Token.next?, if_pos hc, htake, hdrop, ← hcs, Number.ofChars?_chars, Option.map_some,
      Number.number?_literal_of_isLegible hn]
    -- No other token begins with a character of a number.
    all_goals
      intros
      subst_vars
      cases hc
  rw [hcs, List.cons_append, Token.ofChars?_of_next? rest hnext (isBlank_of_isNumeric hc)]

theorem ofChars?_stringChars_append (s : String) (rest : List Char) :
    Token.ofChars? (stringChars s ++ rest) = (Token.ofChars? rest).map (.str s :: ·) := by
  have hnext : Token.next? ('"' :: (s.toList.flatMap escape ++ '"' :: rest)) =
      some (.str s, rest) := by
    rw [Token.next?, scanString_escape, Option.map_some]
  rw [stringChars, List.cons_append, List.append_assoc, List.singleton_append,
    Token.ofChars?_of_next? rest hnext rfl]

/-! ### The tokens of a value -/

mutual

/-- The tokens of a value. -/
def tokens : Json → List Token
  | .null => [.null]
  | .bool b => [.bool b]
  | .num n => [.num n]
  | .str s => [.str s]
  | .arr items => .openArray :: (itemsTokens items ++ [.closeArray])
  | .obj members => .openObject :: (membersTokens members ++ [.closeObject])

/-- The tokens of the items of an array, with commas between them. -/
def itemsTokens : List Json → List Token
  | [] => []
  | [a] => tokens a
  | a :: b :: rest => tokens a ++ .comma :: itemsTokens (b :: rest)

/-- The tokens of the members of an object, with commas between them. -/
def membersTokens : List (String × Json) → List Token
  | [] => []
  | [(k, a)] => .str k :: .colon :: tokens a
  | (k, a) :: m :: rest => .str k :: .colon :: (tokens a ++ .comma :: membersTokens (m :: rest))

end

theorem ends_lineBreak (level : Nat) (rest : List Char) : Ends (lineBreak level ++ rest) :=
  ends_cons rfl _

mutual

/-- **A text that begins with the indented text of a value** is cut into the tokens of that value
and those of what follows. -/
theorem ofChars?_prettyChars {levels : Nat} (level : Nat) (a : Json) (ha : a.IsLegible levels)
    {rest : List Char} (hrest : Ends rest) :
    Token.ofChars? (a.prettyChars level ++ rest) = (Token.ofChars? rest).map (a.tokens ++ ·) := by
  match a with
  | .null => exact Token.ofChars?_of_next? rest rfl rfl
  | .bool true => exact Token.ofChars?_of_next? rest rfl rfl
  | .bool false => exact Token.ofChars?_of_next? rest rfl rfl
  | .num n => exact n.ofChars?_chars_append ha hrest
  | .str s => exact ofChars?_stringChars_append s rest
  | .arr [] =>
    simp only [prettyChars, List.cons_append, List.nil_append,
      Token.ofChars?_cons '[' .openArray (fun _ => rfl) rfl,
      Token.ofChars?_cons ']' .closeArray (fun _ => rfl) rfl, Option.map_map]
    rfl
  | .arr (b :: items) =>
    have hitems := ofChars?_prettyItems (level + 1) (b :: items) ha.2
      (ends_lineBreak level (']' :: rest))
    simp only [prettyChars, List.cons_append, List.append_assoc, List.nil_append,
      Token.ofChars?_cons '[' .openArray (fun _ => rfl) rfl, hitems, Token.ofChars?_lineBreak,
      Token.ofChars?_cons ']' .closeArray (fun _ => rfl) rfl, Option.map_map, Function.comp_def,
      tokens]
  | .obj [] =>
    simp only [prettyChars, List.cons_append, List.nil_append,
      Token.ofChars?_cons '\x7b' .openObject (fun _ => rfl) rfl,
      Token.ofChars?_cons '\x7d' .closeObject (fun _ => rfl) rfl, Option.map_map]
    rfl
  | .obj (m :: members) =>
    have hmembers := ofChars?_prettyMembers (level + 1) (m :: members) ha.2
      (ends_lineBreak level ('\x7d' :: rest))
    simp only [prettyChars, List.cons_append, List.append_assoc, List.nil_append,
      Token.ofChars?_cons '\x7b' .openObject (fun _ => rfl) rfl, hmembers,
      Token.ofChars?_lineBreak, Token.ofChars?_cons '\x7d' .closeObject (fun _ => rfl) rfl,
      Option.map_map, Function.comp_def, tokens]

theorem ofChars?_prettyItems {levels : Nat} (level : Nat) (items : List Json)
    (h : AreLegible levels items) {rest : List Char} (hrest : Ends rest) :
    Token.ofChars? (prettyItems level items ++ rest) =
      (Token.ofChars? rest).map (itemsTokens items ++ ·) := by
  match items with
  | [] => simp [prettyItems, itemsTokens]
  | [a] =>
    rw [prettyItems, List.append_assoc, Token.ofChars?_lineBreak,
      ofChars?_prettyChars level a h.1 hrest, itemsTokens]
  | a :: b :: items =>
    have hitems := ofChars?_prettyItems level (b :: items) h.2 hrest
    have ha := ofChars?_prettyChars level a h.1
      (ends_cons (c := ',') rfl (prettyItems level (b :: items) ++ rest))
    simp only [prettyItems, List.append_assoc, List.cons_append, Token.ofChars?_lineBreak, ha,
      Token.ofChars?_cons ',' .comma (fun _ => rfl) rfl, hitems, Option.map_map,
      Function.comp_def, itemsTokens]

theorem ofChars?_prettyMembers {levels : Nat} (level : Nat) (members : List (String × Json))
    (h : AreLegibleMembers levels members) {rest : List Char} (hrest : Ends rest) :
    Token.ofChars? (prettyMembers level members ++ rest) =
      (Token.ofChars? rest).map (membersTokens members ++ ·) := by
  match members with
  | [] => simp [prettyMembers, membersTokens]
  | [(k, a)] =>
    simp only [prettyMembers, List.append_assoc, List.cons_append, Token.ofChars?_lineBreak,
      ofChars?_stringChars_append, Token.ofChars?_cons ':' .colon (fun _ => rfl) rfl,
      Token.ofChars?_cons_of_isBlank (c := ' ') rfl, ofChars?_prettyChars level a h.1 hrest,
      Option.map_map, Function.comp_def, membersTokens]
  | (k, a) :: m :: members =>
    have hmembers := ofChars?_prettyMembers level (m :: members) h.2 hrest
    have ha := ofChars?_prettyChars level a h.1
      (ends_cons (c := ',') rfl (prettyMembers level (m :: members) ++ rest))
    simp only [prettyMembers, List.append_assoc, List.cons_append, Token.ofChars?_lineBreak,
      ofChars?_stringChars_append, Token.ofChars?_cons ':' .colon (fun _ => rfl) rfl,
      Token.ofChars?_cons_of_isBlank (c := ' ') rfl, ha,
      Token.ofChars?_cons ',' .comma (fun _ => rfl) rfl, hmembers, Option.map_map,
      Function.comp_def, membersTokens]

end

/-! ### Putting tokens together -/

theorem assemble_cons (stage : Stage) (stack : List Frame) (t : Token) (rest : List Token) :
    assemble stage stack (t :: rest) =
      (advance stage stack t).bind fun s => assemble s.1 s.2 rest := by
  rw [assemble]
  cases advance stage stack t <;> rfl

/-- Behind an opening bracket, the items of an array begin as they do behind a comma. -/
theorem assemble_itemOrEnd {items : List Json} (h : items ≠ []) (stack : List Frame)
    (rest : List Token) :
    assemble .itemOrEnd (.items [] :: stack) (itemsTokens items ++ rest) =
      assemble .value (.items [] :: stack) (itemsTokens items ++ rest) := by
  match items with
  | [a] => cases a <;> rfl
  | a :: b :: items => cases a <;> rfl

/-- The same for the members of an object. -/
theorem assemble_nameOrEnd {members : List (String × Json)} (h : members ≠ [])
    (stack : List Frame) (rest : List Token) :
    assemble .nameOrEnd (.members [] none :: stack) (membersTokens members ++ rest) =
      assemble .name (.members [] none :: stack) (membersTokens members ++ rest) := by
  match members with
  | [(k, a)] => rfl
  | (k, a) :: m :: members => rfl

theorem closed_of_lt {depth : Nat} (h : depth < nestingLimit) (w : Written) : closed depth w = w :=
  if_pos h

mutual

/-- **The tokens of a value are put together to that value**, whatever arrays and objects are open
around it. -/
theorem assemble_tokens (a : Json) (stack : List Frame) (rest : List Token)
    (ha : a.IsLegible (nestingLimit - stack.length)) :
    assemble .value stack (a.tokens ++ rest) = assemble (.after (.ofJson a)) stack rest := by
  match a with
  | .null => rfl
  | .bool b => rfl
  | .num n => rfl
  | .str s => rfl
  | .arr [] =>
    have hclosed := closed_of_lt (Nat.lt_of_sub_pos ha.1) (.arr [])
    simp only [tokens, itemsTokens, List.nil_append, List.cons_append, assemble_cons, advance,
      beginValue, Option.bind_some, List.reverse_nil, hclosed, Written.ofJson, Written.ofItems]
  | .arr (b :: items) =>
    have hne := List.cons_ne_nil b items
    have hitems := assemble_itemsTokens (b :: items) hne [] stack rest ha.1 ha.2
    simp only [tokens, List.cons_append, List.append_assoc, List.nil_append, assemble_cons, advance,
      beginValue, Option.bind_some, assemble_itemOrEnd hne, hitems, List.reverse_nil,
      Written.ofJson]
  | .obj [] =>
    have hclosed := closed_of_lt (Nat.lt_of_sub_pos ha.1) (.obj [])
    simp only [tokens, membersTokens, List.nil_append, List.cons_append, assemble_cons, advance,
      beginValue, Option.bind_some, List.reverse_nil, hclosed, Written.ofJson, Written.ofMembers]
  | .obj (m :: members) =>
    have hne := List.cons_ne_nil m members
    have hmembers := assemble_membersTokens (m :: members) hne [] stack rest ha.1 ha.2
    simp only [tokens, List.cons_append, List.append_assoc, List.nil_append, assemble_cons, advance,
      beginValue, Option.bind_some, assemble_nameOrEnd hne, hmembers, List.reverse_nil,
      Written.ofJson]

/-- The items of an array are put behind those that are done. -/
theorem assemble_itemsTokens (items : List Json) (hne : items ≠ []) (done : List Written)
    (stack : List Frame) (rest : List Token) (hdepth : 0 < nestingLimit - stack.length)
    (h : AreLegible (nestingLimit - stack.length - 1) items) :
    assemble .value (.items done :: stack) (itemsTokens items ++ .closeArray :: rest) =
      assemble (.after (.arr (done.reverse ++ Written.ofItems items))) stack rest := by
  match items with
  | [a] =>
    have hclosed := closed_of_lt (Nat.lt_of_sub_pos hdepth)
    simp only [itemsTokens, assemble_tokens a (.items done :: stack) _ h.1, assemble_cons, advance,
      Option.bind_some, hclosed, List.reverse_cons]
    rfl
  | a :: b :: items =>
    have hitems := assemble_itemsTokens (b :: items) (List.cons_ne_nil _ _) (.ofJson a :: done)
      stack rest hdepth h.2
    simp only [itemsTokens, List.append_assoc, assemble_tokens a (.items done :: stack) _ h.1,
      List.cons_append, assemble_cons, advance, Option.bind_some, hitems, List.reverse_cons]
    rfl

/-- The members of an object are put behind those that are done. -/
theorem assemble_membersTokens (members : List (String × Json)) (hne : members ≠ [])
    (done : List (Option String × Written)) (stack : List Frame) (rest : List Token)
    (hdepth : 0 < nestingLimit - stack.length)
    (h : AreLegibleMembers (nestingLimit - stack.length - 1) members) :
    assemble .name (.members done none :: stack)
        (membersTokens members ++ .closeObject :: rest) =
      assemble (.after (.obj (done.reverse ++ Written.ofMembers members))) stack rest := by
  match members with
  | [(k, a)] =>
    have hclosed := closed_of_lt (Nat.lt_of_sub_pos hdepth)
    simp only [membersTokens, List.cons_append, assemble_cons, advance, Option.bind_some,
      assemble_tokens a (.members done (some k) :: stack) _ h.1, hclosed, List.reverse_cons]
    rfl
  | (k, a) :: m :: members =>
    have hmembers := assemble_membersTokens (m :: members) (List.cons_ne_nil _ _)
      ((some k, .ofJson a) :: done) stack rest hdepth h.2
    simp only [membersTokens, List.cons_append, List.append_assoc, assemble_cons, advance,
      Option.bind_some, assemble_tokens a (.members done (some k) :: stack) _ h.1, hmembers,
      List.reverse_cons]
    rfl

end

end PortGraph.Json

namespace PortGraph

/-- **An indented text is read as the value it was written from.** -/
theorem Written.ofText?_pretty {a : Json} (h : a.IsLegible Json.nestingLimit) :
    Written.ofText? a.pretty = some (.ofJson a) := by
  have hend : Json.Ends [] := nofun
  have htokens : Json.Token.ofChars? (a.prettyChars 0) = some a.tokens := by
    have hchars := Json.ofChars?_prettyChars 0 a h hend
    rwa [List.append_nil, Json.Token.ofChars?_nil, Option.map_some, List.append_nil] at hchars
  have hassemble := Json.assemble_tokens a [] [] h
  rw [List.append_nil] at hassemble
  rw [ofText?, Json.pretty, String.toList_ofList, htokens]
  exact hassemble

end PortGraph
