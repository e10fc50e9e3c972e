import PortGraph.Pattern.Parser
import PortGraph.Text.Blank
import PortGraph.Text.Lowercase
import PortGraph.Text.Split

/-!
# The log

What a command tells beside its output, and which of it is shown. A filter is a list of levels, each
for the sources whose name begins with a given text; the longest such text decides. A filter may also
ask for a pattern that is to be met in the messages.

## Main definitions

* `Log.Level`, `Log.Record`
* `Log.Filter`: what is shown, with `Log.Filter.ofText` and `Log.Filter.shows`
-/

namespace PortGraph.Log

/-- How much a message matters. -/
inductive Level where
  | error
  | warn
  | info
deriving DecidableEq, Inhabited

namespace Level

/-- The name of a level. -/
def name : Level → String
  | .error => "ERROR"
  | .warn => "WARN"
  | .info => "INFO"

/-- The place of a level among the levels, those that matter most first. -/
def rank : Level → Nat
  | .error => 1
  | .warn => 2
  | .info => 3

end Level

/-- A message, with the part of the program that it comes from. -/
structure Record where
  level : Level
  source : String
  message : String
deriving DecidableEq, Inhabited

/-! ### Filters -/

/-- Messages from sources that begin with a text are shown up to a rank. -/
structure Rule where
  source : String
  rank : Nat
deriving DecidableEq, Inhabited

/-- What is shown. -/
structure Filter where
  rules : List Rule
  /-- The pattern that is to be met in a message. -/
  pattern? : Option Pattern
deriving DecidableEq, Inhabited

namespace Filter

/-- The rank up to which a level shows messages. -/
def rank? (s : String) : Option Nat :=
  match Text.lowercaseAscii s with
  | "off" => some 0
  | "error" => some 1
  | "warn" => some 2
  | "info" => some 3
  | "debug" => some 4
  | "trace" => some 5
  | _ => none

/-- The filter that is used if none is given. -/
def standard : Filter := ⟨[⟨"", 3⟩], none⟩

/-- The parts of a text between separators. -/
def pieces (separator : Char) (s : String) : List String :=
  (Text.split (· = separator) s.toList).map String.ofList

/-- A rule: a level, a source, or a source and a level. A rule that is none of these is left out. -/
def rule? (s : String) : Option Rule :=
  match pieces '=' s with
  | [only] =>
    match rank? only with
    | some n => some ⟨"", n⟩
    | none => some ⟨only, 5⟩
  | [source, level] =>
    if Text.trim level = "" then some ⟨source, 5⟩
    else (rank? (Text.trim level)).map (⟨source, ·⟩)
  | _ => none

/-- The rules with another one, which takes the place of one for the same source. -/
def addRule (rules : List Rule) (r : Rule) : List Rule :=
  if rules.any (·.source = r.source) then rules.map fun q => if q.source = r.source then r else q
  else rules ++ [r]

/-- Read a filter: rules with commas between them, and after a slash a pattern, which is left out if
it is none. Without a rule only errors are shown. -/
def ofText (s : String) : Filter :=
  let (rules, pattern?) : List Rule × Option Pattern := match pieces '/' s with
    | [rules] => (read rules, none)
    | [rules, pattern] => (read rules, Pattern.ofText? pattern)
    | _ => ([], none)
  ⟨if rules.isEmpty then [⟨"", 1⟩] else rules, pattern?⟩
where
  /-- The rules between commas. -/
  read (s : String) : List Rule :=
    (((pieces ',' s).map Text.trim).filter (· ≠ "")).filterMap rule? |>.foldl addRule []

/-- The rule with the longest text that a source begins with. -/
def decide? (f : Filter) (source : String) : Option Rule :=
  f.rules.foldl (fun best r =>
    if r.source.toList.isPrefixOf source.toList then
      match best with
      | some b => if r.source.utf8ByteSize < b.source.utf8ByteSize then best else some r
      | none => some r
    else best) none

/-- Whether a message is shown. -/
def shows (f : Filter) (r : Record) : Bool :=
  (match f.decide? r.source with
    | some rule => r.level.rank ≤ rule.rank
    | none => false) && f.pattern?.all (·.occursIn r.message.toList)

end Filter

end PortGraph.Log
