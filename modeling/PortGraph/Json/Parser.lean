import PortGraph.Json.Token
import PortGraph.Json.Written

/-!
# Reading JSON text

Tokens are put together with an explicit stack of the arrays and objects still open, one token at
a time, so a text of any depth is read in one pass. An array or object that lies inside more than
`nestingLimit` others can be skipped but not kept.

## Main definitions

* `Written.ofText?`: the document a text is written as
* `Json.ofText?`: the value of a text
-/

namespace PortGraph.Json

/-- How many levels of arrays and objects a kept value may have, the outermost included. -/
def nestingLimit : Nat := 127

/-- An array or object still open: what it holds so far, last first, and for an object the name
whose value is being read. -/
inductive Frame where
  | items (done : List Written)
  | members (done : List (Option String × Written)) (name : Option String)

/-- What may come next. -/
inductive Stage where
  | value
  | itemOrEnd
  | nameOrEnd
  | name
  | colon
  | after (ended : Written)

/-- A finished array or object inside `depth` others: kept only within the limit. -/
def closed (depth : Nat) (w : Written) : Written := if depth < nestingLimit then w else .unreadable

/-- What comes after the first token of a value. -/
def beginValue (stack : List Frame) : Token → Option (Stage × List Frame)
  | .openArray => some (.itemOrEnd, .items [] :: stack)
  | .openObject => some (.nameOrEnd, .members [] none :: stack)
  | .null => some (.after .null, stack)
  | .bool b => some (.after (.bool b), stack)
  | .num (some n) => some (.after (.num n), stack)
  | .num none => some (.after .unreadable, stack)
  | .str (some s) => some (.after (.str s), stack)
  | .str none => some (.after .unreadable, stack)
  | _ => none

/-- What comes after a token; `none` where the grammar has no such token. -/
def advance : Stage → List Frame → Token → Option (Stage × List Frame)
  | .value, stack, t => beginValue stack t
  | .itemOrEnd, .items done :: stack, .closeArray =>
    some (.after (closed stack.length (.arr done.reverse)), stack)
  | .itemOrEnd, stack, t => beginValue stack t
  | .nameOrEnd, .members done _ :: stack, .closeObject =>
    some (.after (closed stack.length (.obj done.reverse)), stack)
  | .nameOrEnd, .members done _ :: stack, .str s => some (.colon, .members done s :: stack)
  | .name, .members done _ :: stack, .str s => some (.colon, .members done s :: stack)
  | .colon, stack, .colon => some (.value, stack)
  | .after w, .items done :: stack, .comma => some (.value, .items (w :: done) :: stack)
  | .after w, .items done :: stack, .closeArray =>
    some (.after (closed stack.length (.arr (w :: done).reverse)), stack)
  | .after w, .members done name :: stack, .comma =>
    some (.name, .members ((name, w) :: done) none :: stack)
  | .after w, .members done name :: stack, .closeObject =>
    some (.after (closed stack.length (.obj ((name, w) :: done).reverse)), stack)
  | _, _, _ => none

/-- Read tokens to the end of the text, where exactly one value must have ended. -/
def assemble : Stage → List Frame → List Token → Option Written
  | .after w, [], [] => some w
  | _, _, [] => none
  | stage, stack, t :: rest =>
    match advance stage stack t with
    | some (stage, stack) => assemble stage stack rest
    | none => none

end PortGraph.Json

namespace PortGraph

/-- The document a text is written as. -/
def Written.ofText? (s : String) : Option Written :=
  match Json.Token.ofChars? s.toList with
  | some tokens => Json.assemble .value [] tokens
  | none => none

/-- The value of a text. -/
def Json.ofText? (s : String) : Option Json :=
  match Written.ofText? s with
  | some w => w.toJson?
  | none => none

end PortGraph
