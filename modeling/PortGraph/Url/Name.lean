import PortGraph.Text.Split
import PortGraph.Url.Label

/-!
# Domain names

The one form in ASCII that all spellings of a domain name share: characters are replaced by the ones
they stand for, labels beyond ASCII are written in ASCII, and names that could be taken for others are
refused.

## Main definitions

* `Name.replaced?`: the characters after replacement
* `Name.ofChars?`: the name in ASCII
-/

namespace PortGraph.Name

/-- Characters that no name holds. -/
def isForbidden (c : Char) : Bool :=
  c.toNat ≤ 0x20 || c.toNat = 0x7F ||
    c ∈ ['#', '%', '/', ':', '<', '>', '?', '@', '[', '\\', ']', '^', '|']

/-- What becomes of a character of a name. -/
def replacement? (c : Char) : Option (List Char) :=
  if c.toNat < 0x80 then some [c.toLower]
  else
    match CodeTable.image? NameTable.replaced c.toNat with
    | some image => some (image.map Char.ofNat)
    | none =>
      if NameTable.isIgnored c then some []
      else if NameTable.isDisallowed c then none
      else some [c]

/-- The characters after replacement, composed. -/
def replaced? (cs : List Char) : Option (List Char) :=
  (cs.mapM replacement?).map fun images => Text.composed images.flatten

/-- The name in ASCII, if it is one. -/
def ofChars? (cs : List Char) : Option (List Char) := do
  let name ← replaced? cs
  let labels := Text.split (· = '.') name
  let spelled ← labels.mapM Label.ofWritten?
  let directed := (spelled.any (·.any Label.isDirecting))
  if name.any isForbidden || !spelled.all Label.isSound || (directed && !spelled.all Label.isDirected)
  then none
  else
    let written ← labels.mapM Label.written?
    return List.intercalate ['.'] written

end PortGraph.Name
