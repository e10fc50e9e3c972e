/-!
# Cutting text

## Main definitions

* `Text.split`: the parts of a text between separators
* `Text.words`: the parts between blanks
-/

namespace PortGraph.Text

/-- The parts between separators, at least one, of which each may be empty. -/
def split (isSeparator : Char → Bool) : List Char → List (List Char)
  | [] => [[]]
  | c :: rest =>
    if isSeparator c then [] :: split isSeparator rest
    else
      match split isSeparator rest with
      | [] => [[c]]
      | part :: parts => (c :: part) :: parts

/-- The words of a text, with spaces and line ends between them. -/
def words (s : String) : List (List Char) :=
  (split (fun c => c = ' ' || c = '\n') s.toList).filter (!·.isEmpty)

end PortGraph.Text
