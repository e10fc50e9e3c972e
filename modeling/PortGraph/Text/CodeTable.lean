import PortGraph.Number.Hex
import PortGraph.Text.Split

/-!
# Tables of code points

Properties of characters are kept as text: words between blanks, all numbers hexadecimal.

A set of code points is a list of single ones and of ranges such as `300-36F`. A replacement of code
points is a list of runs. `FB01=66.69` replaces one code point by two; `2170=69,69.69` two successive
ones, each by its own; `41-5A=61` every code point of a range by the one as far behind `61`; and
`100-12E/2=101` every second one.

## Main definitions

* `CodeTable.ranges`: a set, with `CodeTable.contains`
* `CodeTable.runs`: a replacement, with `CodeTable.image?` and its inverse `CodeTable.source?`
-/

namespace PortGraph.CodeTable

/-- The value of hexadecimal digits. -/
def number (cs : List Char) : Nat := (Hex.number? cs).getD 0

/-- The numbers with a separator between them. -/
def numbers (separator : Char) (cs : List Char) : List Nat :=
  (Text.split (· = separator) cs).map number

/-! ### Sets -/

/-- The first and the last code point of a range. -/
def range (word : List Char) : Nat × Nat :=
  match numbers '-' word with
  | [first, last] => (first, last)
  | ns => (ns.headD 0, ns.headD 0)

/-- The ranges that a text spells. -/
def ranges (text : String) : Array (Nat × Nat) := ((Text.words text).map range).toArray

/-- Whether a code point lies in one of the ranges. -/
def contains (ranges : Array (Nat × Nat)) (n : Nat) : Bool :=
  ranges.any fun r => r.1 ≤ n && n ≤ r.2

/-! ### Replacements -/

/-- Every `stride`-th code point from `first` to `last`, and what the first of them becomes. The
others become what is as far behind. -/
structure Run where
  first : Nat
  last : Nat
  stride : Nat
  image : List Nat
deriving DecidableEq, Inhabited

/-- The runs of a word. -/
def runsOf (word : List Char) : List Run :=
  match Text.split (· = '=') word with
  | [sources, images] =>
    match Text.split (fun c => c = '-' || c = '/') sources with
    | [first] =>
      (Text.split (· = ',') images).zipIdx.map fun (image, i) =>
        ⟨number first + i, number first + i, 1, numbers '.' image⟩
    | [first, last] => [⟨number first, number last, 1, [number images]⟩]
    | [first, last, stride] => [⟨number first, number last, number stride, [number images]⟩]
    | _ => []
  | _ => []

/-- The runs that a text spells. -/
def runs (text : String) : Array Run := ((Text.words text).flatMap runsOf).toArray

/-- What a code point becomes, if it is replaced. -/
def image? (runs : Array Run) (n : Nat) : Option (List Nat) :=
  (runs.find? fun r => r.first ≤ n && n ≤ r.last && (n - r.first) % r.stride = 0).map fun r =>
    r.image.map (· + (n - r.first))

/-- The code point of a run on its own that becomes the given ones. -/
def source? (runs : Array Run) (image : List Nat) : Option Nat :=
  (runs.find? (·.image = image)).map (·.first)

example : ranges "41-5A 5F" = #[(0x41, 0x5A), (0x5F, 0x5F)] := by decide +kernel

example : (runs "41-5A=61 FB01=66.69,66.6C 100-12E/2=101").toList.length = 4 := by decide +kernel

example : image? (runs "41-5A=61 100-12E/2=101") 0x42 = some [0x62] := by decide +kernel

example : image? (runs "41-5A=61 100-12E/2=101") 0x103 = none := by decide +kernel

example : source? (runs "C0=41.300,41.301") [0x41, 0x301] = some 0xC1 := by decide +kernel

end PortGraph.CodeTable
