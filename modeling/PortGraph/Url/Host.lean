import PortGraph.Url.Name
import PortGraph.Url.Percent

/-!
# Hosts

The host of an address: a domain name, an IPv4 address, in any of its shorter forms, or an IPv6
address in brackets. A name whose last label is a number is an IPv4 address or nothing. Schemes
without a meaning of their own may have any text for a host.

## Main definitions

* `Host`: the hosts, with `Host.chars`
* `Host.ofChars?`: the host of a scheme that knows domains
* `Host.ofPlain?`: the host of any other scheme
-/

namespace PortGraph

/-- The host of an address. -/
inductive Host where
  | domain (name : List Char)
  | v4 (address : Nat)
  | v6 (pieces : List Nat)
deriving DecidableEq, Inhabited

namespace Host

/-! ### IPv4 -/

/-- The number that digits of a base stand for, if they all are such digits. -/
def number? (base : Nat) (cs : List Char) : Option Nat :=
  cs.foldl (fun n? c => n?.bind fun n =>
    ((Hex.value? c).filter (· < base)).map (base * n + ·)) (some 0)

/-- A part of an IPv4 address: decimal, octal after a zero, or hexadecimal after `0x`. -/
def part? : List Char → Option Nat
  | [] => none
  | '0' :: 'x' :: digits | '0' :: 'X' :: digits => number? 16 digits
  | '0' :: d :: digits => number? 8 (d :: digits)
  | digits => number? 10 digits

/-- The labels of a name, without the empty one after a closing dot. -/
def labels (name : List Char) : List (List Char) :=
  let all := Text.split (· = '.') name
  if all.getLast? = some [] then all.dropLast else all

/-- Whether the last label of a name is a number. -/
def endsInNumber (name : List Char) : Bool :=
  match (labels name).getLast? with
  | some label =>
    !label.isEmpty && (label.all (fun c => '0' ≤ c && c ≤ '9') || (part? label).isSome)
  | none => false

/-- The IPv4 address of a name. All parts but the last are bytes, and the last one fills the rest. -/
def v4? (name : List Char) : Option Nat := do
  let parts ← (labels name).mapM part?
  let last ← parts.getLast?
  let bytes := parts.dropLast
  if bytes.length ≤ 3 ∧ bytes.all (· < 256) ∧ last < Nat.pow 256 (4 - bytes.length) then
    some (bytes.foldl (fun n b => 256 * n + b) 0 * Nat.pow 256 (4 - bytes.length) + last)
  else none

/-! ### IPv6 -/

/-- A piece of an IPv6 address: one to four hexadecimal digits. -/
def piece? (cs : List Char) : Option Nat :=
  if 1 ≤ cs.length ∧ cs.length ≤ 4 then number? 16 cs else none

/-- A byte in decimal without leading zeros. -/
def byte? (cs : List Char) : Option Nat :=
  if cs.isEmpty || (cs.head? = some '0' && cs ≠ ['0']) then none
  else (number? 10 cs).filter (· < 256)

/-- The last pieces of an IPv6 address: one, or two written as four bytes. -/
def lastPieces? (cs : List Char) : Option (List Nat) :=
  if '.' ∈ cs then
    match (Text.split (· = '.') cs).mapM byte? with
    | some [a, b, c, d] => some [256 * a + b, 256 * c + d]
    | _ => none
  else (piece? cs).map fun p => [p]

/-- Pieces with colons between them, maybe none; only the last ones may be written as bytes. -/
def pieces? (isLast : Bool) (cs : List Char) : Option (List Nat) :=
  if cs.isEmpty then some []
  else do
    let parts := Text.split (· = ':') cs
    let front ← parts.dropLast.mapM piece?
    let last ← parts.getLast?
    return front ++ (← if isLast then lastPieces? last else (piece? last).map fun p => [p])

/-- The characters before and after the first two colons in a row. -/
def cutDouble? : List Char → Option (List Char × List Char)
  | ':' :: ':' :: rest => some ([], rest)
  | c :: rest => (cutDouble? rest).map fun r => (c :: r.1, r.2)
  | [] => none

/-- An IPv6 address: eight pieces, a run of zeros among them maybe left out. -/
def v6? (cs : List Char) : Option (List Nat) :=
  match cutDouble? cs with
  | some (before, after) => do
    let front ← pieces? false before
    let back ← pieces? true after
    let given := front.length + back.length
    if 8 ≤ given then none else some (front ++ List.replicate (8 - given) 0 ++ back)
  | none => (pieces? true cs).filter (·.length = 8)

/-! ### Names -/

/-- Characters no host holds. -/
def isForbiddenAnywhere (c : Char) : Bool :=
  c.toNat = 0 || c ∈ ['\t', '\n', '\r', ' ', '#', '/', ':', '<', '>', '?', '@', '[', '\\', ']', '^', '|']

/-- The address between brackets. -/
def bracketed? (cs : List Char) : Option Host :=
  if cs.getLast? = some ']' then (v6? cs.dropLast).map .v6 else none

/-- The host of a scheme that knows domains. -/
def ofChars? : List Char → Option Host
  | '[' :: rest => bracketed? rest
  | cs => do
    let name ← Name.ofChars? (← Percent.decodeText? cs).toList
    if name.isEmpty then none
    else if endsInNumber name then (v4? name).map .v4
    else some (.domain name)

/-- The host of any other scheme. -/
def ofPlain? : List Char → Option Host
  | '[' :: rest => bracketed? rest
  | cs =>
    if cs.any isForbiddenAnywhere then none else some (.domain (Percent.encode Percent.controls cs))

/-! ### Writing -/

/-- The four bytes of an IPv4 address with dots between them. -/
def v4Chars (n : Nat) : List Char :=
  List.intercalate ['.'] ([n / 16777216, n / 65536 % 256, n / 256 % 256, n % 256].map (Nat.toDigits 10))

/-- How many zeros a list begins with. -/
def zeros (l : List Nat) : Nat := (l.takeWhile (· = 0)).length

/-- Where the first of the longest runs of zeros begins, and how long it is. -/
def longestZeros (pieces : List Nat) : Nat × Nat :=
  (List.range pieces.length).foldl (fun best i =>
    let n := zeros (pieces.drop i)
    if best.2 < n then (i, n) else best) (0, 0)

/-- Pieces in hexadecimal with colons between them. -/
def pieceChars (pieces : List Nat) : List Char :=
  List.intercalate [':'] (pieces.map (Nat.toDigits 16))

/-- The pieces of an IPv6 address, the longest run of at least two zeros left out. -/
def v6Chars (pieces : List Nat) : List Char :=
  let (start, length) := longestZeros pieces
  if 2 ≤ length then
    pieceChars (pieces.take start) ++ [':', ':'] ++ pieceChars (pieces.drop (start + length))
  else pieceChars pieces

/-- A host as it is written. -/
def chars : Host → List Char
  | .domain name => name
  | .v4 n => v4Chars n
  | .v6 pieces => '[' :: v6Chars pieces ++ [']']

end Host

end PortGraph
