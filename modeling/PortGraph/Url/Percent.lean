import PortGraph.Number.Hex

/-!
# Percent encoding

Characters that an address cannot hold as they are stand as their UTF-8 bytes, each byte as a percent
sign and two hexadecimal digits. Which characters these are depends on the part of the address; no
part holds a control character or one beyond ASCII.

## Main definitions

* `Percent.controls`, `fragment`, `query`, `path`, `userinfo`: what is encoded where
* `Percent.encode`: encoding
* `Percent.decode`: the bytes behind an encoded text
-/

namespace PortGraph.Percent

/-! ### What is encoded -/

/-- Characters encoded everywhere. -/
def controls (c : Char) : Bool := c.toNat < 0x20 || 0x7F ≤ c.toNat

/-- Characters encoded in a fragment. -/
def fragment (c : Char) : Bool := controls c || c ∈ [' ', '"', '<', '>', Char.ofNat 0x60]

/-- Characters encoded in a query. -/
def query (special : Bool) (c : Char) : Bool :=
  controls c || c ∈ [' ', '"', '#', '<', '>'] || (special && c.toNat = 0x27)

/-- Characters encoded in a path. -/
def path (c : Char) : Bool :=
  fragment c || c ∈ ['#', '?', Char.ofNat 0x7B, Char.ofNat 0x7D]

/-- Characters encoded in the name and the password of a user. -/
def userinfo (c : Char) : Bool :=
  path c || c ∈ ['/', ':', ';', '=', '@', '[', '\\', ']', '^', '|']

/-! ### Encoding and decoding -/

/-- A byte as a percent sign and two digits. -/
def ofByte (b : UInt8) : List Char := ['%', Hex.digit (b.toNat / 16), Hex.digit (b.toNat % 16)]

/-- The UTF-8 bytes of characters. -/
def bytes (cs : List Char) : List UInt8 := (String.ofList cs).toUTF8.toList

/-- Characters with those of a set encoded. -/
def encode (set : Char → Bool) (cs : List Char) : List Char :=
  cs.flatMap fun c => if set c then (bytes [c]).flatMap ofByte else [c]

/-- The bytes behind encoded characters. A percent sign without two digits stands for itself. -/
def decode : List Char → List UInt8
  | [] => []
  | '%' :: a :: b :: rest =>
    match Hex.value? a, Hex.value? b with
    | some x, some y => UInt8.ofNat (16 * x + y) :: decode rest
    | _, _ => UInt8.ofNat '%'.toNat :: decode (a :: b :: rest)
  | c :: rest => bytes [c] ++ decode rest

/-- The text behind encoded characters, if their bytes are UTF-8. -/
def decodeText? (cs : List Char) : Option String := String.fromUTF8? (decode cs).toByteArray

end PortGraph.Percent
