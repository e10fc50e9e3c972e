import PortGraph.Blake3
import PortGraph.Json.Printer

/-!
# Cache keys

The key under which the outputs of a node are remembered: a digest of the node's type, its bound
inputs and its configuration as written. The three are framed by zero bytes. A type may hold a zero
byte, the JSON texts after it never do, so the frame can be undone from the right.

## Main definitions

* `CacheKey.text`: the text that is digested
* `CacheKey.bytes`: its UTF-8 bytes
* `CacheKey.digest`: the digest that is used
-/

namespace PortGraph.CacheKey

/-- The character of code zero, which frames the parts. -/
def frame : Char := Char.ofNat 0

/-- The type, the inputs and the configuration of an invocation, as one text. -/
def text (type : String) (inputs config : Fields) : List Char :=
  type.toList ++ frame :: (Json.ofFields inputs).chars ++ frame :: (Json.ofFields config).chars

/-- The bytes of that text. -/
def bytes (type : String) (inputs config : Fields) : List UInt8 :=
  (String.ofList (text type inputs config)).toUTF8.data.toList

/-- The digest under which outputs are remembered. -/
def digest (bytes : List UInt8) : String := Blake3.hex bytes

end PortGraph.CacheKey
