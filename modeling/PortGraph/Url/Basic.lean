import PortGraph.Url.Host

/-!
# Addresses

Absolute addresses: reading them leniently and writing them in the one form that all spellings of an
address share. Blanks around an address are dropped, and so are tabs and line ends within. Six schemes
are special: they have a host, take a backslash for a slash, and leave out their default port. The
path of any other scheme is plain text unless it begins with a slash.

## Main definitions

* `Url`: the parts of an address, with `Url.display`
* `Url.ofText?`: the address that a text spells
-/

namespace PortGraph

/-- The path of an address: plain text, or segments. -/
inductive Url.Path where
  | plain (chars : List Char)
  | segments (list : List (List Char))
deriving DecidableEq, Inhabited

/-- The parts of an address, encoded where needed. -/
structure Url where
  scheme : String
  user : List Char := []
  password? : Option (List Char) := none
  /-- The host; an empty name where there is a place for a host and nothing in it. -/
  host? : Option Host := none
  portNumber? : Option Nat := none
  path : Url.Path
  query? : Option (List Char) := none
  fragment? : Option (List Char) := none
deriving DecidableEq, Inhabited

namespace Url

/-! ### Schemes -/

/-- The special schemes with their default port numbers. -/
def specialSchemes : List (String × Option Nat) :=
  [("ftp", some 21), ("file", none), ("http", some 80), ("https", some 443), ("ws", some 80),
    ("wss", some 443)]

/-- Whether a scheme is special. -/
def isSpecial (scheme : String) : Bool := specialSchemes.any (·.1 = scheme)

/-- The port number that a scheme leaves out. -/
def defaultPort? (scheme : String) : Option Nat :=
  (specialSchemes.find? (·.1 = scheme)).bind (·.2)

/-- The scheme, in lowercase, and what follows the colon. -/
def cutScheme? (cs : List Char) : Option (String × List Char) :=
  let isPart (c : Char) : Bool := c.isAlphanum || c ∈ ['+', '-', '.']
  match cs.takeWhile isPart, cs.dropWhile isPart with
  | first :: more, ':' :: rest =>
    if first.isAlpha then some (String.ofList ((first :: more).map Char.toLower), rest) else none
  | _, _ => none

/-! ### Authority -/

/-- Whether a character ends the part of an address that names the host. -/
def endsAuthority (special : Bool) (c : Char) : Bool :=
  c ∈ ['/', '?', '#'] || (special && c = '\\')

/-- What stands before the last `@` and after it. -/
def cutUserinfo (cs : List Char) : Option (List Char × List Char) :=
  if '@' ∈ cs then
    let after := cs.reverse.takeWhile (· ≠ '@')
    some (cs.take (cs.length - after.length - 1), after.reverse)
  else none

/-- The host and what follows it: the end, or a colon that is not within brackets. -/
def cutHost : Bool → List Char → List Char × List Char
  | _, [] => ([], [])
  | inside, c :: rest =>
    if c = ':' && !inside then ([], c :: rest)
    else
      let inside := c = '[' || (inside && c ≠ ']')
      let (host, rest) := cutHost inside rest
      (c :: host, rest)

/-- The port number after a colon, `none` for none. -/
def port? (cs : List Char) : Option (Option Nat) :=
  if cs.isEmpty then some none
  else ((Host.number? 10 cs).filter (· < UInt16.size)).map some

/-- The name and the password of a user; an empty password is none. -/
def userOf (cs : List Char) : List Char × Option (List Char) :=
  let password := (cs.dropWhile (· ≠ ':')).drop 1
  (Percent.encode Percent.userinfo (cs.takeWhile (· ≠ ':')),
    if password.isEmpty then none else some (Percent.encode Percent.userinfo password))

/-- The address with the part that names its user, host and port. A special scheme needs a host, and
so does a user or a port. -/
def withAuthority? (u : Url) (cs : List Char) : Option Url := do
  let special := isSpecial u.scheme
  let (userinfo?, cs) := match cutUserinfo cs with
    | some (userinfo, rest) => (some userinfo, rest)
    | none => (none, cs)
  let (user, password?) := userOf (userinfo?.getD [])
  let (host, rest) := cutHost false cs
  if host.isEmpty then
    if special || userinfo? = some [] || !user.isEmpty || password?.isSome || !rest.isEmpty then none
    else some { u with host? := some (.domain []) }
  else
    let host ← if special then Host.ofChars? host else Host.ofPlain? host
    let port? ← port? (rest.drop 1)
    some { u with
      user := user, password? := password?, host? := some host
      portNumber? := if port? = defaultPort? u.scheme then none else port? }

/-- The host of a file, which is left out if it is this machine. -/
def fileHost? (cs : List Char) : Option Host :=
  if cs.isEmpty then some (.domain [])
  else (Host.ofChars? cs).map fun h => if h.chars = "localhost".toList then .domain [] else h

/-! ### Path -/

/-- The segment with its encoded dots decoded, to compare. -/
def dots : List Char → List Char
  | '%' :: '2' :: 'e' :: rest | '%' :: '2' :: 'E' :: rest => '.' :: dots rest
  | c :: rest => c :: dots rest
  | [] => []

/-- Whether a segment is a drive: a letter with a colon or a bar, and nothing else before the next
slash, be it a backslash. -/
def isDrive : List Char → Bool
  | letter :: mark :: rest =>
    letter.isAlpha && (mark = ':' || mark = '|') && (rest.isEmpty || rest.head? = some '\\')
  | _ => false

/-- Go back one segment, but not out of a drive. -/
def leave (done : List (List Char)) : List (List Char) :=
  if done.getLast?.any isDrive then done else done.dropLast

/-- The segments after another one; a segment of one dot stays, one of two dots goes back. -/
def addSegment (done : List (List Char)) (segment : List Char) (isLast : Bool) : List (List Char) :=
  if dots segment = ['.', '.'] then leave done ++ (if isLast then [[]] else [])
  else if dots segment = ['.'] then done ++ (if isLast then [[]] else [])
  else done ++ [Percent.encode Percent.path segment]

/-- The segments after all of a list. -/
def addSegments (done : List (List Char)) : List (List Char) → List (List Char)
  | [] => done
  | segment :: rest => addSegments (addSegment done segment rest.isEmpty) rest

/-- The segments that a path without its first slash spells. -/
def segmentsOf (special : Bool) (cs : List Char) : List (List Char) :=
  addSegments [] (Text.split (fun c => c = '/' || (special && c = '\\')) cs)

/-- The path after a host, with or without its first slash. -/
def pathOf (special : Bool) : List Char → List (List Char)
  | [] => if special then [[]] else []
  | c :: rest =>
    if c = '/' || (special && c = '\\') then segmentsOf special rest else segmentsOf special (c :: rest)

/-! ### Files -/

/-- Whether segments, those of a list coming after `done`, go through a drive at the root. -/
def throughDrive (done : List (List Char)) : List (List Char) → Bool
  | [] => false
  | segment :: rest =>
    (done.isEmpty && isDrive segment && segment.getLast? = some ':') ||
      throughDrive (addSegment done segment rest.isEmpty) rest

/-- The address of a file, given the path without its first slash. Of the first segments none is
empty, and what lies on a drive has no host. -/
def fileOf (host : Host) (cs : List Char) : Url :=
  let spelled := Text.split (fun c => c = '/' || c = '\\') cs
  let segments := (addSegments [] spelled).dropWhile (·.isEmpty)
  { scheme := "file"
    host? := some (if throughDrive [] spelled then .domain [] else host)
    path := .segments (if segments.isEmpty then [[]] else segments) }

/-- What follows the scheme of a file. A drive is never a host. -/
def ofFile? (cs : List Char) : Option Url :=
  let isSlash (c : Char) : Bool := c = '/' || c = '\\'
  match cs with
  | [] => some (fileOf (.domain []) [])
  | a :: rest =>
    if isSlash a then
      match rest with
      | [] => some (fileOf (.domain []) [])
      | b :: rest' =>
        if isSlash b then
          let host := rest'.takeWhile (!isSlash ·)
          if isDrive host then some (fileOf (.domain []) rest')
          else (fileHost? host).map fun h => fileOf h ((rest'.dropWhile (!isSlash ·)).drop 1)
        else some (fileOf (.domain []) rest)
    else some (fileOf (.domain []) cs)

/-! ### The whole -/

/-- The query and the fragment. -/
def withTail (u : Url) (cs : List Char) : Url :=
  let encode (set : Char → Bool) : List Char → Option (List Char)
    | [] => none
    | _ :: rest => some (Percent.encode set rest)
  let query := cs.takeWhile (· ≠ '#')
  { u with
    query? := encode (Percent.query (isSpecial u.scheme)) query
    fragment? := encode Percent.fragment (cs.dropWhile (· ≠ '#')) }

/-- What follows the scheme, up to a query or fragment. -/
def ofRest? (scheme : String) (cs : List Char) : Option Url :=
  let special := isSpecial scheme
  let ofAuthority? (cs : List Char) : Option Url :=
    let rest := cs.dropWhile (!endsAuthority special ·)
    Url.withAuthority? { scheme := scheme, path := .segments (pathOf special rest) }
      (cs.takeWhile (!endsAuthority special ·))
  if scheme = "file" then ofFile? cs
  else if special then ofAuthority? (cs.dropWhile fun c => c = '/' || c = '\\')
  else
    match cs with
    | '/' :: '/' :: rest => ofAuthority? rest
    | '/' :: rest => some { scheme := scheme, path := .segments (segmentsOf false rest) }
    | _ => some { scheme := scheme, path := .plain (Percent.encode Percent.controls cs) }

/-- The address that a text spells. -/
def ofText? (s : String) : Option Url := do
  let isBlank (c : Char) : Bool := c.toNat ≤ 0x20
  let cs := ((s.toList.dropWhile isBlank).reverse.dropWhile isBlank).reverse
  let (scheme, rest) ← cutScheme? (cs.filter (· ∉ ['\t', '\n', '\r']))
  let isTail (c : Char) : Bool := c = '?' || c = '#'
  let u ← ofRest? scheme (rest.takeWhile (!isTail ·))
  return u.withTail (rest.dropWhile (!isTail ·))

/-! ### Writing -/

/-- A path as it is written. A first segment that is empty gets a dot before it where it would else
be taken for a host. -/
def pathChars (hasPlace : Bool) : Path → List Char
  | .plain cs => cs
  | .segments list =>
    (if !hasPlace && list.head? = some [] && 2 ≤ list.length then ['/', '.'] else []) ++
      list.flatMap ('/' :: ·)

/-- User, host and port as they are written. -/
def authorityChars (u : Url) : List Char :=
  match u.host? with
  | none => []
  | some h =>
    let password := (u.password?.map (':' :: ·)).getD []
    ['/', '/'] ++ u.user ++ password ++ (if u.user.isEmpty && password.isEmpty then [] else ['@']) ++
      h.chars ++ (u.portNumber?.map fun n => ':' :: Nat.toDigits 10 n).getD []

/-- An address as it is written. -/
def display (u : Url) : String :=
  String.ofList (u.scheme.toList ++ [':'] ++ u.authorityChars ++ pathChars u.host?.isSome u.path ++
    (u.query?.map ('?' :: ·)).getD [] ++ (u.fragment?.map ('#' :: ·)).getD [])

/-- Whether there is a host. -/
def hasHost (u : Url) : Bool :=
  match u.host? with
  | some h => !h.chars.isEmpty
  | none => false

/-- The address without its user, whose name and password go with the request. A name that is not
text stays, and so does a password that is not, if there is no name. -/
def withoutUser (u : Url) : Url :=
  match Percent.decodeText? u.user with
  | some name =>
    if !name.isEmpty || (u.password?.bind Percent.decodeText?).isSome then
      { u with user := [], password? := none }
    else u
  | none => u

end Url

end PortGraph
