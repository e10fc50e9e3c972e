import PortGraph.Text.Split

/-!
# Files

The files that a command can read, by the path it gives: relative to a working directory, with dots
and repeated slashes allowed. Outside of the working directory nothing can be read. A name has at most
255 bytes, and a path at most 4095.

## Main definitions

* `ReadError`: why a file cannot be read
* `Directory`: a working directory, with `Directory.read`
* `stem`: the name of a file without its ending
-/

namespace PortGraph

/-- Why a file cannot be read. -/
inductive ReadError where
  | missing
  | isDirectory
  | notDirectory
  | nameTooLong
  | other (message : String)
deriving DecidableEq, Inhabited

/-- The message about a file that cannot be read. -/
def ReadError.message : ReadError → String
  | .missing => "No such file or directory (os error 2)"
  | .isDirectory => "Is a directory (os error 21)"
  | .notDirectory => "Not a directory (os error 20)"
  | .nameTooLong => "File name too long (os error 36)"
  | .other m => m

/-- The parts of a path between its slashes. -/
def pathParts (path : String) : List String :=
  (Text.split (· = '/') path.toList).map String.ofList

/-- The name of a file without its ending: what stands before the last dot, unless the dot is its
first character. -/
def stem (path : String) : String :=
  match ((pathParts path).filter fun p => p ≠ "" ∧ p ≠ ".").getLast? with
  | none | some ".." => "graph"
  | some name =>
    let ending := name.toList.reverse.takeWhile (· ≠ '.')
    let before := (name.toList.reverse.drop (ending.length + 1)).reverse
    if before.isEmpty then name else String.ofList before

/-- A working directory: the texts of the files below it, by path. -/
structure Directory where
  files : List (List String × String)

namespace Directory

/-- The directory with the given files. -/
def ofList (files : List (String × String)) : Directory :=
  ⟨files.map fun f => ((pathParts f.1).filter fun p => p ≠ "" ∧ p ≠ ".", f.2)⟩

/-- The text of a file. -/
def file? (d : Directory) (place : List String) : Option String :=
  (d.files.find? (·.1 = place)).map (·.2)

/-- Whether there is a directory at a place. -/
def isDirectory (d : Directory) (place : List String) : Bool :=
  place.isEmpty || d.files.any fun f => place.isPrefixOf f.1 && f.1 ≠ place

/-- The name of a part of a path that names something, if it is not too long. -/
def nameOf (part : String) : Except ReadError String :=
  if 255 < part.utf8ByteSize then .error .nameTooLong else .ok part

/-- Follow the parts of a path from a place; `none` is any directory around the working directory. -/
def follow (d : Directory) (place? : Option (List String)) :
    List String → Except ReadError (Option (List String))
  | [] => .ok place?
  | part :: rest =>
    match place? with
    | some place =>
      if !d.isDirectory place then
        .error (if (d.file? place).isSome then .notDirectory else .missing)
      else if part = "" || part = "." then d.follow place? rest
      else if part = ".." then d.follow (if place.isEmpty then none else some place.dropLast) rest
      else (nameOf part).bind fun name => d.follow (some (place ++ [name])) rest
    | none =>
      if part = "" || part = "." || part = ".." then d.follow none rest
      else (nameOf part).bind fun _ => .error .missing

/-- The text of the file at a place. -/
def textAt (d : Directory) : Option (List String) → Except ReadError String
  | none => .error .isDirectory
  | some place =>
    match d.file? place with
    | some text => .ok text
    | none => .error (if d.isDirectory place then .isDirectory else .missing)

/-- Read the file at a path. -/
def read (d : Directory) (path : String) : Except ReadError String :=
  if 4095 < path.utf8ByteSize then .error .nameTooLong
  else
    match pathParts path with
    | "" :: rest => (d.follow none rest).bind d.textAt
    | parts => (d.follow (some []) parts).bind d.textAt

end Directory

end PortGraph
