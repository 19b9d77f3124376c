/-
Paths of files: names between slashes. A path is kept as it was written. Empty names and single dots
lead nowhere, so they are passed over when a path is taken apart, but not in the text of what is
left.
-/

import LogForwarder.Document.Codec
import LogForwarder.Text.Cut

namespace LogForwarder

/-- A path as it was written. -/
structure FilePath where
  text : String
  deriving DecidableEq, Inhabited

namespace FilePath

/-- The directory that a program works in. -/
def here : FilePath := ⟨"."⟩

/-- Whether a path starts at the root, so that it leads to the same place from everywhere. -/
def isAbsolute (path : FilePath) : Bool := path.text.toList.head? = some '/'

/-- A path as seen from the directory `base`. -/
def join (base path : FilePath) : FilePath :=
  if path.isAbsolute then path
  else if base.text.isEmpty || base.text.toList.getLast? = some '/' then ⟨base.text ++ path.text⟩
  else ⟨base.text ++ "/" ++ path.text⟩

/-! ### Names -/

/-- Whether a name leads nowhere. -/
def isIdle (name : List Char) : Bool := name = [] || name = ['.']

/--
Where the names of a path start: at the root, at a dot that is written in front, or without a mark.
-/
def start (path : FilePath) : List Char :=
  match path.text.toList with
  | '/' :: _ => ['/']
  | ['.'] => ['.']
  | '.' :: '/' :: _ => ['.']
  | _ => []

/-- All names of a path after its start, the idle ones among them. -/
def names (path : FilePath) : List (List Char) :=
  Text.splitOn (· = '/') (path.text.toList.drop path.start.length)

/-- The names of a path without the idle ones at its end. -/
def withoutIdleEnd (names : List (List Char)) : List (List Char) :=
  (names.reverse.dropWhile isIdle).reverse

/-- The path of some names after a start. -/
def ofNames (start : List Char) (names : List (List Char)) : FilePath :=
  ⟨String.ofList (start ++ ['/'].intercalate names)⟩

/-- The path of the directory that a path leads to a name in. The root is in no directory. -/
def parent? (path : FilePath) : Option FilePath :=
  match (withoutIdleEnd path.names).reverse with
  | _ :: earlier => some (ofNames path.start (withoutIdleEnd earlier.reverse))
  | [] => if path.start = ['.'] then some ⟨""⟩ else none

/-- The path of the directory that a path leads to a name in, if it has to be looked for. -/
def folder? (path : FilePath) : Option FilePath := path.parent?.filter (!·.text.isEmpty)

/-- The paths to each of some names after a start, given from the last one to the first. -/
def prefixesTo (start : List Char) : List (List Char) → List FilePath
  | [] => if start = ['.'] then [here] else []
  | name :: earlier =>
    if isIdle name then prefixesTo start earlier
    else ofNames start (name :: earlier).reverse :: prefixesTo start earlier

/-- A path and the paths of the directories on the way to it, from the inner to the outer ones. -/
def ancestors (path : FilePath) : List FilePath := prefixesTo path.start path.names.reverse

/-- The name at the end of a path. -/
def fileName? (path : FilePath) : Option String :=
  match (withoutIdleEnd path.names).getLast? with
  | some name => if name = ['.', '.'] then none else some (String.ofList name)
  | none => none

/--
What follows the last dot in the name at the end of a path, if something comes before that dot.
-/
def extension? (path : FilePath) : Option String := do
  let name ← path.fileName?
  let reversed := name.toList.reverse
  match reversed.dropWhile (· ≠ '.') with
  | '.' :: _ :: _ => return String.ofList (reversed.takeWhile (· ≠ '.')).reverse
  | _ => none

/-- Paths are written as texts. -/
def codec : Codec FilePath :=
  ⟨fun path => .text path.text, fun medium document => return ⟨← decodePath medium document⟩⟩

end FilePath

end LogForwarder
