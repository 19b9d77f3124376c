/-
Trees of files in memory. A tree says for every place what stands there; a path leads from the root
or from the working directory to a place, one name after the other, through directories only.
-/

import LogForwarder.Files.Basic

namespace LogForwarder

/-- What stands at a place of a tree. -/
inductive FileNode
  | file (bytes : ByteArray)
  | directory

instance : DecidableEq FileNode
  | .file first, .file second =>
    match ByteArray.instDecidableEq first second with
    | isTrue same => isTrue (congrArg FileNode.file same)
    | isFalse different => isFalse fun same => different (FileNode.file.inj same)
  | .directory, .directory => isTrue rfl
  | .file _, .directory => isFalse nofun
  | .directory, .file _ => isFalse nofun

/-- The names that lead from the root to a place. -/
abbrev Place := List String

/-- The text of a place. That of the root is empty. -/
def Place.text (place : Place) : String := String.join (place.map ("/" ++ ·))

/-- A tree of files, and the place in it that a program works in. -/
structure FileTree where
  nodes : Dictionary FileNode
  workingPlace : Place
  deriving DecidableEq

namespace FileTree

/-- The tree of an empty root. -/
def empty : FileTree := ⟨(∅ : Dictionary FileNode).insert (Place.text []) .directory, []⟩

instance : Inhabited FileTree := ⟨empty⟩

/-! ### Places -/

/-- What stands at a place. -/
def node? (tree : FileTree) (place : Place) : Option FileNode := tree.nodes.get? place.text

/-- The greatest number of bytes in a name. -/
def maxNameSize : Nat := 255

/-- The place that a name leads to from another place, which must be a directory. -/
def step (tree : FileTree) (place : Place) (name : String) : Except IoError Place :=
  match tree.node? place with
  | none => .error .notFound
  | some (.file _) => .error .notDirectory
  | some .directory =>
    if name = "" || name = "." then .ok place
    else if name = ".." then .ok place.dropLast
    else if maxNameSize < name.utf8ByteSize then .error .nameTooLong
    else .ok (place ++ [name])

/-- The greatest number of bytes in a path. -/
def maxPathSize : Nat := 4095

/-- The place that a path leads to. Nothing needs to stand there yet. -/
def locate (tree : FileTree) (path : FilePath) : Except IoError Place :=
  let chars := path.text.toList
  if chars.any (·.toNat = 0) then .error .nulInPath
  else if chars.isEmpty then .error .notFound
  else if maxPathSize < path.text.utf8ByteSize then .error .nameTooLong
  else
    ((Text.splitOn (· = '/') chars).map String.ofList).foldlM tree.step
      (if path.isAbsolute then [] else tree.workingPlace)

/-- What stands at the end of a path. -/
def find (tree : FileTree) (path : FilePath) : Except IoError FileNode := do
  match tree.node? (← tree.locate path) with
  | some node => return node
  | none => throw .notFound

/-- The place where a path would make something, which makes nothing of a slash at the end. -/
def locateNew (tree : FileTree) (path : FilePath) : Except IoError Place :=
  let bare := String.ofList (Text.dropWhileEnd (· = '/') path.text.toList)
  tree.locate (if bare.isEmpty then path else ⟨bare⟩)

/-- Whether a path ends in a slash or in dots, so that only a directory can stand there. -/
def endsAsDirectory (path : FilePath) : Bool :=
  match path.names.getLast? with
  | some name => FilePath.isIdle name || name = ['.', '.']
  | none => true

/-! ### Questions -/

/-- What stands at a path, if anything does. -/
def kind? (tree : FileTree) (path : FilePath) : Option FileKind :=
  match tree.find path with
  | .ok (.file _) => some .file
  | .ok .directory => some .directory
  | .error _ => none

/-- The bytes of a file. -/
def read (tree : FileTree) (path : FilePath) : Except IoError ByteArray := do
  match ← tree.find path with
  | .file bytes => return bytes
  | .directory => throw .isDirectory

/-- The names in the directory at a place. -/
def namesIn (tree : FileTree) (place : Place) : List String :=
  (tree.nodes.keys.filterMap (Text.afterStart? (place.text ++ "/"))).filter (!·.contains '/')

/-- The names in a directory. -/
def list (tree : FileTree) (path : FilePath) : Except IoError (List String) := do
  let place ← tree.locate path
  match tree.node? place with
  | some .directory => return tree.namesIn place
  | some (.file _) => throw .notDirectory
  | none => throw .notFound

/-! ### Changes -/

/-- A tree with something at a place. -/
def put (tree : FileTree) (place : Place) (node : FileNode) : FileTree :=
  { tree with nodes := tree.nodes.insert place.text node }

/-- A tree with one more directory. -/
def makeDirectory (tree : FileTree) (path : FilePath) : Except IoError FileTree := do
  let place ← tree.locateNew path
  match tree.node? place with
  | some _ => throw .alreadyExists
  | none => return tree.put place .directory

/--
A tree in which the bytes of a file are made from the ones before; a file that is missing has none.
-/
def change (tree : FileTree) (path : FilePath) (bytes : ByteArray → ByteArray) :
    Except IoError FileTree := do
  let place ← tree.locateNew path
  if endsAsDirectory path then throw .isDirectory
  match tree.node? place with
  | some .directory => throw .isDirectory
  | some (.file before) => return tree.put place (.file (bytes before))
  | none => return tree.put place (.file (bytes .empty))

/--
A change of the tree that a program works on, which stays as it is when the change is refused.
-/
def attempt (change : FileTree → Except IoError FileTree) :
    ExceptT IoError (StateM FileTree) Unit := do
  set (← liftExcept (change (← get)))
where
  /-- A result as a result of a program. -/
  liftExcept {α : Type} (result : Except IoError α) : ExceptT IoError (StateM FileTree) α :=
    ExceptT.mk (pure result)

/-- A program may have a tree in memory as its file system. -/
instance : Files (StateM FileTree) where
  kind? path := return (← get).kind? path
  read path := do ExceptT.mk (return (← get).read path)
  list path := do ExceptT.mk (return (← get).list path)
  makeDirectory path := attempt (·.makeDirectory path)
  write path bytes := attempt (·.change path fun _ => bytes)
  append path bytes := attempt (·.change path (· ++ bytes))

end FileTree

end LogForwarder
