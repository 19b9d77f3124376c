/-
Files: what a program may ask of the file system that it runs on, why that can fail, and the
questions that are put together from others. Whatever asks them works on every file system, a real
one or a tree of files in memory.
-/

import LogForwarder.FilePath

namespace LogForwarder

/-- Why a file system refuses what it is asked. -/
inductive IoError
  | notFound
  | alreadyExists
  | notDirectory
  | isDirectory
  | nameTooLong
  | nulInPath
  /-- Bytes were read as text, and they are not. -/
  | notText
  | other (text : String)
  deriving DecidableEq

/-- The text that reports why a file system refuses. -/
def IoError.message : IoError → String
  | .notFound => "No such file or directory (os error 2)"
  | .alreadyExists => "File exists (os error 17)"
  | .notDirectory => "Not a directory (os error 20)"
  | .isDirectory => "Is a directory (os error 21)"
  | .nameTooLong => "File name too long (os error 36)"
  | .nulInPath => "file name contained an unexpected NUL byte"
  | .notText => "stream did not contain valid UTF-8"
  | .other text => text

/-- What stands at a place of a file system. -/
inductive FileKind
  | file
  | directory
  deriving DecidableEq

/-- What a program may ask of a file system. -/
class Files (m : Type → Type) where
  /-- What stands at a path, if anything does. -/
  kind? : FilePath → m (Option FileKind)
  /-- The bytes of a file. -/
  read : FilePath → ExceptT IoError m ByteArray
  /-- The names in a directory. -/
  list : FilePath → ExceptT IoError m (List String)
  /-- A new directory in one that is there. -/
  makeDirectory : FilePath → ExceptT IoError m Unit
  /-- A file with some bytes and nothing else, in a directory that is there. -/
  write : FilePath → ByteArray → ExceptT IoError m Unit
  /-- More bytes at the end of a file, which is made if it is not there. -/
  append : FilePath → ByteArray → ExceptT IoError m Unit

namespace Files

variable {m : Type → Type} [Monad m] [Files m]

/-- A state beside a file system changes nothing about the files. -/
instance {σ : Type} : Files (StateT σ m) where
  kind? path := StateT.lift (Files.kind? path)
  read path := ExceptT.mk (StateT.lift (Files.read path).run)
  list path := ExceptT.mk (StateT.lift (Files.list path).run)
  makeDirectory path := ExceptT.mk (StateT.lift (Files.makeDirectory path).run)
  write path bytes := ExceptT.mk (StateT.lift (Files.write path bytes).run)
  append path bytes := ExceptT.mk (StateT.lift (Files.append path bytes).run)

/-- Whether there is a directory at a path. -/
def isDirectory (path : FilePath) : m Bool := return (← kind? path) = some .directory

/-- Whether there is a file at a path. -/
def isFile (path : FilePath) : m Bool := return (← kind? path) = some .file

/-- The text of a file. -/
def readText (path : FilePath) : ExceptT IoError m String := do
  match String.fromUTF8? (← read path) with
  | some text => return text
  | none => throw .notText

/-- A directory that may be there before. -/
def ensureDirectory (path : FilePath) : ExceptT IoError m Unit :=
  tryCatch (makeDirectory path) fun error => do
    let isThere ← (isDirectory path : m Bool)
    unless error = .alreadyExists && isThere do throw error

/-- The first of some directories, each of which is in the one after it; what is missing is made. -/
def ensureChain : List FilePath → ExceptT IoError m Unit
  | [] => return
  | path :: outer =>
    tryCatch (ensureDirectory path) fun error => do
      unless error = .notFound && !outer.isEmpty do throw error
      ensureChain outer
      ensureDirectory path

/-- A directory with all directories on the way to it. -/
def ensureDirectories (path : FilePath) : ExceptT IoError m Unit := ensureChain path.ancestors

end Files

end LogForwarder
