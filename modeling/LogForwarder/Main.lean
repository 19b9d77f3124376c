/-
The program: runs on the file system and the streams of the machine.
-/

import LogForwarder.Cli.Run
import Std.Time.Format

namespace LogForwarder

/-! ### The machine -/

/-- An error of the machine as an error of a file system. -/
def ioErrorOf (error : IO.Error) : IoError :=
  match error with
  | .noFileOrDirectory _ _ _ => .notFound
  | .alreadyExists _ 17 _ => .alreadyExists
  | .inappropriateType _ 20 _ => .notDirectory
  | .inappropriateType _ 21 _ => .isDirectory
  | .invalidArgument _ 36 _ => .nameTooLong
  | other => .other (toString other)

/-- Something that the machine does, or the reason for which it does not. -/
def attempted {α : Type} (action : IO α) : ExceptT IoError IO α :=
  ExceptT.mk do
    try return .ok (← action)
    catch error => return .error (ioErrorOf error)

/-- Bytes at the end of a file. -/
def appendBytes (path : FilePath) (bytes : ByteArray) : IO Unit := do
  let file ← IO.FS.Handle.mk path.text .append
  file.write bytes
  file.flush

/-- What stands at a path of the machine, if anything does. -/
def kindOnDisk? (path : FilePath) : IO (Option FileKind) := do
  try
    let place ← IO.FS.realPath path.text
    return some (if ← place.isDir then .directory else .file)
  catch _ => return none

/-- The names in a directory of the machine. -/
def namesOnDisk (path : FilePath) : IO (List String) := do
  let place ← IO.FS.realPath path.text
  return ((← place.readDir).toList.map (·.fileName)).mergeSort

/-- The file system of the machine. -/
instance : Files IO where
  kind? := kindOnDisk?
  read path := attempted (IO.FS.readBinFile path.text)
  list path := attempted (namesOnDisk path)
  makeDirectory path := attempted (IO.FS.createDir path.text)
  write path bytes := attempted (IO.FS.writeBinFile path.text bytes)
  append path bytes := attempted (appendBytes path bytes)

/-- The form of times in a log. -/
def timeForm : String := "uuuu-MM-dd'T'HH:mm:ss.SSSSSS'Z'"

/-- The streams of the machine. -/
instance : Console IO where
  print text := do
    let stream ← IO.getStdout
    stream.putStr text
    stream.flush
  report text := do (← IO.getStderr).putStr text
  time := do
    let now ← Std.Time.Timestamp.now
    return (Std.Time.DateTime.ofTimestamp now Std.Time.TimeZone.ZoneRules.UTC).format timeForm

/-- Whether lines for people are coloured: not if the environment says so. -/
def wantsColors : IO Bool := return ((← IO.getEnv "NO_COLOR").getD "").isEmpty

end LogForwarder

/-- Runs the program with some arguments. -/
def main (arguments : List String) : IO UInt32 := do
  let code ← LogForwarder.Cli.run (← LogForwarder.wantsColors) arguments
  return UInt32.ofNat code
