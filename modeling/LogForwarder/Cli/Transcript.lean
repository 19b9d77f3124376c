/-
Transcripts: streams in memory. A run whose streams are a transcript and whose files are a tree does
nothing but turn the tree and the transcript before it into those after it.
-/

import LogForwarder.Cli.Run
import LogForwarder.Files.Tree

namespace LogForwarder.Cli

/-- What a run has written to its streams, at a time that stands still. -/
structure Transcript where
  printed : String
  reported : String
  clock : String
  deriving DecidableEq

namespace Transcript

/-- The transcript of a run that has written nothing. -/
def blank (clock : String) : Transcript := ⟨"", "", clock⟩

/-- A program may have a transcript in place of streams. -/
instance {m : Type → Type} [Monad m] : Console (StateT Transcript m) where
  print text := modify fun transcript => { transcript with printed := transcript.printed ++ text }
  report text :=
    modify fun transcript => { transcript with reported := transcript.reported ++ text }
  time := return (← get).clock

end Transcript

/-- How a run in memory ends. -/
structure Outcome where
  code : Nat
  transcript : Transcript
  files : FileTree

/-- A run in memory. -/
def runInMemory (colored : Bool) (arguments : List String) (clock : String) (files : FileTree) :
    Outcome :=
  let program : StateT Transcript (StateM FileTree) Nat := run colored arguments
  let ((code, transcript), files) := (program.run (.blank clock)).run files
  { code, transcript, files }

end LogForwarder.Cli
