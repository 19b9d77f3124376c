/-
This file proves what a run of the generator does that comes to nothing. The problems that a check
reports are those that keep the text from being compiled, and a run reports all of them in one error,
each on lines of its own. Files are written after that: as long as there is no text the file system
has been asked nothing, whatever kind of file system it is, and errors of the file system are not
those of compilation, so a run that fails to compile has left every file as it was.
-/

import LogForwarder.Config.Generate
import LogForwarder.Files.Tree
import LogForwarder.Proofs.OneLine

namespace LogForwarder

/-! ### Rejections -/

theorem CompileError.detail_rejected (first : Problem) (others : List Problem) :
    (CompileError.rejected first others).detail =
      "\n".intercalate ("spec errors:" :: (first :: others).map (·.text)) := by
  rw [List.map_cons, String.intercalate_cons_cons]
  rfl

/-- The error for a rejected spec has a line that says so, and then the lines of all problems. -/
theorem CompileError.linesOfText_detail_rejected (first : Problem) (others : List Problem) :
    linesOfText (CompileError.rejected first others).detail =
      "spec errors:" :: (first :: others).flatMap (linesOfText ·.text) := by
  have heading : linesOfText "spec errors:" = ["spec errors:"] :=
    linesOfText_of_oneLine (by decide)
  rw [detail_rejected, linesOfText_intercalate, List.flatMap_cons, heading, List.flatMap_map]
  rfl

namespace Config

/-! ### Runs on any file system -/

/-- A spec with problems is rejected for all of them. -/
theorem compile_of_problems {config : Config} {first : Problem} {others : List Problem}
    (found : config.problems = first :: others) :
    config.compile = .error (.rejected first others) := by
  show Spec.compile _ _ _ _ = _
  unfold Spec.compile
  rw [show config.spec.problems config.secrets config.options config.dialect = first :: others
    from found]

section AnyFiles

variable {m : Type → Type} [Monad m] [LawfulMonad m] [Files m]

/-- Without a text the file system is asked nothing. -/
theorem run_generate_of_compile_eq_error {config : Config} {error : CompileError}
    (failed : config.compile = .error error) :
    (config.generate : ExceptT RunError m String).run = pure (.error (.compile error)) := by
  unfold generate
  rw [failed]
  show (pure _ : m _) >>= _ = _
  rw [pure_bind]
  rfl

end AnyFiles

/-! ### Runs on a tree of files -/

/-- Whether a program that fails on a tree of files fails for a reason that a file has. -/
def FailsForFiles {α : Type} (program : ExceptT RunError (StateM FileTree) α) : Prop :=
  ∀ tree after error, program.run.run tree = (.error error, after) →
    ∃ path ioError, error = .file path ioError

theorem failsForFiles_pure {α : Type} (value : α) : FailsForFiles (pure value) := by
  intro tree after error failed
  cases congrArg Prod.fst failed

theorem failsForFiles_adapt {α : Type} (program : ExceptT IoError (StateM FileTree) α)
    (path : FilePath) : FailsForFiles (program.adapt (.file path)) := by
  intro tree after error failed
  have adapted : (program.adapt (RunError.file path)).run.run tree =
      ((program.run.run tree).1.mapError (.file path), (program.run.run tree).2) := rfl
  rw [adapted] at failed
  cases outcome : (program.run.run tree).1 with
  | ok value =>
    rw [outcome] at failed
    cases failed
  | error ioError =>
    rw [outcome] at failed
    exact ⟨path, ioError, (Except.error.inj (congrArg Prod.fst failed)).symm⟩

theorem FailsForFiles.bind {α β : Type} {program : ExceptT RunError (StateM FileTree) α}
    {rest : α → ExceptT RunError (StateM FileTree) β} (first : FailsForFiles program)
    (second : ∀ value, FailsForFiles (rest value)) : FailsForFiles (program >>= rest) := by
  intro tree after error failed
  rw [ExceptT.run_bind, StateT.run_bind] at failed
  rcases outcome : program.run.run tree with ⟨result, later⟩
  rw [outcome] at failed
  cases result with
  | ok value => exact second value later after error failed
  | error stopped =>
    rw [← Except.error.inj (congrArg Prod.fst failed)]
    exact first tree later stopped outcome

/-- A file that cannot be written makes no error of compilation. -/
theorem failsForFiles_writeOutput (path : FilePath) (text : String) :
    FailsForFiles (writeOutput path text) := by
  unfold writeOutput
  split
  · next folder _ =>
    exact (failsForFiles_adapt _ folder).bind fun _ => failsForFiles_adapt _ path
  · exact failsForFiles_adapt _ path

/-- Once there is a text, a run fails for files only. -/
theorem failsForFiles_generate (config : Config) {text : String}
    (compiled : config.compile = .ok text) : FailsForFiles config.generate := by
  unfold generate
  rw [compiled]
  refine (failsForFiles_pure text).bind fun text => ?_
  split
  · exact (failsForFiles_writeOutput _ text).bind fun _ => failsForFiles_pure text
  · exact failsForFiles_pure text

/-- A run that ends with an error of compilation ends with that of its text. -/
theorem compile_eq_error_of_run_generate {config : Config} {tree after : FileTree}
    {error : CompileError}
    (failed : (config.generate : ExceptT RunError (StateM FileTree) String).run.run tree =
      (.error (.compile error), after)) : config.compile = .error error := by
  cases compiled : config.compile with
  | error other =>
    rw [run_generate_of_compile_eq_error compiled] at failed
    cases failed
    rfl
  | ok text =>
    obtain ⟨path, ioError, isFile⟩ := config.failsForFiles_generate compiled tree after _ failed
    cases isFile

/-! ### What a failure reports and leaves behind -/

/--
A run for a spec in which a check finds problems fails for the class of the first one, and reports
all of them in turn, each on its own lines. A run that fails to compile, for these or for any other
reasons, has asked no file system for anything: it leaves a tree of files as it was.
-/
theorem generate_reports_and_leaves_files (config : Config) :
    (∀ first others, config.problems = first :: others →
      ∃ error : CompileError, error.reason = .ofProblemKind first.kind ∧
        error.detail = "\n".intercalate ("spec errors:" :: config.problems.map (·.text)) ∧
        linesOfText error.detail =
          "spec errors:" :: config.problems.flatMap (linesOfText ·.text) ∧
        ∀ (m : Type → Type) [Monad m] [LawfulMonad m] [Files m],
          (config.generate : ExceptT RunError m String).run = pure (.error (.compile error))) ∧
      (∀ error, config.compile = .error error →
        ∀ (m : Type → Type) [Monad m] [LawfulMonad m] [Files m],
          (config.generate : ExceptT RunError m String).run = pure (.error (.compile error))) ∧
      ∀ (tree after : FileTree) (error : CompileError),
        (config.generate : ExceptT RunError (StateM FileTree) String).run.run tree =
          (.error (.compile error), after) → after = tree := by
  refine ⟨?_, ?_, ?_⟩
  · intro first others found
    have rejected := compile_of_problems found
    refine ⟨.rejected first others, rfl, ?_, ?_, ?_⟩
    · rw [found, CompileError.detail_rejected]
    · rw [found, CompileError.linesOfText_detail_rejected]
    · exact fun _ => run_generate_of_compile_eq_error rejected
  · exact fun _ failed _ => run_generate_of_compile_eq_error failed
  · intro tree after error failed
    rw [run_generate_of_compile_eq_error (compile_eq_error_of_run_generate failed)] at failed
    exact (congrArg Prod.snd failed).symm

/-- A configuration with a pipeline to an output that there is not. -/
def leadingNowhere : Config where
  dialect := .vector
  output? := some ⟨"out/vector.toml"⟩
  spec := { Spec.empty with pipelines := [⟨some "web", ["application"], ["nowhere"], ∅, none⟩] }
  specPath? := none
  secrets := ∅
  options := .standard
  logging := .standard
  base := ⟨"."⟩

theorem generate_reports_leadingNowhere :
    ∃ error : CompileError, error.reason = .reference ∧
      linesOfText error.detail =
        ["spec errors:", "error: pipeline `web`: unknown output `nowhere`"] ∧
      (leadingNowhere.generate : ExceptT RunError (StateM FileTree) String).run.run .empty =
        (.error (.compile error), .empty) := by
  have found : leadingNowhere.problems =
      [⟨some (.pipeline "web"), .unknownOutput "nowhere"⟩] := by decide
  obtain ⟨reports, _, _⟩ := generate_reports_and_leaves_files leadingNowhere
  obtain ⟨error, reason, _, lines, run⟩ := reports _ _ found
  refine ⟨error, reason, ?_, ?_⟩
  · rw [lines, found]
    decide
  · exact congrArg (·.run .empty) (run (StateM FileTree))

end Config

end LogForwarder
