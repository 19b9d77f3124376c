/-
This file proves where paths lead. A path is kept as it was written, so two texts may be one path in
two ways of writing: empty names and single dots lead nowhere. What is left are the steps of a path,
and in a tree of files paths with the same steps from the same start lead to the same place, if they
lead anywhere. A path that is joined to a directory has the steps of the directory and then its own.
A path that is taken apart into the directory and the name at its end and put together again leads
where it led before.
-/

import LogForwarder.Files.Tree
import LogForwarder.Proofs.OneLine
import Mathlib.Data.List.DropRight

namespace LogForwarder

namespace FilePath

/-! ### Steps -/

/-- The steps among the names of characters: those that do not lead nowhere. -/
def stepsOf (chars : List Char) : List (List Char) :=
  (Text.splitOn (· = '/') chars).filter (!isIdle ·)

/-- The steps of a path. -/
def steps (path : FilePath) : List (List Char) := stepsOf path.text.toList

/-- Whether two paths lead to the same place: by the same steps, and both from the root or not. -/
structure LeadsAlike (first second : FilePath) : Prop where
  isAbsolute : first.isAbsolute = second.isAbsolute
  steps : first.steps = second.steps

theorem leadsAlike_iff (first second : FilePath) : first.LeadsAlike second ↔
    first.isAbsolute = second.isAbsolute ∧ first.steps = second.steps :=
  ⟨fun alike => ⟨alike.isAbsolute, alike.steps⟩, fun ⟨isAbsolute, steps⟩ => ⟨isAbsolute, steps⟩⟩

instance (first second : FilePath) : Decidable (first.LeadsAlike second) :=
  decidable_of_iff _ (leadsAlike_iff first second).symm

theorem LeadsAlike.refl (path : FilePath) : path.LeadsAlike path := ⟨rfl, rfl⟩

theorem LeadsAlike.symm {first second : FilePath} (alike : first.LeadsAlike second) :
    second.LeadsAlike first :=
  ⟨alike.isAbsolute.symm, alike.steps.symm⟩

theorem LeadsAlike.trans {first second third : FilePath} (alike : first.LeadsAlike second)
    (further : second.LeadsAlike third) : first.LeadsAlike third :=
  ⟨alike.isAbsolute.trans further.isAbsolute, alike.steps.trans further.steps⟩

theorem stepsOf_append_slash (before after : List Char) :
    stepsOf (before ++ '/' :: after) = stepsOf before ++ stepsOf after := by
  unfold stepsOf
  rw [Text.splitOn_append_cons (decide_eq_true rfl), List.filter_append]

/-- Names without slashes are steps where they stand, unless they lead nowhere. -/
theorem stepsOf_intercalate {names : List (List Char)} (whole : ∀ name ∈ names, '/' ∉ name) :
    stepsOf (['/'].intercalate names) = names.filter (!isIdle ·) := by
  cases names with
  | nil => rfl
  | cons first others =>
    unfold stepsOf
    rw [Text.splitOn_intercalate (decide_eq_true rfl) (List.cons_ne_nil _ _)]
    exact fun name member c isIn => decide_eq_false fun same => whole name member (same ▸ isIn)

end FilePath

namespace FileTree

/-! ### Places -/

/-- Names that lead nowhere may be passed over on a way that leads somewhere. -/
theorem foldlM_step_filter {tree : FileTree} {names : List (List Char)} {start place : Place}
    (leads : (names.map String.ofList).foldlM tree.step start = .ok place) :
    ((names.filter (!FilePath.isIdle ·)).map String.ofList).foldlM tree.step start =
      .ok place := by
  induction names generalizing start with
  | nil => exact leads
  | cons name rest inductionHypothesis =>
    rw [List.map_cons, List.foldlM_cons] at leads
    obtain ⟨next, here, later⟩ := exists_of_bind_eq_ok leads
    by_cases idle : FilePath.isIdle name
    · have stays : next = start := by
        have isIdleName : (String.ofList name = "" || String.ofList name = ".") = true := by
          unfold FilePath.isIdle at idle
          simpa [← String.toList_inj] using idle
        unfold step at here
        split at here
        · cases here
        · cases here
        · rw [if_pos isIdleName] at here
          exact (Except.ok.inj here).symm
      rw [List.filter_cons_of_neg (by simpa using idle)]
      exact inductionHypothesis (stays ▸ later)
    · rw [List.filter_cons_of_pos (by simpa using idle), List.map_cons, List.foldlM_cons, here]
      exact inductionHypothesis later

/-- Where a path leads follows from its steps and from where it starts. -/
theorem foldlM_steps_of_locate {tree : FileTree} {path : FilePath} {place : Place}
    (leads : tree.locate path = .ok place) :
    (path.steps.map String.ofList).foldlM tree.step
      (if path.isAbsolute then [] else tree.workingPlace) = .ok place := by
  unfold locate at leads
  simp only at leads
  split at leads
  · cases leads
  · split at leads
    · cases leads
    · split at leads
      · cases leads
      · exact foldlM_step_filter leads

/-- Paths that lead alike lead to one place in every tree, if they lead anywhere. -/
theorem locate_eq_of_leadsAlike {tree : FileTree} {first second : FilePath} {place other : Place}
    (alike : first.LeadsAlike second) (leads : tree.locate first = .ok place)
    (leadsToo : tree.locate second = .ok other) : place = other := by
  have here := foldlM_steps_of_locate leads
  rw [alike.steps, alike.isAbsolute, foldlM_steps_of_locate leadsToo] at here
  exact (Except.ok.inj here).symm

end FileTree

namespace FilePath

/-! ### Joined paths -/

theorem join_of_isAbsolute {path : FilePath} (absolute : path.isAbsolute = true) (base : FilePath) :
    base.join path = path :=
  if_pos absolute

/-- The steps of a path that is joined to a directory come after those of the directory. -/
theorem steps_join {path : FilePath} (relative : path.isAbsolute = false) (base : FilePath) :
    (base.join path).steps = base.steps ++ path.steps := by
  unfold join steps
  rw [if_neg (by rw [relative]; exact Bool.false_ne_true)]
  split
  · next ends =>
    rw [String.toList_append]
    rcases Bool.or_eq_true_iff.mp ends with isEmpty | endsInSlash
    · rw [String.isEmpty_iff.mp isEmpty]
      rfl
    · obtain ⟨before, split⟩ := List.getLast?_eq_some_iff.mp (of_decide_eq_true endsInSlash)
      rw [split, List.append_assoc, List.singleton_append, stepsOf_append_slash,
        stepsOf_append_slash, List.append_assoc]
      rfl
  · rw [String.toList_append, String.toList_append, List.append_assoc]
    exact stepsOf_append_slash _ _

theorem isAbsolute_join {path : FilePath} (relative : path.isAbsolute = false) (base : FilePath) :
    (base.join path).isAbsolute = base.isAbsolute := by
  have isRelative : ¬path.text.toList.head? = some '/' := of_decide_eq_false relative
  unfold join
  rw [if_neg (by rw [relative]; exact Bool.false_ne_true)]
  unfold isAbsolute
  split
  · rw [String.toList_append, List.head?_append]
    cases base.text.toList with
    | nil => exact decide_eq_false isRelative
    | cons first rest => rfl
  · next ends =>
    rw [String.toList_append, String.toList_append, List.append_assoc, List.head?_append]
    cases chars : base.text.toList with
    | nil =>
      have isEmpty : base.text.isEmpty := String.isEmpty_iff.mpr (String.toList_inj.mp chars)
      rw [isEmpty] at ends
      exact absurd rfl ends
    | cons first rest => rfl

/-- It does not matter how the directory is written that a path is joined to. -/
theorem LeadsAlike.join {first second : FilePath} (alike : first.LeadsAlike second)
    (path : FilePath) : (first.join path).LeadsAlike (second.join path) := by
  cases absolute : path.isAbsolute with
  | true =>
    rw [join_of_isAbsolute absolute, join_of_isAbsolute absolute]
    exact .refl path
  | false =>
    constructor
    · rw [isAbsolute_join absolute, isAbsolute_join absolute, alike.isAbsolute]
    · rw [steps_join absolute, steps_join absolute, alike.steps]

/--
A path that is joined to a directory twice leads where it leads when it is joined once, if the path
or the directory starts at the root or if the directory is the one that a program works in.
-/
theorem join_join_leadsAlike_iff (base path : FilePath) :
    (base.join (base.join path)).LeadsAlike (base.join path) ↔
      path.isAbsolute = true ∨ base.isAbsolute = true ∨ base.steps = [] := by
  cases absolute : path.isAbsolute with
  | true =>
    rw [join_of_isAbsolute absolute, join_of_isAbsolute absolute]
    exact iff_of_true (.refl path) (.inl rfl)
  | false =>
    have isJoined := isAbsolute_join absolute base
    cases fromRoot : base.isAbsolute with
    | true =>
      rw [join_of_isAbsolute (isJoined.trans fromRoot)]
      exact iff_of_true (.refl _) (.inr (.inl rfl))
    | false =>
      have relative : (base.join path).isAbsolute = false := isJoined.trans fromRoot
      have steps := steps_join relative base
      rw [leadsAlike_iff, isAbsolute_join relative base, fromRoot, relative, steps]
      simp

/-! ### Directories and names -/

/-- Names without the idle ones at their end are these names, cut off. -/
theorem withoutIdleEnd_isPrefix (names : List (List Char)) : withoutIdleEnd names <+: names :=
  List.rdropWhile_prefix isIdle names

theorem filter_withoutIdleEnd (names : List (List Char)) :
    (withoutIdleEnd names).filter (!isIdle ·) = names.filter (!isIdle ·) := by
  have idleEnd : (names.rtakeWhile isIdle).filter (!isIdle ·) = [] :=
    List.filter_eq_nil_iff.mpr fun name member => by simp [List.mem_rtakeWhile_imp member]
  calc (withoutIdleEnd names).filter (!isIdle ·)
      = (names.rdropWhile isIdle ++ names.rtakeWhile isIdle).filter (!isIdle ·) := by
        rw [List.filter_append, idleEnd, List.append_nil]
        rfl
    _ = names.filter (!isIdle ·) := by rw [List.rdropWhile_append_rtakeWhile]

theorem not_isIdle_of_getLast? {names : List (List Char)} {name : List Char}
    (isLast : (withoutIdleEnd names).getLast? = some name) : isIdle name = false := by
  have nonempty : withoutIdleEnd names ≠ [] := by
    intro empty
    rw [empty] at isLast
    cases isLast
  have last : (withoutIdleEnd names).getLast nonempty = name :=
    (List.getLast_eq_iff_getLast?_eq_some nonempty).mpr isLast
  rw [← last]
  exact Bool.eq_false_of_not_eq_true (List.rdropWhile_last_not isIdle names nonempty)

/-- Where a path starts: at the root, at a dot, or at a name. -/
inductive IsStart (path : FilePath) : List Char → Prop
  | root (isFirst : path.text.toList.head? = some '/') : path.IsStart ['/']
  /-- Behind the dot there is a slash or nothing, so that the names begin with an empty one. -/
  | dot (isFirst : path.text.toList.head? = some '.') (empty : path.names.head? = some []) :
      path.IsStart ['.']
  | name (isFirst : path.text.toList.head? ≠ some '/') : path.IsStart []

theorem isStart_start (path : FilePath) : path.IsStart path.start := by
  have names : path.names = Text.splitOn (· = '/') (path.text.toList.drop path.start.length) := rfl
  unfold start at names ⊢
  split
  · next rest chars => exact .root (by rw [chars]; rfl)
  · next chars =>
    rw [chars] at names
    exact .dot (by rw [chars]; rfl) (by rw [names]; rfl)
  · next rest chars =>
    rw [chars] at names
    exact .dot (by rw [chars]; rfl) (by rw [names]; rfl)
  · next notRoot _ _ =>
    refine .name fun isFirst => ?_
    obtain ⟨rest, chars⟩ := List.head?_eq_some_iff.mp isFirst
    exact notRoot rest chars

/-- A path is written as its start and its names with slashes between them. -/
theorem toList_text (path : FilePath) :
    path.text.toList = path.start ++ ['/'].intercalate path.names := by
  have isPrefix : path.start <+: path.text.toList := by
    unfold start
    split
    case h_1 rest chars =>
      rw [chars]
      exact List.prefix_append ['/'] rest
    case h_2 chars => exact chars ▸ List.prefix_rfl
    case h_3 rest chars =>
      rw [chars]
      exact List.prefix_append ['.'] ('/' :: rest)
    case h_4 => exact List.nil_prefix
  obtain ⟨rest, split⟩ := isPrefix
  rw [names, Text.intercalate_splitOn, ← split, List.drop_left]

theorem ofNames_names (path : FilePath) : ofNames path.start path.names = path := by
  refine congrArg mk (String.toList_inj.mp ?_)
  rw [String.toList_ofList, ← toList_text]

section Prefix

variable {path : FilePath} {before : List (List Char)} (isPrefix : before <+: path.names)

include isPrefix

/-- The steps of a path that ends early are those of the names that are left. -/
theorem steps_ofNames_of_prefix :
    (ofNames path.start before).steps = before.filter (!isIdle ·) := by
  have whole : ∀ name ∈ before, '/' ∉ name := fun name member =>
    Text.notMem_of_mem_splitOn (isPrefix.subset member)
  have rest := stepsOf_intercalate whole
  have isStart := path.isStart_start
  unfold ofNames steps
  rw [String.toList_ofList]
  generalize path.start = start at isStart ⊢
  cases isStart with
  | root => exact (stepsOf_append_slash [] _).trans rest
  | name => exact rest
  | dot _ empty =>
    cases before with
    | nil => rfl
    | cons first others =>
      obtain ⟨later, names⟩ := isPrefix
      rw [← names] at empty
      obtain rfl : first = [] := Option.some.inj empty
      cases others with
      | nil => rfl
      | cons second others =>
        rw [List.intercalate_cons_cons] at rest ⊢
        exact (stepsOf_append_slash ['.'] _).trans ((stepsOf_append_slash [] _).symm.trans rest)

theorem isAbsolute_ofNames_of_prefix :
    (ofNames path.start before).isAbsolute = path.isAbsolute := by
  have text := path.toList_text
  have isStart := path.isStart_start
  unfold ofNames isAbsolute
  rw [String.toList_ofList]
  generalize path.start = start at isStart text ⊢
  cases isStart with
  | root isFirst =>
    rw [isFirst]
    rfl
  | dot isFirst =>
    rw [isFirst]
    rfl
  | name isFirst =>
    rw [decide_eq_false isFirst]
    refine decide_eq_false fun isSlash => isFirst ?_
    rw [List.nil_append] at isSlash
    obtain ⟨later, split⟩ := Text.intercalate_prefix ['/'] isPrefix
    rw [text, ← split, List.nil_append, List.head?_append, isSlash]
    rfl

end Prefix

theorem steps_eq_filter_names (path : FilePath) : path.steps = path.names.filter (!isIdle ·) := by
  rw [← steps_ofNames_of_prefix List.prefix_rfl, ofNames_names]

/-- A name leads nowhere but to itself. -/
theorem steps_of_name {name : List Char} (whole : '/' ∉ name) (somewhere : isIdle name = false) :
    steps ⟨String.ofList name⟩ = [name] ∧ isAbsolute ⟨String.ofList name⟩ = false := by
  constructor
  · have noSlash : ∀ c ∈ name, decide (c = '/') = false := fun c isIn =>
      decide_eq_false fun same => whole (same ▸ isIn)
    unfold steps stepsOf
    rw [String.toList_ofList, Text.splitOn_of_forall_not noSlash]
    exact List.filter_eq_self.mpr (List.forall_mem_singleton.mpr (by rw [somewhere]; rfl))
  · refine decide_eq_false fun isSlash => ?_
    rw [String.toList_ofList] at isSlash
    exact whole (List.mem_of_head? isSlash)

/-- The name at the end of a path is the last one that leads anywhere. -/
theorem exists_of_fileName? {path : FilePath} {name : String}
    (isName : path.fileName? = some name) :
    ∃ front last, withoutIdleEnd path.names = front ++ [last] ∧ isIdle last = false ∧
      name = String.ofList last := by
  unfold fileName? at isName
  split at isName
  · next last isLast =>
    obtain ⟨front, names⟩ := List.getLast?_eq_some_iff.mp isLast
    exact ⟨front, last, names, not_isIdle_of_getLast? isLast,
      (Option.some.inj (Option.ite_none_left_eq_some.mp isName).2).symm⟩
  · cases isName

theorem parent?_eq_some {path : FilePath} {front : List (List Char)} {last : List Char}
    (names : withoutIdleEnd path.names = front ++ [last]) :
    path.parent? = some (ofNames path.start (withoutIdleEnd front)) := by
  unfold parent?
  rw [names, List.reverse_concat]
  show some (ofNames path.start (withoutIdleEnd front.reverse.reverse)) = _
  rw [List.reverse_reverse]

/-- A path leads where the name at its end leads in its directory. -/
theorem exists_parent_leadsAlike {path : FilePath} {name : String}
    (isName : path.fileName? = some name) :
    ∃ folder, path.parent? = some folder ∧ (folder.join ⟨name⟩).LeadsAlike path := by
  obtain ⟨front, last, names, somewhere, rfl⟩ := exists_of_fileName? isName
  have isFront : front <+: path.names :=
    (names ▸ List.prefix_append front [last]).trans (withoutIdleEnd_isPrefix path.names)
  have isBefore := (withoutIdleEnd_isPrefix front).trans isFront
  have among : last ∈ path.names :=
    (withoutIdleEnd_isPrefix path.names).subset (names ▸ List.mem_append_right _ List.mem_cons_self)
  obtain ⟨nameSteps, relative⟩ :=
    steps_of_name (Text.notMem_of_mem_splitOn among) somewhere
  refine ⟨_, parent?_eq_some names, ?_, ?_⟩
  · rw [isAbsolute_join relative, isAbsolute_ofNames_of_prefix isBefore]
  · calc (join (ofNames path.start (withoutIdleEnd front)) ⟨String.ofList last⟩).steps
        = front.filter (!isIdle ·) ++ [last] := by
          rw [steps_join relative, nameSteps, steps_ofNames_of_prefix isBefore,
            filter_withoutIdleEnd]
      _ = (withoutIdleEnd path.names).filter (!isIdle ·) := by
          rw [names, List.filter_append, List.filter_cons_of_pos]
          · rfl
          · rw [somewhere]
            rfl
      _ = path.steps := by rw [filter_withoutIdleEnd, steps_eq_filter_names]

end FilePath

end LogForwarder
