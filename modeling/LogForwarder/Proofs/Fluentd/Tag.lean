/-
This file says how a file of sections is read, line by line. A line whose first visible character is
`<` has to be a tag, which opens a section or closes one, and nothing else may stand on it; what
stands on other lines does not matter here. Tags nest if every tag that closes a section closes the
one that was opened last. Blanks at the start of a line, empty lines, and blanks at both ends of a
text change no tags, so that blocks can be indented, trimmed and put together.
-/

import LogForwarder.Compile.Text
import LogForwarder.Proofs.Lines
import LogForwarder.Proofs.Template.Reading

namespace LogForwarder.Fluentd

open Text

/-! ### Lines -/

/-- What a line says that begins like a tag. -/
inductive Tag
  | opening (name : String)
  | closing (name : String)
  /-- The line is no tag. -/
  | broken
  deriving DecidableEq

/-- What has been read of a line. -/
inductive Line
  /-- Nothing but blanks. -/
  | blank
  /-- Something that begins like no tag, or is known to be none. -/
  | plain
  /-- The first letters of the name of a section that is being opened. -/
  | opening (letters : List Char)
  /-- The name of a section that is being opened, and a part of its argument. -/
  | argument (letters : List Char)
  /-- The first letters of the name of a section that is being closed. -/
  | closing (letters : List Char)
  /-- A whole tag, with nothing but blanks after it. -/
  | tag
  deriving DecidableEq

namespace Line

/-- What is said by a line that ends here, unless that has been said before. -/
def cut? : Line → Option Tag
  | .opening _ | .argument _ | .closing _ => some .broken
  | .blank | .plain | .tag => none

/-- What has been read after one more character, and the tag that ends with it. -/
def read (line : Line) (c : Char) : Line × Option Tag :=
  if c = '\n' then (.blank, line.cut?)
  else
    match line with
    | .blank =>
      if isBlank c then (.blank, none) else if c = '<' then (.opening [], none) else (.plain, none)
    | .plain => (.plain, none)
    | .opening letters =>
      if Template.isNameChar c then (.opening (letters ++ [c]), none)
      else if letters.isEmpty then if c = '/' then (.closing [], none) else (.plain, some .broken)
      else if c = '>' then (.tag, some (.opening (String.ofList letters)))
      else if isBlank c then (.argument letters, none)
      else (.plain, some .broken)
    | .argument letters =>
      if c = '>' then (.tag, some (.opening (String.ofList letters))) else (.argument letters, none)
    | .closing letters =>
      if Template.isNameChar c then (.closing (letters ++ [c]), none)
      else if c = '>' && !letters.isEmpty then (.tag, some (.closing (String.ofList letters)))
      else (.plain, some .broken)
    | .tag => if isBlank c then (.tag, none) else (.plain, some .broken)

/-- What has been read after some more characters, and the tags that end in them. -/
def readAll : Line → List Char → Line × List Tag
  | line, [] => (line, [])
  | line, c :: rest =>
    let next := line.read c
    let after := next.1.readAll rest
    (after.1, next.2.toList ++ after.2)

end Line

/-- The tags of a text. The end of the text is that of its last line. -/
def tagsIn (text : String) : List Tag := (Line.blank.readAll (text.toList ++ ['\n'])).2

/-! ### Sections -/

/--
The sections that are open after a tag, the innermost one first. With no section open, only one of
some names may be opened.
-/
def Tag.apply (mayStandAlone : String → Bool) (opens : List String) : Tag → Option (List String)
  | .opening name => if opens.isEmpty && !mayStandAlone name then none else some (name :: opens)
  | .closing name => if opens.head? = some name then some opens.tail else none
  | .broken => none

/-- The sections that are open after some tags, if these nest. -/
def nest (mayStandAlone : String → Bool) (opens : List String) (tags : List Tag) :
    Option (List String) :=
  tags.foldlM (Tag.apply mayStandAlone) opens

/-- Whether sections of a name may stand in a file by themselves. -/
def standsAlone (name : String) : Bool := name ∈ ["system", "source", "label"]

/-- Whether a text is a file of sections: its tags nest, and none is left open. -/
def IsSectionFile (text : String) : Prop := nest standsAlone [] (tagsIn text) = some []

instance (text : String) : Decidable (IsSectionFile text) :=
  inferInstanceAs (Decidable (_ = _))

theorem nest_append (mayStandAlone : String → Bool) (opens : List String)
    (before after : List Tag) :
    nest mayStandAlone opens (before ++ after) =
      (nest mayStandAlone opens before).bind (nest mayStandAlone · after) :=
  List.foldlM_append

theorem nest_cons (mayStandAlone : String → Bool) (opens : List String) (tag : Tag)
    (rest : List Tag) : nest mayStandAlone opens (tag :: rest) =
      (tag.apply mayStandAlone opens).bind (nest mayStandAlone · rest) :=
  List.foldlM_cons

/-- Tags that nest by themselves nest inside others as well. -/
theorem nest_within {mayStandAlone : String → Bool} {base : List String}
    (inside : base ≠ [] ∨ ∀ name, mayStandAlone name) {opens after : List String}
    {tags : List Tag} (nests : nest (fun _ => true) opens tags = some after) :
    nest mayStandAlone (opens ++ base) tags = some (after ++ base) := by
  induction tags generalizing opens with
  | nil =>
    cases nests
    rfl
  | cons tag rest inductionHypothesis =>
    rw [nest_cons] at nests
    obtain ⟨next, applied, nests⟩ := Option.bind_eq_some_iff.mp nests
    have appliedWithin : tag.apply mayStandAlone (opens ++ base) = some (next ++ base) := by
      cases tag with
      | opening name =>
        rw [Tag.apply, Bool.not_true, Bool.and_false, if_neg Bool.false_ne_true] at applied
        rw [← Option.some.inj applied, Tag.apply, if_neg, List.cons_append]
        rw [Bool.and_eq_true, Bool.not_eq_true', List.isEmpty_iff, List.append_eq_nil_iff]
        rintro ⟨⟨_, isEmpty⟩, notAlone⟩
        rcases inside with some | all
        · exact some isEmpty
        · rw [all name] at notAlone
          cases notAlone
      | closing name =>
        rw [Tag.apply] at applied
        split at applied
        · next isHead =>
          cases opens with
          | nil => cases isHead
          | cons innermost others =>
            rw [← Option.some.inj applied]
            exact if_pos isHead
        · cases applied
      | broken => cases applied
    rw [nest_cons, appliedWithin]
    exact inductionHypothesis nests

/-- Tags that nest nowhere keep all tags that they stand among from nesting. -/
theorem nest_eq_none_of_infix {mayStandAlone : String → Bool} {middle : List Tag}
    (never : ∀ opens, nest mayStandAlone opens middle = none) (before after : List Tag)
    (opens : List String) : nest mayStandAlone opens (before ++ middle ++ after) = none := by
  rw [nest_append, nest_append]
  cases nest mayStandAlone opens before with
  | none => rfl
  | some inner =>
    show (nest mayStandAlone inner middle).bind _ = none
    rw [never]
    rfl

/-! ### Reading on -/

namespace Line

theorem readAll_append (line : Line) (first second : List Char) :
    line.readAll (first ++ second) =
      (((line.readAll first).1.readAll second).1,
        (line.readAll first).2 ++ ((line.readAll first).1.readAll second).2) := by
  induction first generalizing line with
  | nil => rfl
  | cons c rest inductionHypothesis =>
    rw [List.cons_append, readAll, inductionHypothesis, readAll, List.append_assoc]

/-- A line break puts the reader at the start of a line. -/
theorem read_break (line : Line) : line.read '\n' = (.blank, line.cut?) := by
  unfold read
  rw [if_pos rfl]

theorem readAll_break (line : Line) (chars more : List Char) :
    line.readAll (chars ++ '\n' :: more) =
      ((Line.blank.readAll more).1,
        (line.readAll (chars ++ ['\n'])).2 ++ (Line.blank.readAll more).2) := by
  simp only [readAll_append, readAll, read_break, List.append_nil, List.append_assoc]

/-- Whether a blank on the line goes without notice. -/
def IsSettled (line : Line) : Prop := line = .blank ∨ line = .plain ∨ line = .tag

theorem read_of_isBlank {line : Line} (settled : line.IsSettled) {c : Char} (blank : isBlank c)
    (onLine : c ≠ '\n') : line.read c = (line, none) := by
  unfold read
  rw [if_neg onLine]
  rcases settled with rfl | rfl | rfl
  · exact if_pos blank
  · rfl
  · exact if_pos blank

theorem readAll_of_isBlank {line : Line} (settled : line.IsSettled) {chars : List Char}
    (blank : chars.all isBlank) (onLine : '\n' ∉ chars) : line.readAll chars = (line, []) := by
  induction chars with
  | nil => rfl
  | cons c rest inductionHypothesis =>
    rw [List.all_cons, Bool.and_eq_true] at blank
    rw [List.mem_cons, not_or] at onLine
    rw [readAll, read_of_isBlank settled blank.1 (Ne.symm onLine.1),
      inductionHypothesis blank.2 onLine.2]
    rfl

/-- From the start of a line blanks and line breaks lead to the start of a line. -/
theorem readAll_blank {chars : List Char} (blank : chars.all isBlank) :
    Line.blank.readAll chars = (.blank, []) := by
  induction chars with
  | nil => rfl
  | cons c rest inductionHypothesis =>
    rw [List.all_cons, Bool.and_eq_true] at blank
    have stays : Line.blank.read c = (.blank, none) := by
      by_cases isBreak : c = '\n'
      · rw [isBreak, read_break]
        rfl
      · exact read_of_isBlank (.inl rfl) blank.1 isBreak
    rw [readAll, stays, inductionHypothesis blank.2]
    rfl

/-- What a line says if it is cut off does not change by a blank. -/
theorem cut?_read (line : Line) {c : Char} (blank : isBlank c) :
    (line.read c).2.toList ++ (line.read c).1.cut?.toList = line.cut?.toList := by
  have notName : Template.isNameChar c = false := by
    by_contra isName
    have visible := Template.isBlank_of_isWordChar
      (Template.isWordChar_of_isNameChar (Bool.not_eq_false _ ▸ isName))
    rw [blank] at visible
    cases visible
  have notEnd : c ≠ '>' := by
    rintro rfl
    cases blank
  have notSlash : c ≠ '/' := by
    rintro rfl
    cases blank
  unfold read
  split
  · exact List.append_nil _
  · cases line with
    | plain => rfl
    | blank | tag | opening letters => grind [cut?]
    | argument letters | closing letters => simp [notName, notEnd, cut?]

/-- Blanks before the end of a line change nothing in what it says. -/
theorem readAll_blanks_break (line : Line) {chars : List Char} (blank : chars.all isBlank) :
    (line.readAll (chars ++ ['\n'])).2 = line.cut?.toList := by
  induction chars generalizing line with
  | nil =>
    rw [List.nil_append, readAll, read_break]
    exact List.append_nil _
  | cons c rest inductionHypothesis =>
    rw [List.all_cons, Bool.and_eq_true] at blank
    rw [List.cons_append, readAll, ← line.cut?_read blank.1]
    exact congrArg _ (inductionHypothesis _ blank.2)

end Line

/-! ### Indented texts -/

/-- A line is read alike when it is indented, unless something of a tag comes before it. -/
theorem readAll_movedLine {line : Line} (before : line = .blank ∨ line = .plain) (width : Nat)
    {chars : List Char} (onLine : '\n' ∉ chars) :
    line.readAll (Template.movedLine width chars) = line.readAll chars := by
  have settled : line.IsSettled := before.imp_right .inl
  unfold Template.movedLine
  split
  · next blank => exact (line.readAll_of_isBlank settled blank onLine).symm
  · have spaces : line.readAll (List.replicate width ' ') = (line, []) := by
      refine line.readAll_of_isBlank settled ?_ ?_
      · exact List.all_eq_true.mpr fun c member => by rw [List.eq_of_mem_replicate member]; rfl
      · exact fun member => absurd (List.eq_of_mem_replicate member) (by decide)
    rw [Line.readAll_append, spaces]
    rfl

/-- A text is read alike when it is indented, unless something of a tag comes before it. -/
theorem readAll_indentText {line : Line} (before : line = .blank ∨ line = .plain) (text : String)
    (width : Nat) :
    line.readAll (Template.indentText text width).toList = line.readAll text.toList := by
  have joined := Template.intercalate_linesOf text.toList
  have onLine : ∀ line ∈ Template.linesOf text.toList, '\n' ∉ line :=
    fun _ => Template.break_notMem_of_mem_linesOf
  have some := Template.linesOf_ne_nil text.toList
  rw [Template.toList_indentText]
  conv_rhs => rw [← joined]
  generalize Template.linesOf text.toList = lines at onLine some
  clear joined
  induction lines generalizing line with
  | nil => exact absurd rfl some
  | cons head rest inductionHypothesis =>
    obtain ⟨headOnLine, restOnLine⟩ := List.forall_mem_cons.mp onLine
    have headAlike := readAll_movedLine before width headOnLine
    cases rest with
    | nil => simpa using headAlike
    | cons next others =>
      have restAlike := inductionHypothesis (.inl rfl) restOnLine (List.cons_ne_nil _ _)
      rw [List.map_cons, intercalate_cons _ _ (by simp), intercalate_cons _ _ (by simp)]
      simp only [List.cons_append, List.nil_append]
      rw [Line.readAll_append, Line.readAll_append, headAlike, Line.readAll, Line.readAll,
        Line.read_break, restAlike]

/-! ### Blocks -/

/-- A text has the same tags without the blanks at its ends. -/
theorem tagsIn_trim (text : String) : tagsIn (trim text) = tagsIn text := by
  let visible := text.toList.dropWhile isBlank
  have fromStart : text.toList.takeWhile isBlank ++ visible = text.toList :=
    List.takeWhile_append_dropWhile
  have fromEnd : dropWhileEnd isBlank visible ++ (visible.reverse.takeWhile isBlank).reverse =
      visible := by
    unfold dropWhileEnd
    rw [← List.reverse_append, List.takeWhile_append_dropWhile, List.reverse_reverse]
  have blankStart : (text.toList.takeWhile isBlank).all isBlank := List.all_takeWhile
  have blankEnd : (visible.reverse.takeWhile isBlank).reverse.all isBlank := by
    rw [List.all_reverse]
    exact List.all_takeWhile
  unfold tagsIn trim trimChars
  rw [String.toList_ofList]
  conv_rhs =>
    rw [← fromStart, List.append_assoc, Line.readAll_append, Line.readAll_blank blankStart,
      ← fromEnd, List.append_assoc, Line.readAll_append, Line.readAll_blanks_break _ blankEnd]
  rw [Line.readAll_append, ← List.nil_append ['\n'], Line.readAll_blanks_break _ rfl]
  rfl

/-- The tags of a text are those before a line break and those after it. -/
theorem tagsIn_append_break (before after : String) :
    tagsIn (before ++ "\n" ++ after) = tagsIn before ++ tagsIn after := by
  unfold tagsIn
  rw [String.toList_append, String.toList_append, List.append_assoc, List.append_assoc]
  show (Line.blank.readAll (before.toList ++ '\n' :: (after.toList ++ ['\n']))).2 = _
  rw [Line.readAll_break]

theorem tagsIn_intercalate (blocks : List String) :
    tagsIn ("\n\n".intercalate blocks) = blocks.flatMap tagsIn := by
  unfold tagsIn
  rw [String.toList_intercalate]
  induction blocks with
  | nil => rfl
  | cons block rest inductionHypothesis =>
    cases rest with
    | nil => simp
    | cons next others =>
      rw [List.map_cons, intercalate_cons _ _ (by simp), List.append_assoc]
      show (Line.blank.readAll (block.toList ++ '\n' :: '\n' :: _)).2 = _
      rw [Line.readAll_break, Line.readAll, Line.read_break, List.flatMap_cons,
        ← inductionHypothesis]
      rfl

/-- The tags of blocks with empty lines between them are those of each of them. -/
theorem tagsIn_blocks (blocks : List String) :
    tagsIn ("\n\n".intercalate (blocks.filter (!·.isEmpty)) ++ "\n") =
      blocks.flatMap tagsIn := by
  have lastBreak (text : String) : tagsIn (text ++ "\n") = tagsIn text := by
    unfold tagsIn
    rw [String.toList_append, List.append_assoc]
    show (Line.blank.readAll (text.toList ++ '\n' :: ['\n'])).2 = _
    rw [Line.readAll_break]
    exact List.append_nil _
  rw [lastBreak, tagsIn_intercalate]
  induction blocks with
  | nil => rfl
  | cons block rest inductionHypothesis =>
    rw [List.filter_cons]
    split
    · rw [List.flatMap_cons, List.flatMap_cons, inductionHypothesis]
    · next isEmpty =>
      have isEmpty : block = "" := by simpa using isEmpty
      rw [isEmpty, inductionHypothesis]
      rfl

end LogForwarder.Fluentd
