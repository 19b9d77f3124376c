/-
Segments of templates: the text between actions, and the actions themselves. A dash beside a brace
takes away the blanks on the other side of it. Comments are actions that leave nothing behind.
-/

import LogForwarder.Template.Action
import LogForwarder.Text.Cut

namespace LogForwarder.Template

/-- Why a text is not a template. -/
inductive ReadError
  /-- An action that does not end, by the number of bytes before it. -/
  | unclosedAction (offset : Nat)
  | badAction (text : String)
  | unexpectedEnd
  | unexpectedElse
  | unclosedBlock (keyword : String)
  | elseIfOutsideIf
  | duplicateElse (keyword : String)
  deriving DecidableEq

/-- The text that reports why a text is not a template. -/
def ReadError.message : ReadError → String
  | .unclosedAction offset => s!"unclosed action at byte {offset}"
  | .badAction text => "bad action \x7b\x7b" ++ text ++ "\x7d\x7d"
  | .unexpectedEnd => "unexpected \x7b\x7bend\x7d\x7d"
  | .unexpectedElse => "unexpected \x7b\x7belse\x7d\x7d"
  | .unclosedBlock keyword => "unclosed \x7b\x7b" ++ keyword ++ "\x7d\x7d"
  | .elseIfOutsideIf => "\x7b\x7belse if\x7d\x7d is only valid inside \x7b\x7bif\x7d\x7d"
  | .duplicateElse keyword => "duplicate \x7b\x7belse\x7d\x7d in \x7b\x7b" ++ keyword ++ "\x7d\x7d"

/-! ### Braces -/

/-- The text before the braces that open an action and what follows them, if there are any. -/
def splitOpening? : List Char → Option (List Char × List Char)
  | [] => none
  | '{' :: '{' :: rest => some ([], rest)
  | c :: rest => (splitOpening? rest).map fun (before, after) => (c :: before, after)

/--
The text before the braces that close an action and what follows them; strings are looked past.
-/
def splitClosing? : (inText : Bool) → List Char → Option (List Char × List Char)
  | _, [] => none
  | true, '\\' :: c :: rest =>
    (splitClosing? true rest).map fun (before, after) => ('\\' :: c :: before, after)
  | inText, '"' :: rest =>
    (splitClosing? (!inText) rest).map fun (before, after) => ('"' :: before, after)
  | false, '}' :: '}' :: rest => some ([], rest)
  | inText, c :: rest => (splitClosing? inText rest).map fun (before, after) => (c :: before, after)

/-- What follows opening braces is shorter than the whole. -/
theorem length_of_splitOpening? {chars before after : List Char}
    (split : splitOpening? chars = some (before, after)) : after.length < chars.length := by
  induction chars generalizing before with
  | nil => simp [splitOpening?] at split
  | cons c rest inductionHypothesis =>
    unfold splitOpening? at split
    split at split
    · simp at split
    · rename_i equal
      simp only [Option.some.injEq, Prod.mk.injEq] at split
      obtain ⟨_, rfl⟩ := split
      rw [equal]
      simp only [List.length_cons]
      omega
    · rename_i equal
      obtain ⟨rfl, rfl⟩ := List.cons.inj equal
      obtain ⟨⟨start, remainder⟩, found, same⟩ := Option.map_eq_some_iff.mp split
      simp only [Prod.mk.injEq] at same
      obtain ⟨_, rfl⟩ := same
      have shorter := inductionHypothesis found
      simp only [List.length_cons]
      omega

/-- What follows closing braces is no longer than the whole. -/
theorem length_of_splitClosing? {inText : Bool} {chars before after : List Char}
    (split : splitClosing? inText chars = some (before, after)) : after.length ≤ chars.length := by
  fun_induction splitClosing? inText chars generalizing before with
  | case1 => simp at split
  | case2 c rest inductionHypothesis =>
    obtain ⟨⟨start, remainder⟩, found, same⟩ := Option.map_eq_some_iff.mp split
    simp only [Prod.mk.injEq] at same
    obtain ⟨_, rfl⟩ := same
    have shorter := inductionHypothesis found
    simp only [List.length_cons]
    omega
  | case3 inText rest inductionHypothesis =>
    obtain ⟨⟨start, remainder⟩, found, same⟩ := Option.map_eq_some_iff.mp split
    simp only [Prod.mk.injEq] at same
    obtain ⟨_, rfl⟩ := same
    have shorter := inductionHypothesis found
    simp only [List.length_cons]
    omega
  | case4 rest =>
    simp only [Option.some.injEq, Prod.mk.injEq] at split
    obtain ⟨_, rfl⟩ := split
    simp only [List.length_cons]
    omega
  | case5 inText c rest _ _ _ inductionHypothesis =>
    obtain ⟨⟨start, remainder⟩, found, same⟩ := Option.map_eq_some_iff.mp split
    simp only [Prod.mk.injEq] at same
    obtain ⟨_, rfl⟩ := same
    have shorter := inductionHypothesis found
    simp only [List.length_cons]
    omega

/-! ### Segments -/

/-- A part of a template's text. -/
inductive Segment
  | text (value : String)
  | tag (value : Tag)

/-- Whether a character is a blank beside a dash. -/
def isDashBlank (c : Char) : Bool :=
  c = ' ' || c = '\t' || c = '\n' || c = '\x0c' || c = '\r'

/-- What follows a dash after opening braces, if that dash trims. -/
def afterLeadingDash? : List Char → Option (List Char)
  | '-' :: c :: rest => if isDashBlank c then some (c :: rest) else none
  | _ => none

/-- What comes before a dash in front of closing braces, if that dash trims. -/
def beforeTrailingDash? (chars : List Char) : Option (List Char) :=
  match chars.reverse with
  | '-' :: c :: rest => if isDashBlank c then some (c :: rest).reverse else none
  | _ => none

/-- Whether the text of an action is a comment. -/
def isComment (text : List Char) : Bool :=
  ['/', '*'].isPrefixOf text && ['*', '/'].isSuffixOf text

/-- The segment of some text, which is none if there is no text. -/
def textSegment (chars : List Char) : List Segment :=
  if chars.isEmpty then [] else [.text (String.ofList chars)]

/-- The segments of an action's text. -/
def actionSegment (text : List Char) : Except ReadError (List Segment) :=
  if isComment text then .ok []
  else
    match readTag? text with
    | some tag => .ok [.tag tag]
    | none => .error (.badAction (String.ofList text))

/-- Characters without blanks at their start, if that is asked for. -/
def trimStartIf (trims : Bool) (chars : List Char) : List Char :=
  if trims then chars.dropWhile Text.isBlank else chars

/-- Characters without blanks at their end, if that is asked for. -/
def trimEndIf (trims : Bool) (chars : List Char) : List Char :=
  if trims then Text.dropWhileEnd Text.isBlank chars else chars

/-- The number of bytes of some characters. -/
def byteCount (chars : List Char) : Nat := (String.ofList chars).utf8ByteSize

/-- What follows a leading dash is shorter than the whole. -/
theorem length_of_afterLeadingDash? {chars rest : List Char}
    (found : afterLeadingDash? chars = some rest) : rest.length ≤ chars.length := by
  unfold afterLeadingDash? at found
  split at found
  · split at found
    · simp only [Option.some.injEq] at found
      rw [← found]
      simp only [List.length_cons]
      omega
    · simp at found
  · simp at found

/-- The text of an action with whatever a leading dash leaves of it. -/
def actionStart (chars : List Char) : List Char := (afterLeadingDash? chars).getD chars

/-- The start of an action is part of what follows its braces. -/
theorem length_actionStart (chars : List Char) : (actionStart chars).length ≤ chars.length := by
  unfold actionStart
  cases found : afterLeadingDash? chars with
  | none => exact Nat.le_refl _
  | some rest => exact length_of_afterLeadingDash? found

/--
The segments of a template's text from some place on, which lies `offset` bytes from the start. An
action before that place may ask for the blanks there to be trimmed.
-/
def segmentsFrom (offset : Nat) (trims : Bool) (chars : List Char) :
    Except ReadError (List Segment) :=
  match _opening : splitOpening? chars with
  | none => .ok (textSegment (trimStartIf trims chars))
  | some (before, after) =>
    let text := trimEndIf (afterLeadingDash? after).isSome (trimStartIf trims before)
    match _closing : splitClosing? false (actionStart after) with
    | none => .error (.unclosedAction (offset + byteCount before))
    | some (inner, rest) => do
      let action := (beforeTrailingDash? inner).getD inner
      let found ← actionSegment (Text.trimChars action)
      let consumed := byteCount (chars.take (chars.length - rest.length))
      let others ← segmentsFrom (offset + consumed) (beforeTrailingDash? inner).isSome rest
      return textSegment text ++ found ++ others
termination_by chars.length
decreasing_by
  have first := length_of_splitOpening? _opening
  have second := length_of_splitClosing? _closing
  have third := length_actionStart after
  omega

/-- The segments of a template's text. -/
def segments (text : String) : Except ReadError (List Segment) := segmentsFrom 0 false text.toList

end LogForwarder.Template
