/-
This file proves that the compact text of a value is read back as the value. A text is cut into
tokens and the tokens are put into the containers that are open. Whatever stands before a value, the
value leaves its own tokens behind; only the last digit of a number waits for what follows it, which
is a comma, a closing bracket or the end of the text.
-/

import LogForwarder.Json.Reader
import LogForwarder.Proofs.Json.Literal
import LogForwarder.Proofs.Numeral

namespace LogForwarder

/-- A value that JSON texts give exactly: all its numbers are counts. -/
inductive Value.IsExact : Value → Prop
  | null : IsExact .null
  | boolean (value : Bool) : IsExact (.boolean value)
  | integer {count : Nat} (within : count ≤ Text.maxCount) : IsExact (.integer count)
  | text (value : String) : IsExact (.text value)
  | list {items : List Value} (each : ∀ item ∈ items, IsExact item) : IsExact (.list items)
  | object {entries : List (String × Value)} (each : ∀ entry ∈ entries, IsExact entry.2) :
    IsExact (.object entries)

namespace Json

/-! ### Cutting into tokens -/

/-- The tokens of a text that ends in a state. -/
def Lexing.finished (lexing : Lexing) : List Token :=
  lexing.tokens.reverse ++ (lexing.mode.map Mode.finish).getD []

/-- The characters that may follow a value. -/
def followers : List Char := [',', ']', Char.ofNat 0x7D]

/-- Whether a state is as good as one between tokens, for all that may follow a value. -/
structure Lexing.Rests (lexing rested : Lexing) : Prop where
  next : ∀ c ∈ followers, lexing.advance c = rested.advance c
  finished : lexing.finished = rested.finished

/-- Characters that are cut into some tokens, of which the last may wait for what follows it. -/
def CutsInto (chars : List Char) (cut : List Token) : Prop :=
  ∀ before, (chars.foldl Lexing.advance ⟨some .between, before⟩).Rests
    ⟨some .between, cut.reverse ++ before⟩

/-- Characters that are cut into some tokens, whatever follows them. -/
def ClosesInto (chars : List Char) (cut : List Token) : Prop :=
  ∀ before, chars.foldl Lexing.advance ⟨some .between, before⟩ =
    ⟨some .between, cut.reverse ++ before⟩

theorem ClosesInto.append {first second : List Char} {firstCut secondCut : List Token}
    (firstCloses : ClosesInto first firstCut) (secondCloses : ClosesInto second secondCut) :
    ClosesInto (first ++ second) (firstCut ++ secondCut) := by
  intro before
  rw [List.foldl_append, firstCloses, secondCloses, List.reverse_append, List.append_assoc]

theorem ClosesInto.append_cuts {first second : List Char} {firstCut secondCut : List Token}
    (firstCloses : ClosesInto first firstCut) (secondCuts : CutsInto second secondCut) :
    CutsInto (first ++ second) (firstCut ++ secondCut) := by
  intro before
  rw [List.foldl_append, firstCloses, List.reverse_append, List.append_assoc]
  exact secondCuts _

theorem ClosesInto.cuts {chars : List Char} {cut : List Token} (closes : ClosesInto chars cut) :
    CutsInto chars cut := by
  intro before
  rw [closes before]
  exact ⟨fun _ _ => rfl, rfl⟩

/-- What may follow a value closes its last token. -/
theorem CutsInto.closes {chars : List Char} {cut : List Token} (cuts : CutsInto chars cut)
    {c : Char} {token : Token} (follows : c ∈ followers) (marks : ClosesInto [c] [token]) :
    ClosesInto (chars ++ [c]) (cut ++ [token]) := by
  intro before
  rw [List.foldl_append, List.foldl_cons, List.foldl_nil, (cuts before).next c follows,
    List.reverse_append, List.append_assoc]
  exact marks _

theorem tokens_of_cutsInto {text : String} {cut : List Token} (cuts : CutsInto text.toList cut) :
    tokens text = cut := by
  show (text.toList.foldl Lexing.advance ⟨some .between, []⟩).finished = cut
  rw [(cuts []).finished]
  simp [Lexing.finished, Mode.finish]

/-! ### Strings -/

/-- Characters that complete no token leave all tokens as they are. -/
theorem foldl_of_foldlM_silentStep? {chars : List Char} {mode next : Mode}
    (silent : chars.foldlM Mode.silentStep? mode = some next) (before : List Token) :
    chars.foldl Lexing.advance ⟨some mode, before⟩ = ⟨some next, before⟩ := by
  induction chars generalizing mode with
  | nil =>
    cases silent
    rfl
  | cons c rest inductionHypothesis =>
    obtain ⟨inside, stepped, others⟩ := Option.bind_eq_some_iff.mp silent
    have advanced : Lexing.advance ⟨some mode, before⟩ c = ⟨some inside, before⟩ := by
      unfold Mode.silentStep? at stepped
      unfold Lexing.advance
      split at stepped
      · next step =>
        cases stepped
        simp only [step]
        rfl
      · cases stepped
    rw [List.foldl_cons, advanced]
    exact inductionHypothesis others

theorem closesInto_textLiteral (text : String) :
    ClosesInto (Value.textLiteral text).toList [.text text] := by
  intro before
  obtain ⟨parts, read, silent⟩ := exists_foldlM_literalBody text
  have opened : Lexing.advance ⟨some .between, before⟩ '"' = ⟨some (.text []), before⟩ := rfl
  rw [toList_textLiteral, List.foldl_cons, opened, List.foldl_append,
    foldl_of_foldlM_silentStep? silent]
  show (⟨some .between, textToken parts.reverse :: before⟩ : Lexing) = _
  rw [read]
  rfl

/-! ### Counts -/

/-- A number that could end. -/
theorem rests_number {phase : NumberPhase} (read : Numeral) (before : List Token)
    (ends : phase = .zero ∨ phase = .whole) :
    Lexing.Rests ⟨some (.number phase read), before⟩
      ⟨some .between, numberToken read :: before⟩ := by
  refine ⟨?_, ?_⟩
  · intro c follows
    simp only [followers, List.mem_cons, List.not_mem_nil, or_false] at follows
    rcases ends with rfl | rfl <;> rcases follows with rfl | rfl | rfl <;> rfl
  · rcases ends with rfl | rfl <;> simp [Lexing.finished, Mode.finish]

theorem foldl_digits {digits : List Char} (areDigits : ∀ c ∈ digits, c.isDigit) (read : Numeral)
    (before : List Token) :
    digits.foldl Lexing.advance ⟨some (.number .whole read), before⟩ =
      ⟨some (.number .whole { read with whole := digits.reverse ++ read.whole }), before⟩ := by
  induction digits generalizing read with
  | nil => rfl
  | cons c rest inductionHypothesis =>
    obtain ⟨isDigit, restAre⟩ := List.forall_mem_cons.mp areDigits
    have advanced : Lexing.advance ⟨some (.number .whole read), before⟩ c =
        ⟨some (.number .whole { read with whole := c :: read.whole }), before⟩ := by
      simp [Lexing.advance, Mode.step, stepNumber, isDigit]
    rw [List.foldl_cons, advanced, inductionHypothesis restAre, List.reverse_cons,
      List.append_assoc]
    rfl

/-- The document of the digits of a count. -/
theorem numberToken_toDigits {count : Nat} (within : count ≤ Text.maxCount) :
    numberToken { startNumber false with whole := (Nat.toDigits 10 count).reverse } =
      .scalar (.integer count) := by
  simp [numberToken, startNumber, Numeral.toDocument, Text.digitsValue_toDigits, within]

theorem begin_of_isDigit {c : Char} (isDigit : c.isDigit) (notZero : c ≠ '0') :
    begin c = .ok (.number .whole { startNumber false with whole := [c] }, []) := by
  have different (mark : Char) (notDigit : mark.isDigit = false) : c ≠ mark := by
    rintro rfl
    rw [isDigit] at notDigit
    cases notDigit
  have atMost : c.toNat ≤ 57 := by
    simpa [UInt32.le_iff_toNat_le] using ((Bool.and_eq_true _ _).mp isDigit).2
  have noOpening : c.toNat ≠ 0x7B := by omega
  have noClosing : c.toNat ≠ 0x7D := by omega
  simp [begin, isDigit, notZero, noOpening, noClosing, different ' ' rfl, different '\n' rfl,
    different '\r' rfl, different '\t' rfl, different '[' rfl, different ']' rfl,
    different ',' rfl, different ':' rfl, different '"' rfl, different 'n' rfl, different 't' rfl,
    different 'f' rfl, different '-' rfl]

theorem cutsInto_toDigits {count : Nat} (within : count ≤ Text.maxCount) :
    CutsInto (Nat.toDigits 10 count) [.scalar (.integer count)] := by
  intro before
  have rests {phase : NumberPhase} (ends : phase = .zero ∨ phase = .whole) :=
    rests_number { startNumber false with whole := (Nat.toDigits 10 count).reverse } before ends
  rw [numberToken_toDigits within] at rests
  by_cases zero : count = 0
  · subst zero
    exact rests (.inl rfl)
  · obtain ⟨c, rest, digits, notZero⟩ :=
      Text.exists_toDigits_of_pos (Nat.pos_of_ne_zero zero)
    have areDigits : ∀ other ∈ c :: rest, other.isDigit := by
      rw [← digits]
      exact fun _ => Text.isDigit_of_mem_toDigits
    obtain ⟨isDigit, restAre⟩ := List.forall_mem_cons.mp areDigits
    have advanced : Lexing.advance ⟨some .between, before⟩ c =
        ⟨some (.number .whole { startNumber false with whole := [c] }), before⟩ := by
      simp [Lexing.advance, Mode.step, begin_of_isDigit isDigit notZero]
    have ends := rests (.inr rfl)
    rw [digits, List.reverse_cons] at ends
    rw [digits, List.foldl_cons, advanced, foldl_digits restAre]
    exact ends

/-! ### Putting tokens into containers -/

/-- The places where a value may begin. -/
def Place.TakesValue (place : Place) : Prop :=
  place = .value ∨ place = .firstItem ∨ place = .nextItem

/-- Characters that stand for a document wherever a value may begin. -/
def ReadsAs (chars : List Char) (document : Document) : Prop :=
  ∃ cut, CutsInto chars cut ∧ ∀ frames place, place.TakesValue →
    cut.foldl State.advance (.reading frames place) = Json.place frames document

/-- Characters that stand for members of a list that is open, after a bracket or a comma. -/
def ReadsAsItems (chars : List Char) (items : List Document) : Prop :=
  ∃ cut, CutsInto chars cut ∧ ∀ frames before place, place = .firstItem ∨ place = .nextItem →
    cut.foldl State.advance (.reading (.list before :: frames) place) =
      .reading (.list (items.reverse ++ before) :: frames) .afterValue

/-- Characters that stand for members of an object that is open, after a brace or a comma. -/
def ReadsAsEntries (chars : List Char) (entries : List (String × Document)) : Prop :=
  ∃ cut, CutsInto chars cut ∧ ∀ frames before place, place = .firstKey ∨ place = .nextKey →
    cut.foldl State.advance (.reading (.object before "" :: frames) place) =
      .reading (.object (entries.reverse ++ before) "" :: frames) .afterValue

/-! ### Scalars -/

theorem readsAs_scalar {chars : List Char} {document : Document}
    (cuts : CutsInto chars [.scalar document]) : ReadsAs chars document := by
  refine ⟨_, cuts, ?_⟩
  rintro frames place (rfl | rfl | rfl) <;> rfl

theorem readsAs_textLiteral (text : String) :
    ReadsAs (Value.textLiteral text).toList (.text text) := by
  refine ⟨_, (closesInto_textLiteral text).cuts, ?_⟩
  rintro frames place (rfl | rfl | rfl) <;> rfl

/-! ### Lists -/

theorem closesInto_comma : ClosesInto [','] [.comma] := fun _ => rfl

theorem ReadsAsItems.single {chars : List Char} {item : Document} (reads : ReadsAs chars item) :
    ReadsAsItems chars [item] := by
  obtain ⟨cut, cuts, takes⟩ := reads
  exact ⟨cut, cuts, fun frames before place inside =>
    takes (.list before :: frames) place (.inr inside)⟩

theorem ReadsAsItems.cons {first others : List Char} {item : Document} {items : List Document}
    (readsFirst : ReadsAs first item) (readsOthers : ReadsAsItems others items) :
    ReadsAsItems (first ++ [','] ++ others) (item :: items) := by
  obtain ⟨cut, cuts, takes⟩ := readsFirst
  obtain ⟨othersCut, othersCuts, takesOthers⟩ := readsOthers
  refine ⟨_, (cuts.closes (by decide) closesInto_comma).append_cuts othersCuts, ?_⟩
  intro frames before place inside
  rw [List.foldl_append, List.foldl_append, takes _ _ (.inr inside), List.reverse_cons,
    List.append_assoc]
  exact takesOthers frames (item :: before) .nextItem (.inr rfl)

theorem readsAsItems_compactItems {items : List Value} (notEmpty : items ≠ [])
    (each : ∀ item ∈ items, ReadsAs item.compact.toList (.ofValue item)) :
    ReadsAsItems (Value.compactItems items).toList (Document.ofItems items) := by
  induction items with
  | nil => exact absurd rfl notEmpty
  | cons item rest inductionHypothesis =>
    obtain ⟨readsItem, readsRest⟩ := List.forall_mem_cons.mp each
    cases rest with
    | nil => exact .single readsItem
    | cons next others =>
      show ReadsAsItems (item.compact ++ "," ++ Value.compactItems (next :: others)).toList _
      rw [String.toList_append, String.toList_append]
      exact .cons readsItem (inductionHypothesis (List.cons_ne_nil _ _) readsRest)

theorem readsAs_list {items : List Value}
    (each : ∀ item ∈ items, ReadsAs item.compact.toList (.ofValue item)) :
    ReadsAs (Value.list items).compact.toList (.ofValue (.list items)) := by
  have opens : ClosesInto ['['] [.openList] := fun _ => rfl
  have closes : ClosesInto [']'] [.closeList] := fun _ => rfl
  rw [Value.compact, String.toList_append, String.toList_append]
  by_cases empty : items = []
  · subst empty
    refine ⟨_, (opens.append closes).cuts, ?_⟩
    rintro frames place (rfl | rfl | rfl) <;> rfl
  · obtain ⟨cut, cuts, takes⟩ := readsAsItems_compactItems empty each
    refine ⟨_, (opens.append (cuts.closes (by decide) closes)).cuts, ?_⟩
    intro frames place begins
    have opened : State.advance (.reading frames place) .openList =
        .reading (.list [] :: frames) .firstItem := by
      rcases begins with rfl | rfl | rfl <;> rfl
    rw [List.singleton_append, List.foldl_cons, opened, List.foldl_append,
      takes frames [] .firstItem (.inl rfl), List.append_nil]
    show Json.place frames (.list (Document.ofItems items).reverse.reverse) = _
    rw [List.reverse_reverse]
    rfl

/-! ### Objects -/

/-- A key with its colon. -/
theorem closesInto_key (key : String) :
    ClosesInto ((Value.textLiteral key).toList ++ [':']) [.text key, .colon] :=
  (closesInto_textLiteral key).append fun _ => rfl

theorem ReadsAsEntries.single (key : String) {chars : List Char} {value : Document}
    (reads : ReadsAs chars value) :
    ReadsAsEntries ((Value.textLiteral key).toList ++ [':'] ++ chars) [(key, value)] := by
  obtain ⟨cut, cuts, takes⟩ := reads
  refine ⟨_, (closesInto_key key).append_cuts cuts, ?_⟩
  rintro frames before place (rfl | rfl) <;>
    exact takes (.object before key :: frames) .value (.inl rfl)

theorem ReadsAsEntries.cons {first others : List Char} {entry : String × Document}
    {entries : List (String × Document)} (readsFirst : ReadsAsEntries first [entry])
    (readsOthers : ReadsAsEntries others entries) :
    ReadsAsEntries (first ++ [','] ++ others) (entry :: entries) := by
  obtain ⟨cut, cuts, takes⟩ := readsFirst
  obtain ⟨othersCut, othersCuts, takesOthers⟩ := readsOthers
  refine ⟨_, (cuts.closes (by decide) closesInto_comma).append_cuts othersCuts, ?_⟩
  intro frames before place inside
  have reversed : (entry :: entries).reverse ++ before = entries.reverse ++ entry :: before := by
    rw [List.reverse_cons, List.append_assoc, List.singleton_append]
  rw [List.foldl_append, List.foldl_append, takes frames before place inside, reversed]
  exact takesOthers frames (entry :: before) .nextKey (.inr rfl)

theorem readsAsEntries_compactEntries {entries : List (String × Value)} (notEmpty : entries ≠ [])
    (each : ∀ entry ∈ entries, ReadsAs entry.2.compact.toList (.ofValue entry.2)) :
    ReadsAsEntries (Value.compactEntries entries).toList (Document.ofEntries entries) := by
  induction entries with
  | nil => exact absurd rfl notEmpty
  | cons entry rest inductionHypothesis =>
    obtain ⟨key, value⟩ := entry
    obtain ⟨readsValue, readsRest⟩ := List.forall_mem_cons.mp each
    have single := ReadsAsEntries.single key readsValue
    cases rest with
    | nil =>
      show ReadsAsEntries (Value.textLiteral key ++ ":" ++ value.compact).toList _
      rw [String.toList_append, String.toList_append]
      exact single
    | cons next others =>
      show ReadsAsEntries (Value.textLiteral key ++ ":" ++ value.compact ++ "," ++
        Value.compactEntries (next :: others)).toList _
      rw [String.toList_append, String.toList_append, String.toList_append, String.toList_append]
      exact .cons single (inductionHypothesis (List.cons_ne_nil _ _) readsRest)

theorem readsAs_object {entries : List (String × Value)}
    (each : ∀ entry ∈ entries, ReadsAs entry.2.compact.toList (.ofValue entry.2)) :
    ReadsAs (Value.object entries).compact.toList (.ofValue (.object entries)) := by
  have opens : ClosesInto [Char.ofNat 0x7B] [.openObject] := fun _ => rfl
  have closes : ClosesInto [Char.ofNat 0x7D] [.closeObject] := fun _ => rfl
  rw [Value.compact, String.toList_append, String.toList_append]
  by_cases empty : entries = []
  · subst empty
    refine ⟨_, (opens.append closes).cuts, ?_⟩
    rintro frames place (rfl | rfl | rfl) <;> rfl
  · obtain ⟨cut, cuts, takes⟩ := readsAsEntries_compactEntries empty each
    refine ⟨_, (opens.append (cuts.closes (by decide) closes)).cuts, ?_⟩
    intro frames place begins
    have opened : State.advance (.reading frames place) .openObject =
        .reading (.object [] "" :: frames) .firstKey := by
      rcases begins with rfl | rfl | rfl <;> rfl
    rw [List.singleton_append, List.foldl_cons, opened, List.foldl_append,
      takes frames [] .firstKey (.inl rfl), List.append_nil]
    show Json.place frames (.table (Document.ofEntries entries).reverse.reverse) = _
    rw [List.reverse_reverse]
    rfl

/-! ### Values -/

theorem readsAs_compact {value : Value} (isExact : value.IsExact) :
    ReadsAs value.compact.toList (.ofValue value) := by
  induction isExact with
  | null => exact readsAs_scalar (ClosesInto.cuts fun _ => rfl)
  | boolean value => cases value <;> exact readsAs_scalar (ClosesInto.cuts fun _ => rfl)
  | @integer count within =>
    have written : toString (count : Int) = String.ofList (Nat.toDigits 10 count) :=
      Nat.toString_eq_ofList_toDigits
    rw [Value.compact, written, String.toList_ofList]
    exact readsAs_scalar (cutsInto_toDigits within)
  | text value => exact readsAs_textLiteral value
  | list _ inductionHypothesis => exact readsAs_list inductionHypothesis
  | object _ inductionHypothesis => exact readsAs_object inductionHypothesis

/-- The text of a value is a document with nothing behind it, and holds the value. -/
theorem read_compact {value : Value} (isExact : value.IsExact) :
    read value.compact = ⟨.ofValue value, none⟩ := by
  obtain ⟨cut, cuts, takes⟩ := readsAs_compact isExact
  unfold read
  rw [tokens_of_cutsInto cuts, takes [] .value (.inl rfl)]
  rfl

theorem read_textLiteral (text : String) :
    read (Value.textLiteral text) = ⟨.text text, none⟩ := by
  have isRead := read_compact (.text text)
  rwa [Value.compact, Document.ofValue] at isRead

end Json

end LogForwarder
