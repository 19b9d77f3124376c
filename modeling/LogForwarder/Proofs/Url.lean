/-
This file proves how an address is read that is put together from a scheme, a host and a port. None
of the characters that the reader looks for stand in the host, but for the brackets of a literal and
the colons between them, so that the reader gets all of the host and all of the port: what the
address is depends on what the host is alone. The usual port of a scheme is left out of the result.

Between brackets stands an address of version 6, and its text is read as the address. Pieces are
written in hexadecimal digits between colons, and the longest run of zeros is left out, if it is a
run at all, with two colons in its place. No piece is empty as it is written, so there are two
colons together in that place only, and what is left out is told by the number of pieces.
-/
import LogForwarder.Proofs.Numeral
import LogForwarder.Proofs.OneLine
import LogForwarder.Proofs.Scheme
import LogForwarder.Url.Host
import Mathlib.Data.List.TakeWhile

namespace LogForwarder

/-- The characters of a port behind a host. -/
def portChars : Option Nat → List Char
  | some port => ':' :: Nat.toDigits 10 port
  | none => []

theorem HostPort.toList_text (address : HostPort) :
    address.text.toList = address.host.toList ++ portChars address.port? := by
  obtain ⟨host, port?⟩ := address
  cases port? with
  | none => exact (List.append_nil _).symm
  | some port =>
    show (host ++ ":" ++ toString port).toList = _
    rw [String.toList_append, String.toList_append, Text.toList_toString, List.append_assoc]
    rfl

namespace Url

/-! ### Hosts -/

/-- The characters that end the part of an address with its host, and the sign behind a user. -/
def authorityMarks : List Char := ['/', '\\', '?', '#', '@']

/-- Whether characters can be a host: no mark is among them, and a colon behind them ends them. -/
structure IsHostText (host : List Char) : Prop where
  unmarked : ∀ c ∈ host, c ∉ authorityMarks
  ends : splitHost false (host ++ [':']) = (host, [':'])

/-- Whether a character stands between brackets. -/
def bracketsAfter (inBrackets : Bool) (c : Char) : Bool :=
  if c = '[' then true else if c = ']' then false else inBrackets

theorem splitHost_cons (inBrackets : Bool) (c : Char) (rest : List Char) :
    splitHost inBrackets (c :: rest) =
      if c = ':' && !inBrackets then ([], c :: rest)
      else
        (c :: (splitHost (bracketsAfter inBrackets c) rest).1,
          (splitHost (bracketsAfter inBrackets c) rest).2) := by
  rw [splitHost]
  rfl

/-- A host ends before a colon that stands outside of brackets, whatever follows. -/
theorem splitHost_append {inBrackets : Bool} {host : List Char}
    (ends : splitHost inBrackets (host ++ [':']) = (host, [':'])) :
    splitHost inBrackets host = (host, []) ∧
      ∀ rest, splitHost inBrackets (host ++ ':' :: rest) = (host, ':' :: rest) := by
  induction host generalizing inBrackets with
  | nil =>
    rw [List.nil_append, splitHost_cons] at ends
    split at ends
    · next outside =>
      exact ⟨rfl, fun rest => by rw [List.nil_append, splitHost_cons, if_pos outside]⟩
    · cases ends
  | cons c others inductionHypothesis =>
    rw [List.cons_append, splitHost_cons] at ends
    split at ends
    · cases ends
    · next inside =>
      obtain ⟨first, second⟩ := Prod.mk.inj ends
      obtain ⟨alone, followed⟩ := inductionHypothesis (Prod.ext (List.cons.inj first).2 second)
      refine ⟨?_, fun rest => ?_⟩
      · rw [splitHost_cons, if_neg inside, alone]
      · rw [List.cons_append, splitHost_cons, if_neg inside, followed]

/-- Characters without colons and brackets are passed over. -/
theorem splitHost_of_forall_ne {inBrackets : Bool} {host : List Char}
    (plain : ∀ c ∈ host, c ∉ ['[', ']'] ∧ (inBrackets = false → c ≠ ':')) (rest : List Char) :
    splitHost inBrackets (host ++ rest) =
      (host ++ (splitHost inBrackets rest).1, (splitHost inBrackets rest).2) := by
  induction host with
  | nil => rfl
  | cons c others inductionHypothesis =>
    obtain ⟨⟨noBracket, noColon⟩, later⟩ := List.forall_mem_cons.mp plain
    have same : bracketsAfter inBrackets c = inBrackets := by
      unfold bracketsAfter
      simp only [List.mem_cons, List.not_mem_nil, or_false, not_or] at noBracket
      rw [if_neg noBracket.1, if_neg noBracket.2]
    have passed : ¬(decide (c = ':') && !inBrackets) = true := by
      cases inBrackets <;> simp_all
    rw [List.cons_append, splitHost_cons, if_neg passed, same, inductionHypothesis later]
    rfl

/-- A host without colons and brackets. -/
theorem isHostText_of_forall_notMem {host : List Char}
    (plain : ∀ c ∈ host, c ∉ authorityMarks ++ ['[', ']', ':']) : IsHostText host where
  unmarked c member marked := plain c member (List.mem_append_left _ marked)
  ends := by
    have passed : ∀ c ∈ host, c ∉ ['[', ']'] ∧ (false = false → c ≠ ':') := by
      intro c member
      have other := plain c member
      simp only [List.mem_append, List.mem_cons, List.not_mem_nil, or_false, not_or] at other ⊢
      exact ⟨⟨other.2.1, other.2.2.1⟩, fun _ => other.2.2.2⟩
    rw [splitHost_of_forall_ne passed]
    exact Prod.ext (List.append_nil _) rfl

/-- A host between brackets, which may have colons. -/
theorem isHostText_bracketed {inner : List Char}
    (plain : ∀ c ∈ inner, c ∉ authorityMarks ++ ['[', ']']) :
    IsHostText ('[' :: (inner ++ [']'])) where
  unmarked c member marked := by
    rcases List.mem_cons.mp member with rfl | member
    · revert marked
      decide
    rcases List.mem_append.mp member with inInner | isEnd
    · exact plain c inInner (List.mem_append_left _ marked)
    · rw [List.mem_singleton.mp isEnd] at marked
      revert marked
      decide
  ends := by
    have passed : ∀ c ∈ inner, c ∉ ['[', ']'] ∧ (true = false → c ≠ ':') := fun c member =>
      ⟨fun bracket => plain c member (List.mem_append_right _ bracket), nofun⟩
    have inside : splitHost true (inner ++ [']', ':']) = (inner ++ [']'], [':']) :=
      splitHost_of_forall_ne passed _
    show splitHost false ('[' :: ((inner ++ [']']) ++ [':'])) = _
    rw [splitHost_cons, if_neg (by decide), List.append_assoc]
    show ('[' :: (splitHost true (inner ++ [']', ':'])).1,
      (splitHost true (inner ++ [']', ':'])).2) = _
    rw [inside]

/-- What is left out of an address wherever it stands is not needed for a host. -/
theorem IsHostText.filter {host : List Char} (isHost : IsHostText host) :
    IsHostText (host.filter (· ∉ ['\t', '\n', '\r'])) where
  unmarked c member := isHost.unmarked c (List.mem_filter.mp member).1
  ends := by
    have smaller : ∀ (inBrackets : Bool) (chars : List Char),
        splitHost inBrackets (chars ++ [':']) = (chars, [':']) →
          splitHost inBrackets (chars.filter (· ∉ ['\t', '\n', '\r']) ++ [':']) =
            (chars.filter (· ∉ ['\t', '\n', '\r']), [':']) := by
      intro inBrackets chars
      induction chars generalizing inBrackets with
      | nil => exact id
      | cons c others inductionHypothesis =>
        intro ends
        rw [List.cons_append, splitHost_cons] at ends
        split at ends
        · cases ends
        next inside =>
        obtain ⟨first, second⟩ := Prod.mk.inj ends
        have later := inductionHypothesis _ (Prod.ext (List.cons.inj first).2 second)
        by_cases stays : c ∉ ['\t', '\n', '\r']
        · have kept : (c :: others).filter (· ∉ ['\t', '\n', '\r']) =
              c :: others.filter (· ∉ ['\t', '\n', '\r']) :=
            List.filter_cons_of_pos (decide_eq_true stays)
          rw [kept, List.cons_append, splitHost_cons, if_neg inside, later]
        · have same : bracketsAfter inBrackets c = inBrackets := by
            have blank := not_not.mp stays
            simp only [List.mem_cons, List.not_mem_nil, or_false] at blank
            rcases blank with rfl | rfl | rfl <;> rfl
          have left : (c :: others).filter (· ∉ ['\t', '\n', '\r']) =
              others.filter (· ∉ ['\t', '\n', '\r']) :=
            List.filter_cons_of_neg (by rwa [decide_eq_true_eq])
          rw [left]
          rwa [same] at later
    exact smaller false host isHost.ends

/-! ### Authority -/

/-- The address of a scheme, a host and a port. -/
def ofAuthority (scheme : String) (host? : Option Host) (port? : Option Nat) : Url :=
  { ofScheme scheme with
    host? := host?
    port? := if port? = usualPort? scheme then none else port?
    path := if isSpecialScheme scheme then "/" else "" }

theorem readPort_toDigits {port : Nat} (within : port ≤ maxPort) :
    readPort (Nat.toDigits 10 port) = .ok (some port, []) := by
  have digits := Text.all_isDigit_toDigits port
  have each : ∀ c ∈ Nat.toDigits 10 port, c.isDigit = true := List.all_eq_true.mp digits
  have spans : Text.spanDigits (Nat.toDigits 10 port) = (Nat.toDigits 10 port, []) := by
    unfold Text.spanDigits
    rw [List.takeWhile_eq_self_iff.mpr each, List.dropWhile_eq_nil_iff.mpr each]
  unfold readPort
  rw [spans]
  simp only [Text.digitsValue_toDigits]
  rw [if_neg (Nat.not_lt.mpr within), if_neg (by decide),
    if_neg (by simp)]

/-- No character of a host or of a port ends the part of an address that they stand in. -/
theorem endsAuthority_of_mem {host : List Char} (isHost : IsHostText host) (isSpecial : Bool)
    (port? : Option Nat) :
    ∀ c ∈ host ++ portChars port?, endsAuthority isSpecial c = false ∧ c ≠ '@' := by
  have ofUnmarked : ∀ c, c ∉ authorityMarks → endsAuthority isSpecial c = false ∧ c ≠ '@' := by
    intro c unmarked
    simp only [authorityMarks, List.mem_cons, List.not_mem_nil, or_false, not_or] at unmarked
    simp [endsAuthority, unmarked]
  intro c member
  refine ofUnmarked c ?_
  rcases List.mem_append.mp member with inHost | inPort
  · exact isHost.unmarked c inHost
  · cases port? with
    | none => exact absurd inPort List.not_mem_nil
    | some port =>
      rcases List.mem_cons.mp inPort with rfl | isDigit
      · decide
      · intro marked
        have digit := Text.isDigit_of_mem_toDigits isDigit
        simp only [authorityMarks, List.mem_cons, List.not_mem_nil, or_false] at marked
        rcases marked with rfl | rfl | rfl | rfl | rfl <;> cases digit

/-- A host and a port are read as what the host is, with the port. -/
theorem readAuthority_append (scheme : String) {host : List Char} (isHost : IsHostText host)
    {port? : Option Nat} (within : ∀ port ∈ port?, port ≤ maxPort) :
    readAuthority scheme (host ++ portChars port?) =
      hostOf (isSpecialScheme scheme) host >>= fun host? =>
        if host?.isNone && port?.isSome then .error .emptyHost
        else .ok (ofAuthority scheme host? port?) := by
  have inAuthority := endsAuthority_of_mem isHost (isSpecialScheme scheme) port?
  have passes : ∀ c ∈ host ++ portChars port?,
      (!endsAuthority (isSpecialScheme scheme) c) = true := fun c member => by
    rw [(inAuthority c member).1]
    rfl
  have noUser : splitUser? (host ++ portChars port?) = none := by
    have allDropped : (host ++ portChars port?).reverse.dropWhile (· ≠ '@') = [] :=
      List.dropWhile_eq_nil_iff.mpr fun c member =>
        decide_eq_true (inAuthority c (List.mem_reverse.mp member)).2
    unfold splitUser?
    rw [allDropped]
  obtain ⟨alone, followed⟩ := splitHost_append isHost.ends
  unfold readAuthority
  simp only [List.takeWhile_eq_self_iff.mpr passes, List.dropWhile_eq_nil_iff.mpr passes, noUser]
  rw [if_neg (by simp)]
  cases port? with
  | none =>
    simp only [portChars, List.append_nil, Option.getD_none, alone]
    cases hostOf (isSpecialScheme scheme) host with
    | error error => rfl
    | ok host? => cases host? <;> rfl
  | some port =>
    simp only [portChars, Option.getD_none, followed, List.append_nil,
      readPort_toDigits (within port rfl)]
    cases hostOf (isSpecialScheme scheme) host with
    | error error => rfl
    | ok host? => cases host? <;> rfl

/-! ### Characters that are kept -/

/-- Whether a character is no control character and no blank of ASCII. -/
def IsVisible (c : Char) : Prop := ¬c.toNat ≤ 32

instance (c : Char) : Decidable (IsVisible c) := inferInstanceAs (Decidable ¬_)

/-- Nothing is cut off before a visible character, so that only what is left out everywhere is. -/
theorem kept_append_cons {c : Char} (visible : IsVisible c) (before after : List Char) :
    kept (before ++ c :: after) = before.filter (· ∉ ['\t', '\n', '\r']) ++ c :: kept after := by
  have stays : c ∉ ['\t', '\n', '\r'] := by
    intro isBlank
    simp only [List.mem_cons, List.not_mem_nil, or_false] at isBlank
    rcases isBlank with rfl | rfl | rfl <;> exact absurd visible (by decide)
  unfold kept
  rw [dropWhileEnd_append_cons (decide_eq_false visible), List.filter_append]
  exact congrArg _ (List.filter_cons_of_pos (decide_eq_true stays))

theorem kept_cons {c : Char} (visible : IsVisible c) (after : List Char) :
    kept (c :: after) = c :: kept after :=
  kept_append_cons visible [] after

theorem kept_of_forall_isVisible {chars : List Char} (visible : ∀ c ∈ chars, IsVisible c) :
    kept chars = chars := by
  induction chars with
  | nil => rfl
  | cons c others inductionHypothesis =>
    obtain ⟨here, later⟩ := List.forall_mem_cons.mp visible
    rw [kept_cons here, inductionHypothesis later]

theorem isVisible_of_mem_portChars {port? : Option Nat} : ∀ c ∈ portChars port?, IsVisible c := by
  intro c member
  cases port? with
  | none => exact absurd member List.not_mem_nil
  | some port =>
    rcases List.mem_cons.mp member with rfl | isDigit
    · decide
    · have digit := Text.isDigit_of_mem_toDigits isDigit
      have atLeast : 48 ≤ c.toNat := of_decide_eq_true (Bool.and_eq_true_iff.mp digit).1
      exact Nat.not_le.mpr (Nat.lt_of_lt_of_le (by decide) atLeast)

/-- A port keeps the end of a host. -/
theorem kept_append_portChars (host : List Char) (port : Nat) :
    kept (host ++ portChars (some port)) =
      host.filter (· ∉ ['\t', '\n', '\r']) ++ portChars (some port) := by
  have chars : ∀ c ∈ portChars (some port), IsVisible c := isVisible_of_mem_portChars
  have digits := (List.forall_mem_cons.mp chars).2
  show kept (host ++ ':' :: _) = _
  rw [kept_append_cons (by decide), kept_of_forall_isVisible digits]
  rfl

end Url

/-! ### Addresses -/

namespace Endpoint

/-- Whether a text is a scheme that is written in small letters, and not that of files. -/
structure IsPlainScheme (scheme : String) : Prop where
  named : scheme ≠ ""
  letters : ∀ c ∈ scheme.toList, c.isAlpha
  isLower : scheme.toList.map Char.toLower = scheme.toList
  notFile : scheme ≠ "file"

theorem IsPlainScheme.noColon {scheme : String} (isScheme : IsPlainScheme scheme) :
    ':' ∉ scheme.toList := by
  intro member
  exact absurd (isScheme.letters _ member) (by decide)

open Url (hostOf isSpecialScheme kept)

theorem toList_withScheme (scheme : String) (address : HostPort) :
    (scheme ++ "://" ++ address.text).toList =
      scheme.toList ++ ':' :: '/' :: '/' :: (address.host.toList ++ portChars address.port?) := by
  rw [String.toList_append, String.toList_append, address.toList_text, List.append_assoc]
  rfl

section WithScheme

variable {scheme : String} (isScheme : IsPlainScheme scheme)

include isScheme

/-- Behind a scheme and its mark stands an authority. -/
theorem read_withScheme {address : String} {chars : List Char}
    (written : address.toList = scheme.toList ++ ':' :: '/' :: '/' :: chars)
    (noSlash : (kept chars).dropWhile Url.isAnySlash = kept chars) :
    Url.read address = Url.readAuthority scheme (kept chars) := by
  have some : scheme.toList ≠ [] := fun empty => isScheme.named (String.toList_eq_nil_iff.mp empty)
  have slash : Url.IsVisible '/' := by decide
  unfold Url.read
  rw [written, Url.splitScheme?_significant some isScheme.letters, isScheme.isLower,
    String.ofList_toList, Url.kept_cons slash, Url.kept_cons slash]
  simp only
  unfold Url.readAfterScheme
  rw [if_neg isScheme.notFile]
  split
  · rw [List.dropWhile_cons_of_pos (by decide), List.dropWhile_cons_of_pos (by decide), noSlash]
  · rfl

theorem isSome_scheme?_withScheme (address : HostPort) :
    (scheme? (scheme ++ "://" ++ address.text)).isSome = true := by
  unfold scheme?
  rw [toList_withScheme, splitScheme?_append isScheme.noColon]
  rfl

/--
A scheme, a host and a port are read as an address exactly if the host is one, and the address has
the port unless it is the usual one.
-/
theorem readUrl_withScheme_iff {address : HostPort} {host : List Char}
    (isHost : Url.IsHostText host) (within : ∀ port ∈ address.port?, port ≤ Url.maxPort)
    (isKept : kept (address.host.toList ++ portChars address.port?) =
      host ++ portChars address.port?) (url : Url) :
    readUrl (scheme ++ "://" ++ address.text) = .ok url ↔
      ∃ found, hostOf (isSpecialScheme scheme) host = .ok (some found) ∧
        url = Url.ofAuthority scheme (some found) address.port? := by
  have noSlash : (host ++ portChars address.port?).dropWhile Url.isAnySlash =
      host ++ portChars address.port? := by
    refine List.dropWhile_eq_self_iff.mpr fun nonempty slash => ?_
    have ends := (Url.endsAuthority_of_mem isHost true address.port? _
      (List.getElem_mem nonempty)).1
    revert slash ends
    simp only [Url.isAnySlash, Url.endsAuthority]
    grind
  have isRead :=
    read_withScheme isScheme (toList_withScheme scheme address) (by rw [isKept, noSlash])
  rw [isKept, Url.readAuthority_append scheme isHost within] at isRead
  unfold readUrl
  rw [if_neg (by rw [← Option.not_isSome, isSome_scheme?_withScheme isScheme]; decide), isRead]
  cases hostOf (isSpecialScheme scheme) host with
  | error error => exact iff_of_false nofun (fun ⟨_, absurdity, _⟩ => nomatch absurdity)
  | ok host? =>
    cases host? with
    | none =>
      refine iff_of_false ?_ (fun ⟨_, absurdity, _⟩ => nomatch absurdity)
      cases address.port? <;> exact nofun
    | some found =>
      refine ⟨?_, ?_⟩
      · intro same
        exact ⟨found, rfl, (Except.ok.inj same).symm⟩
      · rintro ⟨_, same, rfl⟩
        cases same
        rfl

end WithScheme

end Endpoint

namespace Url

/-! ### Pieces -/

/-- Whether a number is a piece of an address, which has 16 bits. -/
def IsPiece (piece : Nat) : Prop := piece < 2 ^ 16

instance (piece : Nat) : Decidable (IsPiece piece) := inferInstanceAs (Decidable (_ < _))

theorem hexValue?_digitChar : ∀ digit < 16, hexValue? (Nat.digitChar digit) = some digit := by
  decide

theorem valueInBase_append_singleton (base : Nat) (digits : List Nat) (last : Nat) :
    valueInBase base (digits ++ [last]) = base * valueInBase base digits + last := by
  unfold valueInBase
  rw [List.foldl_append]
  rfl

/-- Hexadecimal digits are read as the number that they are written for. -/
theorem exists_hexValues (value : Nat) :
    ∃ digits, (Nat.toDigits 16 value).mapM hexValue? = some digits ∧
      valueInBase 16 digits = value := by
  induction value using Nat.strongRecOn with
  | ind value inductionHypothesis =>
    rw [Nat.toDigits_eq_if (by decide)]
    split
    · next small =>
      exact ⟨[value], by simp [hexValue?_digitChar value small], by simp [valueInBase]⟩
    · next large =>
      obtain ⟨digits, areDigits, isValue⟩ := inductionHypothesis (value / 16) (by omega)
      have last := hexValue?_digitChar (value % 16) (Nat.mod_lt _ (by decide))
      refine ⟨digits ++ [value % 16], by simp [List.mapM_append, areDigits, last], ?_⟩
      rw [valueInBase_append_singleton, isValue]
      exact Nat.div_add_mod value 16

theorem ipv6Piece?_toDigits {piece : Nat} (isPiece : IsPiece piece) :
    ipv6Piece? (Nat.toDigits 16 piece) = some [piece] := by
  obtain ⟨digits, areDigits, isValue⟩ := exists_hexValues piece
  have short : (Nat.toDigits 16 piece).length ≤ 4 :=
    (Nat.length_toDigits_le_iff (by decide) (by decide)).mpr isPiece
  have some : (Nat.toDigits 16 piece).isEmpty = false :=
    List.isEmpty_eq_false_iff.mpr (List.ne_nil_of_length_pos Nat.length_toDigits_pos)
  unfold ipv6Piece?
  rw [some, Bool.false_or, if_neg (by simpa using short), areDigits]
  exact congrArg (Option.some [·]) isValue

/-- No digit is a mark of addresses. -/
theorem ne_of_mem_toDigits {piece : Nat} {c : Char} (member : c ∈ Nat.toDigits 16 piece) :
    c ∉ ['/', '\\', '?', '#', '@', '[', ']', ':', '.'] ∧ ¬c.toNat ≤ 32 := by
  have noMark : ∀ digit < 16,
      Nat.digitChar digit ∉ ['/', '\\', '?', '#', '@', '[', ']', ':', '.'] ∧
        ¬(Nat.digitChar digit).toNat ≤ 32 := by
    decide
  obtain ⟨digit, small, rfl⟩ := exists_digitChar_of_mem_toDigits member
  exact noMark digit small

/-! ### Sides of an address -/

/-- The characters of pieces between colons. -/
def pieceChars (pieces : List Nat) : List Char := [':'].intercalate (pieces.map (Nat.toDigits 16))

theorem toList_pieceText (pieces : List Nat) : (pieceText pieces).toList = pieceChars pieces := by
  unfold pieceText pieceChars
  rw [String.toList_intercalate, List.map_map]
  exact congrArg _ (List.map_congr_left fun _ _ => String.toList_ofList)

theorem pieceChars_cons_cons (first second : Nat) (others : List Nat) :
    pieceChars (first :: second :: others) =
      Nat.toDigits 16 first ++ ':' :: pieceChars (second :: others) := by
  unfold pieceChars
  rw [List.map_cons, List.map_cons, List.intercalate_cons_cons, List.append_assoc,
    List.singleton_append]

theorem pieceChars_singleton (piece : Nat) : pieceChars [piece] = Nat.toDigits 16 piece :=
  List.intercalate_singleton

theorem isEmpty_pieceChars (pieces : List Nat) : (pieceChars pieces).isEmpty = pieces.isEmpty := by
  match pieces with
  | [] => rfl
  | [piece] =>
    rw [pieceChars_singleton]
    exact List.isEmpty_eq_false_iff.mpr (List.ne_nil_of_length_pos Nat.length_toDigits_pos)
  | first :: second :: others =>
    rw [pieceChars_cons_cons]
    simp

/-- Colons and digits are all that pieces are written with. -/
theorem eq_or_mem_toDigits_of_mem_pieceChars {pieces : List Nat} {c : Char}
    (member : c ∈ pieceChars pieces) : c = ':' ∨ ∃ piece, c ∈ Nat.toDigits 16 piece := by
  induction pieces with
  | nil => exact absurd member List.not_mem_nil
  | cons first others inductionHypothesis =>
    cases others with
    | nil => exact .inr ⟨first, pieceChars_singleton first ▸ member⟩
    | cons second rest =>
      rw [pieceChars_cons_cons] at member
      rcases List.mem_append.mp member with inFirst | later
      · exact .inr ⟨first, inFirst⟩
      · rcases List.mem_cons.mp later with rfl | inOthers
        · exact .inl rfl
        · exact inductionHypothesis inOthers

theorem ipv6Pieces?_map_toDigits {pieces : List Nat} (arePieces : ∀ piece ∈ pieces, IsPiece piece) :
    ipv6Pieces? (pieces.map (Nat.toDigits 16)) = some pieces := by
  induction pieces with
  | nil => rfl
  | cons first others inductionHypothesis =>
    obtain ⟨isPiece, areOthers⟩ := List.forall_mem_cons.mp arePieces
    cases others with
    | nil =>
      have noDot : (Nat.toDigits 16 first).contains '.' = false := by
        rw [← Bool.not_eq_true, List.contains_iff_mem]
        exact fun member => (ne_of_mem_toDigits member).1 (by decide)
      show (if (Nat.toDigits 16 first).contains '.' then _ else _) = _
      rw [noDot]
      exact ipv6Piece?_toDigits isPiece
    | cons second rest =>
      have later := inductionHypothesis areOthers
      rw [List.map_cons, List.map_cons, ipv6Pieces?, ipv6Piece?_toDigits isPiece, ← List.map_cons,
        later]
      · rfl
      · exact fun absurdity => List.cons_ne_nil _ _ absurdity

/-- A side of an address is read as the pieces that it is written for. -/
theorem sidePieces?_pieceChars {pieces : List Nat} (arePieces : ∀ piece ∈ pieces, IsPiece piece) :
    sidePieces? (pieceChars pieces) = some pieces := by
  unfold sidePieces?
  rw [isEmpty_pieceChars]
  cases pieces with
  | nil => rfl
  | cons first others =>
    have digits : ∀ part ∈ (first :: others).map (Nat.toDigits 16), ∀ c ∈ part,
        decide (c = ':') = false := by
      rintro _ isPart c member
      obtain ⟨piece, _, rfl⟩ := List.mem_map.mp isPart
      refine decide_eq_false ?_
      rintro rfl
      exact (ne_of_mem_toDigits member).1 (by decide)
    rw [List.isEmpty_cons, if_neg Bool.false_ne_true, pieceChars,
      Text.splitOn_intercalate (decide_eq_true rfl) (by simp) digits]
    exact ipv6Pieces?_map_toDigits arePieces

/-! ### Two colons -/

/-- Two colons are not found in characters without colons, and not across their end. -/
theorem splitDoubleColon?_append {chars : List Char} (noColon : ':' ∉ chars) (rest : List Char) :
    splitDoubleColon? (chars ++ rest) =
      (splitDoubleColon? rest).map fun (before, after) => (chars ++ before, after) := by
  induction chars with
  | nil => exact Option.map_id'.symm
  | cons c others inductionHypothesis =>
    obtain ⟨notColon, noneLater⟩ := List.ne_and_not_mem_of_not_mem_cons noColon
    rw [List.cons_append, splitDoubleColon?, inductionHypothesis noneLater, Option.map_map]
    · rfl
    · exact fun _ same _ => notColon same.symm

/-- A colon and another character do not belong to two colons. -/
theorem splitDoubleColon?_colon {c : Char} (other : c ≠ ':') (rest : List Char) :
    splitDoubleColon? (':' :: c :: rest) =
      (splitDoubleColon? (c :: rest)).map fun (before, after) => (':' :: before, after) := by
  rw [splitDoubleColon?]
  exact fun _ _ same => other (List.cons.inj same).1

theorem exists_pieceChars_cons (first : Nat) (others : List Nat) :
    ∃ c tail, pieceChars (first :: others) = c :: tail ∧ c ≠ ':' := by
  obtain ⟨c, tail, digits⟩ := List.exists_cons_of_length_pos
    (Nat.length_toDigits_pos (b := 16) (n := first))
  have isDigit : c ∈ Nat.toDigits 16 first := digits ▸ List.mem_cons_self
  have notColon : c ≠ ':' := by
    rintro rfl
    exact (ne_of_mem_toDigits isDigit).1 (by decide)
  cases others with
  | nil => exact ⟨c, tail, by rw [pieceChars_singleton, digits], notColon⟩
  | cons second rest =>
    exact ⟨c, _, by rw [pieceChars_cons_cons, digits, List.cons_append], notColon⟩

/-- No two colons stand together in pieces, or at their end. -/
theorem splitDoubleColon?_pieceChars (pieces : List Nat) (rest : List Char) :
    splitDoubleColon? (pieceChars pieces ++ rest) =
      (splitDoubleColon? rest).map fun (before, after) => (pieceChars pieces ++ before, after) := by
  have noColon (piece : Nat) : ':' ∉ Nat.toDigits 16 piece := fun member =>
    (ne_of_mem_toDigits member).1 (by decide)
  induction pieces with
  | nil => exact Option.map_id'.symm
  | cons first others inductionHypothesis =>
    cases others with
    | nil =>
      rw [pieceChars_singleton]
      exact splitDoubleColon?_append (noColon first) rest
    | cons second later =>
      -- The colon before a piece is followed by a digit of the piece.
      obtain ⟨c, tail, begins, notColon⟩ := exists_pieceChars_cons second later
      have afterColon : splitDoubleColon? (':' :: pieceChars (second :: later) ++ rest) =
          (splitDoubleColon? rest).map fun (before, after) =>
            (':' :: pieceChars (second :: later) ++ before, after) := by
        rw [begins, List.cons_append, List.cons_append, splitDoubleColon?_colon notColon,
          ← List.cons_append, ← begins, inductionHypothesis, Option.map_map]
        rfl
      rw [pieceChars_cons_cons, List.append_assoc, splitDoubleColon?_append (noColon first),
        afterColon, Option.map_map]
      refine congrArg (Option.map · _) (funext fun _ => ?_)
      simp

/-! ### Runs of zeros -/

theorem eq_append_zeroRun (pieces : List Nat) :
    pieces = List.replicate (zeroRun pieces) 0 ++ pieces.drop (zeroRun pieces) := by
  have zeros : pieces.takeWhile (· = 0) = List.replicate (zeroRun pieces) 0 :=
    List.eq_replicate_of_mem fun piece member => by simpa using List.mem_takeWhile_imp member
  calc pieces
      = pieces.takeWhile (· = 0) ++ pieces.drop (zeroRun pieces) := by
        exact List.prefix_iff_eq_append.mp (List.takeWhile_prefix _) |>.symm
    _ = _ := by rw [zeros]

/-- The longest run of zeros stands where it is found. -/
theorem eq_append_longestZeroRun (pieces : List Nat) :
    pieces = pieces.take (longestZeroRun pieces).1 ++
      (List.replicate (longestZeroRun pieces).2 0 ++
        pieces.drop ((longestZeroRun pieces).1 + (longestZeroRun pieces).2)) := by
  induction pieces with
  | nil => rfl
  | cons piece rest inductionHypothesis =>
    have longest : longestZeroRun (piece :: rest) =
        if (longestZeroRun rest).2 ≤ zeroRun (piece :: rest) then (0, zeroRun (piece :: rest))
        else ((longestZeroRun rest).1 + 1, (longestZeroRun rest).2) := rfl
    rw [longest]
    split
    · rw [List.take_zero, List.nil_append, Nat.zero_add]
      exact eq_append_zeroRun _
    · rw [List.take_succ_cons, List.cons_append, Nat.add_right_comm, List.drop_succ_cons]
      exact congrArg (piece :: ·) inductionHypothesis

/-! ### Addresses -/

/-- The characters of an address: its pieces, or those on either side of the zeros left out. -/
theorem toList_ipv6Text (pieces : List Nat) :
    (ipv6Text pieces).toList = pieceChars pieces ∨
      ∃ left right gap, pieces = left ++ (List.replicate gap 0 ++ right) ∧ 2 ≤ gap ∧
        (ipv6Text pieces).toList = pieceChars left ++ ':' :: ':' :: pieceChars right := by
  have written : ipv6Text pieces =
      if (longestZeroRun pieces).2 < 2 then pieceText pieces
      else pieceText (pieces.take (longestZeroRun pieces).1) ++ "::" ++
        pieceText (pieces.drop ((longestZeroRun pieces).1 + (longestZeroRun pieces).2)) := rfl
  rw [written]
  rcases Nat.lt_or_ge (longestZeroRun pieces).2 2 with few | many
  · exact .inl (by rw [if_pos few, toList_pieceText])
  · refine .inr ⟨_, _, _, eq_append_longestZeroRun pieces, many, ?_⟩
    rw [if_neg (Nat.not_lt.mpr many), String.toList_append, String.toList_append,
      toList_pieceText, toList_pieceText, List.append_assoc]
    rfl

/-- The text of an address of eight pieces is read as these pieces. -/
theorem ipv6Address?_ipv6Text {pieces : List Nat} (arePieces : ∀ piece ∈ pieces, IsPiece piece)
    (eight : pieces.length = 8) : ipv6Address? (ipv6Text pieces).toList = some pieces := by
  rcases toList_ipv6Text pieces with whole | ⟨left, right, gap, apart, long, written⟩
  · have noGap := splitDoubleColon?_pieceChars pieces []
    rw [List.append_nil] at noGap
    unfold ipv6Address?
    rw [whole, noGap, splitDoubleColon?, Option.map_none]
    simp [sidePieces?_pieceChars arePieces, eight]
  · subst apart
    have isGap := splitDoubleColon?_pieceChars left (':' :: ':' :: pieceChars right)
    rw [splitDoubleColon?, Option.map_some] at isGap
    have noDot : '.' ∉ pieceChars left := by
      intro member
      rcases eq_or_mem_toDigits_of_mem_pieceChars member with absurdity | ⟨_, isDigit⟩
      · exact absurd absurdity (by decide)
      · exact (ne_of_mem_toDigits isDigit).1 (by decide)
    have isLeft := sidePieces?_pieceChars fun piece member =>
      arePieces piece (List.mem_append_left _ member)
    have isRight := sidePieces?_pieceChars fun piece member =>
      arePieces piece (List.mem_append_right _ (List.mem_append_right _ member))
    -- As many zeros are put in as are missing to eight.
    have missing : 8 - (left.length + right.length) = gap := by
      simp only [List.length_append, List.length_replicate] at eight
      omega
    have fewer : left.length + right.length < 8 := by omega
    unfold ipv6Address?
    rw [written, isGap]
    simp [noDot, isLeft, isRight, fewer, missing]

/-- An address is written with hexadecimal digits and colons. -/
theorem eq_or_mem_toDigits_of_mem_ipv6Text {pieces : List Nat} {c : Char}
    (member : c ∈ (ipv6Text pieces).toList) : c = ':' ∨ ∃ piece, c ∈ Nat.toDigits 16 piece := by
  rcases toList_ipv6Text pieces with whole | ⟨left, right, _, _, _, written⟩
  · exact eq_or_mem_toDigits_of_mem_pieceChars (whole ▸ member)
  · rw [written] at member
    rcases List.mem_append.mp member with before | after
    · exact eq_or_mem_toDigits_of_mem_pieceChars before
    · rcases List.mem_cons.mp after with isColon | after'
      · exact .inl isColon
      · rcases List.mem_cons.mp after' with isColon | inRight
        · exact .inl isColon
        · exact eq_or_mem_toDigits_of_mem_pieceChars inRight

/-- Eight pieces cannot be written without a colon. -/
theorem colon_mem_ipv6Text {pieces : List Nat} (eight : pieces.length = 8) :
    ':' ∈ (ipv6Text pieces).toList := by
  rcases toList_ipv6Text pieces with whole | ⟨left, right, _, _, _, written⟩
  · obtain ⟨first, second, others, rfl⟩ : ∃ first second others,
        pieces = first :: second :: others := by
      match pieces, eight with
      | first :: second :: others, _ => exact ⟨first, second, others, rfl⟩
    rw [whole, pieceChars_cons_cons]
    exact List.mem_append_right _ List.mem_cons_self
  · rw [written]
    exact List.mem_append_right _ List.mem_cons_self

/-- Brackets around the text of an address are read as the address. -/
theorem readBracketed_ipv6Text {pieces : List Nat} (arePieces : ∀ piece ∈ pieces, IsPiece piece)
    (eight : pieces.length = 8) :
    readBracketed ((ipv6Text pieces).toList ++ [']']) = .ok (.ipv6 pieces) := by
  have closed : ((ipv6Text pieces).toList ++ [']']).reverse =
      ']' :: (ipv6Text pieces).toList.reverse := List.reverse_append
  unfold readBracketed
  simp only [closed, List.reverse_reverse, ipv6Address?_ipv6Text arePieces eight]

end Url

end LogForwarder
