/-
This file proves which texts stay on their line, whatever they are made of. Numbers and quantities
have no line breaks, nor has what stands for an address once it has been read: a scheme has letters,
a path is encoded, and a host with a line break is refused, even if the break was encoded. A host
and a port that are taken from a text as they stand have no more line breaks than the text.
-/
import LogForwarder.Endpoint
import LogForwarder.Proofs.Case
import LogForwarder.Proofs.Numeral
import LogForwarder.Proofs.Scheme
import LogForwarder.Spec.Tuning

namespace LogForwarder

/-! ### Bytes of texts -/

/-- A byte that stands for a character by itself is among those of no other character. -/
theorem ofNat_mem_utf8EncodeChar_iff {mark : Char} (isAscii : mark.toNat < 128) (c : Char) :
    UInt8.ofNat mark.toNat ∈ String.utf8EncodeChar c ↔ mark = c := by
  have ofNat_eq (code : Nat) (small : code < 256) :
      UInt8.ofNat mark.toNat = UInt8.ofNat code ↔ mark.toNat = code := by
    rw [← UInt8.toNat_inj, UInt8.toNat_ofNat', UInt8.toNat_ofNat', Nat.mod_eq_of_lt (by omega),
      Nat.mod_eq_of_lt small]
  have same : mark = c ↔ mark.toNat = c.val.toNat := Char.toNat_inj.symm
  fun_cases String.utf8EncodeChar c <;>
    simp only [List.mem_cons, List.not_mem_nil, or_false, same]
  · rw [ofNat_eq _ (by omega)]
  · rw [ofNat_eq _ (by omega), ofNat_eq _ (by omega)]
    omega
  · rw [ofNat_eq _ (by omega), ofNat_eq _ (by omega), ofNat_eq _ (by omega)]
    omega
  · rw [ofNat_eq _ (by omega), ofNat_eq _ (by omega), ofNat_eq _ (by omega), ofNat_eq _ (by omega)]
    omega

/-- Such a character is in a text if its byte is among those of the text. -/
theorem mem_bytes_iff {mark : Char} (isAscii : mark.toNat < 128) (text : String) :
    UInt8.ofNat mark.toNat ∈ text.toByteArray.data.toList ↔ mark ∈ text.toList := by
  have bytes : text.toByteArray.data.toList = text.toList.flatMap String.utf8EncodeChar := by
    conv_lhs => rw [← String.utf8Encode_toList]
    unfold List.utf8Encode
    rw [List.data_toByteArray]
  rw [bytes, List.mem_flatMap]
  simp [ofNat_mem_utf8EncodeChar_iff isAscii]

/-- Whether a text stays on its line. -/
def OneLine (text : String) : Prop := '\n' ∉ text.toList

-- The bytes of a literal are much sooner found out than its characters.
instance (text : String) : Decidable (OneLine text) :=
  decidable_of_iff (UInt8.ofNat '\n'.toNat ∉ text.toByteArray.data.toList)
    (mem_bytes_iff (by decide) text).not

/-! ### Parts of texts -/

theorem oneLine_append_iff (first second : String) :
    OneLine (first ++ second) ↔ OneLine first ∧ OneLine second := by
  unfold OneLine
  rw [String.toList_append, List.mem_append, not_or]

theorem oneLine_ofList_iff (chars : List Char) : OneLine (String.ofList chars) ↔ '\n' ∉ chars := by
  unfold OneLine
  rw [String.toList_ofList]

theorem notMem_intercalate {separator : List Char} (separatorOnLine : '\n' ∉ separator)
    {parts : List (List Char)} (each : ∀ part ∈ parts, '\n' ∉ part) :
    '\n' ∉ separator.intercalate parts := by
  induction parts with
  | nil => exact List.not_mem_nil
  | cons part rest inductionHypothesis =>
    obtain ⟨partOnLine, restOnLine⟩ := List.forall_mem_cons.mp each
    cases rest with
    | nil =>
      rw [List.intercalate_singleton]
      exact partOnLine
    | cons next others =>
      rw [List.intercalate_cons_cons]
      exact List.not_mem_append (List.not_mem_append partOnLine separatorOnLine)
        (inductionHypothesis restOnLine)

theorem oneLine_intercalate {separator : String} (separatorOnLine : OneLine separator)
    {texts : List String} (each : ∀ text ∈ texts, OneLine text) :
    OneLine (separator.intercalate texts) := by
  unfold OneLine
  rw [String.toList_intercalate]
  refine notMem_intercalate separatorOnLine fun part member => ?_
  obtain ⟨text, isText, rfl⟩ := List.mem_map.mp member
  exact each text isText

/-- Characters of a text that stays on its line make up one that does. -/
theorem OneLine.ofList {text : String} (onLine : OneLine text) {chars : List Char}
    (subset : chars ⊆ text.toList) : OneLine (String.ofList chars) :=
  (oneLine_ofList_iff chars).mpr fun member => onLine (subset member)

theorem dropWhileEnd_subset (test : Char → Bool) (chars : List Char) :
    Text.dropWhileEnd test chars ⊆ chars := by
  intro c member
  unfold Text.dropWhileEnd at member
  exact List.mem_reverse.mp ((List.dropWhile_suffix test).subset (List.mem_reverse.mp member))

theorem subset_of_mem_splitOn {isSeparator : Char → Bool} {chars part : List Char}
    (member : part ∈ Text.splitOn isSeparator chars) : part ⊆ chars := by
  induction chars generalizing part with
  | nil =>
    rw [List.mem_singleton.mp member]
    exact List.nil_subset _
  | cons c rest inductionHypothesis =>
    unfold Text.splitOn at member
    split at member
    · rcases List.mem_cons.mp member with rfl | later
      · exact List.nil_subset _
      · exact List.subset_cons_of_subset c (inductionHypothesis later)
    · split at member
      · rw [List.mem_singleton.mp member]
        exact List.cons_subset_cons c (List.nil_subset rest)
      · next first others parts =>
        rcases List.mem_cons.mp member with rfl | later
        · exact List.cons_subset_cons c (inductionHypothesis (parts ▸ List.mem_cons_self))
        · exact List.subset_cons_of_subset c
            (inductionHypothesis (parts ▸ List.mem_cons_of_mem _ later))

/-! ### Characters -/

theorem toLower_ne_break {c : Char} (notBreak : c ≠ '\n') : c.toLower ≠ '\n' := by
  have ascii : ∀ code < 128, (Char.ofNat code).toLower = '\n' → Char.ofNat code = '\n' := by decide
  by_cases isAscii : c.toNat < 128
  · rw [← Char.ofNat_toNat c] at notBreak ⊢
    exact mt (ascii _ isAscii) notBreak
  · unfold Char.toLower
    rw [dif_neg]
    · exact notBreak
    · rintro ⟨_, isUpper⟩
      have within : c.toNat ≤ 90 := UInt32.le_iff_toNat_le.mp isUpper
      omega

theorem OneLine.toLower {text : String} (onLine : OneLine text) : OneLine text.toLower := by
  unfold OneLine String.toLower
  rw [String.toList_map, List.mem_map]
  rintro ⟨c, member, isBreak⟩
  exact toLower_ne_break (fun same => onLine (same ▸ member)) isBreak

/-- A character of a code is a line break only if the code is that of one. -/
theorem ofNat_ne_break {code : Nat} (other : code ≠ 10) : Char.ofNat code ≠ '\n' := by
  intro isBreak
  unfold Char.ofNat at isBreak
  by_cases valid : code.isValidChar
  · rw [dif_pos valid] at isBreak
    exact other (congrArg Char.toNat isBreak)
  · rw [dif_neg valid] at isBreak
    cases isBreak

/-! ### Numbers -/

theorem exists_digitChar_of_mem_toDigits {value : Nat} {c : Char}
    (member : c ∈ Nat.toDigits 16 value) : ∃ digit < 16, c = Nat.digitChar digit := by
  induction value using Nat.strongRecOn with
  | ind value inductionHypothesis =>
    rw [Nat.toDigits_eq_if (by decide)] at member
    split at member
    · next small => exact ⟨value, small, List.mem_singleton.mp member⟩
    · next large =>
      rcases List.mem_append.mp member with earlier | last
      · exact inductionHypothesis (value / 16) (by omega) earlier
      · exact ⟨value % 16, Nat.mod_lt _ (by decide), List.mem_singleton.mp last⟩

theorem oneLine_hexadecimal (value : Nat) : OneLine (Text.hexadecimal value) := by
  refine (oneLine_ofList_iff _).mpr fun member => ?_
  obtain ⟨digit, small, isBreak⟩ := exists_digitChar_of_mem_toDigits member
  have other : ∀ digit < 16, '\n' ≠ Nat.digitChar digit := by decide
  exact other digit small isBreak

theorem notMem_toDigits (value : Nat) : '\n' ∉ Nat.toDigits 10 value := fun isDigit =>
  absurd (Text.isDigit_of_mem_toDigits isDigit) (by decide)

theorem oneLine_toString (value : Nat) : OneLine (toString value) := by
  have written : toString value = String.ofList (Nat.toDigits 10 value) :=
    Nat.toString_eq_ofList_toDigits
  rw [written, oneLine_ofList_iff]
  exact notMem_toDigits value

/-! ### Quantities -/

theorem oneLine_fractionDigits (thousandths : Nat) :
    OneLine (Duration.fractionDigits thousandths) := by
  refine (oneLine_ofList_iff _).mpr fun member => ?_
  rcases List.mem_append.mp (dropWhileEnd_subset _ _ member) with isZero | isDigit
  · exact absurd (List.eq_of_mem_replicate isZero) (by decide)
  · exact notMem_toDigits _ isDigit

theorem oneLine_display_duration (duration : Duration) : OneLine duration.display := by
  have unit (count : Nat) {sign : String} (onLine : OneLine sign) :
      OneLine (toString count ++ sign) :=
    (oneLine_append_iff _ _).mpr ⟨oneLine_toString count, onLine⟩
  unfold Duration.display
  simp only
  split_ifs
  · decide
  · exact (oneLine_append_iff _ _).mpr ⟨unit _ (by decide), oneLine_fractionDigits _⟩
  · exact unit _ (by decide)
  · exact unit _ (by decide)
  · exact unit _ (by decide)
  · exact unit _ (by decide)

theorem oneLine_display_byteSize (size : ByteSize) : OneLine size.display := by
  have unit (count : Nat) {sign : String} (onLine : OneLine sign) :
      OneLine (toString count ++ sign) :=
    (oneLine_append_iff _ _).mpr ⟨oneLine_toString count, onLine⟩
  unfold ByteSize.display
  simp only
  split_ifs
  · decide
  · exact unit _ (by decide)
  · exact unit _ (by decide)
  · exact unit _ (by decide)
  · exact oneLine_toString _

/-! ### Hosts -/

namespace Url

theorem oneLine_encode {set : EncodeSet} (encodes : set '\n') (chars : List Char) :
    OneLine (encode set chars) := by
  refine (oneLine_ofList_iff _).mpr fun member => ?_
  obtain ⟨c, _, isBreak⟩ := List.mem_flatMap.mp member
  unfold encodeChar at isBreak
  split at isBreak
  · obtain ⟨byte, _, isBreak⟩ := List.mem_flatMap.mp isBreak
    have digit : ∀ value < 16, '\n' ≠ (Nat.digitChar value).toUpper := by decide
    simp only [encodedByte, List.map_cons, List.map_nil, List.mem_cons, List.not_mem_nil,
      or_false] at isBreak
    have small := byte.toNat_lt
    rcases isBreak with isSign | isHigh | isLow
    · exact absurd isSign (by decide)
    · exact digit _ (by omega) isHigh
    · exact digit _ (by omega) isLow
  · next plain =>
    rw [← List.mem_singleton.mp isBreak] at plain
    exact plain encodes

theorem oneLine_ipv4Text (address : Nat) : OneLine (ipv4Text address) := by
  refine oneLine_intercalate (by decide) fun text member => ?_
  obtain ⟨shift, _, rfl⟩ := List.mem_map.mp member
  exact oneLine_toString _

theorem oneLine_pieceText (pieces : List Nat) : OneLine (pieceText pieces) := by
  refine oneLine_intercalate (by decide) fun text member => ?_
  obtain ⟨piece, _, rfl⟩ := List.mem_map.mp member
  exact oneLine_hexadecimal piece

theorem oneLine_ipv6Text (pieces : List Nat) : OneLine (ipv6Text pieces) := by
  unfold ipv6Text
  simp only
  split
  · exact oneLine_pieceText pieces
  · rw [oneLine_append_iff, oneLine_append_iff]
    exact ⟨⟨oneLine_pieceText _, by decide⟩, oneLine_pieceText _⟩

namespace Punycode

theorem digit_ne_break (value : Nat) : digit value ≠ '\n' := by
  unfold digit
  split
  · exact ofNat_ne_break (by simp; omega)
  · exact ofNat_ne_break (by simp; omega)

theorem notMem_writeDistance (bias position distance : Nat) :
    '\n' ∉ writeDistance bias position distance := by
  fun_induction writeDistance bias position distance with
  | case1 position distance limit large inductionHypothesis =>
    exact List.not_mem_cons_of_ne_of_not_mem (digit_ne_break _).symm inductionHypothesis
  | case2 position distance limit small =>
    exact List.not_mem_cons_of_ne_of_not_mem (digit_ne_break _).symm List.not_mem_nil

theorem notMem_written_pass {plainCount code : Nat} {writing : Writing}
    (onLine : '\n' ∉ writing.written) (c : Char) :
    '\n' ∉ (writing.pass plainCount code c).written := by
  unfold Writing.pass
  split
  · exact onLine
  · split
    · exact List.not_mem_append onLine (notMem_writeDistance _ _ _)
    · exact onLine

theorem notMem_written_writeCodes {chars : List Char} {plainCount : Nat} {writing : Writing}
    (onLine : '\n' ∉ writing.written) (next : Nat) (codes : List Nat) :
    '\n' ∉ (writeCodes chars plainCount writing next codes).written := by
  induction codes generalizing writing next with
  | nil => exact onLine
  | cons code rest inductionHypothesis =>
    have passed : ∀ writing : Writing, '\n' ∉ writing.written →
        '\n' ∉ (chars.foldl (Writing.pass plainCount code) writing).written := by
      clear inductionHypothesis
      induction chars with
      | nil => exact fun _ onLine => onLine
      | cons c others inductionHypothesis =>
        exact fun writing onLine => inductionHypothesis _ (notMem_written_pass onLine c)
    unfold writeCodes
    refine inductionHypothesis ?_ _
    exact passed { writing with distance := _ } onLine

/-- The name in ASCII of characters without line breaks has none either. -/
theorem notMem_encode {chars : List Char} (onLine : '\n' ∉ chars) : '\n' ∉ encode chars := by
  unfold encode
  refine List.not_mem_append ?_ (notMem_written_writeCodes List.not_mem_nil _ _)
  split
  · exact List.not_mem_nil
  · refine List.not_mem_append (fun member => onLine (List.mem_filter.mp member).1) ?_
    decide

end Punycode

theorem exists_of_mem_mapM? {α β : Type} {function : α → Option β} {items : List α}
    {results : List β} (made : items.mapM function = some results) {result : β}
    (member : result ∈ results) : ∃ item ∈ items, function item = some result := by
  induction items generalizing results with
  | nil =>
    cases made
    cases member
  | cons item rest inductionHypothesis =>
    rw [List.mapM_cons] at made
    obtain ⟨first, isFirst, made⟩ := Option.bind_eq_some_iff.mp made
    obtain ⟨others, areOthers, made⟩ := Option.bind_eq_some_iff.mp made
    cases made
    rcases List.mem_cons.mp member with rfl | later
    · exact ⟨item, List.mem_cons_self, isFirst⟩
    · obtain ⟨other, isOther, isResult⟩ := inductionHypothesis areOthers later
      exact ⟨other, List.mem_cons_of_mem _ isOther, isResult⟩

theorem notMem_written_ofChars? {chars : List Char} {label : Label} (onLine : '\n' ∉ chars)
    (found : Label.ofChars? chars = some label) : '\n' ∉ label.written := by
  unfold Label.ofChars? at found
  split at found
  · obtain ⟨read, _, found⟩ := Option.bind_eq_some_iff.mp found
    split at found
    · cases found
    · cases found
      exact onLine
  · split at found
    · cases found
      exact onLine
    · split at found
      · cases found
        exact List.not_mem_append (by decide) (Punycode.notMem_encode onLine)
      · cases found

/-- The form of a domain in ASCII has no line break, as no domain may have one. -/
theorem oneLine_of_domainToAscii? {domain ascii : String}
    (found : domainToAscii? domain = some ascii) : OneLine ascii := by
  unfold domainToAscii? at found
  obtain ⟨chars, _, found⟩ := Option.bind_eq_some_iff.mp found
  split at found
  · cases found
  · next allowed =>
    have onLine : '\n' ∉ chars := fun member => allowed (List.any_eq_true.mpr ⟨_, member, rfl⟩)
    obtain ⟨labels, areLabels, found⟩ := Option.bind_eq_some_iff.mp found
    split at found
    · cases found
    · cases found
      refine (oneLine_ofList_iff _).mpr ?_
      have each : ∀ label ∈ labels, '\n' ∉ label.written := by
        intro label member
        obtain ⟨part, isPart, isLabel⟩ := exists_of_mem_mapM? areLabels member
        exact notMem_written_ofChars? (fun inPart => onLine (subset_of_mem_splitOn isPart inPart))
          isLabel
      refine notMem_intercalate (by decide) fun written member => ?_
      obtain ⟨label, isLabel, rfl⟩ := List.mem_map.mp member
      exact each label isLabel

theorem oneLine_of_readBracketed {chars : List Char} {host : Host}
    (read : readBracketed chars = .ok host) : OneLine host.text := by
  unfold readBracketed at read
  split at read
  · split at read
    · cases read
      unfold Host.text
      simp only [oneLine_append_iff]
      exact ⟨⟨by decide, oneLine_ipv6Text _⟩, by decide⟩
    · cases read
  · cases read

theorem oneLine_of_readHost {chars : List Char} {host : Host} (read : readHost chars = .ok host) :
    OneLine host.text := by
  unfold readHost at read
  split at read
  · exact oneLine_of_readBracketed read
  · split at read
    · cases read
    · next domain isDomain =>
      obtain ⟨decoded, _, isAscii⟩ := Option.bind_eq_some_iff.mp isDomain
      split at read
      · cases read
      · split at read
        · unfold readIpv4 at read
          split at read
          · cases read
            exact oneLine_ipv4Text _
          · cases read
        · cases read
          exact oneLine_of_domainToAscii? isAscii

theorem oneLine_of_readOpaqueHost {chars : List Char} {host : Host}
    (read : readOpaqueHost chars = .ok host) : OneLine host.text := by
  unfold readOpaqueHost at read
  split at read
  · exact oneLine_of_readBracketed read
  · split at read
    · cases read
    · cases read
      exact oneLine_encode rfl _

/-! ### Addresses -/

theorem oneLine_writtenStep (isFile : Bool) (step : List Char) :
    OneLine (writtenStep isFile step) := by
  unfold writtenStep
  split
  · next letter mark =>
    split
    · next isDrive =>
      rw [Bool.and_eq_true] at isDrive
      refine (oneLine_ofList_iff _).mpr ?_
      have notBreak : letter ≠ '\n' := by
        rintro rfl
        cases isDrive.2
      simp [Ne.symm notBreak]
    · exact oneLine_encode rfl _
  · exact oneLine_encode rfl _

theorem oneLine_of_mem_walk {isFile : Bool} {taken : List String}
    (takenOnLine : ∀ step ∈ taken, OneLine step) (steps : List (List Char)) :
    ∀ step ∈ walk isFile taken steps, OneLine step := by
  induction steps generalizing taken with
  | nil => exact takenOnLine
  | cons step rest inductionHypothesis =>
    unfold walk
    refine inductionHypothesis ?_
    have withEmpty {taken : List String} (onLine : ∀ step ∈ taken, OneLine step) :
        ∀ step ∈ "" :: taken, OneLine step := List.forall_mem_cons.mpr ⟨by decide, onLine⟩
    have back : ∀ step ∈ goBack isFile taken, OneLine step := by
      unfold goBack
      split
      · exact fun _ absurdity => absurd absurdity List.not_mem_nil
      · split
        · exact takenOnLine
        · exact fun step member => takenOnLine step (List.mem_cons_of_mem _ member)
    simp only
    split
    · split
      · exact withEmpty back
      · exact back
    · split
      · split
        · exact withEmpty takenOnLine
        · exact takenOnLine
      · exact List.forall_mem_cons.mpr ⟨oneLine_writtenStep _ _, takenOnLine⟩

theorem oneLine_pathText (isSpecial isFile : Bool) (chars : List Char) :
    OneLine (pathText isSpecial isFile chars) := by
  unfold pathText
  simp only [oneLine_append_iff]
  refine ⟨by decide, oneLine_intercalate (by decide) fun step member => ?_⟩
  have noneTaken : ∀ step ∈ ([] : List String), OneLine step := fun _ absurdity =>
    absurd absurdity List.not_mem_nil
  split at member
  · exact oneLine_of_mem_walk noneTaken _ step
      (List.mem_reverse.mp ((List.dropWhile_suffix _).subset member))
  · exact oneLine_of_mem_walk noneTaken _ step (List.mem_reverse.mp member)

/-- Whether the host and the path of an address stay on their line. -/
structure IsOneLine (url : Url) : Prop where
  host : ∀ host, url.host? = some host → OneLine host.text
  path : OneLine url.path

theorem isOneLine_withTail {url : Url} (host : ∀ host, url.host? = some host → OneLine host.text)
    {path : List Char → String} (pathOnLine : ∀ chars, OneLine (path chars)) (chars : List Char) :
    (url.withTail path chars).IsOneLine :=
  ⟨host, pathOnLine _⟩

theorem oneLine_pathAfterHost (isSpecial isFile : Bool) (chars : List Char) :
    OneLine (pathAfterHost isSpecial isFile chars) := by
  unfold pathAfterHost
  split
  · cases isSpecial <;> decide
  · split <;> exact oneLine_pathText _ _ _

theorem oneLine_of_hostOf {isSpecial : Bool} {chars : List Char} {host? : Option Host}
    (found : hostOf isSpecial chars = .ok host?) :
    ∀ host, host? = some host → OneLine host.text := by
  rintro host rfl
  unfold hostOf at found
  split at found
  · cases isSpecial <;> cases found
  · cases isSpecial with
    | true =>
      cases read : readHost chars with
      | error error =>
        rw [read] at found
        cases found
      | ok other =>
        rw [read] at found
        cases found
        exact oneLine_of_readHost read
    | false =>
      cases read : readOpaqueHost chars with
      | error error =>
        rw [read] at found
        cases found
      | ok other =>
        rw [read] at found
        cases found
        exact oneLine_of_readOpaqueHost read

theorem isOneLine_of_readAuthority {scheme : String} {chars : List Char} {url : Url}
    (read : readAuthority scheme chars = .ok url) : url.IsOneLine := by
  unfold readAuthority at read
  simp only at read
  split at read
  · cases read
  obtain ⟨host?, found, read⟩ := exists_of_bind_eq_ok read
  have hostOnLine := oneLine_of_hostOf found
  have ends {authority : Url} (isHost : authority.host? = host?) (chars : List Char) :
      (authority.withTail (pathAfterHost (isSpecialScheme scheme) false) chars).IsOneLine :=
    isOneLine_withTail (isHost ▸ hostOnLine) (oneLine_pathAfterHost _ _) chars
  split at read
  · split at read
    · cases read
    obtain ⟨port, _, read⟩ := exists_of_bind_eq_ok read
    split at read
    · cases read
    · cases read
      exact ends rfl _
  · obtain ⟨port, _, read⟩ := exists_of_bind_eq_ok read
    split at read
    · cases read
    · cases read
      exact ends rfl _

theorem isOneLine_ofScheme (scheme : String) {path : List Char → String}
    (pathOnLine : ∀ chars, OneLine (path chars)) (chars : List Char) :
    ((ofScheme scheme).withTail path chars).IsOneLine :=
  isOneLine_withTail (fun _ isHost => nomatch (isHost : none = some _)) pathOnLine chars

theorem oneLine_of_fileHostOf {chars : List Char} {host? : Option Host}
    (found : fileHostOf chars = .ok host?) : ∀ host, host? = some host → OneLine host.text := by
  rintro host rfl
  unfold fileHostOf at found
  split at found
  · cases found
  · obtain ⟨other, isOther, same⟩ := exists_of_bind_eq_ok found
    split at same
    · cases same
    · cases same
      exact oneLine_of_readHost isOther

theorem isOneLine_of_readFile {chars : List Char} {url : Url} (read : readFile chars = .ok url) :
    url.IsOneLine := by
  have ends (chars : List Char) := isOneLine_ofScheme "file" (oneLine_pathText true true) chars
  unfold readFile at read
  simp only at read
  split at read
  · split at read
    · split at read
      · cases read
        exact ends _
      · obtain ⟨host?, found, read⟩ := exists_of_bind_eq_ok read
        cases read
        refine ⟨fun host isHost => ?_, oneLine_pathAfterHost _ _ _⟩
        split at isHost
        · cases isHost
        · exact oneLine_of_fileHostOf found host isHost
    · split at read <;> cases read <;> exact ends _
  · cases read
    exact ends _
  · cases read
    exact ends _

/-- An address that has been read stays on its line, whatever it was read from. -/
theorem isOneLine_of_read {text : String} {url : Url} (read : Url.read text = .ok url) :
    url.IsOneLine := by
  unfold Url.read at read
  split at read
  · unfold readAfterScheme at read
    split at read
    · exact isOneLine_of_readFile read
    · split at read
      · exact isOneLine_of_readAuthority read
      · split at read
        · exact isOneLine_of_readAuthority read
        · cases read
          exact isOneLine_ofScheme _ (oneLine_pathText false false) _
        · cases read
          exact isOneLine_ofScheme _ (oneLine_encode rfl) _
  · cases read

theorem oneLine_scheme {text : String} {url : Url} (read : Url.read text = .ok url) :
    OneLine url.scheme := by
  unfold Url.read at read
  split at read
  · next scheme rest found =>
    rw [scheme_readAfterScheme read]
    unfold splitScheme? at found
    split at found
    · cases found
    · split at found
      · split at found
        · cases found
          refine (oneLine_ofList_iff _).mpr fun member => ?_
          obtain ⟨c, taken, isBreak⟩ := List.mem_map.mp member
          refine toLower_ne_break ?_ isBreak
          rintro rfl
          cases List.all_eq_true.mp List.all_takeWhile _ taken
        · cases found
      · cases found
  · cases read

theorem IsOneLine.hostText {url : Url} (onLine : url.IsOneLine) :
    OneLine (url.hostText?.getD "") := by
  unfold hostText?
  cases isHost : url.host? with
  | none => decide
  | some host => exact onLine.host host isHost

end Url

/-! ### Endpoints -/

namespace Endpoint

theorem read_of_readUrl {address : String} {url : Url} (read : readUrl address = .ok url) :
    Url.read address = .ok url := by
  unfold readUrl at read
  split at read
  · cases read
  · split at read
    · cases read
    · next found isRead =>
      split at read
      · cases read
      · cases read
        exact isRead

/-- The host of an address without a scheme is a part of it. -/
theorem oneLine_of_readPlain {address : String} (onLine : OneLine address) {result : HostPort}
    (read : readPlain address = .ok result) : OneLine result.host := by
  have subset : Text.dropWhileEnd (· = '/') address.toList ⊆ address.toList :=
    dropWhileEnd_subset _ _
  unfold readPlain at read
  simp only at read
  split at read
  · split at read
    · cases read
    · cases read
      exact onLine.ofList subset
  · next mark host found =>
    split at read
    · cases read
    · split at read
      · cases read
        refine onLine.ofList fun c member => subset (List.mem_reverse.mp ?_)
        refine (List.dropWhile_suffix (· ≠ ':')).subset ?_
        rw [found]
        exact List.mem_cons_of_mem _ (List.mem_reverse.mp member)
      · cases read

theorem oneLine_of_hostPort {address : String} (onLine : OneLine address) {result : HostPort}
    (read : hostPort address = .ok result) : OneLine result.host := by
  unfold hostPort at read
  split at read
  · obtain ⟨url, isUrl, read⟩ := exists_of_bind_eq_ok read
    cases read
    exact (Url.isOneLine_of_read (read_of_readUrl isUrl)).hostText
  · exact oneLine_of_readPlain onLine read

end Endpoint

theorem HostPort.oneLine_text {address : HostPort} (onLine : OneLine address.host) :
    OneLine address.text := by
  unfold text
  split
  · simp only [oneLine_append_iff]
    exact ⟨⟨onLine, by decide⟩, oneLine_toString _⟩
  · exact onLine

/-! ### Lines -/

/-- The lines of a text. -/
def linesOfText (text : String) : List String :=
  (Text.splitOn (· = '\n') text.toList).map String.ofList

/-- Texts that are joined by line breaks stand on lines of their own. -/
theorem linesOfText_intercalate (first : String) (others : List String) :
    linesOfText ("\n".intercalate (first :: others)) =
      (first :: others).flatMap linesOfText := by
  induction others generalizing first with
  | nil => rw [String.intercalate_singleton, List.flatMap_singleton]
  | cons second rest inductionHypothesis =>
    rw [String.intercalate_cons_cons, List.flatMap_cons, ← inductionHypothesis]
    unfold linesOfText
    rw [String.toList_append, String.toList_append, List.append_assoc,
      show "\n".toList = ['\n'] from rfl, List.singleton_append,
      Text.splitOn_append_cons (decide_eq_true rfl), List.map_append]

/-- A text that stays on its line is the only line of itself. -/
theorem linesOfText_of_oneLine {text : String} (oneLine : OneLine text) :
    linesOfText text = [text] := by
  have unbroken : ∀ c ∈ text.toList, decide (c = '\n') = false := fun c member =>
    decide_eq_false fun isBreak => oneLine (isBreak ▸ member)
  unfold linesOfText
  rw [Text.splitOn_of_forall_not unbroken, List.map_singleton, String.ofList_toList]

end LogForwarder
