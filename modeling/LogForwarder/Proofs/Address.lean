/-
This file compares the two ways in which addresses of hosts are read. Behind a scheme, the host is
what stands in front of the colon of the port, brackets apart; without a scheme, the last colon is
taken for that of the port. Both give the host and the port that an address is written from, but for
one form: a literal in brackets without a port, whose last colon is one of its own. Brokers are
written without a scheme, so that a literal among them can be read back only if it has a port.
-/

import LogForwarder.Proofs.Url
import LogForwarder.Proofs.Validation

namespace LogForwarder

/-! ### Characters of names -/

namespace Url

/-- Whether a character stands in names: an ASCII letter, a digit, a dot or a hyphen. -/
def IsNameChar (c : Char) : Prop := c.isAlphanum ∨ c ∈ ['.', '-']

instance (c : Char) : Decidable (IsNameChar c) := inferInstanceAs (Decidable (_ ∨ _))

theorem IsNameChar.lt {c : Char} (inName : IsNameChar c) : c.toNat < 127 := by
  rcases inName with alphanumeric | mark
  · unfold Char.isAlphanum Char.isAlpha Char.isUpper Char.isLower Char.isDigit at alphanumeric
    simp only [Bool.or_eq_true, Bool.and_eq_true, decide_eq_true_eq, UInt32.le_iff_toNat_le]
      at alphanumeric
    have code : c.toNat = c.val.toNat := rfl
    have lastCapital : 'Z'.val.toNat = 90 := rfl
    have lastSmall : 'z'.val.toNat = 122 := rfl
    have lastDigit : '9'.val.toNat = 57 := rfl
    omega
  · simp only [List.mem_cons, List.not_mem_nil, or_false] at mark
    rcases mark with rfl | rfl <;> decide

/-- The characters of names are visible, and none of them is a mark or is encoded in a host. -/
theorem IsNameChar.plain {c : Char} (inName : IsNameChar c) :
    IsVisible c ∧ isHostBreak c = false ∧ controlSet c = false ∧
      c ∉ authorityMarks ++ ['[', ']', ':'] := by
  have each : ∀ code < 127, IsNameChar (Char.ofNat code) →
      IsVisible (Char.ofNat code) ∧ isHostBreak (Char.ofNat code) = false ∧
        controlSet (Char.ofNat code) = false ∧
        Char.ofNat code ∉ authorityMarks ++ ['[', ']', ':'] := by
    decide +kernel
  have ofCode := each c.toNat inName.lt
  rw [Char.ofNat_toNat] at ofCode
  exact ofCode inName

theorem encode_of_forall_not {set : EncodeSet} {chars : List Char}
    (plain : ∀ c ∈ chars, set c = false) : encode set chars = String.ofList chars := by
  have each : chars.flatMap (encodeChar set) = chars := by
    induction chars with
    | nil => rfl
    | cons c others inductionHypothesis =>
      obtain ⟨here, later⟩ := List.forall_mem_cons.mp plain
      rw [List.flatMap_cons, inductionHypothesis later, encodeChar, here]
      rfl
  exact congrArg String.ofList each

end Url

namespace Endpoint

open Url (IsVisible authorityMarks)

/-! ### Hosts -/

/-- Whether a text is a host: a name, or the literal of an address of version 6 in brackets. -/
inductive IsHost (host : String) : Prop
  | name (named : host ≠ "") (chars : ∀ c ∈ host.toList, Url.IsNameChar c)
  | literal (pieces : List Nat) (eight : pieces.length = 8)
      (arePieces : ∀ piece ∈ pieces, Url.IsPiece piece)
      (written : host = (Url.Host.ipv6 pieces).text)

theorem toList_literal (pieces : List Nat) :
    (Url.Host.ipv6 pieces).text.toList = '[' :: ((Url.ipv6Text pieces).toList ++ [']']) := by
  show ("[" ++ Url.ipv6Text pieces ++ "]").toList = _
  rw [String.toList_append, String.toList_append]
  rfl

/-- The characters between the brackets of a literal are visible, and none of them is a mark. -/
theorem plain_of_mem_ipv6Text {pieces : List Nat} {c : Char}
    (member : c ∈ (Url.ipv6Text pieces).toList) :
    IsVisible c ∧ c ∉ authorityMarks ++ ['[', ']'] := by
  rcases Url.eq_or_mem_toDigits_of_mem_ipv6Text member with rfl | ⟨piece, isDigit⟩
  · decide
  · obtain ⟨noMark, visible⟩ := Url.ne_of_mem_toDigits isDigit
    refine ⟨visible, fun marked => noMark ?_⟩
    revert marked
    simp only [authorityMarks, List.mem_append, List.mem_cons, List.not_mem_nil, or_false]
    tauto

namespace IsHost

variable {host : String} (isHost : IsHost host)

include isHost

theorem isHostText : Url.IsHostText host.toList := by
  cases isHost with
  | name _ chars =>
    exact Url.isHostText_of_forall_notMem fun c member => (chars c member).plain.2.2.2
  | literal _ _ _ written =>
    rw [written, toList_literal]
    exact Url.isHostText_bracketed fun c member => (plain_of_mem_ipv6Text member).2

theorem isVisible : ∀ c ∈ host.toList, IsVisible c := by
  intro c member
  cases isHost with
  | name _ chars => exact (chars c member).plain.1
  | literal _ _ _ written =>
    rw [written, toList_literal] at member
    rcases List.mem_cons.mp member with rfl | member
    · decide
    rcases List.mem_append.mp member with inText | isEnd
    · exact (plain_of_mem_ipv6Text inText).1
    · rw [List.mem_singleton.mp isEnd]
      decide

theorem toList_ne_nil : host.toList ≠ [] := by
  cases isHost with
  | name named _ => exact fun empty => named (String.toList_eq_nil_iff.mp empty)
  | literal _ _ _ written =>
    rw [written, toList_literal]
    exact List.cons_ne_nil _ _

/-- A host is taken as it is written where nothing is known about its scheme. -/
theorem exists_hostOf : ∃ found, Url.hostOf false host.toList = .ok (some found) ∧
    found.text = host := by
  have nonempty : host.toList.isEmpty = false := List.isEmpty_eq_false_iff.mpr isHost.toList_ne_nil
  unfold Url.hostOf
  rw [nonempty]
  cases isHost with
  | name named chars =>
    have noBreak : host.toList.any Url.isHostBreak = false :=
      List.any_eq_false.mpr fun c member => by
        rw [(chars c member).plain.2.1]
        exact Bool.false_ne_true
    have asWritten : Url.encode Url.controlSet host.toList = host := by
      rw [Url.encode_of_forall_not fun c member => (chars c member).plain.2.2.1,
        String.ofList_toList]
    have opaqueHost : Url.readOpaqueHost host.toList = .ok (.domain host) := by
      unfold Url.readOpaqueHost
      split
      · next rest bracketed =>
        have bracket := chars '[' (bracketed ▸ List.mem_cons_self)
        exact absurd bracket (by decide)
      · rw [noBreak, asWritten]
        rfl
    exact ⟨_, by rw [opaqueHost]; rfl, rfl⟩
  | literal pieces eight arePieces written =>
    rw [written, toList_literal, Url.readOpaqueHost, Url.readBracketed_ipv6Text arePieces eight]
    exact ⟨_, rfl, rfl⟩

end IsHost

/-! ### Addresses without a scheme -/

theorem dropWhileEnd_of_forall_not {test : Char → Bool} {chars : List Char}
    (stays : ∀ c ∈ chars, test c = false) : Text.dropWhileEnd test chars = chars := by
  have kept : chars.reverse.dropWhile test = chars.reverse :=
    List.dropWhile_eq_self_iff.mpr fun nonempty => by
      rw [stays _ (List.mem_reverse.mp (List.getElem_mem nonempty))]
      exact Bool.false_ne_true
  unfold Text.dropWhileEnd
  rw [kept, List.reverse_reverse]

theorem scheme?_of_noSlash {address : String} (noSlash : '/' ∉ address.toList) :
    scheme? address = none := by
  refine Option.map_eq_none_iff.mpr (Option.eq_none_iff_forall_ne_some.mpr ?_)
  intro parts split
  exact noSlash (eq_append_of_splitScheme? split ▸ by simp)

/-- The last colon of an address stands in front of its port. -/
theorem readPlain_append {address : String} {before after : List Char}
    (written : address.toList = before ++ ':' :: after) (noSlash : '/' ∉ address.toList)
    (named : before ≠ []) (noColon : ':' ∉ after) :
    readPlain address =
      match readPort? after with
      | some port => .ok ⟨String.ofList before, some port⟩
      | none => .error (.invalidPort address) := by
  have whole : Text.dropWhileEnd (· = '/') address.toList = address.toList :=
    dropWhileEnd_of_forall_not fun c member => decide_eq_false fun same => noSlash (same ▸ member)
  have reversed : address.toList.reverse = after.reverse ++ ':' :: before.reverse := by
    rw [written, List.reverse_append, List.reverse_cons, List.append_assoc, List.singleton_append]
  have passes : ∀ c ∈ after.reverse, (decide (c ≠ ':')) = true := fun c member =>
    decide_eq_true fun same => noColon (same ▸ List.mem_reverse.mp member)
  have taken : address.toList.reverse.takeWhile (· ≠ ':') = after.reverse := by
    rw [reversed, List.takeWhile_append_of_pos passes, List.takeWhile_cons_of_neg (by decide),
      List.append_nil]
  have dropped : address.toList.reverse.dropWhile (· ≠ ':') = ':' :: before.reverse := by
    rw [reversed, List.dropWhile_append_of_pos passes, List.dropWhile_cons_of_neg (by decide)]
  have nonempty : before.reverse.isEmpty = false := by
    rw [List.isEmpty_reverse, List.isEmpty_eq_false_iff.mpr named]
  unfold readPlain
  simp only [whole, taken, dropped, nonempty, List.reverse_reverse]
  rfl

/-- An address without a colon is a host without a port. -/
theorem readPlain_of_noColon {address : String} (named : address ≠ "")
    (noSlash : '/' ∉ address.toList) (noColon : ':' ∉ address.toList) :
    readPlain address = .ok ⟨address, none⟩ := by
  have whole : Text.dropWhileEnd (· = '/') address.toList = address.toList :=
    dropWhileEnd_of_forall_not fun c member => decide_eq_false fun same => noSlash (same ▸ member)
  have dropped : address.toList.reverse.dropWhile (· ≠ ':') = [] :=
    List.dropWhile_eq_nil_iff.mpr fun c member =>
      decide_eq_true fun same => noColon (same ▸ List.mem_reverse.mp member)
  have nonempty : address.toList.isEmpty = false :=
    List.isEmpty_eq_false_iff.mpr fun empty => named (String.toList_eq_nil_iff.mp empty)
  unfold readPlain
  simp only [whole, dropped, nonempty, String.ofList_toList]
  rfl

theorem readPort?_toDigits {port : Nat} (within : port ≤ Url.maxPort) :
    readPort? (Nat.toDigits 10 port) = some port := by
  unfold readPort?
  split
  · next digits plus =>
    have isDigit := Text.isDigit_of_mem_toDigits (plus ▸ List.mem_cons_self)
    exact absurd isDigit (by decide)
  · exact Text.numeral?_toDigits within

/-- No port has a bracket at its end. -/
theorem readPort?_bracket (digits : List Char) : readPort? (digits ++ [']']) = none := by
  have noNumeral (chars : List Char) : Text.numeral? Url.maxPort (chars ++ [']']) = none := by
    refine Option.eq_none_iff_forall_ne_some.mpr fun value read => ?_
    have areDigits := ((Text.numeral?_eq_some_iff _ _ _).mp read).1.areDigits
    exact absurd (List.all_eq_true.mp areDigits ']' (by simp)) (by decide)
  cases digits with
  | nil => exact noNumeral []
  | cons c others =>
    rw [List.cons_append, readPort?.eq_def]
    split
    · next rest same =>
      cases same
      exact noNumeral others
    · exact noNumeral (c :: others)

end Endpoint

/-! ### Hosts and ports -/

namespace HostPort

open Endpoint (IsHost hostPort readPlain)

/-- Whether an address has a host, and a port that there is, or none. -/
structure IsWritten (address : HostPort) : Prop where
  isHost : IsHost address.host
  within : ∀ port ∈ address.port?, port ≤ Url.maxPort

/-- Whether an address is a literal in brackets alone. -/
structure IsBareLiteral (address : HostPort) : Prop where
  bracketed : address.host.toList.head? = some '['
  noPort : address.port? = none

instance (address : HostPort) : Decidable address.IsBareLiteral :=
  decidable_of_iff (address.host.toList.head? = some '[' ∧ address.port? = none)
    ⟨fun both => ⟨both.1, both.2⟩, fun bare => ⟨bare.bracketed, bare.noPort⟩⟩

section Written

variable {address : HostPort} (isWritten : address.IsWritten)

include isWritten

theorem IsWritten.noSlash : '/' ∉ address.text.toList := by
  rw [address.toList_text]
  intro member
  have ends := (Url.endsAuthority_of_mem isWritten.isHost.isHostText false _ _ member).1
  revert ends
  decide

/-- Behind the scheme of a protocol without a usual port, an address is read as it is written. -/
theorem IsWritten.hostPort_withScheme {scheme : String} (isScheme : Endpoint.IsPlainScheme scheme)
    (ordinary : Url.isSpecialScheme scheme = false) :
    hostPort (scheme ++ "://" ++ address.text) = .ok address := by
  obtain ⟨found, isFound, same⟩ := isWritten.isHost.exists_hostOf
  have noUsual : Url.usualPort? scheme = none := by
    unfold Url.isSpecialScheme at ordinary
    unfold Url.usualPort?
    have unlisted : Url.specialSchemes.lookup scheme = none := by simpa using ordinary
    rw [unlisted]
    rfl
  have visible : ∀ c ∈ address.host.toList ++ portChars address.port?, Url.IsVisible c := by
    intro c member
    rcases List.mem_append.mp member with inHost | inPort
    · exact isWritten.isHost.isVisible c inHost
    · exact Url.isVisible_of_mem_portChars c inPort
  have isRead := (Endpoint.readUrl_withScheme_iff isScheme isWritten.isHost.isHostText
    isWritten.within (Url.kept_of_forall_isVisible visible) _).mpr
      ⟨found, by rw [ordinary, isFound], rfl⟩
  unfold hostPort
  rw [if_pos (Endpoint.isSome_scheme?_withScheme isScheme address), isRead]
  have port : (Url.ofAuthority scheme (some found) address.port?).portOrUsual? = address.port? := by
    unfold Url.portOrUsual? Url.ofAuthority Url.ofScheme
    rw [noUsual]
    cases address.port? <;> rfl
  show Except.ok (HostPort.mk found.text _) = _
  rw [same, port]

/-- Without a scheme, only literals without a port are not read as they are written. -/
theorem IsWritten.hostPort_text :
    hostPort address.text =
      if address.IsBareLiteral then .error (.invalidPort address.text) else .ok address := by
  have plain : hostPort address.text = readPlain address.text := by
    unfold hostPort
    rw [Endpoint.scheme?_of_noSlash isWritten.noSlash]
    rfl
  rw [plain]
  obtain ⟨host, port?⟩ := address
  have nonempty := isWritten.isHost.toList_ne_nil
  cases port? with
  | some port =>
    have noColon : ':' ∉ Nat.toDigits 10 port := fun member =>
      absurd (Text.isDigit_of_mem_toDigits member) (by decide)
    rw [if_neg (fun bare => nomatch bare.noPort),
      Endpoint.readPlain_append (toList_text _) isWritten.noSlash nonempty noColon,
      Endpoint.readPort?_toDigits (isWritten.within port rfl), String.ofList_toList]
  | none =>
    cases isWritten.isHost with
    | name named chars =>
      have notBare : ¬IsBareLiteral ⟨host, none⟩ := fun ⟨bracketed, _⟩ => by
        have inName := chars '[' (List.mem_of_mem_head? bracketed)
        exact absurd inName (by decide)
      rw [if_neg notBare]
      refine Endpoint.readPlain_of_noColon named isWritten.noSlash fun member => ?_
      exact absurd (chars ':' member) (by decide)
    | literal pieces eight _ written =>
      have bracketed : host.toList = '[' :: ((Url.ipv6Text pieces).toList ++ [']']) := by
        rw [← Endpoint.toList_literal, ← written]
      have bare : IsBareLiteral ⟨host, none⟩ := ⟨by rw [bracketed]; rfl, rfl⟩
      -- The last colon is one between the pieces, and the bracket stands behind it.
      obtain ⟨after, before, reversed, noColon⟩ := List.eq_append_cons_of_mem
        (List.mem_reverse.mpr (Url.colon_mem_ipv6Text eight))
      have apart : host.toList = ('[' :: before.reverse) ++ ':' :: (after.reverse ++ [']']) := by
        rw [bracketed, ← List.reverse_reverse (Url.ipv6Text pieces).toList, reversed]
        simp
      have noColonAfter : ':' ∉ after.reverse ++ [']'] := by
        simpa using noColon
      have isRead := Endpoint.readPlain_append apart isWritten.noSlash (List.cons_ne_nil _ _)
        noColonAfter
      rw [Endpoint.readPort?_bracket] at isRead
      rw [if_pos bare]
      exact isRead

end Written

/-! ### Addresses with and without a scheme -/

/-- Whether a text is what an address is written as, with the scheme of the protocol or without. -/
def Names (text : String) (address : HostPort) : Prop :=
  text = address.text ∨ text = "tcp://" ++ address.text

theorem isPlainScheme_tcp : Endpoint.IsPlainScheme "tcp" where
  named := by decide
  letters := by decide
  isLower := by decide
  notFile := by decide

theorem IsWritten.hostPort_tcp {address : HostPort} (isWritten : address.IsWritten) :
    hostPort ("tcp://" ++ address.text) = .ok address := by
  have parts : "tcp://" = "tcp" ++ "://" := by decide
  rw [parts]
  exact isWritten.hostPort_withScheme isPlainScheme_tcp (by decide)

/-- Whatever names an address is read as the address, or is not read. -/
theorem IsWritten.eq_of_hostPort {address place : HostPort} (isWritten : address.IsWritten)
    {text : String} (names : Names text address) (read : hostPort text = .ok place) :
    place = address := by
  rcases names with rfl | rfl
  · rw [isWritten.hostPort_text] at read
    split at read
    · cases read
    · exact (Except.ok.inj read).symm
  · rw [isWritten.hostPort_tcp] at read
    exact (Except.ok.inj read).symm

/-- An address is read without a scheme exactly if it is not a literal in brackets alone. -/
theorem IsWritten.hostPort_text_iff {address : HostPort} (isWritten : address.IsWritten) :
    hostPort address.text = .ok address ↔ ¬address.IsBareLiteral := by
  rw [isWritten.hostPort_text]
  split
  · next bare => exact iff_of_false nofun (fun notBare => notBare bare)
  · next notBare => exact iff_of_true rfl notBare

section Brokers

variable {addresses : List HostPort} (areWritten : ∀ address ∈ addresses, address.IsWritten)

include areWritten

/-- The brokers of an output are the addresses that it names, written without a scheme. -/
theorem forall₂_broker {texts brokers : List String} (names : List.Forall₂ Names texts addresses)
    (made : List.Forall₂ (fun text broker => HostPort.text <$> hostPort text = .ok broker)
      texts brokers) :
    List.Forall₂
      (fun broker address =>
        broker = address.text ∧ (hostPort broker = .ok address ↔ ¬address.IsBareLiteral))
      brokers addresses := by
  induction names generalizing brokers with
  | nil =>
    rw [List.forall₂_nil_left_iff.mp made]
    exact .nil
  | @cons text address texts addresses named _ inductionHypothesis =>
    obtain ⟨isWritten, areOthers⟩ := List.forall_mem_cons.mp areWritten
    obtain ⟨broker, others, isBroker, areBrokers, rfl⟩ := List.forall₂_cons_left_iff.mp made
    have isText : broker = address.text := by
      cases read : hostPort text with
      | error error =>
        rw [read] at isBroker
        cases isBroker
      | ok place =>
        rw [read, isWritten.eq_of_hostPort named read] at isBroker
        exact (Except.ok.inj isBroker).symm
    subst isText
    exact .cons ⟨rfl, isWritten.hostPort_text_iff⟩ (inductionHypothesis areOthers areBrokers)

/-- All addresses of an output are read exactly if no literal in brackets alone is among them. -/
theorem exists_kafkaBrokers_iff_of_names (output : Output)
    (names : List.Forall₂ Names output.brokerAddresses addresses) :
    (∃ brokers, output.kafkaBrokers = .ok brokers) ↔
      addresses ≠ [] ∧
        ∀ address ∈ addresses, address.text ∈ output.brokerAddresses → ¬address.IsBareLiteral := by
  have same : output.brokerAddresses ≠ [] ↔ addresses ≠ [] := by
    rw [← List.length_pos_iff, ← List.length_pos_iff, names.length_eq]
  rw [Output.exists_kafkaBrokers_iff, same]
  refine and_congr_right fun _ =>
    ⟨fun each address isAddress listed => ?_, fun each text listed => ?_⟩
  · obtain ⟨place, read⟩ := each _ listed
    have isWritten := areWritten address isAddress
    rw [isWritten.eq_of_hostPort (.inl rfl) read] at read
    exact isWritten.hostPort_text_iff.mp read
  · obtain ⟨address, isAddress, named⟩ := exists_of_mem_forall₂ names listed
    have isWritten := areWritten address isAddress
    refine ⟨address, ?_⟩
    rcases named with rfl | rfl
    · exact isWritten.hostPort_text_iff.mpr (each address isAddress listed)
    · exact isWritten.hostPort_tcp

/--
A host and a port are read from an address behind a scheme, and without the scheme exactly if the
address is not a literal in brackets alone. The brokers of an output that lists such addresses are
these addresses without schemes, so that the same is true of what is read from them once more.
-/
theorem hostPort_eq_withScheme_iff :
    (∀ address ∈ addresses,
      hostPort ("tcp://" ++ address.text) = .ok address ∧
        (hostPort address.text = hostPort ("tcp://" ++ address.text) ↔ ¬address.IsBareLiteral)) ∧
      ∀ output : Output, List.Forall₂ Names output.brokerAddresses addresses →
        ((∃ brokers, output.kafkaBrokers = .ok brokers) ↔
          addresses ≠ [] ∧ ∀ address ∈ addresses,
            address.text ∈ output.brokerAddresses → ¬address.IsBareLiteral) ∧
        ∀ brokers, output.kafkaBrokers = .ok brokers →
          List.Forall₂
            (fun broker address => broker = address.text ∧
              (hostPort broker = .ok address ↔ ¬address.IsBareLiteral))
            brokers addresses := by
  refine ⟨fun address isAddress => ?_, fun output names =>
    ⟨exists_kafkaBrokers_iff_of_names areWritten output names, fun brokers made => ?_⟩⟩
  · have isWritten := areWritten address isAddress
    refine ⟨isWritten.hostPort_tcp, ?_⟩
    rw [isWritten.hostPort_tcp]
    exact isWritten.hostPort_text_iff
  · have noneEmpty : ¬output.brokerAddresses.isEmpty := by
      intro empty
      unfold Output.kafkaBrokers at made
      rw [if_pos empty] at made
      cases made
    unfold Output.kafkaBrokers at made
    rw [if_neg noneEmpty, mapM_eq_ok_iff] at made
    exact forall₂_broker areWritten names made

end Brokers

/-- A kafka output with brokers. -/
def toBrokers (brokers : List String) : Output :=
  { Output.bare "kafka" .kafka with kafka := some ⟨none, brokers⟩ }

/-- A name and a literal with ports are read with and without a scheme, and once more as brokers. -/
theorem hostPort_eq_withScheme_ports :
    hostPort "broker-1.local:9092" = hostPort "tcp://broker-1.local:9092" ∧
      ∃ brokers, (toBrokers ["broker-1.local:9092", "tcp://[::1]:0"]).kafkaBrokers = .ok brokers ∧
        List.Forall₂ (fun broker address => hostPort broker = .ok address) brokers
          [⟨"broker-1.local", some 9092⟩, ⟨"[::1]", some 0⟩] := by
  have broker : IsWritten ⟨"broker-1.local", some 9092⟩ :=
    ⟨.name (by decide) (by decide), fun port same => Option.some.inj same ▸ (by decide)⟩
  have ownMachine : IsWritten ⟨"[::1]", some 0⟩ :=
    ⟨.literal [0, 0, 0, 0, 0, 0, 0, 1] (by decide) (by decide) (by decide),
      fun port same => Option.some.inj same ▸ (by decide)⟩
  obtain ⟨alike, ofOutput⟩ := hostPort_eq_withScheme_iff
    (List.forall_mem_cons.mpr ⟨broker,
      List.forall_mem_cons.mpr ⟨ownMachine, List.forall_mem_nil _⟩⟩)
  have someNotBare (host : String) (port : Nat) : ¬IsBareLiteral ⟨host, some port⟩ :=
    fun bare => nomatch bare.noPort
  obtain ⟨found, readBack⟩ := ofOutput (toBrokers ["broker-1.local:9092", "tcp://[::1]:0"])
    (.cons (.inl (by decide)) (.cons (.inr (by decide)) .nil))
  obtain ⟨brokers, made⟩ := found.mpr ⟨List.cons_ne_nil _ _,
    List.forall_mem_cons.mpr ⟨fun _ => someNotBare _ _,
      List.forall_mem_cons.mpr ⟨fun _ => someNotBare _ _, List.forall_mem_nil _⟩⟩⟩
  refine ⟨(alike _ List.mem_cons_self).2.mpr (someNotBare _ _), brokers, made, ?_⟩
  have each := readBack brokers made
  cases each with
  | cons first rest =>
    cases rest with
    | cons second none =>
      cases none
      exact .cons (first.2.mpr (someNotBare _ _)) (.cons (second.2.mpr (someNotBare _ _)) .nil)

/-- The literal of the own machine is read behind a scheme, and is not read without one. -/
theorem exists_hostPort_ne_withScheme :
    ∃ address : HostPort, address.IsWritten ∧
      hostPort ("tcp://" ++ address.text) = .ok address ∧
      hostPort address.text = .error (.invalidPort "[::1]") := by
  have isWritten : IsWritten ⟨"[::1]", none⟩ :=
    ⟨.literal [0, 0, 0, 0, 0, 0, 0, 1] (by decide) (by decide) (by decide), nofun⟩
  have bare : IsBareLiteral ⟨"[::1]", none⟩ := ⟨by decide, rfl⟩
  exact ⟨_, isWritten, isWritten.hostPort_tcp, by rw [isWritten.hostPort_text, if_pos bare]; rfl⟩

end HostPort

end LogForwarder
