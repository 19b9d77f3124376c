/-
This file finds out when all parts of a configuration see the same scheme in an address. The reader
of addresses leaves out blanks and writes schemes in lower case. Everybody else looks at the text in
front of the first mark after a scheme, some in lower case and some as it is written, so that an
address may be read and still not be taken for a secure one.
-/

import LogForwarder.Fluentd.Store.Message
import LogForwarder.Proofs.Outcome

namespace LogForwarder

/-! ### Schemes of addresses that are read -/

namespace Url

theorem scheme_readAuthority {scheme : String} {chars : List Char} {url : Url}
    (read : readAuthority scheme chars = .ok url) : url.scheme = scheme := by
  unfold readAuthority at read
  simp only at read
  split at read
  · cases read
  obtain ⟨host?, _, read⟩ := exists_of_bind_eq_ok read
  split at read
  · split at read
    · cases read
    obtain ⟨port, _, read⟩ := exists_of_bind_eq_ok read
    split at read
    · cases read
    · cases read
      rfl
  · obtain ⟨port, _, read⟩ := exists_of_bind_eq_ok read
    split at read
    · cases read
    · cases read
      rfl

theorem scheme_readFile {chars : List Char} {url : Url} (read : readFile chars = .ok url) :
    url.scheme = "file" := by
  unfold readFile at read
  simp only at read
  split at read
  · split at read
    · split at read
      · cases read
        rfl
      · obtain ⟨host?, _, read⟩ := exists_of_bind_eq_ok read
        cases read
        rfl
    · split at read <;> cases read <;> rfl
  · cases read
    rfl
  · cases read
    rfl

/-- Whatever follows a scheme, an address has the scheme. -/
theorem scheme_readAfterScheme {scheme : String} {chars : List Char} {url : Url}
    (read : readAfterScheme scheme chars = .ok url) : url.scheme = scheme := by
  unfold readAfterScheme at read
  split at read
  · next isFile =>
    rw [isFile]
    exact scheme_readFile read
  · split at read
    · exact scheme_readAuthority read
    · split at read
      · exact scheme_readAuthority read
      · cases read
        rfl
      · cases read
        rfl

/-! ### Letters in front of an address -/

theorem isAlpha_of_isAlpha_toLower {c : Char} (letter : c.toLower.isAlpha) : c.isAlpha := by
  unfold Char.toLower at letter
  split at letter
  · next upper =>
    have isUpper : c.isUpper := decide_eq_true upper
    exact (Bool.or_eq_true _ _).mpr (.inl isUpper)
  · exact letter

theorem isSchemeChar_of_isAlpha {c : Char} (letter : c.isAlpha) : isSchemeChar c := by
  simp [isSchemeChar, Char.isAlphanum, letter]

/-- Letters stay where blanks are left out of an address. -/
theorem isSignificant_of_isAlpha {c : Char} (letter : c.isAlpha) :
    ¬c.toNat ≤ 32 ∧ c ∉ ['\t', '\n', '\r'] := by
  have visible : ¬c.toNat ≤ 32 := by
    have noLetter : ∀ code ≤ 32, (Char.ofNat code).isAlpha = false := by decide
    intro blank
    have none := noLetter c.toNat blank
    rw [Char.ofNat_toNat, letter] at none
    cases none
  refine ⟨visible, fun isBlank => visible ?_⟩
  simp only [List.mem_cons, List.not_mem_nil, or_false] at isBlank
  rcases isBlank with rfl | rfl | rfl <;> decide

/-- A cut at the end does not reach a character that the test leaves alone. -/
theorem dropWhileEnd_append_cons {test : Char → Bool} {c : Char} (stays : test c = false)
    (before after : List Char) :
    Text.dropWhileEnd test (before ++ c :: after) =
      before ++ c :: Text.dropWhileEnd test after := by
  unfold Text.dropWhileEnd
  rw [List.reverse_append, List.reverse_cons, List.append_assoc, List.dropWhile_append]
  split
  · next allDropped =>
    rw [List.isEmpty_iff.mp allDropped, List.singleton_append,
      List.dropWhile_cons_of_neg (by simp [stays])]
    simp
  · simp

/-- What is kept of the characters behind the first letter of an address. -/
def kept (chars : List Char) : List Char :=
  (Text.dropWhileEnd (fun c => c.toNat ≤ 32) chars).filter (· ∉ ['\t', '\n', '\r'])

/-- Letters in front of a colon are what the scheme is read from. -/
theorem splitScheme?_significant {before : List Char} (some : before ≠ [])
    (letters : ∀ c ∈ before, c.isAlpha) (after : List Char) :
    splitScheme? (significant (before ++ ':' :: after)) =
      .some (String.ofList (before.map Char.toLower), kept after) := by
  obtain ⟨first, others, rfl⟩ := List.exists_cons_of_ne_nil some
  have firstLetter := letters first List.mem_cons_self
  have stay : (first :: others).filter (· ∉ ['\t', '\n', '\r']) = first :: others :=
    List.filter_eq_self.mpr fun c member =>
      decide_eq_true (isSignificant_of_isAlpha (letters c member)).2
  have inScheme : ∀ c ∈ first :: others, isSchemeChar c := fun c member =>
    isSchemeChar_of_isAlpha (letters c member)
  have shape : significant (first :: others ++ ':' :: after) =
      first :: others ++ ':' :: kept after := by
    unfold significant kept
    simp only
    rw [List.cons_append, List.dropWhile_cons_of_neg
      (by simpa using (isSignificant_of_isAlpha firstLetter).1), ← List.cons_append,
      dropWhileEnd_append_cons (by decide), List.filter_append, stay,
      List.filter_cons_of_pos (by decide)]
  rw [shape]
  unfold splitScheme?
  simp only [List.cons_append]
  rw [← List.cons_append, List.dropWhile_append_of_pos inScheme,
    List.takeWhile_append_of_pos inScheme, List.dropWhile_cons_of_neg (by decide),
    List.takeWhile_cons_of_neg (by decide), List.append_nil]
  simp only [firstLetter, if_true]

end Url

/-! ### Schemes as others see them -/

namespace Endpoint

/-- The scheme in front of an address as it is written. -/
def writtenScheme? (address : String) : Option String :=
  (splitScheme? address.toList).map fun (scheme, _) => String.ofList scheme

theorem eq_append_of_splitScheme? {chars before after : List Char}
    (split : splitScheme? chars = some (before, after)) :
    chars = before ++ ':' :: '/' :: '/' :: after := by
  fun_induction splitScheme? chars generalizing before with
  | case1 => cases split
  | case2 rest =>
    cases split
    rfl
  | case3 c rest _ inductionHypothesis =>
    obtain ⟨⟨others, _⟩, found, same⟩ := Option.map_eq_some_iff.mp split
    cases same
    rw [inductionHypothesis found]
    rfl

theorem splitScheme?_append {before : List Char} (noColon : ':' ∉ before) (after : List Char) :
    splitScheme? (before ++ ':' :: '/' :: '/' :: after) = some (before, after) := by
  induction before with
  | nil => rfl
  | cons c rest inductionHypothesis =>
    have other : c ≠ ':' := fun same => noColon (same ▸ List.mem_cons_self)
    rw [List.cons_append, splitScheme?]
    · rw [inductionHypothesis fun member => noColon (List.mem_cons_of_mem _ member)]
      rfl
    · rintro _ same _
      exact other same

variable {address : String}

/-- An address that begins with a scheme and the mark after it has this scheme. -/
theorem startsWith_iff (address scheme : String) (noColon : ':' ∉ scheme.toList) :
    address.startsWith (scheme ++ "://") ↔ writtenScheme? address = some scheme := by
  rw [String.startsWith_string_iff, String.toList_append]
  refine ⟨?_, fun written => ?_⟩
  · rintro ⟨rest, same⟩
    unfold writtenScheme?
    rw [← same, List.append_assoc]
    show Option.map _ (splitScheme? (scheme.toList ++ ':' :: '/' :: '/' :: rest)) = _
    rw [splitScheme?_append noColon, Option.map_some]
    exact congrArg some String.ofList_toList
  · obtain ⟨⟨before, after⟩, split, rfl⟩ := Option.map_eq_some_iff.mp written
    rw [eq_append_of_splitScheme? split]
    exact ⟨after, by simp⟩

theorem scheme?_of_writtenScheme? {scheme : String} (written : writtenScheme? address = some scheme)
    (isLower : scheme.toList.map Char.toLower = scheme.toList) :
    scheme? address = some scheme := by
  obtain ⟨⟨before, after⟩, split, rfl⟩ := Option.map_eq_some_iff.mp written
  rw [String.toList_ofList] at isLower
  unfold scheme?
  rw [split, Option.map_some]
  exact congrArg (some ∘ String.ofList) isLower

/-- What everybody else takes for the scheme of an address is the scheme, if it is of letters. -/
theorem scheme_of_scheme? {url : Url} (read : readUrl address = .ok url) {scheme : String}
    (seen : scheme? address = some scheme) (named : scheme ≠ "")
    (letters : ∀ c ∈ scheme.toList, c.isAlpha) : url.scheme = scheme := by
  unfold readUrl at read
  rw [if_neg (by simp [seen])] at read
  obtain ⟨⟨before, after⟩, split, rfl⟩ := Option.map_eq_some_iff.mp seen
  simp only [String.toList_ofList, List.forall_mem_map] at letters
  have some : before ≠ [] := by
    rintro rfl
    exact named rfl
  have fromLetters := Url.splitScheme?_significant some
    (fun c member => Url.isAlpha_of_isAlpha_toLower (letters c member)) ('/' :: '/' :: after)
  cases isRead : Url.read address with
  | error error =>
    rw [isRead] at read
    cases read
  | ok found =>
    rw [isRead] at read
    simp only at read
    split at read
    · cases read
    · cases read
      unfold Url.read at isRead
      rw [eq_append_of_splitScheme? split, fromLetters] at isRead
      exact Url.scheme_readAfterScheme isRead

end Endpoint

/-! ### Views of an address -/

theorem Endpoint.isSecure_iff {address : String} :
    isSecure address ↔
      ∃ scheme ∈ ["https", "tls", "ssl", "wss"], scheme? address = some scheme := by
  unfold isSecure
  cases scheme? address with
  | none => simp
  | some scheme => simp

theorem SyslogTransport.ofAddress_eq (address : String) :
    ofAddress address = if Endpoint.scheme? address = some "udp" then .udp
      else if Endpoint.scheme? address = some "tls" then .tls else .tcp := by
  unfold ofAddress
  split <;> simp_all

theorem Output.brokerUsesTls_iff {address : String} :
    brokerUsesTls address ↔
      ∃ scheme ∈ ["tls", "ssl"], Endpoint.writtenScheme? address = some scheme := by
  have mark (scheme : String) (noColon : ':' ∉ scheme.toList) :=
    Endpoint.startsWith_iff address scheme noColon
  have tls := mark "tls" (by decide)
  have ssl := mark "ssl" (by decide)
  unfold brokerUsesTls
  rw [Bool.or_eq_true]
  exact (or_congr tls ssl).trans (by simp)

theorem Output.kafkaUsesTls_iff {output : Output} {address : String}
    (single : output.listedBrokers ++ output.url?.toList = [address]) :
    output.kafkaUsesTls ↔
      ∃ scheme ∈ ["tls", "ssl"], Endpoint.writtenScheme? address = some scheme := by
  unfold kafkaUsesTls
  rw [single, List.any_cons, List.any_nil, Bool.or_false, brokerUsesTls_iff]

namespace Fluentd

theorem Setting.mem_line {key value : String} (given : value ≠ "") :
    ⟨key, value⟩ ∈ line key value := by
  unfold line
  rw [if_neg (by simpa using given)]
  exact List.mem_singleton_self _

theorem sslVersion_ne_empty (options : Options) : sslVersion options ≠ "" := by
  unfold sslVersion minTlsVersion?
  cases options.minTlsVersion.bind tlsMinor? with
  | none => decide
  | some minor =>
    intro empty
    have chars := congrArg String.toList empty
    simp only [Option.map_some, Option.getD_some, String.toList_append] at chars
    exact List.append_ne_nil_of_left_ne_nil (List.append_ne_nil_of_left_ne_nil (by decide) _) _
      chars

namespace Store

variable {store : Store}

theorem httpSettings_ne_nil_iff :
    store.httpSettings ≠ [] ↔ Endpoint.writtenScheme? store.output.url = some "https" := by
  have secure : store.output.url.startsWith "https://" ↔ _ :=
    Endpoint.startsWith_iff _ "https" (by decide)
  rw [← secure]
  unfold httpSettings
  split
  · next isSecure =>
    refine iff_of_true (List.ne_nil_of_mem (a := ⟨"tls_version", sslVersion store.options⟩) ?_)
      isSecure
    simp only [List.mem_append]
    exact .inl (.inl (.inr (Setting.mem_line (sslVersion_ne_empty _))))
  · next notSecure => exact iff_of_false (absurd rfl) notSecure

theorem forwardSettings_ne_nil_iff :
    store.forwardSettings ≠ [] ↔
      ∃ scheme ∈ ["tls", "https"], Endpoint.writtenScheme? store.output.url = some scheme := by
  have tls : store.output.url.startsWith "tls://" ↔ _ :=
    Endpoint.startsWith_iff _ "tls" (by decide)
  have https : store.output.url.startsWith "https://" ↔ _ :=
    Endpoint.startsWith_iff _ "https" (by decide)
  have secure : (store.output.url.startsWith "tls://" || store.output.url.startsWith "https://") ↔
      ∃ scheme ∈ ["tls", "https"], Endpoint.writtenScheme? store.output.url = some scheme := by
    rw [Bool.or_eq_true, tls, https]
    simp
  rw [← secure]
  unfold forwardSettings
  simp only
  split
  · next isSecure =>
    refine iff_of_true (List.ne_nil_of_mem (a := ⟨"transport", "tls"⟩) ?_) isSecure
    simp only [List.mem_append]
    exact .inl (.inl (.inl (.inl (.inl (Setting.mem_line (by decide))))))
  · next notSecure => exact iff_of_false (absurd rfl) notSecure

end Store

end Fluentd

/-! ### One view of a scheme -/

namespace Endpoint

/--
Whether all parts of a configuration that look for the scheme of an address see a given one: those
that ask whether to secure a connection, and those that choose a transport.
-/
structure SeesScheme (address scheme : String) : Prop where
  secure : isSecure address ↔ scheme ∈ ["https", "tls", "ssl", "wss"]
  transport : SyslogTransport.ofAddress address =
    if scheme = "udp" then .udp else if scheme = "tls" then .tls else .tcp
  kafka : ∀ output : Output, output.listedBrokers ++ output.url?.toList = [address] →
    (output.kafkaUsesTls ↔ scheme ∈ ["tls", "ssl"])
  http : ∀ store : Fluentd.Store, store.output.url = address →
    (store.httpSettings ≠ [] ↔ scheme = "https")
  forward : ∀ store : Fluentd.Store, store.output.url = address →
    (store.forwardSettings ≠ [] ↔ scheme ∈ ["tls", "https"])

/-- The schemes that somebody looks for in small letters only. -/
def exactSchemes : List String := ["https", "tls", "ssl"]

/-- The other schemes that somebody looks for, in letters of either case. -/
def foldedSchemes : List String := ["wss", "udp"]

/--
Whether a scheme stands in front of an address as all parts of a configuration that look for it
expect it to: nobody leaves out blanks, and not everybody folds the case.
-/
structure WritesScheme (address scheme : String) : Prop where
  exact : scheme ∈ exactSchemes → writtenScheme? address = some scheme
  folded : scheme ∈ foldedSchemes → scheme? address = some scheme

/-- The schemes that somebody looks for are of small letters. -/
theorem isLower_of_mem : ∀ scheme ∈ exactSchemes ++ foldedSchemes,
    scheme ≠ "" ∧ scheme.toList.all Char.isAlpha ∧
      scheme.toList.map Char.toLower = scheme.toList := by
  decide

section Views

variable {address : String} {url : Url} (read : readUrl address = .ok url)

include read

theorem scheme_of_seen {scheme : String} (member : scheme ∈ exactSchemes ++ foldedSchemes)
    (seen : scheme? address = some scheme) : url.scheme = scheme := by
  obtain ⟨named, letters, _⟩ := isLower_of_mem scheme member
  exact scheme_of_scheme? read seen named (List.all_eq_true.mp letters)

theorem scheme_of_written {scheme : String} (member : scheme ∈ exactSchemes ++ foldedSchemes)
    (written : writtenScheme? address = some scheme) : url.scheme = scheme :=
  scheme_of_seen read member (scheme?_of_writtenScheme? written (isLower_of_mem scheme member).2.2)

theorem seesScheme_of_writesScheme (writes : WritesScheme address url.scheme) :
    SeesScheme address url.scheme := by
  have exact : ∀ scheme ∈ exactSchemes,
      (writtenScheme? address = some scheme ↔ url.scheme = scheme) := by
    intro scheme member
    refine ⟨scheme_of_written read (List.mem_append_left _ member), ?_⟩
    rintro rfl
    exact writes.exact member
  have folded : ∀ scheme ∈ exactSchemes ++ foldedSchemes,
      (scheme? address = some scheme ↔ url.scheme = scheme) := by
    intro scheme member
    refine ⟨scheme_of_seen read member, ?_⟩
    rintro rfl
    rcases List.mem_append.mp member with isExact | isFolded
    · exact scheme?_of_writtenScheme? (writes.exact isExact) (isLower_of_mem _ member).2.2
    · exact writes.folded isFolded
  simp only [exactSchemes, foldedSchemes, List.cons_append, List.nil_append, List.forall_mem_cons,
    List.not_mem_nil, false_imp_iff, implies_true, and_true] at exact folded
  exact {
    secure := by
      rw [isSecure_iff]
      simp [folded]
    transport := by
      rw [SyslogTransport.ofAddress_eq]
      simp only [folded]
    kafka := fun output single => by
      rw [Output.kafkaUsesTls_iff single]
      simp [exact]
    http := by
      rintro store rfl
      rw [Fluentd.Store.httpSettings_ne_nil_iff, exact.1]
    forward := by
      rintro store rfl
      rw [Fluentd.Store.forwardSettings_ne_nil_iff]
      simp [exact] }

/-- An output with one address. -/
def outputTo (type : OutputType) (address : String) : Output :=
  { Output.bare "out" type with url? := some address }

/-- The view of one store for each scheme that is looked for is enough. -/
theorem writesScheme_of_seesScheme (sees : SeesScheme address url.scheme) :
    WritesScheme address url.scheme where
  exact := by
    have http := sees.http ⟨outputTo .http address, "", "", [], ∅, .standard, none⟩ rfl
    have kafka := sees.kafka (outputTo .kafka address) rfl
    rw [Fluentd.Store.httpSettings_ne_nil_iff] at http
    rw [Output.kafkaUsesTls_iff rfl] at kafka
    intro member
    rcases List.mem_cons.mp member with isHttps | isOther
    · rw [isHttps]
      exact http.mpr isHttps
    · obtain ⟨scheme, isScheme, written⟩ := kafka.mpr isOther
      have known : scheme ∈ exactSchemes ++ foldedSchemes :=
        List.mem_append_left _ (List.mem_cons_of_mem _ isScheme)
      rw [scheme_of_written read known written, written]
  folded := by
    intro member
    rcases List.mem_pair.mp member with isWss | isUdp
    · obtain ⟨scheme, isScheme, seen⟩ := isSecure_iff.mp (sees.secure.mpr (by simp [isWss]))
      have known : scheme ∈ exactSchemes ++ foldedSchemes :=
        List.mem_append_left ["udp"] isScheme
      rw [scheme_of_seen read known seen, seen]
    · have transport := sees.transport
      rw [SyslogTransport.ofAddress_eq, if_pos isUdp] at transport
      rw [isUdp]
      by_contra notUdp
      rw [if_neg notUdp] at transport
      split at transport <;> cases transport

end Views

/--
All parts of a configuration see the scheme of an address exactly if it stands in front of the
address as they expect it to. Addresses are read in any case, and from behind blanks as well.
-/
theorem seesScheme_iff_writesScheme (address : String) {url : Url}
    (read : readUrl address = .ok url) :
    SeesScheme address url.scheme ↔ WritesScheme address url.scheme :=
  ⟨writesScheme_of_seesScheme read, seesScheme_of_writesScheme read⟩

/-- A scheme that everybody looks for, and that stands in front of its address as it should. -/
theorem seesScheme_tls : ∃ url, readUrl "tls://[::1]:9093" = .ok url ∧ url.scheme = "tls" ∧
    SeesScheme "tls://[::1]:9093" url.scheme := by
  have succeeds : (readUrl "tls://[::1]:9093").isOk := by decide
  obtain ⟨url, read⟩ := exists_of_isOk succeeds
  have isTls : url.scheme = "tls" := scheme_of_seen read (by decide) (by decide)
  refine ⟨url, read, isTls, (seesScheme_iff_writesScheme _ read).mpr ?_⟩
  rw [isTls]
  exact ⟨fun _ => by decide, fun folded => absurd folded (by decide)⟩

/-- In capital letters the same scheme is seen by some, and not by outputs to a queue. -/
theorem exists_not_seesScheme : ∃ url, readUrl "TLS://[::1]:9093" = .ok url ∧ url.scheme = "tls" ∧
    isSecure "TLS://[::1]:9093" ∧ SyslogTransport.ofAddress "TLS://[::1]:9093" = .tls ∧
      ¬(outputTo .kafka "TLS://[::1]:9093").kafkaUsesTls ∧
        ¬SeesScheme "TLS://[::1]:9093" url.scheme := by
  have succeeds : (readUrl "TLS://[::1]:9093").isOk := by decide
  obtain ⟨url, read⟩ := exists_of_isOk succeeds
  have isTls : url.scheme = "tls" := scheme_of_seen read (by decide) (by decide)
  have noTls : ¬(outputTo .kafka "TLS://[::1]:9093").kafkaUsesTls := by decide +kernel
  refine ⟨url, read, isTls, by decide, by decide, noTls, fun sees => noTls ?_⟩
  exact (sees.kafka _ rfl).mpr (by rw [isTls]; decide)

end Endpoint

end LogForwarder
