/-
This file proves that the labels of outputs in the fluentd dialect hold what their templates want, as
long as the texts of an output that they write as they are given stay in their places. These texts
are said for each type of output. Paths of files, versions, numbers and encoded addresses always
stay on their lines, and so does whatever the collector reads from files itself.
-/

import LogForwarder.Fluentd.Build
import LogForwarder.Proofs.Fluentd.Placing

namespace LogForwarder

/-! ### Texts of outputs -/

/-- The texts of an elasticsearch output. -/
def ElasticsearchSection.texts (options : ElasticsearchSection) : List String :=
  options.structuredTypeKey.toList ++ options.structuredTypeName.toList

/-- The texts of a syslog output. -/
def SyslogSection.texts (options : SyslogSection) : List String :=
  [options.facility, options.severity, options.appName, options.msgId, options.procId, options.tag,
    options.payloadKey].reduceOption

/-- The texts of a cloudwatch output. -/
def CloudwatchSection.texts (options : CloudwatchSection) : List String :=
  options.region.toList ++ options.groupPrefix.toList

namespace Output

/-- The texts of an output that its label has on lines of their own as they are given. -/
def lineTexts (output : Output) : List String :=
  output.secretName.toList ++
    match output.type with
    | .elasticsearch => (output.elasticsearch.getD default).texts
    | .syslog => output.url :: (output.syslog.getD default).texts
    | .kafka => (output.kafka.bind (·.topic)).toList ++ (output.listedBrokers ++ output.url?.toList)
    | .lokistack =>
      let target := (output.lokistack.getD default).target
      [target.name, target.namespaceName]
    | .cloudwatch => output.url :: (output.cloudwatch.getD default).texts
    | .http => output.url :: (output.http.getD default).method.toList
    | .fluentForward | .loki => [output.url]
    | _ => []

/-- The label keys that an output names, whose names begin lines of its label. -/
def streamKeys (output : Output) : List String :=
  match output.type with
  | .loki => (output.loki.map (·.labelKeys)).getD []
  | .lokistack =>
    let keys := ((output.lokistack.getD default).labelKeys).getD default
    keys.global ++ LogKind.all.flatMap fun kind => ((keys.tenant? kind).map (·.labelKeys)).getD []
  | _ => []

/-- The field of a record that names its tenant, which stands in a tag. -/
def tenantKey? (output : Output) : Option String :=
  if output.type = .loki then output.loki.bind (·.tenantKey) else none

/-- Whether all texts of an output that are written as they are given stay in their places. -/
structure StaysInPlace (output : Output) : Prop where
  name : InTag output.name
  lines : ∀ text ∈ output.lineTexts, OneLine text
  keys : ∀ key ∈ output.streamKeys, BeginsNoTag key
  tenant : ∀ key ∈ output.tenantKey?, InTag key

instance (output : Output) : Decidable output.StaysInPlace :=
  decidable_of_iff (InTag output.name ∧ (∀ text ∈ output.lineTexts, OneLine text) ∧
      (∀ key ∈ output.streamKeys, BeginsNoTag key) ∧ ∀ key ∈ output.tenantKey?, InTag key)
    ⟨fun ⟨name, lines, keys, tenant⟩ => ⟨name, lines, keys, tenant⟩,
      fun stays => ⟨stays.name, stays.lines, stays.keys, stays.tenant⟩⟩

end Output

/-- Whether the values of secrets that are shown stay on their lines. -/
def SecretStore.ShowsOneLine (secrets : SecretStore) : Prop :=
  ∀ name, ∀ key ∈ Secret.shownKeys, ∀ value, secrets.value? name key = some value → OneLine value

namespace Fluentd

/-! ### Settings -/

namespace Content

theorem isKey_iff (key : String) :
    IsKey key ↔ OneLine key ∧ key.toList.head?.any fun c => !Text.isBlank c && c ≠ '<' := by
  refine ⟨fun ⟨onLine, c, rest, begins, visible, notTag⟩ => ⟨onLine, ?_⟩, fun ⟨onLine, begins⟩ => ?_⟩
  · rw [begins]
    simp [visible, notTag]
  · obtain ⟨c, isHead, isVisible⟩ := (Option.any_eq_true _ _).mp begins
    obtain ⟨rest, isCons⟩ := List.head?_eq_some_iff.mp isHead
    simp only [Bool.and_eq_true, Bool.not_eq_true', decide_eq_true_eq] at isVisible
    exact ⟨onLine, c, rest, isCons, isVisible.1, isVisible.2⟩

instance (key : String) : Decidable (IsKey key) := decidable_of_iff _ (isKey_iff key).symm

end Content

namespace Setting

/-- Whether settings can be written each on a line of its own. -/
def ArePlaced (settings : List Setting) : Prop :=
  ∀ setting ∈ settings, Content.IsKey setting.key ∧ OneLine setting.value

theorem arePlaced_nil : ArePlaced [] := fun _ absurdity => absurd absurdity List.not_mem_nil

theorem arePlaced_append_iff (settings more : List Setting) :
    ArePlaced (settings ++ more) ↔ ArePlaced settings ∧ ArePlaced more :=
  List.forall_mem_append

section Lines

variable {key : String} (isKey : Content.IsKey key)

include isKey

theorem arePlaced_line {value : String} (onLine : OneLine value) : ArePlaced (line key value) := by
  unfold line
  split
  · exact arePlaced_nil
  · intro setting member
    rw [List.mem_singleton.mp member]
    exact ⟨isKey, onLine⟩

theorem arePlaced_line? {value? : Option String}
    (onLine : ∀ value, value? = some value → OneLine value) : ArePlaced (line? key value?) := by
  cases value? with
  | none => exact arePlaced_nil
  | some value =>
    unfold line?
    rw [Option.toList_some, List.flatMap_singleton]
    exact arePlaced_line isKey (onLine value rfl)

theorem arePlaced_lineIf (condition : Bool) {value : String} (onLine : OneLine value) :
    ArePlaced (lineIf condition key value) := by
  unfold lineIf
  split
  · exact arePlaced_line isKey onLine
  · exact arePlaced_nil

end Lines

theorem ArePlaced.holds_params {settings : List Setting} (placed : ArePlaced settings) :
    Content.settings.Holds (params settings) := by
  refine .list rfl fun item member => ?_
  obtain ⟨setting, isSetting, rfl⟩ := List.mem_map.mp member
  obtain ⟨isKey, onLine⟩ := placed setting isSetting
  refine .object rfl (fun entry isEntry => ?_) fun _ => ⟨setting.key, ?_, isKey⟩
  · have parts : ∀ entry ∈ [("key", Value.text setting.key), ("value", .text setting.value)],
        (Content.setting.field entry.1).Holds entry.2 := by
      have key : Content.setting.field "key" = .inside := by decide
      have value : Content.setting.field "value" = .inside := by decide
      simp [key, value]
      exact ⟨isKey.onLine, onLine⟩
    rcases Content.mem_of_mem_foldl_insertEntry isEntry with present | absurdity
    · exact parts entry present
    · exact absurd absurdity List.not_mem_nil
  · rw [lookup_foldl_insertEntry]
    rfl

end Setting

/-! ### Expressions -/

theorem oneLine_evaluated {expression : String} (onLine : OneLine expression) :
    OneLine (evaluated expression) := by
  unfold evaluated
  simp only [oneLine_append_iff]
  exact ⟨⟨by decide, onLine⟩, by decide⟩

section Paths

variable {path : String} (onLine : OneLine path)

include onLine

theorem oneLine_readFile : OneLine (readFile path) := by
  refine oneLine_evaluated ?_
  simp only [oneLine_append_iff]
  exact ⟨⟨⟨⟨by decide, onLine⟩, by decide⟩, onLine⟩, by decide⟩

theorem oneLine_readStripped : OneLine (readStripped path) := by
  refine oneLine_evaluated ?_
  simp only [oneLine_append_iff]
  exact ⟨⟨by decide, onLine⟩, by decide⟩

theorem oneLine_readOrNil : OneLine (readOrNil path) := by
  refine oneLine_evaluated ?_
  simp only [oneLine_append_iff]
  exact ⟨⟨by decide, onLine⟩, by decide⟩

theorem oneLine_singleQuoted : OneLine (singleQuoted path) := by
  unfold singleQuoted
  simp only [oneLine_append_iff]
  exact ⟨⟨by decide, onLine⟩, by decide⟩

end Paths

theorem oneLine_mountPath {name key : String} (nameOnLine : OneLine name)
    (keyOnLine : OneLine key) : OneLine (Secret.mountPath name key) := by
  unfold Secret.mountPath
  simp only [oneLine_append_iff]
  exact ⟨⟨⟨by decide, nameOnLine⟩, by decide⟩, keyOnLine⟩

/-! ### Credentials -/

/-- What is known of the credentials of an output. -/
structure AreFrom (secretName : Option String) (credentials : Credentials) : Prop where
  token : ∀ token, credentials.token? = some token → OneLine token
  tokenFile : ∀ path, credentials.tokenFile? = some path →
    path = Credentials.serviceAccountTokenFile ∨
      ∃ name, secretName = some name ∧ path = Secret.mountPath name Secret.token

/-- A token is the shown value of a secret, and its file belongs to the secret of the output. -/
theorem areFrom_credentials {secrets : SecretStore} (shows : secrets.ShowsOneLine)
    {output : Output} {options : Options} {credentials : Credentials}
    (found : output.credentials secrets options = .ok credentials) :
    AreFrom output.secretName credentials := by
  have isShown : Secret.token ∈ Secret.shownKeys := by decide
  unfold Output.credentials at found
  split at found
  · dsimp only at found
    split at found
    · next value isValue =>
      cases found
      refine ⟨fun token same => ?_, fun path same => .inl (Option.some.inj same).symm⟩
      exact Option.some.inj same ▸ shows _ _ isShown value isValue
    · cases found
  · dsimp only at found
    split at found
    · next name isName =>
      unfold credentialsOfSecret at found
      split at found
      · cases found
        exact ⟨nofun, nofun⟩
      · cases found
      · cases found
      · split at found
        · next value isValue =>
          cases found
          refine ⟨fun token same => ?_, fun path same => .inr ⟨name, isName, ?_⟩⟩
          · exact Option.some.inj same ▸ shows _ _ isShown value isValue
          · exact (Option.some.inj same).symm
        · split at found
          · cases found
          · cases found
            exact ⟨nofun, nofun⟩
    · split at found
      · cases found
      · cases found
        exact ⟨nofun, nofun⟩

/-! ### Buffers -/

theorem oneLine_getD {text? : Option String} (onLine : ∀ text, text? = some text → OneLine text)
    {standard : String} (standardOnLine : OneLine standard) : OneLine (text?.getD standard) := by
  cases text? with
  | none => exact standardOnLine
  | some text => exact onLine text rfl

theorem oneLine_getD_map {α : Type} {text : α → String} (onLine : ∀ value, OneLine (text value))
    (value? : Option α) {standard : String} (standardOnLine : OneLine standard) :
    OneLine ((value?.map text).getD standard) := by
  refine oneLine_getD (fun written isWritten => ?_) standardOnLine
  obtain ⟨value, _, rfl⟩ := Option.map_eq_some_iff.mp isWritten
  exact onLine value

/-- A buffer is placed if its directory and what records have in common are. -/
theorem Buffer.holds_param {path : String} (pathOnLine : OneLine path) (tuning? : Option Tuning)
    {interval : String} (intervalOnLine : OneLine interval) {keys : List String}
    (keysInTag : ∀ key ∈ keys, InTag key) :
    Content.inside.Holds (ofTuning path tuning? interval keys).param := by
  have flushModes : ∀ mode : FlushMode, OneLine mode.name := by
    intro mode
    cases mode <;> decide
  have retryTypes : ∀ type : RetryType, OneLine type.name := by
    intro type
    cases type <;> decide
  have overflowActions : ∀ action : OverflowAction, OneLine action.name := by
    intro action
    cases action <;> decide
  have durations := @oneLine_getD_map _ _ oneLine_display_duration
  have sizes := @oneLine_getD_map _ _ oneLine_display_byteSize
  refine Content.holds_ofEntries rfl (by decide) ?_
  unfold ofTuning
  simp [Content.field, Content.isList, Content.item, flushModes, retryTypes, overflowActions]
  exact ⟨keysInTag, pathOnLine, fun _ => durations _ intervalOnLine, durations _ (by decide),
    durations _ (by decide), durations _ (by decide), by decide, sizes _ (by decide),
    sizes _ (by decide)⟩

/-! ### Heads of messages -/

theorem oneLine_placeholder {content : String} (onLine : OneLine content) :
    OneLine (HeadPart.placeholder content) := by
  unfold HeadPart.placeholder
  simp only [oneLine_append_iff]
  exact ⟨⟨by decide, onLine⟩, by decide⟩

/-- A part of a head stays on its line if the text in the spec does. -/
theorem HeadPart.oneLine_text {text : String} (onLine : OneLine text) :
    OneLine (HeadPart.ofText text).text := by
  unfold HeadPart.ofText
  split_ifs
  · exact oneLine_placeholder onLine
  · exact oneLine_placeholder (by decide)
  · exact onLine
  · exact onLine

theorem oneLine_headText? {text? : Option String}
    (onLine : ∀ text, text? = some text → OneLine text) :
    ∀ text, Store.headText? text? = some text → OneLine text := by
  intro text found
  obtain ⟨part, isPart, rfl⟩ := Option.map_eq_some_iff.mp found
  obtain ⟨given, isGiven, rfl⟩ := Option.map_eq_some_iff.mp isPart
  exact HeadPart.oneLine_text (onLine given (Option.filter_eq_some_iff.mp isGiven).1)

/-- The path of a field has no characters but those of paths, a dollar and dots. -/
theorem HeadPart.notMem_of_isPath {text : String} (path : HeadPart.isPath text.toList) (mark : Char)
    (notInPath : HeadPart.isPathChar mark = false) (notStart : mark ≠ '$' ∧ mark ≠ '.') :
    mark ∉ text.toList := by
  unfold HeadPart.isPath at path
  split at path
  · next rest begins =>
    rw [begins]
    intro member
    rcases List.mem_cons.mp member with isDollar | member
    · exact notStart.1 isDollar
    · rcases List.mem_cons.mp member with isDot | member
      · exact notStart.2 isDot
      · rw [List.all_eq_true.mp path mark member] at notInPath
        cases notInPath
  · cases path

/-- The path of a field has no characters that might end a tag or a line. -/
theorem HeadPart.inTag_of_isPath {text : String} (path : HeadPart.isPath text.toList) :
    InTag text :=
  ⟨notMem_of_isPath path '\n' (by decide) (by decide),
    notMem_of_isPath path '>' (by decide) (by decide)⟩

theorem inTag_of_mem_syslogKeys (options : SyslogSection) :
    ∀ key ∈ Store.syslogKeys options, InTag key := by
  intro key member
  unfold Store.syslogKeys at member
  obtain ⟨part, isPart, isKey⟩ := List.mem_filterMap.mp (List.mem_eraseDups.mp member)
  obtain ⟨text?, _, found⟩ := List.mem_filterMap.mp isPart
  obtain ⟨text, _, rfl⟩ := Option.map_eq_some_iff.mp found
  unfold HeadPart.ofText at isKey
  split_ifs at isKey with path
  · cases isKey
    exact HeadPart.inTag_of_isPath path
  · cases isKey
    decide
  · cases isKey
    decide
  · cases isKey

/-! ### Labels of streams -/

/-- The name of a label begins no tag if the key of the label begins none. -/
theorem beginsNoTag_name {key : String} (begins : BeginsNoTag key) :
    BeginsNoTag (LabelKey.name key) := by
  have keepsBlanks : Text.isBlank ∘ LabelKey.nameChar = Text.isBlank := by
    funext c
    show Text.isBlank (LabelKey.nameChar c) = Text.isBlank c
    unfold LabelKey.nameChar
    split
    · next isMark =>
      simp only [Bool.or_eq_true, decide_eq_true_eq] at isMark
      rcases isMark with ((rfl | rfl) | rfl) | rfl <;> decide
    · rfl
  have keeps (mark : Char) (other : mark ≠ '_') {c : Char}
      (same : LabelKey.nameChar c = mark) : c = mark := by
    unfold LabelKey.nameChar at same
    split at same
    · exact absurd same.symm other
    · exact same
  unfold BeginsNoTag OneLine LabelKey.name
  rw [String.toList_ofList, List.dropWhile_map, keepsBlanks, List.head?_map]
  refine ⟨fun member => ?_, fun isTag => ?_⟩
  · obtain ⟨c, inKey, isBreak⟩ := List.mem_map.mp member
    exact begins.1 (keeps '\n' (by decide) isBreak ▸ inKey)
  · obtain ⟨c, isHead, isSign⟩ := Option.map_eq_some_iff.mp isTag
    exact begins.2 (keeps '<' (by decide) isSign ▸ isHead)

theorem subset_of_mem_stepsOf {chars step : List Char} (member : step ∈ Store.stepsOf chars) :
    step ⊆ chars := by
  fun_induction Store.stepsOf chars generalizing step with
  | case1 =>
    rw [List.mem_singleton.mp member]
    exact List.nil_subset _
  | case2 rest inductionHypothesis =>
    rcases List.mem_cons.mp member with rfl | later
    · exact List.nil_subset _
    · exact List.subset_cons_of_subset _ (inductionHypothesis later)
  | case3 c rest _ steps inductionHypothesis =>
    rw [List.mem_singleton.mp member]
    exact List.cons_subset_cons c (List.nil_subset rest)
  | case4 c rest _ first others steps inductionHypothesis =>
    rw [steps] at inductionHypothesis
    rcases List.mem_cons.mp member with rfl | later
    · exact List.cons_subset_cons c (inductionHypothesis List.mem_cons_self)
    · exact List.subset_cons_of_subset c (inductionHypothesis (List.mem_cons_of_mem _ later))

/-- The steps to the value of a key stay on one line if the key does. -/
theorem oneLine_of_mem_recordSteps {key : String} (onLine : OneLine key) :
    ∀ step ∈ Store.recordSteps key, OneLine step := by
  have plain {text : String} (textOnLine : OneLine text) :
      ∀ step ∈ (Store.stepsOf text.toList).map String.ofList, OneLine step := by
    intro step member
    obtain ⟨chars, isStep, rfl⟩ := List.mem_map.mp member
    exact textOnLine.ofList (subset_of_mem_stepsOf isStep)
  intro step member
  unfold Store.recordSteps at member
  extract_lets quoted? at member
  cases found : quoted? with
  | none =>
    rw [found] at member
    exact plain onLine step member
  | some steps =>
    rw [found] at member
    obtain ⟨start, isStart, isSteps⟩ := List.exists_of_findSome?_eq_some found
    obtain ⟨rest, isRest, rfl⟩ := Option.map_eq_some_iff.mp isSteps
    have startsOnLine : ∀ start ∈ LabelKey.quotedPrefixes, OneLine start := by decide
    rcases List.mem_append.mp member with inStart | isLast
    · obtain ⟨chars, isStep, rfl⟩ := List.mem_map.mp inStart
      exact (startsOnLine start isStart).ofList
        (subset_of_mem_stepsOf (List.dropLast_subset _ isStep))
    · rw [List.mem_singleton.mp isLast, oneLine_ofList_iff, List.mem_map]
      rintro ⟨c, inRest, isBreak⟩
      have restOnLine : OneLine rest := by
        unfold Text.afterStart? at isRest
        split at isRest
        · cases isRest
          exact onLine.ofList (List.drop_subset _ _)
        · cases isRest
      unfold LabelKey.stepChar at isBreak
      split at isBreak
      · cases isBreak
      · exact restOnLine (isBreak ▸ inRest)

theorem oneLine_recordAccessor {key : String} (onLine : OneLine key) :
    OneLine (Store.recordAccessor key) := by
  unfold Store.recordAccessor
  split
  · decide
  · simp only [oneLine_append_iff]
    refine ⟨⟨by decide, oneLine_intercalate (by decide) fun text member => ?_⟩, by decide⟩
    obtain ⟨step, isStep, rfl⟩ := List.mem_map.mp member
    simp only [oneLine_append_iff]
    exact ⟨⟨by decide, oneLine_of_mem_recordSteps onLine step isStep⟩, by decide⟩

theorem holds_streamLabelParam {key : String} (begins : BeginsNoTag key) :
    Content.label.Holds (Store.streamLabelParam key) := by
  have name : Content.label.field "name" = .start := by decide
  have record : Content.label.field "record" = .inside := by decide
  refine Content.holds_ofEntries rfl (by decide) ?_
  simp [name, record, beginsNoTag_name begins, oneLine_recordAccessor begins.1]

/-! ### Stores -/

namespace Store

/-- The groups of records are placed if their prefix is. -/
theorem holds_groupParams {options : CloudwatchSection}
    (onLine : ∀ start, options.groupPrefix = some start → OneLine start) :
    Content.inside.Holds (groupParams options) := by
  have group {tags name stream : String} (tagsInTag : InTag tags) (nameOnLine : OneLine name)
      (streamOnLine : OneLine stream) : Content.inside.Holds (groupParam tags name stream) := by
    refine Content.holds_ofEntries rfl (by decide) ?_
    simp [Content.field, tagsInTag, nameOnLine, streamOnLine]
  have applications : OneLine (applicationGroup options.groupBy) := by
    cases options.groupBy <;> decide
  have start : OneLine (groupStart options) := by
    unfold groupStart
    split
    · next start isStart =>
      refine (oneLine_append_iff _ _).mpr ⟨?_, by decide⟩
      exact onLine start (Option.filter_eq_some_iff.mp isStart).1
    · decide
  unfold groupParams
  simp only [Content.holds_list_iff, List.forall_mem_cons]
  exact ⟨rfl, group (inTag_tagsOf _) ((oneLine_append_iff _ _).mpr ⟨start, applications⟩) (by decide),
    group (inTag_tagsOf _) ((oneLine_append_iff _ _).mpr ⟨start, by decide⟩) (by decide),
    group (inTag_tagsOf _) ((oneLine_append_iff _ _).mpr ⟨start, by decide⟩) (by decide),
    fun _ absurdity => absurd absurdity List.not_mem_nil⟩

theorem oneLine_authorizationHeader {token : String} (onLine : OneLine token) :
    OneLine (elasticsearchSettings.authorizationHeader token) := by
  unfold elasticsearchSettings.authorizationHeader
  simp only [oneLine_append_iff]
  exact ⟨⟨by decide, onLine⟩, by decide⟩

/-- Whether all that the label of an output is made from stays in its place. -/
structure IsPlaced (store : Store) : Prop where
  output : store.output.StaysInPlace
  id : InTag store.id
  storeId : InTag store.storeId
  inputs : ∀ input ∈ store.inputs, OneLine input
  ciphers : ∀ cipher ∈ store.options.ciphers, OneLine cipher
  secrets : store.secrets.ShowsOneLine

namespace IsPlaced

variable {store : Store} (placed : store.IsPlaced)

include placed

theorem secretFile {key : String} (keyOnLine : OneLine key) :
    ∀ path, store.secretFile? key = some path → OneLine path := by
  intro path found
  obtain ⟨name, isName, found⟩ := Option.bind_eq_some_iff.mp found
  split at found
  · cases found
    refine oneLine_mountPath (placed.output.lines name ?_) keyOnLine
    exact List.mem_append_left _ (Option.mem_toList.mpr isName)
  · cases found

theorem secretExpression {key : String} (keyOnLine : OneLine key) :
    ∀ expression, store.secretExpression? key = some expression → OneLine expression := by
  intro expression found
  obtain ⟨path, isPath, rfl⟩ := Option.map_eq_some_iff.mp found
  exact oneLine_readFile (placed.secretFile keyOnLine path isPath)

theorem quotedSecretFile {key : String} (keyOnLine : OneLine key) :
    ∀ path, store.quotedSecretFile? key = some path → OneLine path := by
  intro quoted found
  obtain ⟨path, isPath, rfl⟩ := Option.map_eq_some_iff.mp found
  exact oneLine_singleQuoted (placed.secretFile keyOnLine path isPath)

theorem secretValue {key : String} (isShown : key ∈ Secret.shownKeys) :
    ∀ value, store.secretValue? key = some value → OneLine value := by
  intro value found
  obtain ⟨name, _, found⟩ := Option.bind_eq_some_iff.mp found
  exact placed.secrets name key isShown value found

theorem token : ∀ token, store.credentials.token? = some token → OneLine token := by
  intro token isToken
  unfold credentials at isToken
  split at isToken
  · next credentials found => exact (areFrom_credentials placed.secrets found).token token isToken
  · cases isToken

theorem tokenFile : ∀ path, store.credentials.tokenFile? = some path → OneLine path := by
  intro path isPath
  unfold credentials at isPath
  split at isPath
  · next credentials found =>
    rcases (areFrom_credentials placed.secrets found).tokenFile path isPath with rfl | ⟨name, isName, rfl⟩
    · decide
    · refine oneLine_mountPath (placed.output.lines name ?_) (by decide)
      exact List.mem_append_left _ (Option.mem_toList.mpr isName)
  · cases isPath

theorem holds_buffer {interval : String} (intervalOnLine : OneLine interval) {keys : List String}
    (keysInTag : ∀ key ∈ keys, InTag key) :
    Content.inside.Holds (store.buffer interval keys).param :=
  Buffer.holds_param placed.storeId.1 store.tuning intervalOnLine keysInTag

/-- A label is placed if its parameters are. -/
theorem isPlaced_label {template : Template.Source} (isBlock : template ∈ blockTemplates)
    {params : Params} (each : ∀ entry ∈ params, (Content.inside.field entry.1).Holds entry.2) :
    Fluentd.IsPlaced (store.label template params) := by
  refine isPlaced_create (List.mem_map_of_mem isBlock) placed.id placed.inputs fun entry member => ?_
  rcases List.mem_append.mp member with given | isStoreId
  · exact each entry given
  · rw [List.mem_singleton.mp isStoreId]
    simp [Content.field, placed.storeId.1]

/-! ### Another fluentd -/

theorem arePlaced_forwardSettings : Setting.ArePlaced store.forwardSettings := by
  unfold forwardSettings
  dsimp only
  split
  · simp only [Setting.arePlaced_append_iff]
    refine ⟨⟨⟨⟨⟨?transport, ?hostname⟩, ?version⟩, ?insecure⟩, ?ciphers⟩, ?files⟩
    case transport => exact Setting.arePlaced_line (by decide) (by decide)
    case hostname => exact Setting.arePlaced_line (by decide) (by decide)
    case version =>
      exact Setting.arePlaced_line (by decide) (oneLine_singleQuoted (oneLine_sslVersion _))
    case insecure => exact Setting.arePlaced_lineIf (by decide) _ (by decide)
    case ciphers =>
      exact Setting.arePlaced_line? (by decide) fun _ => oneLine_cipherList? placed.ciphers
    case files =>
      split
      · exact Setting.arePlaced_line (by decide) (by decide)
      · simp only [Setting.arePlaced_append_iff]
        exact ⟨⟨⟨Setting.arePlaced_line? (by decide) (placed.quotedSecretFile (by decide)),
          Setting.arePlaced_line? (by decide) (placed.quotedSecretFile (by decide))⟩,
          Setting.arePlaced_line? (by decide) (placed.quotedSecretFile (by decide))⟩,
          Setting.arePlaced_line? (by decide) (placed.secretExpression (by decide))⟩
  · exact Setting.arePlaced_nil

theorem isPlaced_forwardLabel {label : Element} (type : store.output.type = .fluentForward)
    (made : store.forwardLabel = .ok label) : Fluentd.IsPlaced label := by
  obtain ⟨address, isAddress, made⟩ := exists_of_bind_eq_ok made
  cases made
  have urlOnLine : OneLine store.output.url := by
    refine placed.output.lines _ (List.mem_append_right _ ?_)
    rw [type]
    exact List.mem_singleton_self _
  have hostOnLine := Endpoint.oneLine_of_hostPort urlOnLine (mapError_eq_ok_iff.mp isAddress)
  have settings := placed.arePlaced_forwardSettings.holds_params
  have buffer := placed.holds_buffer (by decide : OneLine "5s") (List.forall_mem_nil InTag)
  have key := placed.secretExpression (by decide : OneLine Secret.sharedKey)
  refine placed.isPlaced_label (by simp [blockTemplates]) ?_
  simp [Content.field, hostOnLine, settings, buffer]
  exact key

/-! ### Elasticsearch -/

theorem arePlaced_elasticsearchSettings {scheme : String} (schemeOnLine : OneLine scheme) :
    Setting.ArePlaced (store.elasticsearchSettings scheme) := by
  have token := placed.token
  unfold elasticsearchSettings
  simp only [Setting.arePlaced_append_iff]
  refine ⟨⟨⟨⟨?scheme, ?version⟩, ?verification⟩, ?credentials⟩, ?files⟩
  case scheme => exact Setting.arePlaced_line (by decide) schemeOnLine
  case version => exact Setting.arePlaced_lineIf (by decide) _ (oneLine_sslVersion _)
  case verification => exact Setting.arePlaced_lineIf (by decide) _ (by decide)
  case credentials =>
    split
    · simp only [Setting.arePlaced_append_iff]
      exact ⟨Setting.arePlaced_line? (by decide) (placed.secretExpression (by decide)),
        Setting.arePlaced_line? (by decide) (placed.secretExpression (by decide))⟩
    · next bearer isBearer =>
      rw [isBearer] at token
      exact Setting.arePlaced_line (by decide) (oneLine_authorizationHeader (token _ rfl))
    · next serviceAccount isServiceAccount =>
      rw [isServiceAccount] at token
      exact Setting.arePlaced_line (by decide) (oneLine_authorizationHeader (token _ rfl))
    · exact Setting.arePlaced_nil
  case files =>
    split
    · exact Setting.arePlaced_line (by decide) (by decide)
    · simp only [Setting.arePlaced_append_iff]
      exact ⟨⟨Setting.arePlaced_line? (by decide) (placed.secretFile (by decide)),
        Setting.arePlaced_line? (by decide) (placed.secretFile (by decide))⟩,
        Setting.arePlaced_line? (by decide) (placed.secretFile (by decide))⟩

theorem inTag_retryId : InTag store.retryId := by
  unfold retryId
  simp only [inTag_append_iff]
  exact ⟨by decide, placed.storeId⟩

theorem holds_elasticsearchStore {url : Url} (urlOnLine : url.IsOneLine)
    (schemeOnLine : OneLine url.scheme) {tags id : String} (tagsInTag : InTag tags)
    (idOnLine : OneLine id) {retryTag : Option String}
    (retryOnLine : ∀ tag, retryTag = some tag → OneLine tag) :
    Content.inside.Holds (store.elasticsearchStore url tags id retryTag) := by
  have settings := (placed.arePlaced_elasticsearchSettings schemeOnLine).holds_params
  have buffer := Buffer.holds_param idOnLine store.tuning (by decide : OneLine "1s")
    (List.forall_mem_nil InTag)
  refine Content.holds_ofEntries rfl (by decide) ?_
  simp [Content.field, settings, buffer, tagsInTag, idOnLine, urlOnLine.hostText]
  exact retryOnLine

theorem isPlaced_elasticsearchLabel {label : Element} (type : store.output.type = .elasticsearch)
    (made : store.elasticsearchLabel = .ok label) : Fluentd.IsPlaced label := by
  obtain ⟨url, isUrl, made⟩ := exists_of_bind_eq_ok made
  cases made
  have read := Endpoint.read_of_readUrl (mapError_eq_ok_iff.mp isUrl)
  have urlOnLine := Url.isOneLine_of_read read
  have schemeOnLine := Url.oneLine_scheme read
  have retryInTag := placed.inTag_retryId
  have lines : ∀ text ∈ (store.output.elasticsearch.getD default).texts, OneLine text := by
    intro text given
    refine placed.output.lines text (List.mem_append_right _ ?_)
    rw [type]
    exact given
  have noTag : ∀ tag, none = some tag → OneLine tag := nofun
  have retryTag : ∀ tag, some store.retryId = some tag → OneLine tag := fun _ same =>
    Option.some.inj same ▸ retryInTag.1
  have retry := placed.holds_elasticsearchStore urlOnLine schemeOnLine retryInTag retryInTag.1 noTag
  have main := placed.holds_elasticsearchStore urlOnLine schemeOnLine (by decide : InTag "**")
    placed.storeId.1 retryTag
  refine placed.isPlaced_label (by simp [blockTemplates]) ?_
  simp [Content.field, (inTag_tagsOf _).1, retry, main]
  exact ⟨fun text isKey => lines text (by simp [ElasticsearchSection.texts, isKey]),
    fun text isName => lines text (by simp [ElasticsearchSection.texts, isName])⟩

/-! ### Kafka -/

theorem scramMechanism : ∀ mechanism, store.scramMechanism? = some mechanism → OneLine mechanism := by
  intro mechanism found
  obtain ⟨name, isName, rfl⟩ := Option.map_eq_some_iff.mp found
  obtain ⟨value, isValue, isName⟩ := Option.bind_eq_some_iff.mp isName
  have valueOnLine := (placed.secretValue (by decide) value isValue).toLower
  unfold Text.afterStart? at isName
  split at isName
  · cases isName
    rw [String.toList_ofList]
    exact valueOnLine.ofList fun c member => List.drop_subset _ _ (List.mem_filter.mp member).1
  · cases isName

theorem arePlaced_kafkaSettings : Setting.ArePlaced store.kafkaSettings := by
  unfold kafkaSettings
  simp only [Setting.arePlaced_append_iff]
  refine ⟨?credentials, ?files⟩
  case credentials =>
    split
    · simp only [Setting.arePlaced_append_iff]
      refine ⟨⟨⟨Setting.arePlaced_line? (by decide) (placed.secretExpression (by decide)),
        Setting.arePlaced_line? (by decide) (placed.secretExpression (by decide))⟩, ?_⟩,
        Setting.arePlaced_line? (by decide) placed.scramMechanism⟩
      exact Setting.arePlaced_line (by decide) (by split <;> decide)
    · exact Setting.arePlaced_nil
  case files =>
    split
    · simp only [Setting.arePlaced_append_iff]
      exact ⟨⟨⟨Setting.arePlaced_line? (by decide) (placed.quotedSecretFile (by decide)),
        Setting.arePlaced_line? (by decide) (placed.quotedSecretFile (by decide))⟩,
        Setting.arePlaced_line? (by decide) (placed.quotedSecretFile (by decide))⟩,
        Setting.arePlaced_lineIf (by decide) _ (by decide)⟩
    · exact Setting.arePlaced_nil

end IsPlaced

/-- The topic of an output stays on its line if the one that it names does. -/
theorem oneLine_kafkaTopic {output : Output}
    (onLine : ∀ topic, output.kafka.bind (·.topic) = some topic → OneLine topic) :
    OneLine output.kafkaTopic := by
  unfold Output.kafkaTopic
  split
  · next topic isTopic => exact onLine topic (Option.filter_eq_some_iff.mp isTopic).1
  · cases found : output.url?.bind Output.topicOfUrl? with
    | none => decide
    | some topic =>
      obtain ⟨address, _, isTopic⟩ := Option.bind_eq_some_iff.mp found
      unfold Output.topicOfUrl? at isTopic
      split at isTopic
      · cases isTopic
      · next url read =>
        dsimp only at isTopic
        split at isTopic
        · cases isTopic
        · cases isTopic
          refine (Url.isOneLine_of_read read).path.ofList fun c member => ?_
          exact (List.dropWhile_suffix _).subset (dropWhileEnd_subset _ _ member)

theorem oneLine_of_kafkaBrokers {output : Output}
    (onLine : ∀ address ∈ output.listedBrokers ++ output.url?.toList, OneLine address)
    {brokers : List String} (found : output.kafkaBrokers = .ok brokers) :
    ∀ broker ∈ brokers, OneLine broker := by
  intro broker member
  unfold Output.kafkaBrokers at found
  have given : ∀ address ∈ output.brokerAddresses, OneLine address := by
    intro address isAddress
    refine onLine address ?_
    unfold Output.brokerAddresses at isAddress
    split at isAddress
    · exact List.mem_append_right _ isAddress
    · exact List.mem_append_left _ isAddress
  split at found
  · cases found
  · obtain ⟨address, isAddress, isBroker⟩ := exists_of_mem_mapM found member
    cases read : Endpoint.hostPort address with
    | error error =>
      rw [read] at isBroker
      cases isBroker
    | ok endpoint =>
      rw [read] at isBroker
      cases isBroker
      exact HostPort.oneLine_text (Endpoint.oneLine_of_hostPort (given address isAddress) read)

namespace IsPlaced

variable {store : Store} (placed : store.IsPlaced)

include placed

theorem isPlaced_kafkaLabel {label : Element} (type : store.output.type = .kafka)
    (made : store.kafkaLabel = .ok label) : Fluentd.IsPlaced label := by
  obtain ⟨brokers, areBrokers, made⟩ := exists_of_bind_eq_ok made
  cases made
  have lines : ∀ text ∈ (store.output.kafka.bind (·.topic)).toList ++
      (store.output.listedBrokers ++ store.output.url?.toList), OneLine text := by
    intro text given
    refine placed.output.lines text (List.mem_append_right _ ?_)
    rw [type]
    exact given
  have topicOnLine : OneLine store.output.kafkaTopic := oneLine_kafkaTopic fun topic isTopic =>
    lines topic (by simp [isTopic])
  have brokersOnLine := oneLine_of_kafkaBrokers
    (fun address member => lines address (List.mem_append_right _ member))
    (mapError_eq_ok_iff.mp areBrokers)
  have settings := placed.arePlaced_kafkaSettings.holds_params
  have buffer := placed.holds_buffer (by decide : OneLine "1s") (List.forall_mem_nil InTag)
  refine placed.isPlaced_label (by simp [blockTemplates]) ?_
  simp [Content.field, Content.isList, Content.item, topicOnLine, settings, buffer]
  exact brokersOnLine

/-! ### Syslog -/

theorem arePlaced_syslogSettings (transport : SyslogTransport) :
    Setting.ArePlaced (store.syslogSettings transport) := by
  unfold syslogSettings
  split
  · simp only [Setting.arePlaced_append_iff]
    refine ⟨⟨⟨⟨⟨?tls, ?ca⟩, ?certificate⟩, ?key⟩, ?passphrase⟩, ?verification⟩
    case tls => exact Setting.arePlaced_line (by decide) (by decide)
    case ca => exact Setting.arePlaced_line? (by decide) (placed.secretFile (by decide))
    case certificate => exact Setting.arePlaced_line? (by decide) (placed.secretFile (by decide))
    case key => exact Setting.arePlaced_line? (by decide) (placed.secretFile (by decide))
    case passphrase =>
      exact Setting.arePlaced_line? (by decide) (placed.secretExpression (by decide))
    case verification => exact Setting.arePlaced_lineIf (by decide) _ (by decide)
  · exact Setting.arePlaced_nil

theorem isPlaced_syslogLabel {label : Element} (type : store.output.type = .syslog)
    (made : store.syslogLabel = .ok label) : Fluentd.IsPlaced label := by
  obtain ⟨address, isAddress, made⟩ := exists_of_bind_eq_ok made
  cases made
  have lines : ∀ text ∈ store.output.url :: (store.output.syslog.getD default).texts,
      OneLine text := by
    intro text given
    refine placed.output.lines text (List.mem_append_right _ ?_)
    rw [type]
    exact given
  have hostOnLine := Endpoint.oneLine_of_hostPort (lines _ List.mem_cons_self)
    (mapError_eq_ok_iff.mp isAddress)
  have settings := (placed.arePlaced_syslogSettings
    (.ofAddress store.output.url)).holds_params
  have buffer := placed.holds_buffer (by decide : OneLine "1s")
    (inTag_of_mem_syslogKeys (store.output.syslog.getD default))
  have plugins : ∀ transport : SyslogTransport, OneLine transport.oldPlugin := by
    intro transport
    cases transport <;> decide
  have protocols : ∀ transport : SyslogTransport, OneLine transport.protocol := by
    intro transport
    cases transport <;> decide
  have formats : ∀ format : SyslogFormat, OneLine format.lowerName := by
    intro format
    cases format <;> decide
  generalize store.output.syslog.getD default = options at *
  have given {text? : Option String} (among : text? ∈ [options.facility, options.severity,
      options.appName, options.msgId, options.procId, options.tag, options.payloadKey]) :
      ∀ text, text? = some text → OneLine text := by
    rintro text rfl
    exact lines text (List.mem_cons_of_mem _ (List.mem_filterMap.mpr ⟨_, among, rfl⟩))
  have head {text? : Option String} (among : text? ∈ [options.facility, options.severity,
      options.appName, options.msgId, options.procId, options.tag, options.payloadKey]) :=
    oneLine_headText? (given among)
  refine placed.isPlaced_label (by simp [blockTemplates]) ?_
  simp [Content.field, hostOnLine, settings, buffer, plugins, protocols, formats]
  exact ⟨oneLine_getD (head (by simp)) (by decide), oneLine_getD (head (by simp)) (by decide),
    head (by simp), head (by simp), head (by simp), head (by simp), given (by simp)⟩

/-! ### Loki -/

theorem arePlaced_lokiSettings (scheme : String) :
    Setting.ArePlaced (store.lokiSettings scheme) := by
  unfold lokiSettings
  simp only [Setting.arePlaced_append_iff]
  refine ⟨?credentials, ?files⟩
  case credentials =>
    split
    · simp only [Setting.arePlaced_append_iff]
      exact ⟨Setting.arePlaced_line? (by decide) (placed.secretExpression (by decide)),
        Setting.arePlaced_line? (by decide) (placed.secretExpression (by decide))⟩
    · exact Setting.arePlaced_line? (by decide) placed.tokenFile
  case files =>
    split
    · simp only [Setting.arePlaced_append_iff]
      refine ⟨⟨?_, Setting.arePlaced_lineIf (by decide) _ (by decide)⟩,
        Setting.arePlaced_line? (by decide) fun _ => oneLine_cipherList? placed.ciphers⟩
      split
      · exact Setting.arePlaced_line (by decide) (by decide)
      · simp only [Setting.arePlaced_append_iff]
        exact ⟨⟨Setting.arePlaced_line? (by decide) (placed.secretFile (by decide)),
          Setting.arePlaced_line? (by decide) (placed.secretFile (by decide))⟩,
          Setting.arePlaced_line? (by decide) (placed.secretFile (by decide))⟩
    · exact Setting.arePlaced_nil

theorem isPlaced_lokiLabel {label : Element} (type : store.output.type = .loki)
    (made : store.lokiLabel = .ok label) : Fluentd.IsPlaced label := by
  obtain ⟨url, isUrl, made⟩ := exists_of_bind_eq_ok made
  cases made
  have urlOnLine : OneLine store.output.url := by
    refine placed.output.lines _ (List.mem_append_right _ ?_)
    rw [type]
    exact List.mem_singleton_self _
  have addressOnLine : OneLine (String.ofList
      (Text.dropWhileEnd (· = '/') store.output.url.toList)) :=
    urlOnLine.ofList (dropWhileEnd_subset _ _)
  have tenant : ∀ path, tenantPath? store.output.loki = some path → InTag path := by
    intro path found
    obtain ⟨key, isKey, rfl⟩ := Option.map_eq_some_iff.mp found
    refine (inTag_append_iff _ _).mpr ⟨by decide, placed.output.tenant key ?_⟩
    unfold Output.tenantKey?
    rw [if_pos type]
    exact (Option.filter_eq_some_iff.mp isKey).1
  have labels : ∀ key ∈ LabelKey.ofLoki store.output.loki,
      Content.label.Holds (streamLabelParam key) := by
    intro key member
    refine holds_streamLabelParam ?_
    have standard : ∀ key ∈ LabelKey.defaults ++ LabelKey.required, BeginsNoTag key := by decide
    unfold LabelKey.ofLoki at member
    rcases List.mem_append.mp ((mem_sortedTexts _ key).mp member) with chosen | required
    · split at chosen
      · exact standard key (List.mem_append_left _ chosen)
      · refine placed.output.keys key ?_
        unfold Output.streamKeys
        rw [type]
        exact chosen
    · exact standard key (List.mem_append_right _ required)
  have settings := (placed.arePlaced_lokiSettings url.scheme).holds_params
  have tenantKeys : ∀ key ∈ (tenantPath? store.output.loki).toList, InTag key := by
    simpa using tenant
  have buffer := placed.holds_buffer (by decide : OneLine "1s") tenantKeys
  refine placed.isPlaced_label (by simp [blockTemplates]) ?_
  simp [Content.field, Content.isList, Content.item, addressOnLine, settings, buffer]
  refine ⟨?_, labels⟩
  rintro path isPath
  simp only [oneLine_append_iff]
  exact ⟨⟨by decide, (tenant path isPath).1⟩, by decide⟩

/-! ### Cloudwatch -/

theorem arePlaced_cloudwatchSettings (urlOnLine : OneLine store.output.url) :
    Setting.ArePlaced store.cloudwatchSettings := by
  have stripped (key : String) (keyOnLine : OneLine key) :
      ∀ expression, (store.secretFile? key).map readStripped = some expression →
        OneLine expression := by
    intro expression found
    obtain ⟨path, isPath, rfl⟩ := Option.map_eq_some_iff.mp found
    exact oneLine_readStripped (placed.secretFile keyOnLine path isPath)
  unfold cloudwatchSettings
  simp only [Setting.arePlaced_append_iff]
  refine ⟨⟨⟨?id, ?key⟩, ?endpoint⟩, ?verification⟩
  case id => exact Setting.arePlaced_line? (by decide) (stripped _ (by decide))
  case key => exact Setting.arePlaced_line? (by decide) (stripped _ (by decide))
  case endpoint => exact Setting.arePlaced_line (by decide) urlOnLine
  case verification => exact Setting.arePlaced_lineIf (by decide) _ (by decide)

theorem role : ∀ role, store.awsRole? = some role → OneLine role := by
  intro role found
  unfold awsRole? at found
  split at found
  · cases found
  · exact placed.secretValue (by decide) role found

theorem isPlaced_cloudwatchLabel {label : Element} (type : store.output.type = .cloudwatch)
    (made : store.cloudwatchLabel = .ok label) : Fluentd.IsPlaced label := by
  have lines : ∀ text ∈ store.output.url :: (store.output.cloudwatch.getD default).texts,
      OneLine text := by
    intro text given
    refine placed.output.lines text (List.mem_append_right _ ?_)
    rw [type]
    exact given
  unfold cloudwatchLabel at made
  dsimp only at made
  split at made
  · cases made
  · next region isRegion =>
    cases made
    have regionOnLine : OneLine region := lines region (by simp [CloudwatchSection.texts, isRegion])
    have settings := (placed.arePlaced_cloudwatchSettings (lines _ List.mem_cons_self)).holds_params
    have file : OneLine Credentials.serviceAccountTokenFile := by decide
    have groups : Content.inside.Holds (groupParams (store.output.cloudwatch.getD default)) :=
      holds_groupParams fun start isStart =>
        lines start (by simp [CloudwatchSection.texts, isStart])
    refine placed.isPlaced_label (by simp [blockTemplates]) ?_
    simp [Content.field, regionOnLine, settings, groups, file]
    exact placed.role

/-! ### Web servers -/

theorem arePlaced_httpSettings : Setting.ArePlaced store.httpSettings := by
  unfold httpSettings
  split
  · simp only [Setting.arePlaced_append_iff]
    refine ⟨⟨⟨⟨⟨?ca, ?certificate⟩, ?key⟩, ?version⟩, ?verification⟩, ?ciphers⟩
    case ca => exact Setting.arePlaced_line? (by decide) (placed.secretFile (by decide))
    case certificate => exact Setting.arePlaced_line? (by decide) (placed.secretFile (by decide))
    case key => exact Setting.arePlaced_line? (by decide) (placed.secretFile (by decide))
    case version => exact Setting.arePlaced_line (by decide) (oneLine_sslVersion _)
    case verification => exact Setting.arePlaced_lineIf (by decide) _ (by decide)
    case ciphers =>
      exact Setting.arePlaced_line? (by decide) fun _ => oneLine_cipherList? placed.ciphers
  · exact Setting.arePlaced_nil

theorem holds_httpAuthParam : Content.inside.Holds store.httpAuthParam := by
  unfold httpAuthParam
  split
  · next name _ isName =>
    have mounted (key : String) (keyOnLine : OneLine key) :
        OneLine (readOrNil (Secret.mountPath name key)) := by
      refine oneLine_readOrNil (oneLine_mountPath (placed.output.lines name ?_) keyOnLine)
      exact List.mem_append_left _ (Option.mem_toList.mpr isName)
    refine Content.holds_ofEntries rfl (by decide) ?_
    simp [Content.field, mounted Secret.username (by decide), mounted Secret.password (by decide)]
  · exact .null _

theorem isPlaced_httpLabel (type : store.output.type = .http) : Fluentd.IsPlaced store.httpLabel := by
  have lines : ∀ text ∈ store.output.url :: (store.output.http.getD default).method.toList,
      OneLine text := by
    intro text given
    refine placed.output.lines text (List.mem_append_right _ ?_)
    rw [type]
    exact given
  have method : OneLine (((store.output.http.getD default).method.map (·.toLower)).getD "post") := by
    cases isMethod : (store.output.http.getD default).method with
    | none => decide
    | some method => exact (lines method (by simp [isMethod])).toLower
  have settings := placed.arePlaced_httpSettings.holds_params
  have buffer := placed.holds_buffer (by decide : OneLine "1s") (List.forall_mem_nil InTag)
  refine placed.isPlaced_label (by simp [blockTemplates]) ?_
  simp [Content.field, method, settings, buffer, lines _ List.mem_cons_self,
    placed.holds_httpAuthParam, oneLine_compact_ofDictionary]

/-- The label of an output of any type is placed. -/
theorem isPlaced_outputLabel {label : Element} (made : store.outputLabel = .ok label) :
    Fluentd.IsPlaced label := by
  unfold outputLabel at made
  cases type : store.output.type <;> simp only [type] at made
  case elasticsearch => exact placed.isPlaced_elasticsearchLabel type made
  case fluentForward => exact placed.isPlaced_forwardLabel type made
  case syslog => exact placed.isPlaced_syslogLabel type made
  case kafka => exact placed.isPlaced_kafkaLabel type made
  case loki => exact placed.isPlaced_lokiLabel type made
  case cloudwatch => exact placed.isPlaced_cloudwatchLabel type made
  case http =>
    cases made
    exact placed.isPlaced_httpLabel type
  all_goals cases made

end IsPlaced

end Store

end Fluentd

end LogForwarder
