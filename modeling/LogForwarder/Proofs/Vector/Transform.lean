/-
This file proves that the blocks of transforms are stanzas: the template of a program, of a router
or of a filter, rendered at the parameters of such an element and trimmed, is the stanza that one
would write for it by hand. The reader of TOML documents is followed through a stanza: a header, the
type and the inputs, and then settings with literal strings. Every setting is read as it is meant
exactly if each literal string can hold what it is to hold and no two settings have the same key.
-/
import LogForwarder.Compile.Text
import LogForwarder.Proofs.Lookup
import LogForwarder.Proofs.Template.Source
import LogForwarder.Proofs.Toml.Line
import LogForwarder.Proofs.Toml.Literal
import LogForwarder.Proofs.Toml.Table
import LogForwarder.Vector.Transform

namespace LogForwarder.Vector

section Stanzas

open Toml

/-- A setting with a literal string. -/
structure Setting where
  key : String
  literal : Literal

/-- The stanza of a transform. -/
structure Stanza where
  description? : Option String
  id : String
  kind : String
  inputs : List String
  /-- What all keys of the settings begin with, if anything. -/
  group? : Option String
  settings : List Setting

namespace Stanza

/-- The path of the stanza's table. -/
def header (stanza : Stanza) : List String := ["transforms", stanza.id]

/-- The path of a setting in the stanza's table. -/
def path (stanza : Stanza) (key : String) : List String := stanza.group?.toList ++ [key]

/-- A line above the stanza that says what it is for. -/
def comment (stanza : Stanza) : List Char :=
  match stanza.description? with
  | some text => '#' :: ' ' :: (text.toList ++ ['\n'])
  | none => []

/-- The settings, with a line break in front of each. -/
def settingLines (stanza : Stanza) (settings : List Setting) : List Char :=
  settings.flatMap fun setting =>
    '\n' :: (writtenKey (stanza.path setting.key) ++ ' ' :: '=' :: ' ' :: setting.literal.written)

/-- The stanza as it is written. -/
def written (stanza : Stanza) : List Char :=
  stanza.comment ++ '[' :: (writtenKey stanza.header ++ ']' :: '\n' ::
    (writtenKey ["type"] ++ ' ' :: '=' :: ' ' :: (quoted stanza.kind ++ '\n' ::
      (writtenKey ["inputs"] ++ ' ' :: '=' :: ' ' ::
        ((Template.quoteList stanza.inputs).toList ++ stanza.settingLines stanza.settings)))))

/-- Whether nothing but what the literal strings are to hold can keep a stanza from being read. -/
structure IsProper (stanza : Stanza) : Prop where
  description : ∀ text ∈ stanza.description?, ∀ c ∈ text.toList, isPlain c
  id : IsBare stanza.id
  kind : IsUnescaped stanza.kind
  inputs : ∀ input ∈ stanza.inputs, IsUnescaped input
  group : ∀ group ∈ stanza.group?, IsBare group ∧ group ∉ ["type", "inputs"]
  keys : ∀ setting ∈ stanza.settings,
    IsBare setting.key ∧ (stanza.group? = none → setting.key ∉ ["type", "inputs"])
  opened : ∀ setting ∈ stanza.settings, setting.literal.IsOpened

/-! ### Entries -/

/-- The entries that every stanza has. -/
def base (stanza : Stanza) : Entries :=
  [("type", .value (.text stanza.kind)), ("inputs", .value (.list (stanza.inputs.map .text)))]

/-- The entries of the stanza's table once some settings have been read. -/
def fields (stanza : Stanza) (done : Entries) : Entries :=
  match stanza.group? with
  | none => stanza.base ++ done
  | some group =>
    if done.isEmpty then stanza.base else stanza.base ++ [(group, .table .dotted done)]

/-- The entries of the document at that point. -/
def entries (stanza : Stanza) (done : Entries) : Entries :=
  [("transforms", .table .passed [(stanza.id, .table .header (stanza.fields done))])]

theorem putIn_header (stanza : Stanza) (path : List String) (document : Document)
    (inner : Entries) :
    putIn stanza.header path document
        [("transforms", .table .passed [(stanza.id, .table .header inner)])] =
      (putValue path document .header inner).map fun changed =>
        [("transforms", .table .passed [(stanza.id, .table .header changed)])] := by
  simp only [putIn, header, changeAt, List.lookup_cons_self, Bool.false_and, Bool.false_eq_true,
    if_false]
  cases putValue path document .header inner with
  | none => rfl
  | some changed => simp [setEntry]

theorem lookup_base (stanza : Stanza) {key : String} (other : key ∉ ["type", "inputs"]) :
    stanza.base.lookup key = none := by
  simp only [List.mem_cons, List.not_mem_nil, or_false, not_or] at other
  rw [base, List.lookup_cons, beq_false_of_ne other.1, List.lookup_cons, beq_false_of_ne other.2,
    List.lookup_nil]

/-- A setting is put behind those before it unless one of them has its key. -/
theorem putValue_fields (stanza : Stanza) {key : String}
    (grouped : ∀ group ∈ stanza.group?, group ∉ ["type", "inputs"])
    (ungrouped : stanza.group? = none → key ∉ ["type", "inputs"]) (document : Document)
    (done : Entries) :
    putValue (stanza.path key) document .header (stanza.fields done) =
      if (done.lookup key).isSome then none
      else some (stanza.fields (done ++ [(key, .value document)])) := by
  unfold path fields
  cases isGroup : stanza.group? with
  | none =>
    have missing := stanza.lookup_base (ungrouped isGroup)
    show putValue [key] document .header (stanza.base ++ done) = _
    rw [putValue_one, List.lookup_append, missing, Option.none_or]
    cases found : done.lookup key with
    | some node => rfl
    | none =>
      rw [setEntry_append missing, setEntry_new found]
  | some group =>
    have missing := stanza.lookup_base (grouped group isGroup)
    show putValue [group, key] document .header _ = _
    cases done with
    | nil =>
      show putValue [group, key] document .header stanza.base = _
      rw [putValue_two_new missing, setEntry_new missing]
      rfl
    | cons first rest =>
      show putValue [group, key] document .header
        (stanza.base ++ [(group, .table .dotted (first :: rest))]) = _
      have present : (stanza.base ++ [(group, Node.table .dotted (first :: rest))]).lookup group =
          some (.table .dotted (first :: rest)) := by
        rw [List.lookup_append, missing, Option.none_or, List.lookup_cons_self]
      rw [putValue_two_old present]
      cases found : (first :: rest).lookup key with
      | some node => rfl
      | none =>
        rw [setEntry_append missing, setEntry_new found]
        simp [setEntry]

/-- A setting that has been read is held by the document. -/
theorem holds_entries (stanza : Stanza) {key : String}
    (grouped : ∀ group ∈ stanza.group?, group ∉ ["type", "inputs"])
    (ungrouped : stanza.group? = none → key ∉ ["type", "inputs"]) {document : Document}
    {done : Entries} (stands : StandsAt key (.value document) done) :
    (Node.table .header (stanza.entries done)).Holds (stanza.header ++ stanza.path key)
      document := by
  refine .table (standsAt_singleton _ _) (.table (standsAt_singleton _ _) ?_)
  show (Node.table .header (stanza.fields done)).Holds (stanza.path key) document
  unfold path fields
  cases isGroup : stanza.group? with
  | none => exact .table (stands.append (stanza.lookup_base (ungrouped isGroup))) (.value document)
  | some group =>
    cases done with
    | nil => cases stands
    | cons first rest =>
      have missing := stanza.lookup_base (grouped group isGroup)
      exact .table ((standsAt_singleton _ _).append missing) (.table stands (.value document))

/-! ### Settings -/

section Settings


theorem head?_settingLines (stanza : Stanza) (settings : List Setting) :
    (stanza.settingLines settings).head? ≠ some '\'' := by
  cases settings with
  | nil => exact (nomatch ·)
  | cons setting rest => exact fun same => absurd (Option.some.inj same) (by decide)

theorem endLine_settingLines (stanza : Stanza) (settings : List Setting) :
    endLine false (stanza.settingLines settings) = some (stanza.settingLines settings).tail := by
  cases settings <;> rfl

theorem readValue_literal (literal : Literal) {limit : Nat} (some : 0 < limit)
    (rest : List Char) :
    readValue limit (literal.written ++ rest) =
      (readText (literal.written ++ rest)).map fun (text, rest) => (.text text, rest) := by
  cases limit with
  | zero => cases some
  | succ limit => cases literal <;> rfl

/-- The line of a setting is read as the text that its string holds, and put behind the others. -/
theorem readLines_setting (stanza : Stanza) {setting : Setting}
    (bare : IsBarePath (stanza.path setting.key))
    (grouped : ∀ group ∈ stanza.group?, group ∉ ["type", "inputs"])
    (ungrouped : stanza.group? = none → setting.key ∉ ["type", "inputs"]) (done : Entries)
    {limit : Nat} (enough : (stanza.path setting.key).length ≤ limit) (rest : List Char) :
    readLines (limit + 1) ⟨stanza.entries done, stanza.header⟩
        (writtenKey (stanza.path setting.key) ++ ' ' :: '=' :: ' ' ::
          (setting.literal.written ++ rest)) =
      (readText (setting.literal.written ++ rest)).bind fun (text, rest) =>
        (endLine false rest).bind fun rest =>
          if (done.lookup setting.key).isSome then none
          else readLines limit
            ⟨stanza.entries (done ++ [(setting.key, .value (.text text))]), stanza.header⟩
            rest := by
  have begins : ∀ c ∈ (setting.literal.written ++ rest).head?, isSpace c = false := by
    cases setting.literal <;> rintro _ ⟨⟩ <;> rfl
  have some : 0 < limit := by
    unfold path at enough
    rw [List.length_append, List.length_singleton] at enough
    omega
  rw [readLines_value bare enough _ begins, readValue_literal _ some, Option.bind_map]
  refine Option.bind_congr fun ⟨text, others⟩ _ => Option.bind_congr fun next _ => ?_
  show (putIn stanza.header _ _ (stanza.entries done)).bind _ = _
  rw [entries, putIn_header, putValue_fields stanza grouped ungrouped]
  split <;> rfl

theorem IsProper.bare_path {stanza : Stanza} (proper : stanza.IsProper) {setting : Setting}
    (isSetting : setting ∈ stanza.settings) : IsBarePath (stanza.path setting.key) := by
  refine ⟨List.concat_ne_nil _ _, fun segment member => ?_⟩
  rcases List.mem_append.mp member with isGroup | isKey
  · exact (proper.group segment (Option.mem_toList.mp isGroup)).1
  · exact List.mem_singleton.mp isKey ▸ (proper.keys setting isSetting).1

theorem length_path_le (stanza : Stanza) (key : String) : (stanza.path key).length ≤ 2 := by
  unfold path
  cases stanza.group? <;> simp

theorem lookup_concat_eq_none_iff {done : Entries} {key other : String} {node : Node} :
    (done ++ [(other, node)]).lookup key = none ↔ done.lookup key = none ∧ key ≠ other := by
  rw [List.lookup_append, Option.or_eq_none_iff, List.lookup_cons, List.lookup_nil,
    ← beq_eq_false_iff_ne]
  cases key == other <;> simp

/-- The settings are all read as they are meant exactly if their strings are sound and their keys
are new. -/
theorem exists_readLines_settings (stanza : Stanza) (proper : stanza.IsProper)
    {settings : List Setting} (among : ∀ setting ∈ settings, setting ∈ stanza.settings)
    (done : Entries) {limit : Nat} (enough : (stanza.settingLines settings).length < limit) :
    (∃ entries, readLines limit ⟨stanza.entries done, stanza.header⟩
        (stanza.settingLines settings).tail = some entries ∧
      ∀ setting ∈ settings,
        (Node.table .header entries).toDocument.at? (stanza.header ++ stanza.path setting.key) =
          some (.text (String.ofList setting.literal.value))) ↔
      (∀ setting ∈ settings, setting.literal.isSound) ∧ (settings.map (·.key)).Nodup ∧
        ∀ setting ∈ settings, done.lookup setting.key = none := by
  induction settings generalizing done limit with
  | nil =>
    cases limit with
    | zero => cases enough
    | succ limit =>
      refine iff_of_true ⟨_, rfl, nofun⟩ ⟨nofun, List.nodup_nil, nofun⟩
  | cons setting rest inductionHypothesis =>
    obtain ⟨isSetting, restAmong⟩ := List.forall_mem_cons.mp among
    have bare := proper.bare_path isSetting
    have grouped : ∀ group ∈ stanza.group?, group ∉ ["type", "inputs"] :=
      fun group isGroup => (proper.group group isGroup).2
    have ungrouped := (proper.keys setting isSetting).2
    have opened := proper.opened setting isSetting
    have apart := stanza.head?_settingLines rest
    cases limit with
    | zero => cases enough
    | succ limit =>
      have lines : (stanza.settingLines (setting :: rest)).tail =
          writtenKey (stanza.path setting.key) ++ ' ' :: '=' :: ' ' ::
            (setting.literal.written ++ stanza.settingLines rest) := by
        simp [settingLines]
      have shorter : (stanza.settingLines rest).length < limit ∧
          (stanza.path setting.key).length ≤ limit := by
        have short := stanza.length_path_le setting.key
        simp only [settingLines, List.flatMap_cons, List.length_append, List.length_cons]
          at enough ⊢
        omega
      rw [lines, readLines_setting stanza bare grouped ungrouped done shorter.2]
      refine ⟨?_, ?_⟩
      · rintro ⟨entries, isRead, found⟩
        obtain ⟨⟨text, others⟩, isText, isRead⟩ := Option.bind_eq_some_iff.mp isRead
        obtain ⟨next, ended, isRead⟩ := Option.bind_eq_some_iff.mp isRead
        split at isRead
        · cases isRead
        · next vacant =>
          rw [Option.not_isSome_iff_eq_none] at vacant
          have stands := (standsAt_singleton setting.key (.value (.text text))).append vacant
          have held :=
            keepsEntries_readLines isRead _ _ (stanza.holds_entries grouped ungrouped stands)
          obtain ⟨here, later⟩ := List.forall_mem_cons.mp found
          rw [held.at?_toDocument, Option.some.injEq, Document.text.injEq] at here
          subst here
          have sound := Literal.isSound_of_readText opened apart isText
          rw [Literal.readText_of_isSound opened apart sound] at isText
          cases isText
          cases (stanza.endLine_settingLines rest).symm.trans ended
          obtain ⟨restSound, restDistinct, restVacant⟩ :=
            (inductionHypothesis restAmong _ shorter.1).mp ⟨entries, isRead, later⟩
          refine ⟨List.forall_mem_cons.mpr ⟨sound, restSound⟩,
            List.nodup_cons.mpr ⟨fun again => ?_, restDistinct⟩,
            List.forall_mem_cons.mpr ⟨vacant, fun other member =>
              (lookup_concat_eq_none_iff.mp (restVacant other member)).1⟩⟩
          obtain ⟨other, member, same⟩ := List.mem_map.mp again
          exact (lookup_concat_eq_none_iff.mp (restVacant other member)).2 same
      · rintro ⟨sound, distinct, vacant⟩
        obtain ⟨settingSound, restSound⟩ := List.forall_mem_cons.mp sound
        obtain ⟨settingVacant, restVacant⟩ := List.forall_mem_cons.mp vacant
        obtain ⟨notAgain, restDistinct⟩ := List.nodup_cons.mp distinct
        obtain ⟨entries, isRead, found⟩ := (inductionHypothesis restAmong
          (done ++ [(setting.key, .value (.text (String.ofList setting.literal.value)))])
          shorter.1).mpr ⟨restSound, restDistinct, fun other member =>
            lookup_concat_eq_none_iff.mpr ⟨restVacant other member, fun same =>
              notAgain (List.mem_map.mpr ⟨other, member, same⟩)⟩⟩
        have stands := (standsAt_singleton setting.key
          (.value (.text (String.ofList setting.literal.value)))).append settingVacant
        have held := keepsEntries_readLines isRead _ _
          (stanza.holds_entries grouped ungrouped stands)
        refine ⟨entries, ?_, List.forall_mem_cons.mpr ⟨held.at?_toDocument, found⟩⟩
        rw [Literal.readText_of_isSound opened apart settingSound, Option.bind_some]
        simp only [endLine_settingLines, Option.bind_some, settingVacant]
        exact isRead

end Settings

/-! ### Stanzas -/

theorem fields_nil (stanza : Stanza) : stanza.fields [] = stanza.base := by
  unfold fields
  cases stanza.group? with
  | none => exact List.append_nil _
  | some group => rfl

theorem skipLines_comment (stanza : Stanza) (proper : stanza.IsProper) (rest : List Char) :
    skipLines false (stanza.comment ++ rest) = skipLines false rest := by
  unfold comment
  have inComment : ∀ chars : List Char, (∀ c ∈ chars, isPlain c) →
      skipLines true (chars ++ '\n' :: rest) = skipLines false rest := by
    intro chars plain
    induction chars with
    | nil => rfl
    | cons c others inductionHypothesis =>
      obtain ⟨here, othersPlain⟩ := List.forall_mem_cons.mp plain
      rw [List.cons_append, skipLines, if_pos rfl, if_pos here, inductionHypothesis othersPlain]
      · rintro rfl
        cases here
      · rintro _ rfl
        cases here
  cases described : stanza.description? with
  | none => rfl
  | some text =>
    have plain := proper.description text described
    show skipLines true (' ' :: ((text.toList ++ ['\n']) ++ rest)) = _
    rw [List.append_assoc]
    exact inComment (' ' :: text.toList) (List.forall_mem_cons.mpr ⟨rfl, plain⟩)

theorem IsProper.bare_header {stanza : Stanza} (proper : stanza.IsProper) :
    IsBarePath stanza.header := by
  refine ⟨List.cons_ne_nil _ _, List.forall_mem_cons.mpr ⟨⟨by decide, by decide⟩, ?_⟩⟩
  exact List.forall_mem_singleton.mpr proper.id

theorem openTable_header (stanza : Stanza) :
    openTable stanza.header [] =
      some [("transforms", .table .passed [(stanza.id, .table .header [])])] := by
  simp [openTable, header, splitPath, changeAt, setEntry]

/-- The lines in front of the settings are read. -/
theorem readLines_heading (stanza : Stanza) (proper : stanza.IsProper) {limit : Nat}
    (enough : stanza.written.length < limit) :
    ∃ remaining, (stanza.settingLines stanza.settings).length < remaining ∧
      readLines limit ⟨[], []⟩ stanza.written =
        readLines remaining ⟨stanza.entries [], stanza.header⟩
          (stanza.settingLines stanza.settings).tail := by
  have long : (stanza.settingLines stanza.settings).length + stanza.inputs.length + 9 <
      stanza.written.length := by
    have inputs := length_le_quoteList stanza.inputs
    have keys : (writtenKey ["type"]).length = 4 ∧ (writtenKey ["inputs"]).length = 6 :=
      ⟨rfl, rfl⟩
    simp only [written, List.length_append, List.length_cons]
    omega
  obtain ⟨remaining, rfl⟩ : ∃ remaining, limit = remaining + 3 := ⟨limit - 3, by omega⟩
  refine ⟨remaining, by omega, ?_⟩
  have typeBare : IsBarePath ["type"] :=
    ⟨List.cons_ne_nil _ _, List.forall_mem_singleton.mpr ⟨by decide, by decide⟩⟩
  have inputsBare : IsBarePath ["inputs"] :=
    ⟨List.cons_ne_nil _ _, List.forall_mem_singleton.mpr ⟨by decide, by decide⟩⟩
  have noComment (rest : List Char) : readLines (remaining + 3) ⟨[], []⟩ (stanza.comment ++ rest) =
      readLines (remaining + 3) ⟨[], []⟩ rest := by
    rw [readLines, stanza.skipLines_comment proper, readLines]
  have afterBreak (rest : List Char) : endLine false ('\n' :: rest) = some rest := rfl
  have breakApart (rest : List Char) : ('\n' :: rest).head? ≠ some '"' := by simp
  have quotable : ∀ input ∈ stanza.inputs, IsQuotable input :=
    fun input member => (proper.inputs input member).isQuotable
  rw [written, noComment, readLines_header proper.bare_header (by simp [header])]
  simp only [afterBreak, Option.bind_some, openTable_header]
  rw [readLines_value typeBare (Nat.succ_pos _) _ (by rintro _ ⟨⟩; rfl)]
  rw [readValue_quoted proper.kind (Nat.succ_pos _) (breakApart _)]
  simp only [afterBreak, Option.bind_some, putIn_header, putValue_one, List.lookup_nil,
    Option.isSome_none, Bool.false_eq_true, if_false, setEntry, Option.map_some]
  rw [readLines_value inputsBare (show 1 ≤ remaining by omega) _ (by
    rw [toList_quoteList]; rintro _ ⟨⟩; rfl)]
  rw [readValue_quoteList (show _ < remaining by omega), if_pos quotable]
  simp only [endLine_settingLines, Option.bind_some, putIn_header, putValue_one]
  rw [entries, fields_nil]
  rfl

/-- A stanza is read with all of its settings exactly if their strings are sound and their keys
differ. -/
theorem exists_read_iff (stanza : Stanza) (proper : stanza.IsProper) :
    (∃ document, Toml.read (String.ofList stanza.written) = some document ∧
      ∀ setting ∈ stanza.settings,
        document.at? (stanza.header ++ stanza.path setting.key) =
          some (.text (String.ofList setting.literal.value))) ↔
      (∀ setting ∈ stanza.settings, setting.literal.isSound) ∧
        (stanza.settings.map (·.key)).Nodup := by
  obtain ⟨remaining, enough, heading⟩ := stanza.readLines_heading proper (Nat.lt_succ_self _)
  have settings := stanza.exists_readLines_settings proper (fun _ member => member) [] enough
  have noMark : Toml.read (String.ofList stanza.written) =
      (readLines (stanza.written.length + 1) ⟨[], []⟩ stanza.written).map fun entries =>
        (Node.table .header entries).toDocument := by
    obtain ⟨c, rest, chars, isFirst⟩ : ∃ c rest, stanza.written = c :: rest ∧ c.toNat ≠ 0xFEFF := by
      unfold written comment
      cases stanza.description? <;> exact ⟨_, _, rfl, by decide⟩
    rw [Toml.read, String.toList_ofList, chars]
    simp only [if_neg isFirst]
  rw [noMark, heading]
  refine Iff.trans ⟨?_, ?_⟩ (settings.trans (and_congr_right fun _ => and_iff_left fun _ _ => rfl))
  · rintro ⟨document, isRead, found⟩
    obtain ⟨entries, linesRead, rfl⟩ := Option.map_eq_some_iff.mp isRead
    exact ⟨entries, linesRead, found⟩
  · rintro ⟨entries, isRead, found⟩
    exact ⟨_, Option.map_eq_some_iff.mpr ⟨entries, isRead, rfl⟩, found⟩

end Stanza

end Stanzas

open Template

/-! ### Nodes of templates -/

/-- What the templates of transforms begin with: a header, the type and the inputs. -/
def tableNodes (kind : String) : List Node :=
  [.text "[transforms.", .action [.mk (.dot ["id"]) []],
    .text ("]\ntype = \"" ++ kind ++ "\"\ninputs = "),
    .action [.mk (.function "quoteList") [.dot ["inputs"]]]]

def filterNodes : List Node :=
  tableNodes "filter" ++
    [.text "\ncondition = '", .action [.mk (.dot ["condition"]) []], .text "'\n"]

/-- The line of a branch. -/
def branchNodes : List Node :=
  [.text "route.", .action [.mk (.dot ["name"]) []], .text " = '",
    .action [.mk (.dot ["condition"]) []], .text "'\n"]

def routeNodes : List Node :=
  tableNodes "route" ++ [.text "\n", .each [.mk (.dot ["routes"]) []] branchNodes []]

def remapNodes : List Node :=
  .within [.mk (.dot ["desc"]) []] [.text "# ", .action [.mk (.dot []) []], .text "\n"] [] ::
    tableNodes "remap" ++ [.text "\nsource = '''\n",
      .action [.mk (.function "indent") [.integer 2, .dot ["vrl"]]], .text "\n'''\n"]

set_option maxRecDepth 20000 in
theorem read_filter : read Templates.filter.text = .ok filterNodes :=
  read_braced (by decide +kernel)

set_option maxRecDepth 20000 in
theorem read_route : read Templates.route.text = .ok routeNodes :=
  read_braced (by decide +kernel)

set_option maxRecDepth 20000 in
theorem read_remap : read Templates.remap.text = .ok remapNodes :=
  read_braced (by decide +kernel)

/-! ### Rendering of nodes -/

section Nodes

variable {includer : Includer} {entries : List (String × Value)} {root : Value}

theorem renderNodes_table (kind : String) {id : String} {inputs : List String}
    (isId : (Value.object entries).field "id" = .text id)
    (isInputs : (Value.object entries).field "inputs" = .ofTexts inputs) {rest : List Node}
    {others : String} (later : renderNodes ⟨includer, .object entries, root⟩ rest = .ok others) :
    renderNodes ⟨includer, .object entries, root⟩ (tableNodes kind ++ rest) =
      .ok ("[transforms." ++ (id ++ (("]\ntype = \"" ++ kind ++ "\"\ninputs = ") ++
        (quoteList inputs ++ others)))) :=
  renderNodes_cons (render_text _ _) (renderNodes_cons (render_field isId)
    (renderNodes_cons (render_text _ _) (renderNodes_cons (render_quoteList isInputs) later)))

/-- A comment above the rest is rendered if there is a description. -/
theorem render_description {description? : Option String}
    (isDescription : (Value.object entries).field "desc" = .ofText? description?)
    (nonempty : ∀ text ∈ description?, text ≠ "") :
    (Node.within [.mk (.dot ["desc"]) []]
        [.text "# ", .action [.mk (.dot []) []], .text "\n"] []).render
          ⟨includer, .object entries, root⟩ =
      .ok (description?.elim "" fun text => "# " ++ (text ++ "\n")) := by
  rw [render_within, isDescription]
  cases description? with
  | none => rfl
  | some text =>
    have present : (Value.text text).isPresent = true := by
      simpa [Value.isPresent] using nonempty text rfl
    exact (if_pos present).trans (renderNodes_cons (render_text _ _)
      (renderNodes_cons (render_dot _) (renderNodes_one (render_text _ _))))

/-- A branch as it is rendered. -/
def branchText (branch : Branch) : String :=
  "route." ++ (branch.name ++ (" = '" ++ (branch.condition ++ "'\n")))

theorem renderNodes_branch (branch : Branch) :
    renderNodes ⟨includer, branch.value, root⟩ branchNodes = .ok (branchText branch) := by
  have isName : branch.value.field "name" = .text branch.name := by
    unfold Branch.value
    rw [Value.field_ofEntries]
    rfl
  have isCondition : branch.value.field "condition" = .text branch.condition := by
    unfold Branch.value
    rw [Value.field_ofEntries]
    rfl
  exact renderNodes_cons (render_text _ _) (renderNodes_cons (render_field isName)
    (renderNodes_cons (render_text _ _) (renderNodes_cons (render_field isCondition)
      (renderNodes_one (render_text _ _)))))

theorem render_branches {branches : List Branch}
    (isRoutes : (Value.object entries).field "routes" = .list (branches.map Branch.value)) :
    (Node.each [.mk (.dot ["routes"]) []] branchNodes []).render
        ⟨includer, .object entries, root⟩ =
      .ok (String.join (branches.map branchText)) :=
  render_each isRoutes fun branch _ => renderNodes_branch branch

end Nodes

/-! ### Blocks -/

/-- A text with a line break behind it is what is left of the line if it begins and ends visibly. -/
theorem trimChars_line {chars : List Char} (visible : ∀ c ∈ chars.head?, Text.isBlank c = false)
    (lastVisible : ∀ c ∈ chars.getLast?, Text.isBlank c = false) :
    Text.trimChars (chars ++ ['\n']) = chars := by
  have kept (others : List Char) (visible : ∀ c ∈ others.head?, Text.isBlank c = false) :
      others.dropWhile Text.isBlank = others := by
    cases others with
    | nil => rfl
    | cons c rest =>
      exact List.dropWhile_cons_of_neg (by rw [visible c rfl]; exact Bool.false_ne_true)
  cases chars with
  | nil => rfl
  | cons c rest =>
    rw [Text.trimChars, List.cons_append,
      List.dropWhile_cons_of_neg (by rw [visible c rfl]; exact Bool.false_ne_true),
      ← List.cons_append, Text.dropWhileEnd, List.reverse_append, List.reverse_singleton,
      List.singleton_append, List.dropWhile_cons_of_pos (by decide),
      kept _ (by rwa [List.head?_reverse]), List.reverse_reverse]

/-- What a text ends with can be seen. -/
def EndsVisibly (text : String) : Prop :=
  ∃ before c, text.toList = before ++ [c] ∧ Text.isBlank c = false

theorem EndsVisibly.append {text : String} (ends : EndsVisibly text) (before : String) :
    EndsVisibly (before ++ text) := by
  obtain ⟨others, c, split, visible⟩ := ends
  refine ⟨before.toList ++ others, c, ?_, visible⟩
  rw [String.toList_append, split, List.append_assoc]

/-- A block that begins with a header is what is left of it and the line break behind it. -/
theorem trim_block {block : String} (opens : ∃ rest, block.toList = '[' :: rest)
    (ends : EndsVisibly block) : Text.trim (block ++ "\n") = block := by
  obtain ⟨rest, opens⟩ := opens
  obtain ⟨before, last, split, visible⟩ := ends
  have isOpening : ∀ c ∈ block.toList.head?, Text.isBlank c = false := by
    rw [opens]
    rintro _ ⟨⟩
    decide
  have isLast : ∀ c ∈ block.toList.getLast?, Text.isBlank c = false := by
    rw [split, List.getLast?_concat]
    rintro _ ⟨⟩
    exact visible
  rw [Text.trim, String.toList_append]
  exact (congrArg String.ofList (trimChars_line isOpening isLast)).trans String.ofList_toList

namespace Stanza

/-- The lines of settings end with quotes. -/
theorem getLast?_settingLines (stanza : Stanza) (settings : List Setting) :
    ∀ c ∈ (stanza.settingLines settings).getLast?, c = '\'' := by
  induction settings with
  | nil => exact nofun
  | cons setting rest inductionHypothesis =>
    intro c last
    have ends : (stanza.settingLines (setting :: rest)).getLast? =
        (stanza.settingLines rest).getLast?.or (some '\'') := by
      simp [settingLines, List.getLast?_cons, List.getLast?_append, Toml.Literal.getLast?_written]
    rcases Option.or_eq_some_iff.mp (ends.symm.trans last) with later | ⟨_, here⟩
    · exact inductionHypothesis c later
    · exact (Option.some.inj here).symm

theorem isBlank_head_written (stanza : Stanza) :
    ∀ c ∈ stanza.written.head?, Text.isBlank c = false := by
  unfold Stanza.written Stanza.comment
  cases stanza.description? <;> rintro _ ⟨⟩ <;> decide

theorem isBlank_getLast_written (stanza : Stanza) :
    ∀ c ∈ stanza.written.getLast?, Text.isBlank c = false := by
  have list : (Template.quoteList stanza.inputs).toList.getLast? = some ']' := by
    unfold Template.quoteList
    rw [String.toList_append]
    exact List.getLast?_concat
  have ends : stanza.written.getLast? =
      (stanza.settingLines stanza.settings).getLast?.or (some ']') := by
    simp [Stanza.written, List.getLast?_cons, List.getLast?_append, list]
  intro c last
  rcases Option.or_eq_some_iff.mp (ends.symm.trans last) with later | ⟨_, here⟩
  · rw [stanza.getLast?_settingLines _ c later]
    decide
  · rw [← Option.some.inj here]
    decide

end Stanza

/-- The block of a template is what its nodes are rendered as, but for blanks at both ends. -/
theorem renderBlock_eq {engine : Engine} (made : Templates.engine = .ok engine)
    {source : Source} (member : source ∈ Templates.all) {nodes : List Node}
    (isRead : read source.text = .ok nodes) {params : Params} {text : String}
    (rendered : renderNodes ⟨engine.render, .object params, .object params⟩ nodes = .ok text)
    (owner : String) :
    renderBlock engine owner source.name params = .ok (Text.trim text) := by
  rw [renderBlock, Engine.render_eq made member isRead, rendered]
  rfl

/-- The block of a template is a stanza if its nodes are rendered as the stanza and a line break. -/
theorem renderBlock_of_renderNodes {engine : Engine} (made : Templates.engine = .ok engine)
    {source : Source} (member : source ∈ Templates.all) {nodes : List Node}
    (isRead : read source.text = .ok nodes) {params : Params} {text : String} (stanza : Stanza)
    (rendered : ∀ includer,
      renderNodes ⟨includer, .object params, .object params⟩ nodes = .ok text)
    (isWritten : text.toList = stanza.written ++ ['\n']) (owner : String) :
    renderBlock engine owner source.name params = .ok (String.ofList stanza.written) := by
  rw [renderBlock_eq made member isRead (rendered engine.render), Text.trim, isWritten,
    trimChars_line stanza.isBlank_head_written stanza.isBlank_getLast_written]

/-- The stanza of a transform that runs a program. -/
def remapStanza (id : String) (inputs : List String) (description? : Option String)
    (program : String) : Stanza :=
  ⟨description?, id, "remap", inputs, none,
    [⟨"source", .lines (Template.indentText program 2).toList⟩]⟩

/-- The stanza of a router. -/
def routeStanza (id : String) (inputs : List String) (branches : List Branch) : Stanza :=
  ⟨none, id, "route", inputs, some "route",
    branches.map fun branch => ⟨branch.name, .line branch.condition.toList⟩⟩

/-- The stanza of a filter. -/
def filterStanza (id : String) (inputs : List String) (condition : String) : Stanza :=
  ⟨none, id, "filter", inputs, none, [⟨"condition", .line condition.toList⟩]⟩

theorem field_id_create (stage : Stage) (id : String) (inputs : List String) (template : String)
    (params : Params) :
    (Value.object (Element.create stage id inputs template params).params).field "id" =
      .text id := by
  unfold Element.create
  rw [field_withParam, if_neg (by decide), field_withParam, if_pos rfl]

/-- The lines of branches are the settings of a router, but for where the line breaks are. -/
theorem toList_join_branchText (id : String) (inputs : List String) (branches : List Branch) :
    '\n' :: (String.join (branches.map branchText)).toList =
      (routeStanza id inputs branches).settingLines (routeStanza id inputs branches).settings ++
        ['\n'] := by
  simp only [routeStanza, Stanza.settingLines, Stanza.path, List.flatMap_map, String.toList_join]
  induction branches with
  | nil => rfl
  | cons branch rest inductionHypothesis =>
    rw [List.flatMap_cons, List.flatMap_cons, List.append_assoc, ← inductionHypothesis]
    simp [branchText, Toml.writtenKey, Toml.Literal.written]

section Blocks

variable {engine : Engine} (made : Templates.engine = .ok engine) (owner id : String)
  (inputs : List String)

include made

theorem renderBlock_filter (condition : String) :
    renderBlock engine owner Templates.filter.name (filter id inputs condition).params =
      .ok (String.ofList (filterStanza id inputs condition).written) := by
  have isCondition : (Value.object (filter id inputs condition).params).field "condition" =
      .text condition := Element.field_create _ _ _ _ _ _ (by decide) (by decide)
  refine renderBlock_of_renderNodes made (by simp [Templates.all]) read_filter _ (fun includer =>
    renderNodes_table "filter" (field_id_create _ _ _ _ _) (Element.field_inputs_create _ _ _ _ _)
      (renderNodes_cons (render_text _ _) (renderNodes_cons (render_field isCondition)
        (renderNodes_one (render_text _ _))))) ?_ owner
  simp [Stanza.written, filterStanza, Stanza.comment, Toml.writtenKey, Stanza.header, Toml.quoted,
    Stanza.settingLines, Stanza.path, Toml.Literal.written]

theorem renderBlock_route (branches : List Branch) :
    renderBlock engine owner Templates.route.name (route id inputs branches).params =
      .ok (String.ofList (routeStanza id inputs branches).written) := by
  have isRoutes : (Value.object (route id inputs branches).params).field "routes" =
      .list (branches.map Branch.value) := Element.field_create _ _ _ _ _ _ (by decide) (by decide)
  refine renderBlock_of_renderNodes made (by simp [Templates.all]) read_route _ (fun includer =>
    renderNodes_table "route" (field_id_create _ _ _ _ _) (Element.field_inputs_create _ _ _ _ _)
      (renderNodes_cons (render_text _ _) (renderNodes_one (render_branches isRoutes)))) ?_ owner
  have lines := toList_join_branchText id inputs branches
  simp only [Stanza.written, List.append_assoc, List.cons_append, ← lines]
  simp [routeStanza, Stanza.comment, Toml.writtenKey, Stanza.header, Toml.quoted]

/-- The block of a transform that runs a program, with or without a description. -/
theorem renderBlock_program {params : Params} {description? : Option String} {program : String}
    (isDescription : (params.reverse.lookup "desc").getD .null = .ofText? description?)
    (nonempty : ∀ text ∈ description?, text ≠ "")
    (isProgram : (params.reverse.lookup "vrl").getD .null = .text program) :
    renderBlock engine owner Templates.remap.name
        (Element.create .transform id inputs Templates.remap.name params).params =
      .ok (String.ofList (remapStanza id inputs description? program).written) := by
  refine renderBlock_of_renderNodes made (by simp [Templates.all]) read_remap _ (fun includer =>
    renderNodes_cons (render_description ((Element.field_create _ _ _ _ _ _ (by decide)
      (by decide)).trans isDescription) nonempty) (renderNodes_table "remap"
        (field_id_create _ _ _ _ _) (Element.field_inputs_create _ _ _ _ _)
        (renderNodes_cons (render_text _ _) (renderNodes_cons (render_indent
          ((Element.field_create _ _ _ _ _ _ (by decide) (by decide)).trans isProgram) 2)
            (renderNodes_one (render_text _ _)))))) ?_ owner
  cases description? <;>
  simp [Stanza.written, remapStanza, Stanza.comment, Toml.writtenKey, Stanza.header, Toml.quoted,
    Stanza.settingLines, Stanza.path, Toml.Literal.written]

end Blocks

end LogForwarder.Vector
