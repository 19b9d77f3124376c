/-
This file proves that reading on never changes what a TOML document already holds. Headers and keys
only add to tables: a value that has been put at a path stays there whatever comes behind it, and is
found at this path in the finished document.
-/

import LogForwarder.Proofs.Lookup
import LogForwarder.Toml.Reader

namespace LogForwarder

/-- The document at the end of a path through tables. -/
def Document.at? : Document → List String → Option Document
  | document, [] => some document
  | .table entries, key :: path => (entries.lookup key).bind (·.at? path)
  | _, _ :: _ => none

namespace Toml

/-! ### Entries of one key -/

theorem setEntry_append {key : String} {entries : Entries} (missing : entries.lookup key = none)
    (node : Node) (rest : Entries) :
    setEntry key node (entries ++ rest) = entries ++ setEntry key node rest := by
  induction entries with
  | nil => rfl
  | cons head others inductionHypothesis =>
    obtain ⟨other, old⟩ := head
    rw [List.lookup_cons] at missing
    split at missing
    · cases missing
    · next different =>
      have notSame : other ≠ key := fun same => beq_eq_false_iff_ne.mp different same.symm
      rw [List.cons_append, setEntry, if_neg notSame, inductionHypothesis missing,
        List.cons_append]

/-- A new key comes last. -/
theorem setEntry_new {key : String} {entries : Entries} (missing : entries.lookup key = none)
    (node : Node) : setEntry key node entries = entries ++ [(key, node)] := by
  have last := setEntry_append missing node []
  rwa [List.append_nil] at last

/-- Whether a node stands at a key, and no other entry has this key. -/
def StandsAt (key : String) (node : Node) (entries : Entries) : Prop :=
  entries.filter (·.1 = key) = [(key, node)]

theorem standsAt_cons_self (key : String) (node old : Node) (rest : Entries) :
    StandsAt key node ((key, old) :: rest) ↔ old = node ∧ rest.filter (·.1 = key) = [] := by
  simp [StandsAt]

theorem standsAt_cons_of_ne {key first : String} (different : first ≠ key) (node old : Node)
    (rest : Entries) : StandsAt key node ((first, old) :: rest) ↔ StandsAt key node rest := by
  simp [StandsAt, different]

theorem StandsAt.lookup {key : String} {node : Node} {entries : Entries}
    (stands : StandsAt key node entries) : entries.lookup key = some node := by
  induction entries with
  | nil => cases stands
  | cons head rest inductionHypothesis =>
    obtain ⟨first, old⟩ := head
    by_cases same : first = key
    · subst same
      rw [List.lookup_cons_self, ((standsAt_cons_self _ _ _ _).mp stands).1]
    · rw [List.lookup_cons, beq_false_of_ne (Ne.symm same)]
      exact inductionHypothesis ((standsAt_cons_of_ne same _ _ _).mp stands)

theorem standsAt_singleton (key : String) (node : Node) : StandsAt key node [(key, node)] :=
  (standsAt_cons_self key node node []).mpr ⟨rfl, rfl⟩

/-- What stands at a key stands there behind entries without this key as well. -/
theorem StandsAt.append {key : String} {node : Node} {entries rest : Entries}
    (missing : entries.lookup key = none) (stands : StandsAt key node rest) :
    StandsAt key node (entries ++ rest) := by
  induction entries with
  | nil => exact stands
  | cons head others inductionHypothesis =>
    obtain ⟨first, old⟩ := head
    rw [List.lookup_cons] at missing
    split at missing
    · cases missing
    · next different =>
      have notSame : first ≠ key := fun same => beq_eq_false_iff_ne.mp different same.symm
      exact (standsAt_cons_of_ne notSame _ _ _).mpr (inductionHypothesis missing)

theorem StandsAt.setEntry_self {key : String} {old : Node} {entries : Entries}
    (stands : StandsAt key old entries) (node : Node) :
    StandsAt key node (setEntry key node entries) := by
  induction entries with
  | nil => cases stands
  | cons head rest inductionHypothesis =>
    obtain ⟨first, other⟩ := head
    unfold setEntry
    by_cases same : first = key
    · subst same
      rw [if_pos rfl]
      exact (standsAt_cons_self _ _ _ _).mpr ⟨rfl, ((standsAt_cons_self _ _ _ _).mp stands).2⟩
    · rw [if_neg same]
      exact (standsAt_cons_of_ne same _ _ _).mpr
        (inductionHypothesis ((standsAt_cons_of_ne same _ _ _).mp stands))

theorem filter_setEntry_of_ne {key changed : String} (different : changed ≠ key) (node : Node)
    (entries : Entries) :
    (setEntry changed node entries).filter (·.1 = key) = entries.filter (·.1 = key) := by
  induction entries with
  | nil => simp [setEntry, different]
  | cons head rest inductionHypothesis =>
    obtain ⟨first, old⟩ := head
    unfold setEntry
    by_cases same : first = changed
    · simp [same, different]
    · rw [if_neg same, List.filter_cons, List.filter_cons, inductionHypothesis]

theorem StandsAt.setEntry_of_ne {key changed : String} (different : changed ≠ key) {node : Node}
    {entries : Entries} (stands : StandsAt key node entries) (new : Node) :
    StandsAt key node (setEntry changed new entries) :=
  (filter_setEntry_of_ne different new entries).trans stands

/-! ### Values at the ends of paths -/

/-- Whether a value stands at the end of a path through tables. -/
inductive Node.Holds : Node → List String → Document → Prop
  | value (document : Document) : Holds (.value document) [] document
  | table {origin : Origin} {entries : Entries} {key : String} {node : Node} {path : List String}
      {document : Document} (stands : StandsAt key node entries)
      (holds : node.Holds path document) :
      Holds (.table origin entries) (key :: path) document

/-- Whether a node holds all that another one does. -/
def Node.Keeps (new old : Node) : Prop :=
  ∀ path document, old.Holds path document → new.Holds path document

/-- Whether a table with some entries holds all that it does with others. -/
def KeepsEntries (new old : Entries) : Prop := (Node.table .header new).Keeps (.table .header old)

/-- Where a table came from does not matter for what it holds. -/
theorem KeepsEntries.keeps {new old : Entries} (keeps : KeepsEntries new old)
    (origin other : Origin) : (Node.table origin new).Keeps (.table other old) := by
  intro path document holds
  cases holds with
  | table stands holds =>
    cases keeps _ _ (.table stands holds) with
    | table stands holds => exact .table stands holds

theorem KeepsEntries.refl (entries : Entries) : KeepsEntries entries entries :=
  fun _ _ holds => holds

theorem KeepsEntries.trans {last new old : Entries} (keeps : KeepsEntries last new)
    (before : KeepsEntries new old) : KeepsEntries last old :=
  fun path document holds => keeps path document (before path document holds)

theorem keeps_tables (node : Node) (items : List Entries) : node.Keeps (.tables items) := by
  intro path document holds
  cases holds

theorem keepsEntries_setEntry {key : String} {node : Node} {entries : Entries}
    (keeps : ∀ replaced, entries.lookup key = some replaced → node.Keeps replaced) :
    KeepsEntries (setEntry key node entries) entries := by
  intro path document holds
  cases holds with
  | @table _ _ other replaced path document stands holds =>
    by_cases same : other = key
    · subst same
      exact .table (stands.setEntry_self node) (keeps replaced stands.lookup _ _ holds)
    · exact .table (stands.setEntry_of_ne (Ne.symm same) node) holds

theorem keepsEntries_setEntry_new {key : String} {entries : Entries}
    (missing : entries.lookup key = none) (node : Node) :
    KeepsEntries (setEntry key node entries) entries :=
  keepsEntries_setEntry fun _ found => nomatch missing.symm.trans found

theorem keepsEntries_setEntry_old {key : String} {replaced node : Node} {entries : Entries}
    (present : entries.lookup key = some replaced) (keeps : node.Keeps replaced) :
    KeepsEntries (setEntry key node entries) entries :=
  keepsEntries_setEntry fun _ found => Option.some.inj (present.symm.trans found) ▸ keeps

/-- A change that keeps what its table holds keeps what is held around it. -/
theorem keepsEntries_changeAt {byDots : Bool} {change : Origin → Entries → Option Entries}
    (keeps : ∀ origin entries changed, change origin entries = some changed →
      KeepsEntries changed entries)
    {path : List String} {origin : Origin} {entries changed : Entries}
    (made : changeAt byDots change path origin entries = some changed) :
    KeepsEntries changed entries := by
  fun_induction changeAt byDots change path origin entries generalizing changed with
  | case1 origin entries => exact keeps origin entries changed made
  | case2 key path _ entries missing =>
    obtain ⟨inner, _, rest⟩ := Option.bind_eq_some_iff.mp made
    cases rest
    exact keepsEntries_setEntry_new missing _
  | case3 => cases made
  | case4 key path _ entries origin inner present _ inductionHypothesis =>
    obtain ⟨changedInner, innerMade, rest⟩ := Option.bind_eq_some_iff.mp made
    cases rest
    exact keepsEntries_setEntry_old present ((inductionHypothesis innerMade).keeps _ _)
  | case5 key path _ entries last earlier present =>
    obtain ⟨changedLast, _, rest⟩ := Option.bind_eq_some_iff.mp made
    cases rest
    exact keepsEntries_setEntry_old present (keeps_tables _ _)
  | case6 => cases made

/-! ### Headers and keys -/

theorem keepsEntries_openTable {path : List String} {entries changed : Entries}
    (made : openTable path entries = some changed) : KeepsEntries changed entries := by
  obtain ⟨⟨outer, key⟩, _, changes⟩ := Option.bind_eq_some_iff.mp made
  refine keepsEntries_changeAt (fun origin entries changed opened => ?_) changes
  split at opened
  · next missing =>
    cases opened
    exact keepsEntries_setEntry_new missing _
  · next inner present =>
    cases opened
    exact keepsEntries_setEntry_old present ((KeepsEntries.refl inner).keeps _ _)
  · cases opened

theorem keepsEntries_openItem {path : List String} {entries changed : Entries}
    (made : openItem path entries = some changed) : KeepsEntries changed entries := by
  obtain ⟨⟨outer, key⟩, _, changes⟩ := Option.bind_eq_some_iff.mp made
  refine keepsEntries_changeAt (fun origin entries changed opened => ?_) changes
  split at opened
  · next missing =>
    cases opened
    exact keepsEntries_setEntry_new missing _
  · next items present =>
    cases opened
    exact keepsEntries_setEntry_old present (keeps_tables _ _)
  · cases opened

theorem keepsEntries_putValue {path : List String} {document : Document} {origin : Origin}
    {entries changed : Entries} (made : putValue path document origin entries = some changed) :
    KeepsEntries changed entries := by
  obtain ⟨⟨outer, key⟩, _, changes⟩ := Option.bind_eq_some_iff.mp made
  refine keepsEntries_changeAt (fun origin entries changed put => ?_) changes
  split at put
  · cases put
  split at put
  · cases put
  split at put
  · cases put
  · next vacant =>
    cases put
    exact keepsEntries_setEntry_new (Option.not_isSome_iff_eq_none.mp vacant) _

theorem keepsEntries_putIn {header path : List String} {document : Document}
    {entries changed : Entries} (made : putIn header path document entries = some changed) :
    KeepsEntries changed entries :=
  keepsEntries_changeAt (fun _ _ _ put => keepsEntries_putValue put) made

/-- What has been read before is still held at the end. -/
theorem keepsEntries_readLines {limit : Nat} {progress : Progress} {chars : List Char}
    {entries : Entries} (isRead : readLines limit progress chars = some entries) :
    KeepsEntries entries progress.entries := by
  induction limit generalizing progress chars with
  | zero => cases isRead
  | succ limit inductionHypothesis =>
    obtain ⟨next, _, isRead⟩ := Option.bind_eq_some_iff.mp isRead
    split at isRead
    · cases isRead
      exact .refl _
    · obtain ⟨⟨path, afterPath⟩, _, isRead⟩ := Option.bind_eq_some_iff.mp isRead
      obtain ⟨rest, _, isRead⟩ := Option.bind_eq_some_iff.mp isRead
      obtain ⟨opened, made, isRead⟩ := Option.bind_eq_some_iff.mp isRead
      exact (inductionHypothesis isRead).trans (keepsEntries_openItem made)
    · obtain ⟨⟨path, afterPath⟩, _, isRead⟩ := Option.bind_eq_some_iff.mp isRead
      obtain ⟨rest, _, isRead⟩ := Option.bind_eq_some_iff.mp isRead
      obtain ⟨opened, made, isRead⟩ := Option.bind_eq_some_iff.mp isRead
      exact (inductionHypothesis isRead).trans (keepsEntries_openTable made)
    · obtain ⟨⟨path, afterPath⟩, _, isRead⟩ := Option.bind_eq_some_iff.mp isRead
      obtain ⟨afterMark, _, isRead⟩ := Option.bind_eq_some_iff.mp isRead
      obtain ⟨⟨value, afterValue⟩, _, isRead⟩ := Option.bind_eq_some_iff.mp isRead
      obtain ⟨rest, _, isRead⟩ := Option.bind_eq_some_iff.mp isRead
      obtain ⟨put, made, isRead⟩ := Option.bind_eq_some_iff.mp isRead
      exact (inductionHypothesis isRead).trans (keepsEntries_putIn made)

/-! ### Keys of one or two segments -/

theorem putValue_one (key : String) (document : Document) (entries : Entries) :
    putValue [key] document .header entries =
      if (entries.lookup key).isSome then none
      else some (setEntry key (.value document) entries) := by
  simp [putValue, splitPath, changeAt]

theorem putValue_two_new {group : String} {entries : Entries}
    (missing : entries.lookup group = none) (key : String) (document : Document) :
    putValue [group, key] document .header entries =
      some (setEntry group (.table .dotted [(key, .value document)]) entries) := by
  simp [putValue, splitPath, changeAt, missing, setEntry]

theorem putValue_two_old {group : String} {entries inner : Entries}
    (present : entries.lookup group = some (.table .dotted inner)) (key : String)
    (document : Document) :
    putValue [group, key] document .header entries =
      if (inner.lookup key).isSome then none
      else
        some (setEntry group (.table .dotted (setEntry key (.value document) inner)) entries) := by
  simp only [putValue, splitPath, List.getLast?_cons_cons, List.getLast?_singleton]
  simp [changeAt, present]
  split <;> rfl

/-! ### Finished documents -/

theorem lookup_entriesToDocuments (key : String) (entries : Entries)
    (finished : List (String × Document)) (absent : entries.filter (·.1 = key) = []) :
    (entriesToDocuments entries finished).lookup key = finished.lookup key := by
  induction entries generalizing finished with
  | nil => rw [entriesToDocuments]
  | cons head rest inductionHypothesis =>
    obtain ⟨other, node⟩ := head
    have different : ¬other = key := by
      simpa using (List.filter_eq_nil_iff.mp absent) (other, node) (List.mem_cons_self)
    rw [List.filter_cons_of_neg (by simpa using different)] at absent
    rw [entriesToDocuments, inductionHypothesis _ absent, lookup_insertEntry,
      if_neg (Ne.symm different)]

theorem StandsAt.lookup_entriesToDocuments {key : String} {node : Node} {entries : Entries}
    (stands : StandsAt key node entries) (finished : List (String × Document)) :
    (entriesToDocuments entries finished).lookup key = some node.toDocument := by
  induction entries generalizing finished with
  | nil => cases stands
  | cons head rest inductionHypothesis =>
    obtain ⟨other, old⟩ := head
    rw [entriesToDocuments]
    by_cases same : other = key
    · subst same
      obtain ⟨rfl, absent⟩ := (standsAt_cons_self _ _ _ _).mp stands
      rw [Toml.lookup_entriesToDocuments _ _ _ absent, lookup_insertEntry, if_pos rfl]
    · exact inductionHypothesis ((standsAt_cons_of_ne same _ _ _).mp stands) _

/-- What a node holds at the end of a path is found there in its document. -/
theorem Node.Holds.at?_toDocument {node : Node} {path : List String} {document : Document}
    (holds : node.Holds path document) : node.toDocument.at? path = some document := by
  induction holds with
  | value document => 
    rw [Node.toDocument, Document.at?]
  | table stands _ inductionHypothesis =>
    rw [Node.toDocument, Document.at?, stands.lookup_entriesToDocuments]
    exact inductionHypothesis

end Toml

end LogForwarder
