/-
Tables of TOML documents while they are put together. Where a table came from decides what may still
be added to it: a table that was opened by its own header is never opened again, and dotted keys add
only to tables that dotted keys have made.
-/

import LogForwarder.Document.Basic

namespace LogForwarder.Toml

/-- Where a table came from. -/
inductive Origin
  /-- Opened by a header of its own, or the document itself. -/
  | header
  /-- Passed through by the header of a table inside it. -/
  | passed
  /-- Made by a dotted key. -/
  | dotted
  deriving DecidableEq

/-- What stands at a key. -/
inductive Node
  /-- A value that is complete, inline tables included. -/
  | value (document : Document)
  | table (origin : Origin) (entries : List (String × Node))
  /-- An array of tables, the last one first. -/
  | tables (items : List (List (String × Node)))
  deriving Inhabited

/-- The entries of a table. -/
abbrev Entries := List (String × Node)

/-- The entries with a new node at a key, in place of the old one if there is one. -/
def setEntry (key : String) (node : Node) : Entries → Entries
  | [] => [(key, node)]
  | (other, old) :: rest =>
    if other = key then (key, node) :: rest else (other, old) :: setEntry key node rest

/--
The entries after a change to the table at a path. A table that is missing on the way is made, by
dotted keys or by a header; of an array of tables the last one is meant. The change is told where
the table came from.
-/
def changeAt (byDots : Bool) (change : Origin → Entries → Option Entries) :
    List String → Origin → Entries → Option Entries
  | [], origin, entries => change origin entries
  | key :: path, _, entries =>
    match entries.lookup key with
    | none => do
      let origin : Origin := if byDots then .dotted else .passed
      let inner ← changeAt byDots change path origin []
      return setEntry key (.table origin inner) entries
    | some (.table origin inner) =>
      if byDots && origin = .header then none
      else do
        let inner ← changeAt byDots change path origin inner
        return setEntry key (.table origin inner) entries
    | some (.tables (last :: earlier)) => do
      let last ← changeAt byDots change path .header last
      return setEntry key (.tables (last :: earlier)) entries
    | some _ => none

/-- The last key of a path and the path to its table. -/
def splitPath (path : List String) : Option (List String × String) :=
  path.getLast?.map fun key => (path.dropLast, key)

/-- The entries after the header of a table. -/
def openTable (path : List String) (entries : Entries) : Option Entries := do
  let (outer, key) ← splitPath path
  changeAt false (fun _ entries =>
    match entries.lookup key with
    | none => some (setEntry key (.table .header []) entries)
    | some (.table .passed inner) => some (setEntry key (.table .header inner) entries)
    | some _ => none) outer .header entries

/-- The entries after the header of a table in an array. -/
def openItem (path : List String) (entries : Entries) : Option Entries := do
  let (outer, key) ← splitPath path
  changeAt false (fun _ entries =>
    match entries.lookup key with
    | none => some (setEntry key (.tables [[]]) entries)
    | some (.tables items) => some (setEntry key (.tables ([] :: items)) entries)
    | some _ => none) outer .header entries

/-- The entries of a table after a value at a key, which may be dotted. -/
def putValue (path : List String) (document : Document) (origin : Origin) (entries : Entries) :
    Option Entries := do
  let (outer, key) ← splitPath path
  changeAt true (fun origin entries =>
    if !outer.isEmpty && origin ≠ .dotted then none
    else if outer.isEmpty && origin = .dotted then none
    else if (entries.lookup key).isSome then none
    else some (setEntry key (.value document) entries)) outer origin entries

/-- The entries of the document after a value in the table of the last header. -/
def putIn (header path : List String) (document : Document) (entries : Entries) : Option Entries :=
  changeAt false (fun _ entries => putValue path document .header entries) header .header entries

/-! ### Finished documents -/

mutual

/-- The document of a node. -/
def Node.toDocument : Node → Document
  | .value document => document
  | .table _ entries => .table (entriesToDocuments entries [])
  | .tables items => .list (itemsToDocuments items [])

/-- The documents of entries, put in order of their keys among those that are finished. -/
def entriesToDocuments :
    List (String × Node) → List (String × Document) → List (String × Document)
  | [], finished => finished
  | (key, node) :: rest, finished =>
    entriesToDocuments rest (insertEntry key node.toDocument finished)

/-- The documents of an array of tables, the last one first, put before those that are finished. -/
def itemsToDocuments : List (List (String × Node)) → List Document → List Document
  | [], finished => finished
  | entries :: rest, finished =>
    itemsToDocuments rest (.table (entriesToDocuments entries []) :: finished)

end

end LogForwarder.Toml
