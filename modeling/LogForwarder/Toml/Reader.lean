/-
Reading of TOML documents, line by line: a header opens a table, and a key with a value adds to the
table that is open. Keys of a table come out in rising order, whatever their order in the text.
-/

import LogForwarder.Toml.Scalar
import LogForwarder.Toml.Table

namespace LogForwarder.Toml

/-! ### Values -/

mutual

/-- A value and what follows it. Every step into a list or a table takes one off `limit`. -/
def readValue (limit : Nat) (chars : List Char) : Option (Document × List Char) :=
  match limit with
  | 0 => none
  | limit + 1 =>
    match chars with
    | '[' :: rest => readItems limit [] rest
    | c :: rest =>
      if c = '"' || c = '\'' then
        (readText chars).map fun (text, rest) => (.text text, rest)
      else if c.toNat = 0x7B then readInline limit [] rest
      else
        let (word, rest) := takeWord chars
        (readWord? word).map fun document => (document, rest)
    | [] => none

/-- The items of a list up to its end; `items` holds those before, the last one first. -/
def readItems (limit : Nat) (items : List Document) (chars : List Char) :
    Option (Document × List Char) :=
  match limit with
  | 0 => none
  | limit + 1 => do
    match ← skipLines false chars with
    | ']' :: rest => return (.list items.reverse, rest)
    | chars =>
      let (item, rest) ← readValue limit chars
      match ← skipLines false rest with
      | ',' :: rest => readItems limit (item :: items) rest
      | ']' :: rest => return (.list (item :: items).reverse, rest)
      | _ => none

/-- The entries of an inline table up to its end; `entries` holds those before. -/
def readInline (limit : Nat) (entries : Entries) (chars : List Char) :
    Option (Document × List Char) :=
  match limit with
  | 0 => none
  | limit + 1 => do
    match ← skipLines false chars with
    | [] => none
    | c :: rest =>
      if c.toNat = 0x7D then return ((Node.table .header entries).toDocument, rest)
      else
        let (key, rest) ← readKey limit (c :: rest)
        let rest ← takeChar? '=' rest
        let (value, rest) ← readValue limit (rest.dropWhile isSpace)
        let entries ← putValue key value .header entries
        match ← skipLines false rest with
        | [] => none
        | c :: rest =>
          if c = ',' then readInline limit entries rest
          else if c.toNat = 0x7D then return ((Node.table .header entries).toDocument, rest)
          else none

end

/-! ### Lines -/

/--
The part of a document that has been read: its entries and the path of the table that is open.
-/
structure Progress where
  entries : Entries
  header : List String

/-- What follows the brackets at the end of a header, which must end its line. -/
def closeHeader (brackets : Nat) (chars : List Char) : Option (List Char) :=
  if chars.take brackets = List.replicate brackets ']' then endLine false (chars.drop brackets)
  else none

/-- A document from `progress` on; every line takes one off `limit`. -/
def readLines (limit : Nat) (progress : Progress) (chars : List Char) : Option Entries :=
  match limit with
  | 0 => none
  | limit + 1 => do
    match ← skipLines false chars with
    | [] => return progress.entries
    | '[' :: '[' :: rest =>
      let (path, rest) ← readKey limit rest
      let rest ← closeHeader 2 rest
      let entries ← openItem path progress.entries
      readLines limit ⟨entries, path⟩ rest
    | '[' :: rest =>
      let (path, rest) ← readKey limit rest
      let rest ← closeHeader 1 rest
      let entries ← openTable path progress.entries
      readLines limit ⟨entries, path⟩ rest
    | chars =>
      let (key, rest) ← readKey limit chars
      let rest ← takeChar? '=' rest
      let (value, rest) ← readValue limit (rest.dropWhile isSpace)
      let rest ← endLine false rest
      let entries ← putIn progress.header key value progress.entries
      readLines limit { progress with entries := entries } rest

/-- The document of a TOML text. A byte order mark in front of it does not count. -/
def read (text : String) : Option Document :=
  let chars :=
    match text.toList with
    | c :: rest => if c.toNat = 0xFEFF then rest else c :: rest
    | [] => []
  (readLines (chars.length + 1) ⟨[], []⟩ chars).map fun entries =>
    (Node.table .header entries).toDocument

end LogForwarder.Toml
