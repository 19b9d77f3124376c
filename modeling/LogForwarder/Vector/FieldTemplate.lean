/-
Texts with record fields in them. A text such as `logs-{.level}` stands for a different value for
every record: each group between braces is an expression over the record, and what is around the
groups is taken as it is.
-/

import LogForwarder.Document.Value
import LogForwarder.Text.Cut

namespace LogForwarder.Vector

/-- A piece of a text with record fields. -/
inductive FieldPiece
  /-- Characters that are taken as they are. -/
  | plain (chars : List Char)
  /-- An expression over the record. -/
  | group (expression : List Char)
  deriving DecidableEq

namespace FieldPiece

/-- What is before the first group, what is in it and what is after it. -/
def firstGroup? (chars : List Char) : Option (List Char × List Char × List Char) :=
  match chars.dropWhile (· ≠ '\x7b') with
  | [] => none
  | _ :: inner =>
    match inner.dropWhile (· ≠ '\x7d') with
    | [] => none
    | _ :: rest =>
      some (chars.takeWhile (· ≠ '\x7b'), inner.takeWhile (· ≠ '\x7d'), rest)

/-- What comes after a group is shorter than the text. -/
theorem length_of_firstGroup? {chars before inner rest : List Char}
    (found : firstGroup? chars = some (before, inner, rest)) : rest.length < chars.length := by
  unfold firstGroup? at found
  split at found
  · contradiction
  · rename_i opening after atOpening
    split at found
    · contradiction
    · rename_i closing remaining atClosing
      have same : remaining = rest := by
        injection found with triple
        injection triple with _ pair
        injection pair
      have first := (List.dropWhile_suffix (l := chars) (· ≠ '\x7b')).length_le
      have second := (List.dropWhile_suffix (l := after) (· ≠ '\x7d')).length_le
      rw [atOpening, List.length_cons] at first
      rw [atClosing, List.length_cons] at second
      rw [← same]
      omega

/-- The characters around groups as a piece, if there are any. -/
def plain? (chars : List Char) : List FieldPiece := if chars.isEmpty then [] else [.plain chars]

/-- The pieces of a text. A group reaches from a brace that opens to the next one that closes. -/
def read (chars : List Char) : List FieldPiece :=
  match _found : firstGroup? chars with
  | none => plain? chars
  | some (before, inner, rest) => plain? before ++ .group inner :: read rest
termination_by chars.length
decreasing_by exact length_of_firstGroup? _found

/-- A piece as an expression over the record. -/
def expression : FieldPiece → String
  | .plain chars => Value.textLiteral (String.ofList chars)
  | .group inner => s!"to_string!({Text.trim (String.ofList inner)})"

end FieldPiece

/-- Whether a text has groups. -/
def hasFieldGroup (text : String) : Bool := (FieldPiece.firstGroup? text.toList).isSome

/-- A text with record fields as an expression over the record. -/
def fieldExpression (text : String) : String :=
  match FieldPiece.read text.toList with
  | [] => Value.textLiteral ""
  | pieces => " + ".intercalate (pieces.map FieldPiece.expression)

end LogForwarder.Vector
