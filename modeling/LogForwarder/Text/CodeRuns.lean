/-
Sets of characters given as runs of neighbouring code points, and maps from characters to code
points given in the same way. The tables of Unicode properties are written in these forms, because a
property is a few hundred runs and many thousand characters, and most characters of a map stand
beside others that have the same image or an image beside theirs.
-/

import LogForwarder.Text.Cut

namespace LogForwarder.Text

/-! ### Decimal digits -/

/-- The value of a list of decimal digits, the first of them the highest. -/
def digitsValue (digits : List Char) : Nat :=
  digits.foldl (fun value digit => value * 10 + (digit.toNat - '0'.toNat)) 0

/-! ### Runs -/

/-- Runs of code points, each from its first to its last, in rising order and without overlap. -/
structure CodeRuns where
  runs : Array (Nat × Nat)

namespace CodeRuns

/--
Runs written as words `gap+count`, a few to a line: the gap counts from the end of the run before,
so every word says how many code points are left out and how many belong to the set.
-/
def ofLines (lines : List String) : CodeRuns :=
  let step (state : Nat × Array (Nat × Nat)) (word : String) : Nat × Array (Nat × Nat) :=
    let chars := word.toList
    let gap := digitsValue (chars.takeWhile Char.isDigit)
    let count := digitsValue ((chars.dropWhile Char.isDigit).drop 1)
    let first := state.1 + gap
    (first + count, state.2.push (first, first + count - 1))
  ⟨((lines.flatMap (·.splitOn " ")).foldl step (0, #[])).2⟩

/-- Whether a run between positions `low` and `high` holds the code point, by halving. -/
def search (runs : Array (Nat × Nat)) (code low high : Nat) : Bool :=
  if _nonempty : low < high then
    let middle := (low + high) / 2
    match runs[middle]? with
    | none => false
    | some (first, last) =>
      if code < first then search runs code low middle
      else if last < code then search runs code (middle + 1) high
      else true
  else
    false
termination_by high - low

/-- Whether the set holds a character. -/
def contains (set : CodeRuns) (c : Char) : Bool :=
  search set.runs c.toNat 0 set.runs.size

end CodeRuns

/-! ### Maps -/

/-- Neighbouring code points and their images. -/
structure MapRun where
  first : Nat
  count : Nat
  /-- The image of the first of them. -/
  image : List Nat
  /-- Whether the image, which is then a single one, moves on together with the code point. -/
  moves : Bool

/-- The image of a code point that belongs to a run. -/
def MapRun.imageOf (run : MapRun) (code : Nat) : List Nat :=
  if run.moves then run.image.map (· + (code - run.first)) else run.image

/-- Runs in rising order and without overlap. -/
structure CodeMap where
  runs : Array MapRun

namespace CodeMap

/-- The code points of a list between commas. -/
def readCodes (chars : List Char) : List Nat := (splitOn (· = ',') chars).map digitsValue

/-- The first code point after those of the runs so far. -/
structure Reading where
  next : Nat
  runs : Array MapRun

/--
One more word read: `gap=codes` for one code point, `gap+count=code` for several whose images move
on with them, `gap*count=code` for several with one image. The gap counts from the end of the run
before.
-/
def readWord (reading : Reading) (word : String) : Reading :=
  let chars := word.toList
  let first := reading.next + digitsValue (chars.takeWhile Char.isDigit)
  let image := readCodes ((chars.dropWhile (· ≠ '=')).drop 1)
  let size := (chars.dropWhile Char.isDigit).takeWhile (· ≠ '=')
  let count := if size.isEmpty then 1 else digitsValue (size.drop 1)
  ⟨first + count, reading.runs.push ⟨first, count, image, size.head? = some '+'⟩⟩

/-- The map of some words, a few of them to a line. -/
def ofLines (lines : List String) : CodeMap :=
  let words := lines.flatMap fun line => (splitOn (· = ' ') line.toList).map String.ofList
  ⟨(words.foldl readWord ⟨0, #[]⟩).runs⟩

/-- The run between positions `low` and `high` that holds a code point, by halving. -/
def search (runs : Array MapRun) (code low high : Nat) : Option MapRun :=
  if _nonempty : low < high then
    let middle := (low + high) / 2
    match runs[middle]? with
    | none => none
    | some run =>
      if code < run.first then search runs code low middle
      else if run.first + run.count ≤ code then search runs code (middle + 1) high
      else some run
  else
    none
termination_by high - low

/-- The image of a character, if it has one. -/
def image? (map : CodeMap) (c : Char) : Option (List Nat) :=
  (search map.runs c.toNat 0 map.runs.size).map (·.imageOf c.toNat)

end CodeMap

end LogForwarder.Text
