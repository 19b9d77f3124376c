/-
Filters of a log: directives that say, for the whole program or for the modules whose names start
with a text, down to which level events are told. The directive with the longest text decides.
-/

import LogForwarder.Log.Event
import LogForwarder.Text.Cut
import LogForwarder.Text.Property

namespace LogForwarder

/-- How far some modules tell their events. -/
structure LogDirective where
  /-- The start of the names of the modules. -/
  target : String
  /-- The last level that is told, if any is. -/
  level? : Option LogLevel
  deriving DecidableEq

/-- Why a text is no directive. -/
inductive LogDirectiveError
  | malformed
  | unknownLevel
  deriving DecidableEq

/-- The text that reports why a text is no directive. -/
def LogDirectiveError.message : LogDirectiveError → String
  | .malformed => "invalid filter directive"
  | .unknownLevel =>
    "error parsing level filter: expected one of \"off\", \"error\", \"warn\", \"info\", " ++
      "\"debug\", \"trace\", or a number 0-5"

/-- Directives, of which a later one counts more than an earlier one for the same modules. -/
abbrev LogFilter := List LogDirective

namespace LogDirective

/-- How far a level by its name or its number tells, where the empty text stands for everything. -/
def levelOf? (name : String) : Option (Option LogLevel) :=
  if name.isEmpty then some (some .trace)
  else if name = "0" || name.toLower = "off" then some none
  else (LogLevel.all.find? fun level => name = toString (level.rank + 1)).map some <|>
    (LogLevel.ofName? name).map some

/-- Whether a character may start the name of a module. -/
def isTargetStart (c : Char) : Bool := Text.isAlphanumeric c || c ∈ ['-', ':', '_']

/--
The directive of a text: a level, the name of a module, or both with an equals sign between them. A
module without a level tells everything.
-/
def ofText (text : String) : Except LogDirectiveError LogDirective :=
  match text.toList with
  | [] => .error .malformed
  | first :: rest =>
    let chars := first :: rest
    if !isTargetStart first then .error .malformed
    else
      match chars.dropWhile (· ≠ '=') with
      | [] =>
        let name := Text.trim text
        match levelOf? name with
        | some level? => .ok ⟨"", level?⟩
        | none => .ok ⟨name, some .trace⟩
      | _ :: level =>
        match levelOf? (String.ofList level) with
        | some level? => .ok ⟨String.ofList (chars.takeWhile (· ≠ '=')), level?⟩
        | none => .error .unknownLevel

/-- Whether a directive is about a module. -/
def covers (directive : LogDirective) (target : String) : Bool :=
  directive.target.toList.isPrefixOf target.toList

/-- Whether a directive, if it decides, lets a level through. -/
def allows (directive : LogDirective) (level : LogLevel) : Bool :=
  directive.level?.any fun last => level.rank ≤ last.rank

end LogDirective

namespace LogFilter

/-- The filter of some directives between commas, between which there may also be nothing. -/
def ofText (text : String) : Except LogDirectiveError LogFilter :=
  let directives := (Text.splitOn (· = ',') text.toList).filter (!·.isEmpty)
  directives.mapM fun directive => LogDirective.ofText (String.ofList directive)

/-- The directive that decides about a module: the last one of those with the longest text. -/
def decisive? (filter : LogFilter) (target : String) : Option LogDirective :=
  filter.foldl (fun best directive =>
    if !directive.covers target then best
    else
      match best with
      | some longest =>
        if longest.target.length ≤ directive.target.length then some directive else some longest
      | none => some directive) none

/-- Whether what happens in a module at a level is told. -/
def allows (filter : LogFilter) (target : String) (level : LogLevel) : Bool :=
  (decisive? filter target).any (·.allows level)

end LogFilter

end LogForwarder
