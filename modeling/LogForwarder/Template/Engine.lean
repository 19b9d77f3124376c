/-
Engines: sets of templates that may include each other by name. Registration makes sure that every
name is known and that no template includes itself by a detour, so that rendering always ends: the
templates are kept in an order in which each comes after those that it includes. Texts of templates
in which many braces stand are written with other brackets in their place, so that the braces are
not mistaken for those of the text around them.
-/

import LogForwarder.Template.Reader
import LogForwarder.Template.Render

namespace LogForwarder.Template

/-! ### Sources -/

/-- A character, or the braces that it stands for. -/
def bracesOf (c : Char) : List Char :=
  if c = '⟦' then ['\x7b', '\x7b']
  else if c = '⟧' then ['\x7d', '\x7d']
  else if c = '⦃' then ['\x7b']
  else if c = '⦄' then ['\x7d']
  else [c]

/--
A text with braces in place of the brackets `⦃` and `⦄`, and pairs of braces in place of `⟦` and
`⟧`.
-/
def withBraces (text : String) : String := String.ofList (text.toList.flatMap bracesOf)

/-- The text of a template with its name. -/
structure Source where
  name : String
  text : String
  deriving DecidableEq

/-- A source whose braces are written as other brackets. -/
def Source.braced (name text : String) : Source := ⟨name, withBraces text⟩

/-! ### Registered templates -/

/-- A template with its name and the names of those that it includes. -/
structure Definition where
  name : String
  nodes : List Node
  includes : TextSet

/-- Why templates cannot be registered. -/
inductive RegisterError
  | unreadable (name : String) (error : ReadError)
  | unknownFunction (name function : String)
  | computedInclude (name : String)
  | repeated (name : String)
  | unknownInclude (name target : String)
  /-- Templates from which includes lead into a cycle, in rising order. -/
  | cycle (names : List String)
  deriving DecidableEq

/-- The text that reports why templates cannot be registered. -/
def RegisterError.message : RegisterError → String
  | .unreadable name error => s!"template `{name}`: {error.message}"
  | .unknownFunction name function => s!"template `{name}`: unknown function `{function}`"
  | .computedInclude name => s!"template `{name}`: include target must be a string literal"
  | .repeated name => s!"template `{name}` registered twice"
  | .unknownInclude name target => s!"template `{name}` includes unknown template `{target}`"
  | .cycle names => "template include cycle among: " ++ ", ".intercalate names

/-! ### Calls inside templates -/

/-- The fault of an operand that is a function without being one. -/
def unknownFunction? (name : String) : Operand → Option RegisterError
  | .function function =>
    if (Function.ofName? function).isSome then none else some (.unknownFunction name function)
  | _ => none

/--
The template that a command includes: none if it includes none, and nothing in it if it does not say
which.
-/
def includeTarget? : Command → Option (Option String)
  | .mk (.function function) arguments =>
    if function = Function.include.name then
      match arguments with
      | .text target :: _ => some (some target)
      | _ => some none
    else
      none
  | _ => none

/-- The faults of a command, in order. -/
def commandFaults (name : String) (command : Command) : List RegisterError :=
  command.operands.filterMap (unknownFunction? name) ++
    match includeTarget? command with
    | some none => [.computedInclude name]
    | _ => []

/-- The definition of a template, unless a call in it is at fault. -/
def define (name : String) (nodes : List Node) : Except RegisterError Definition :=
  let commands := (expressionsOf nodes).flatten
  match commands.flatMap (commandFaults name) with
  | fault :: _ => .error fault
  | [] =>
    let targets := commands.filterMap fun command => (includeTarget? command).join
    .ok ⟨name, nodes, .ofTexts targets⟩

/-! ### Order -/

/-- How far templates have come in taking places, each after those that it includes. -/
structure Sorting where
  /-- The templates that have a place, in order. -/
  order : List String
  /-- How many templates each of the others still waits for. -/
  pending : Dictionary Nat
  /-- The templates that wait for none. -/
  ready : TextSet
  isPending : ∀ name ∈ ready.keys, name ∈ pending.keys

namespace Sorting

/-- Before any template has a place each waits for all that it includes. -/
def start (known : Dictionary Definition) : Sorting :=
  let pending := known.mapValues (·.includes.size)
  { order := []
    pending := pending
    ready := (pending.filter fun _ count => count = 0).mapValues fun _ => ()
    isPending := fun name member => by
      rw [Dictionary.keys_mapValues] at member
      exact Dictionary.mem_keys_of_mem_filter member }

/-- A template takes the next place. -/
def place (sorting : Sorting) (next : String) : Sorting where
  order := sorting.order ++ [next]
  pending := sorting.pending.erase next
  ready := sorting.ready.erase next
  isPending name member := by
    obtain ⟨entry, kept, rfl⟩ := List.mem_map.mp member
    obtain ⟨isReady, different⟩ := List.mem_filter.mp kept
    obtain ⟨other, present, same⟩ :=
      List.mem_map.mp (sorting.isPending entry.1 (List.mem_map_of_mem isReady))
    rw [← same] at different ⊢
    exact List.mem_map_of_mem (List.mem_filter.mpr ⟨present, different⟩)

/-- A template waits for one less if it includes the one that has just taken its place. -/
def release (next : String) (sorting : Sorting) (user : String × Definition) : Sorting :=
  if user.2.includes.contains next then
    match found : sorting.pending.get? user.1 with
    | none => sorting
    | some count =>
      { order := sorting.order
        pending := sorting.pending.modify user.1 (· - 1)
        ready := if count - 1 = 0 then sorting.ready.insert user.1 () else sorting.ready
        isPending := fun name member => by
          rw [Dictionary.keys_modify]
          split at member
          · rcases (Dictionary.mem_keys_insert _ _ _ _).mp member with rfl | isReady
            · rw [Dictionary.mem_keys_iff, found]
              rfl
            · exact sorting.isPending name isReady
          · exact sorting.isPending name member }
  else sorting

/-- A template takes the next place, and no other template waits for it any longer. -/
def step (known : Dictionary Definition) (sorting : Sorting) (next : String) : Sorting :=
  known.entries.foldl (release next) (sorting.place next)

theorem keys_release (next : String) (sorting : Sorting) (user : String × Definition) :
    (sorting.release next user).pending.keys = sorting.pending.keys := by
  unfold release
  split
  · split
    · rfl
    · exact Dictionary.keys_modify _ _ _
  · rfl

theorem keys_foldl_release (next : String) (sorting : Sorting)
    (users : List (String × Definition)) :
    (users.foldl (release next) sorting).pending.keys = sorting.pending.keys := by
  induction users generalizing sorting with
  | nil => rfl
  | cons user rest inductionHypothesis =>
    exact (inductionHypothesis _).trans (keys_release next sorting user)

theorem size_step_lt (known : Dictionary Definition) {sorting : Sorting} {next : String}
    (isReady : next ∈ sorting.ready.keys) :
    (sorting.step known next).pending.size < sorting.pending.size := by
  have size : (sorting.step known next).pending.size = (sorting.pending.erase next).size := by
    have keys := congrArg List.length (keys_foldl_release next (sorting.place next) known.entries)
    unfold Dictionary.keys at keys
    rw [List.length_map, List.length_map] at keys
    exact keys
  rw [size]
  exact Dictionary.size_erase_lt (sorting.isPending next isReady)

/-- Places are taken, by the first template that is ready, as long as there is one. -/
def finish (known : Dictionary Definition) (sorting : Sorting) : Sorting :=
  match _first : sorting.ready.keys with
  | [] => sorting
  | next :: _ => finish known (sorting.step known next)
termination_by sorting.pending.size
decreasing_by exact size_step_lt known (_first ▸ List.mem_cons_self)

end Sorting

/--
The names of templates in an order in which each comes after those that it includes; or those that
never stop waiting, in rising order.
-/
def topoOrder (known : Dictionary Definition) : Except (List String) (List String) :=
  let sorting := (Sorting.start known).finish known
  if sorting.pending.isEmpty then .ok sorting.order else .error sorting.pending.keys

/-! ### Engines -/

/-- Templates in an order in which each comes after those that it includes. -/
structure Engine where
  definitions : List Definition

namespace Engine

/-- A definition added to those of other names. -/
def addDefinition (known : Dictionary Definition) (source : Source) :
    Except RegisterError (Dictionary Definition) := do
  let nodes ← (read source.text).mapError (.unreadable source.name)
  let definition ← define source.name nodes
  if known.contains source.name then throw (.repeated source.name)
  return known.insert source.name definition

/-- The first name that a template includes without it being known. -/
def unknownInclude? (known : Dictionary Definition) (definition : Definition) :
    Option RegisterError :=
  (definition.includes.keys.find? fun target => !known.contains target).map
    (.unknownInclude definition.name)

/-- The engine of some templates. -/
def ofSources (sources : List Source) : Except RegisterError Engine := do
  let known ← sources.foldlM addDefinition ∅
  match known.values.findSome? (unknownInclude? known) with
  | some fault => throw fault
  | none =>
    match topoOrder known with
    | .ok order => return ⟨order.filterMap known.get?⟩
    | .error names => throw (.cycle names)

/-- The names of the templates, in order. -/
def names (engine : Engine) : List String := engine.definitions.map (·.name)

/-- Whether there is a template of a name. -/
def contains (engine : Engine) (name : String) : Bool := name ∈ engine.names

/--
Rendering by name among definitions given last one first; each may include those after it in the
list.
-/
def renderAmong : List Definition → Includer
  | [], name, _ => .error (.noTemplate name)
  | definition :: earlier, name, data =>
    if definition.name = name then
      (renderNodes ⟨renderAmong earlier, data, data⟩ definition.nodes).mapError (.inTemplate name)
    else
      renderAmong earlier name data

/-- The text of the template of a name at a value. -/
def render (engine : Engine) (name : String) (data : Value) : Except RenderError String :=
  renderAmong engine.definitions.reverse name data

end Engine

end LogForwarder.Template
