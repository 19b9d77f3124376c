/-
This file proves that an arena has a text if all of its elements, and all parts of them, have the
parameters that their templates want.
-/

import LogForwarder.Compile.Text
import LogForwarder.Proofs.Template.Engine

namespace LogForwarder

open Template

/-- Whether parameters are of the shape that a template wants. -/
def ParamsFit (signature : Signature) (template : String) (params : Params) : Prop :=
  ∃ shape, signature.lookup template = some shape ∧ shape.Fits (.object params)

/-- Whether an element and its parts have parameters of the shapes that their templates want. -/
structure Element.IsTyped (signature : Signature) (element : Element) : Prop where
  block : ParamsFit signature element.template element.params
  parts : ∀ part ∈ element.parts, ParamsFit signature part.template part.params

namespace Element

variable {signature : Signature}

/-- An element is typed if those of its parameters are that its template wants something of. -/
theorem isTyped_create (stage : Stage) (id : String) (inputs : List String) {template : String}
    (params : Params) (fields : List (String × Shape))
    (known : signature.lookup template = some (.ofFields fields))
    (fits : ∀ entry ∈ fields,
      entry.2.Fits ((Value.object (create stage id inputs template params).params).field entry.1)) :
    (create stage id inputs template params).IsTyped signature where
  block := ⟨_, known, (Shape.fits_ofFields _ _).mpr ⟨rfl, fits⟩⟩
  parts := fun _ absent => absurd absent List.not_mem_nil

/-- An element is typed if its template only wants parameters. -/
theorem isTyped_create_record (stage : Stage) (id : String) (inputs : List String)
    {template : String} (params : Params) (known : signature.lookup template = some .record) :
    (create stage id inputs template params).IsTyped signature :=
  isTyped_create stage id inputs params [] known fun _ absent => absurd absent List.not_mem_nil

/-- A part of a typed element is typed if those of its parameters are that its template wants. -/
theorem IsTyped.withPart {element : Element} (typed : element.IsTyped signature)
    {template : String} (params : Params) (fields : List (String × Shape))
    (known : signature.lookup template = some (.ofFields fields))
    (fits : ∀ entry ∈ fields, entry.1 ≠ "id" ∧
      entry.2.Fits ((params.reverse.lookup entry.1).getD .null)) :
    (element.withPart template params).IsTyped signature where
  block := typed.block
  parts := by
    intro part member
    rcases List.mem_append.mp member with before | isPart
    · exact typed.parts part before
    · rw [List.mem_singleton.mp isPart]
      refine ⟨_, known, (Shape.fits_ofFields _ _).mpr ⟨rfl, fun entry among => ?_⟩⟩
      obtain ⟨notId, fitting⟩ := fits entry among
      rw [field_withParam, if_neg notId, field_sortedParams]
      exact fitting

theorem IsTyped.withPart_record {element : Element} (typed : element.IsTyped signature)
    {template : String} (params : Params) (known : signature.lookup template = some .record) :
    (element.withPart template params).IsTyped signature :=
  typed.withPart params [] known fun _ absent => absurd absent List.not_mem_nil

/-- A part whose template only wants parameters may be there or be left out. -/
theorem IsTyped.withPart?_record {element : Element} (typed : element.IsTyped signature)
    {template : String} (params : Option Params)
    (known : signature.lookup template = some .record) :
    (element.withPart? template params).IsTyped signature := by
  cases params with
  | none => exact typed
  | some params => exact typed.withPart_record params known

/-- A typed element has its blocks. -/
theorem IsTyped.exists_blocks {engine : Engine}
    (renders : Renders engine.render signature) {element : Element}
    (typed : element.IsTyped signature) : ∃ blocks, element.blocks engine = .ok blocks := by
  have rendered : ∀ template params, ParamsFit signature template params →
      ∃ block, renderBlock engine element.id template params = .ok block := by
    rintro template params ⟨shape, known, fits⟩
    obtain ⟨text, isText⟩ := renders template shape known _ fits
    refine ⟨Text.trim text, ?_⟩
    unfold renderBlock
    rw [isText]
  obtain ⟨block, isBlock⟩ := rendered _ _ typed.block
  obtain ⟨parts, areParts⟩ := exists_mapM fun (part : Part) (member : part ∈ element.parts) =>
    rendered part.template part.params (typed.parts part member)
  refine ⟨block :: parts, ?_⟩
  unfold Element.blocks
  rw [isBlock]
  show (element.parts.mapM (fun part => renderBlock engine element.id part.template part.params) >>=
    fun parts => .ok (block :: parts)) = _
  rw [areParts]
  rfl

end Element

/-- An arena of typed elements has a text. -/
theorem Arena.exists_text {engine : Engine} {signature : Signature}
    (renders : Renders engine.render signature) {arena : Arena}
    (typed : ∀ element ∈ arena.elements, element.IsTyped signature) :
    ∃ text, arena.text engine = .ok text := by
  obtain ⟨blocks, areBlocks⟩ := exists_mapM fun (element : Element)
    (member : element ∈ arena.elements) => (typed element member).exists_blocks renders
  unfold Arena.text
  rw [areBlocks]
  exact ⟨_, rfl⟩

end LogForwarder
