/-
This file finds out which transforms can be read back from their blocks. Programs and conditions are
written into literal strings, which have no escapes, under keys that are made of names. The block of
a transform is read with the very program or conditions that it was rendered from exactly if literal
strings can hold them and no two branches of a router have one name.

Nothing in the names of a configuration in the vector dialect needs quotes or escapes. The ids of all
elements and the names of all branches are keys as they are, and inputs are made of these with at
most one dot. So whether the block of a transform can be read back is up to its program or its
conditions alone.
-/

import LogForwarder.Proofs.Clean
import LogForwarder.Proofs.Vector.Compile
import LogForwarder.Proofs.Vector.Selection
import LogForwarder.Proofs.Vector.Transform

namespace LogForwarder.Vector

open Toml

/-! ### What is read back -/

/-- The program that a transform runs. -/
def program? (element : Element) : Option String :=
  ((Value.object element.params).field "vrl").text?

/--
Whether a document has what a transform was rendered from: its program with all lines indented, the
conditions of its branches, and its condition.
-/
structure Holds (document : Document) (element : Element) : Prop where
  program : ∀ program ∈ program? element,
    document.at? ["transforms", element.id, "source"] =
      some (.text (Template.indentText program 2 ++ "\n"))
  branches : ∀ branch ∈ routesOf element,
    document.at? ["transforms", element.id, "route", branch.name] = some (.text branch.condition)
  condition : ∀ condition ∈ condition? element,
    document.at? ["transforms", element.id, "condition"] = some (.text condition)

/-- Whether the block of a transform is read with what it was rendered from. -/
def IsReadBack (engine : Template.Engine) (element : Element) : Prop :=
  ∃ block document, renderBlock engine element.id element.template element.params = .ok block ∧
    Toml.read block = some document ∧ Holds document element

/--
Whether literal strings can hold the program and the conditions of a transform, and its branches
have different names.
-/
def isEmbeddable (element : Element) : Bool :=
  (program? element).all (fun program =>
      (Literal.lines (Template.indentText program 2).toList).isSound) &&
    (routesOf element).all (fun branch => (Literal.line branch.condition.toList).isSound) &&
    (condition? element).all (fun condition => (Literal.line condition.toList).isSound) &&
    ((routesOf element).map (·.name)).Nodup

/-- A transform whose block is a stanza is read back exactly if all of its settings are. -/
theorem isReadBack_iff_of_stanza {engine : Template.Engine} {element : Element} {stanza : Stanza}
    (rendered : renderBlock engine element.id element.template element.params =
      .ok (String.ofList stanza.written)) (proper : stanza.IsProper)
    (held : ∀ document, Holds document element ↔ ∀ setting ∈ stanza.settings,
      document.at? (stanza.header ++ stanza.path setting.key) =
        some (.text (String.ofList setting.literal.value)))
    (embeddable : isEmbeddable element ↔ (∀ setting ∈ stanza.settings, setting.literal.isSound) ∧
      (stanza.settings.map (·.key)).Nodup) :
    IsReadBack engine element ↔ isEmbeddable element := by
  rw [embeddable, ← stanza.exists_read_iff proper]
  refine ⟨?_, ?_⟩
  · rintro ⟨block, document, isBlock, isRead, holds⟩
    cases rendered.symm.trans isBlock
    exact ⟨document, isRead, (held document).mp holds⟩
  · rintro ⟨document, isRead, found⟩
    exact ⟨_, document, rendered, isRead, (held document).mpr found⟩

section Params

variable (id : String) (inputs : List String) (template : String) (params : Params)

theorem program?_create :
    program? (.create .transform id inputs template params) =
      ((params.reverse.lookup "vrl").getD .null).text? :=
  congrArg Value.text? (Element.field_create _ _ _ _ _ _ (by decide) (by decide))

theorem condition?_create :
    condition? (.create .transform id inputs template params) =
      ((params.reverse.lookup "condition").getD .null).text? :=
  congrArg Value.text? (Element.field_create _ _ _ _ _ _ (by decide) (by decide))

theorem routesOf_create_null (noRoutes : (params.reverse.lookup "routes").getD .null = .null) :
    routesOf (.create .transform id inputs template params) = [] := by
  rw [routesOf, Element.field_create _ _ _ _ _ _ (by decide) (by decide), noRoutes]
  rfl

theorem program?_route (branches : List Branch) : program? (route id inputs branches) = none :=
  program?_create _ _ _ _

theorem condition?_route (branches : List Branch) : condition? (route id inputs branches) = none :=
  condition?_create _ _ _ _

theorem program?_filter (condition : String) : program? (filter id inputs condition) = none :=
  program?_create _ _ _ _

theorem routesOf_filter (condition : String) : routesOf (filter id inputs condition) = [] :=
  routesOf_create_null _ _ _ _ rfl

/-- A router can be embedded if all of its branches can, and no two get into each other's way. -/
theorem isEmbeddable_route_iff (branches : List Branch) :
    isEmbeddable (route id inputs branches) ↔
      (∀ branch ∈ branches, isLiteral branch.condition.toList) ∧
        (branches.map (·.name)).Nodup := by
  simp [isEmbeddable, program?_route, routesOf_route, condition?_route, Literal.isSound]

theorem isEmbeddable_filter_iff (condition : String) :
    isEmbeddable (filter id inputs condition) ↔ isLiteral condition.toList := by
  simp [isEmbeddable, program?_filter, routesOf_filter, condition?_filter, Literal.isSound]

end Params

/-! ### Transforms -/

section Transforms

variable {engine : Template.Engine} (made : Templates.engine = .ok engine) {id : String}
  {inputs : List String} (bare : IsBare id) (unescaped : ∀ input ∈ inputs, IsUnescaped input)

include made bare unescaped

theorem isReadBack_filter_iff {condition : String} (opened : condition.toList.head? ≠ some '\'') :
    IsReadBack engine (filter id inputs condition) ↔ isEmbeddable (filter id inputs condition) := by
  have proper : (filterStanza id inputs condition).IsProper := {
    description := nofun
    id := bare
    kind := (⟨by decide, by decide⟩ : IsUnescaped "filter")
    inputs := unescaped
    group := nofun
    keys := List.forall_mem_singleton.mpr
      ⟨(⟨by decide, by decide⟩ : IsBare "condition"), fun _ => show "condition" ∉ _ by decide⟩
    opened := List.forall_mem_singleton.mpr opened }
  refine isReadBack_iff_of_stanza (renderBlock_filter made _ _ _ _) proper (fun document => ?_) ?_
  · rw [filterStanza, List.forall_mem_singleton]
    show _ ↔ document.at? ["transforms", id, "condition"] =
      some (.text (String.ofList condition.toList))
    rw [String.ofList_toList]
    refine ⟨fun holds => holds.condition condition (condition?_filter _ _ _), fun found => ?_⟩
    refine ⟨by simp [program?_filter], by simp [routesOf_filter], ?_⟩
    rw [condition?_filter]
    rintro _ ⟨⟩
    exact found
  · simp [isEmbeddable_filter_iff, filterStanza, Literal.isSound]

theorem isReadBack_route_iff {branches : List Branch}
    (bareBranches : ∀ branch ∈ branches, IsBare branch.name)
    (opened : ∀ branch ∈ branches, branch.condition.toList.head? ≠ some '\'') :
    IsReadBack engine (route id inputs branches) ↔ isEmbeddable (route id inputs branches) := by
  have proper : (routeStanza id inputs branches).IsProper := {
    description := nofun
    id := bare
    kind := (⟨by decide, by decide⟩ : IsUnescaped "route")
    inputs := unescaped
    group := by
      rintro _ ⟨⟩
      exact ⟨⟨by decide, by decide⟩, by decide⟩
    keys := List.forall_mem_map.mpr fun branch member => ⟨bareBranches branch member, nofun⟩
    opened := List.forall_mem_map.mpr opened }
  refine isReadBack_iff_of_stanza (renderBlock_route made _ _ _ _) proper (fun document => ?_) ?_
  · rw [routeStanza, List.forall_mem_map]
    show _ ↔ ∀ branch ∈ branches, document.at? ["transforms", id, "route", branch.name] =
      some (.text (String.ofList branch.condition.toList))
    simp only [String.ofList_toList]
    refine ⟨fun holds => ?_, fun found => ?_⟩
    · have held := holds.branches
      rwa [routesOf_route] at held
    · exact ⟨by simp [program?_route], by rwa [routesOf_route], by simp [condition?_route]⟩
  · simp [isEmbeddable_route_iff, routeStanza, Literal.isSound, Function.comp_def]

theorem isReadBack_program_iff {params : Params} (description? : Option String) {program : String}
    (isDescription : (params.reverse.lookup "desc").getD .null = .ofText? description?)
    (plain : ∀ text ∈ description?, text ≠ "" ∧ ∀ c ∈ text.toList, isPlain c)
    (isProgram : (params.reverse.lookup "vrl").getD .null = .text program)
    (noCondition : (params.reverse.lookup "condition").getD .null = .null)
    (noBranches : (params.reverse.lookup "routes").getD .null = .null) :
    IsReadBack engine (.create .transform id inputs Templates.remap.name params) ↔
      isEmbeddable (.create .transform id inputs Templates.remap.name params) := by
  have proper : (remapStanza id inputs description? program).IsProper := {
    description := fun text described => (plain text described).2
    id := bare
    kind := (⟨by decide, by decide⟩ : IsUnescaped "remap")
    inputs := unescaped
    group := nofun
    keys := List.forall_mem_singleton.mpr
      ⟨(⟨by decide, by decide⟩ : IsBare "source"), fun _ => show "source" ∉ _ by decide⟩
    opened := List.forall_mem_singleton.mpr trivial }
  have isProgram? : program? (.create .transform id inputs Templates.remap.name params) =
      some program := (program?_create _ _ _ _).trans (congrArg Value.text? isProgram)
  have noCondition? : condition? (.create .transform id inputs Templates.remap.name params) =
      none := (condition?_create _ _ _ _).trans (congrArg Value.text? noCondition)
  have noRoutes := routesOf_create_null id inputs Templates.remap.name params noBranches
  refine isReadBack_iff_of_stanza (renderBlock_program made _ _ _ isDescription
    (fun text described => (plain text described).1) isProgram) proper (fun document => ?_) ?_
  · rw [remapStanza, List.forall_mem_singleton]
    show _ ↔ document.at? ["transforms", id, "source"] =
      some (.text (String.ofList ((Template.indentText program 2).toList ++ ['\n'])))
    have ends : String.ofList ((Template.indentText program 2).toList ++ ['\n']) =
        Template.indentText program 2 ++ "\n" := by
      rw [String.ofList_append, String.ofList_toList]
    rw [ends]
    refine ⟨fun holds => holds.program program isProgram?, fun found => ?_⟩
    refine ⟨?_, by simp [noRoutes], by simp [noCondition?]⟩
    rw [isProgram?]
    rintro _ ⟨⟩
    exact found
  · simp [isEmbeddable, isProgram?, noRoutes, noCondition?, remapStanza]

end Transforms

/-! ### Bare keys -/

theorem ne_empty_of_mem {text : String} {c : Char} (member : c ∈ text.toList) : text ≠ "" := by
  rintro rfl
  cases member

theorem isBareKey_componentChar (c : Char) : isBareKey (Name.componentChar c) := by
  unfold Name.componentChar
  split
  · next allowed => simpa [isBareKey] using allowed
  · decide

theorem isBare_componentId {name : String} (named : name ≠ "") :
    IsBare (Name.componentId name) := by
  refine ⟨fun empty => named ?_, ?_⟩
  · have noChars := congrArg String.toList empty
    rw [Name.componentId, String.toList_ofList] at noChars
    exact String.toList_eq_nil_iff.mp (List.map_eq_nil_iff.mp noChars)
  · rw [Name.componentId, String.toList_ofList]
    exact List.forall_mem_map.mpr fun c _ => isBareKey_componentChar c

theorem isBare_kind (kind : LogKind) : IsBare kind.name := by
  cases kind <;> exact ⟨by decide, by decide⟩

theorem isUnescaped_of_isBareKey {c : Char} (bare : isBareKey c) : isUnescaped c := by
  have visible : 32 ≤ c.toNat := by
    by_contra control
    have noControl : ∀ code < 32, isBareKey (Char.ofNat code) = false := by decide
    exact ne_of_isBareKey bare (Char.ofNat c.toNat) (noControl _ (not_le.mp control))
      (Char.ofNat_toNat c).symm
  have notDelete : c.toNat ≠ 127 := by
    intro delete
    refine ne_of_isBareKey bare (Char.ofNat 127) (by decide) ?_
    rw [← delete, Char.ofNat_toNat]
  simp [isUnescaped, visible, notDelete, ne_of_isBareKey bare '"' rfl,
    ne_of_isBareKey bare '\\' rfl]

/-- Bare keys, and such with a dot between them, need no escapes. -/
theorem isUnescaped_of_isBare {text : String} (bare : IsBare text) : IsUnescaped text :=
  ⟨bare.1, fun c member => isUnescaped_of_isBareKey (bare.2 c member)⟩

theorem isUnescaped_branchOf {router branch : String} (bare : IsBare router)
    (bareBranch : IsBare branch) : IsUnescaped (branchOf router branch) := by
  have chars : (branchOf router branch).toList = router.toList ++ '.' :: branch.toList := by
    show (router ++ "." ++ branch).toList = _
    rw [String.toList_append, String.toList_append, List.append_assoc]
    rfl
  refine ⟨ne_empty_of_mem (chars ▸ List.mem_append_right _ List.mem_cons_self), ?_⟩
  rw [chars]
  exact List.forall_mem_append.mpr ⟨(isUnescaped_of_isBare bare).unescaped,
    List.forall_mem_cons.mpr ⟨by decide, (isUnescaped_of_isBare bareBranch).unescaped⟩⟩

/-! ### Elements with bare names -/

/-- The templates of transforms. -/
def transformTemplates : List String :=
  [Templates.remap.name, Templates.route.name, Templates.filter.name]

/--
The elements that there are, as far as names are concerned: none of a transform needs quotes, and
no condition begins with a quote.
-/
inductive HasBareNames : Element → Prop
  | program (id : String) (inputs : List String) (program : String) (bare : IsBare id) :
      HasBareNames (remap id inputs program)
  | kind (kind : LogKind) : HasBareNames (kindStream kind)
  | router (id : String) (inputs : List String) (branches : List Branch) (bare : IsBare id)
      (bareBranches : ∀ branch ∈ branches, IsBare branch.name)
      (opened : ∀ branch ∈ branches, branch.condition.toList.head? ≠ some '\'') :
      HasBareNames (route id inputs branches)
  | filter (id : String) (inputs : List String) (condition : String) (bare : IsBare id)
      (opened : condition.toList.head? ≠ some '\'') : HasBareNames (filter id inputs condition)
  | other (element : Element) (bare : IsBare element.id)
      (noTransform : element.template ∉ transformTemplates) : HasBareNames element

namespace HasBareNames

variable {element : Element}

theorem bare_id (named : HasBareNames element) : IsBare element.id := by
  cases named with
  | program _ _ _ bare | router _ _ _ bare | filter _ _ _ bare | other _ bare => exact bare
  | kind kind => exact isBare_kind kind

theorem bare_branches (named : HasBareNames element) :
    ∀ branch ∈ element.branches, IsBare branch := by
  cases named with
  | router _ _ branches _ bareBranches =>
    rw [Element.branches_route]
    exact List.forall_mem_map.mpr bareBranches
  | program | kind | filter => exact nofun
  | other _ _ noTransform =>
    unfold Element.branches
    rw [if_neg fun isRoute => noTransform (by rw [isRoute]; decide)]
    exact nofun

theorem isUnescaped_of_leadsTo {elements : List Element}
    (named : ∀ element ∈ elements, HasBareNames element) {input : String}
    (leads : LeadsTo elements input) : IsUnescaped input := by
  obtain ⟨feeder, member, _, rfl | ⟨branch, isBranch, rfl⟩⟩ := leads
  · exact isUnescaped_of_isBare (named feeder member).bare_id
  · exact isUnescaped_branchOf (named feeder member).bare_id
      ((named feeder member).bare_branches branch isBranch)

/-- A transform is read back exactly if what it was rendered from can be embedded. -/
theorem isReadBack_iff {engine : Template.Engine} (made : Templates.engine = .ok engine)
    (named : HasBareNames element) (unescaped : ∀ input ∈ element.inputs, IsUnescaped input)
    (isTransform : element.template ∈ transformTemplates) :
    IsReadBack engine element ↔ isEmbeddable element := by
  cases named with
  | program id inputs program bare =>
    exact isReadBack_program_iff made bare unescaped none rfl nofun rfl rfl rfl
  | kind kind =>
    refine isReadBack_program_iff made (isBare_kind kind) unescaped (some _) rfl ?_ rfl rfl rfl
    rintro _ ⟨⟩
    cases kind <;> exact ⟨by decide, by decide⟩
  | router id inputs branches bare bareBranches opened =>
    exact isReadBack_route_iff made bare unescaped bareBranches opened
  | filter id inputs condition bare opened =>
    exact isReadBack_filter_iff made bare unescaped opened
  | other element bare noTransform => exact absurd isTransform noTransform

end HasBareNames

/-! ### Elements up to the pipelines -/

/-- Parts that begin with another character than a quote do so when they are joined. -/
theorem head?_intercalate_ne_quote (separator : String) {texts : List String}
    (begins : ∀ text ∈ texts, ∃ first ≠ '\'', text.toList.head? = some first) :
    (separator.intercalate texts).toList.head? ≠ some '\'' := by
  rw [String.toList_intercalate]
  cases texts with
  | nil => exact nofun
  | cons text rest =>
    obtain ⟨first, other, isFirst⟩ := begins text List.mem_cons_self
    obtain ⟨chars, isText⟩ := List.head?_eq_some_iff.mp isFirst
    cases rest with
    | nil => simp [isText, other]
    | cons next others => simp [List.intercalate, isText, other]

theorem head?_sourceCondition (names : List String) :
    (sourceCondition names).toList.head? ≠ some '\'' := by
  refine head?_intercalate_ne_quote " || "
    (List.forall_mem_map.mpr fun name _ => ⟨'.', by decide, ?_⟩)
  show (".log_source == " ++ Value.textLiteral name).toList.head? = _
  rw [String.toList_append]
  rfl

theorem head?_selectorCondition (input : Input) :
    (selectorCondition input).toList.head? ≠ some '\'' := by
  refine head?_intercalate_ne_quote " && "
    (List.forall_mem_map.mpr fun condition _ => ⟨'(', by decide, ?_⟩)
  show ("(" ++ condition ++ ")").toList.head? = _
  rw [String.toList_append, String.toList_append]
  rfl

theorem head?_infrastructureCondition :
    infrastructureCondition.toList.head? ≠ some '\'' := by
  refine head?_intercalate_ne_quote " || " (List.forall_mem_append.mpr
    ⟨List.forall_mem_map.mpr fun start _ => ⟨'s', by decide, ?_⟩,
      List.forall_mem_map.mpr fun name _ => ⟨'.', by decide, ?_⟩⟩)
  · show ("starts_with!(.kubernetes.namespace_name,\"" ++ start ++ "\")").toList.head? = _
    rw [String.toList_append, String.toList_append]
    rfl
  · show (".kubernetes.namespace_name == \"" ++ name ++ "\"").toList.head? = _
    rw [String.toList_append, String.toList_append]
    rfl

theorem head?_applicationCondition : applicationBranch.condition.toList.head? ≠ some '\'' := by
  show ("!(" ++ infrastructureCondition ++ ")").toList.head? ≠ _
  rw [String.toList_append, String.toList_append]
  exact nofun

theorem hasBareNames_containerRouter (kinds : List LogKind) :
    HasBareNames (containerRouter kinds) := by
  have among (branch : Branch) (member : branch ∈
      (if .application ∈ kinds then [applicationBranch] else []) ++
        (if .infrastructure ∈ kinds then [infrastructureBranch] else [])) :
      branch ∈ [applicationBranch, infrastructureBranch] := by
    simp only [List.mem_append, List.mem_ite_nil_right, List.mem_singleton] at member
    rcases member with ⟨_, rfl⟩ | ⟨_, rfl⟩
    · exact List.mem_cons_self
    · exact List.mem_cons_of_mem _ List.mem_cons_self
  have plain : ∀ branch ∈ [applicationBranch, infrastructureBranch],
      IsBare branch.name ∧ branch.condition.toList.head? ≠ some '\'' :=
    List.forall_mem_cons.mpr ⟨⟨⟨by decide, by decide⟩, head?_applicationCondition⟩,
      List.forall_mem_singleton.mpr ⟨⟨by decide, by decide⟩, head?_infrastructureCondition⟩⟩
  exact .router _ _ _ ⟨by decide, by decide⟩ (fun branch member => (plain _ (among _ member)).1)
    fun branch member => (plain _ (among _ member)).2

section Spec

variable {spec : Spec} {element : Element}

theorem hasBareNames_of_upToPipelines (ready : spec.IsReady .vector)
    (member : element ∈ upToPipelines spec) : HasBareNames element := by
  cases isUpToPipelines_of_mem member with
  | containerSource => exact .other _ ⟨by decide, by decide⟩ (by decide)
  | journalSource => exact .other _ ⟨by decide, by decide⟩ (by decide)
  | auditSource source =>
    exact .other _ (by cases source <;> exact ⟨by decide, by decide⟩) (by cases source <;> decide)
  | containerForm => exact .program _ _ _ ⟨by decide, by decide⟩
  | journalForm isForm =>
    rcases List.mem_pair.mp isForm with rfl | rfl
    · exact .filter _ _ _ ⟨by decide, by decide⟩ (by decide)
    · exact .program _ _ _ ⟨by decide, by decide⟩
  | auditForm source => exact .program _ _ _ (by cases source <;> exact ⟨by decide, by decide⟩)
  | containerRouter => exact hasBareNames_containerRouter _
  | kindStream kind => exact .kind kind
  | inputRouter =>
    refine .router _ _ _ ⟨by decide, by decide⟩
      (List.forall_mem_map.mpr fun input selects => ?_)
      (List.forall_mem_map.mpr fun input _ => head?_selectorCondition input)
    obtain ⟨_, _, found⟩ := List.mem_filterMap.mp (List.mem_filter.mp selects).1
    exact isBare_componentId (ready.clean.inputNamed input (List.mem_of_find?_eq_some found))
  | @sourceFilter input filters =>
    exact .filter _ _ _ (isBare_componentId (ready.clean.inputNamed input
      (own_of_mem_sourceInputs filters).1)) (head?_sourceCondition _)
  | @pipeline pipeline declared =>
    exact .program _ _ _ (isBare_componentId (ready.pipelineNamed pipeline declared))

end Spec

/-! ### Chains of outputs -/

namespace Sink

variable {sink : Sink}

theorem isBare_child (bare : IsBare sink.id) {suffix : String}
    (bareSuffix : ∀ c ∈ suffix.toList, isBareKey c) : IsBare (sink.child suffix) := by
  have chars := sink.toList_child suffix
  refine ⟨ne_empty_of_mem (chars ▸ List.mem_append_right _ List.mem_cons_self), ?_⟩
  rw [chars]
  exact List.forall_mem_append.mpr ⟨bare.2, List.forall_mem_cons.mpr ⟨by decide, bareSuffix⟩⟩

theorem bare_tailSuffixes (sink : Sink) :
    ∀ suffix ∈ sink.tailSuffixes, ∀ c ∈ suffix.toList, isBareKey c := by
  unfold tailSuffixes
  split
  case h_3 =>
    split
    · exact List.forall_mem_singleton.mpr (by decide)
    · exact nofun
  case h_8 => exact List.forall_mem_cons.mpr ⟨by decide, List.forall_mem_singleton.mpr (by decide)⟩
  case h_9 => exact nofun
  all_goals exact List.forall_mem_singleton.mpr (by decide)

theorem hasBareNames_rerouter (bare : IsBare sink.id) : HasBareNames sink.rerouter := by
  refine .router _ _ _ (isBare_child bare (by decide)) (List.forall_mem_map.mpr fun kind _ => ?_)
    (List.forall_mem_map.mpr fun kind _ => ?_)
  · rw [name_otlpBranch]
    exact isBare_kind kind
  · unfold otlpBranch
    split
    · show (".log_type == " ++ Value.textLiteral kind.name ++ " && includes(" ++ _ ++
        ", .log_source)").toList.head? ≠ _
      simp only [String.toList_append]
      exact nofun
    · show (".log_type == " ++ Value.textLiteral kind.name).toList.head? ≠ _
      rw [String.toList_append]
      exact nofun

/-- The template of an element that is made for a sink stays when the sink is finished. -/
theorem noTransform_finish (extras : Extras) {last : Element}
    (noTransform : last.template ∉ transformTemplates) :
    ∀ element ∈ [sink.finish extras last], element.stage = .sink →
      element.template ∉ transformTemplates :=
  List.forall_mem_singleton.mpr fun _ => by rwa [template_finish]

/-- The template of a sink is not that of a transform. -/
theorem noTransform_of_tail {elements : List Element} (made : sink.tail = .ok elements) :
    ∀ element ∈ elements, element.stage = .sink → element.template ∉ transformTemplates := by
  have behindRemap {id program : String} {inputs : List String} {extras : Extras} {last : Element}
      (noTransform : last.template ∉ transformTemplates) :
      ∀ element ∈ [remap id inputs program, sink.finish extras last], element.stage = .sink →
        element.template ∉ transformTemplates :=
    List.forall_mem_cons.mpr ⟨nofun, noTransform_finish extras noTransform⟩
  unfold tail at made
  cases type : sink.output.type <;> simp only [type] at made
  case loki =>
    cases made
    exact behindRemap (show Templates.loki.name ∉ _ by decide)
  case elasticsearch =>
    cases made
    exact behindRemap (show Templates.elasticsearch.name ∉ _ by decide)
  case kafka =>
    unfold kafkaChain at made
    obtain ⟨brokers, _, made⟩ := exists_of_bind_eq_ok made
    cases made
    refine List.forall_mem_append.mpr ⟨?_, noTransform_finish _ ?_⟩
    · unfold topicRemap
      split
      · exact List.forall_mem_singleton.mpr nofun
      · exact nofun
    · rw [template_withPart?]
      exact (show Templates.kafka.name ∉ _ by decide)
  case syslog =>
    unfold syslogChain at made
    obtain ⟨address, _, made⟩ := exists_of_bind_eq_ok made
    cases made
    exact behindRemap (show Templates.socket.name ∉ _ by decide)
  case cloudwatch =>
    unfold cloudwatchChain at made
    obtain ⟨region, _, made⟩ := exists_of_bind_eq_ok made
    cases made
    exact behindRemap (show Templates.cloudwatch.name ∉ _ by decide)
  case http =>
    cases made
    exact behindRemap (show Templates.http.name ∉ _ by decide)
  case splunk =>
    unfold splunkChain at made
    obtain ⟨token, _, made⟩ := exists_of_bind_eq_ok made
    cases made
    exact behindRemap (show Templates.splunk.name ∉ _ by decide)
  case azureMonitor =>
    unfold azureMonitorChain at made
    obtain ⟨customerId, _, made⟩ := exists_of_bind_eq_ok made
    obtain ⟨logType, _, made⟩ := exists_of_bind_eq_ok made
    obtain ⟨sharedKey, _, made⟩ := exists_of_bind_eq_ok made
    cases made
    exact noTransform_finish _ (show Templates.azureMonitor.name ∉ _ by decide)
  case googleCloudLogging =>
    unfold googleCloudChain at made
    obtain ⟨destination, _, made⟩ := exists_of_bind_eq_ok made
    obtain ⟨secret, _, made⟩ := exists_of_bind_eq_ok made
    obtain ⟨logId, _, made⟩ := exists_of_bind_eq_ok made
    cases made
    exact noTransform_finish _ (show Templates.googleCloud.name ∉ _ by decide)
  case otlp =>
    cases made
    exact List.forall_mem_cons.mpr ⟨nofun, behindRemap (show Templates.otlp.name ∉ _ by decide)⟩
  all_goals cases made

theorem TailShape.hasBareNames (bare : IsBare sink.id) {suffixes : List String}
    {elements : List Element} (shape : sink.TailShape suffixes elements)
    (bareSuffixes : ∀ suffix ∈ suffixes, ∀ c ∈ suffix.toList, isBareKey c)
    (noTransform : ∀ element ∈ elements, element.stage = .sink →
      element.template ∉ transformTemplates) : ∀ element ∈ elements, HasBareNames element := by
  have last (extras : Extras) (element : Element) (id : element.id = sink.id)
      (stage : element.stage = .sink) (member : sink.finish extras element ∈ elements) :
      HasBareNames (sink.finish extras element) := by
    refine .other _ ?_ (noTransform _ member ((sink.finish_keeps extras element).2.1.trans stage))
    rw [(sink.finish_keeps extras element).1, id]
    exact bare
  cases shape with
  | alone extras element id stage inputs =>
    exact List.forall_mem_singleton.mpr (last extras element id stage List.mem_cons_self)
  | behindRemap suffix program _ extras element id stage inputs =>
    refine List.forall_mem_cons.mpr ⟨.program _ _ _ (isBare_child bare
      (bareSuffixes suffix List.mem_cons_self)), List.forall_mem_singleton.mpr ?_⟩
    exact last extras element id stage (List.mem_cons_of_mem _ List.mem_cons_self)
  | behindRouter program extras element id stage inputs =>
    refine List.forall_mem_cons.mpr ⟨hasBareNames_rerouter bare, List.forall_mem_cons.mpr
      ⟨.program _ _ _ (isBare_child bare (by decide)), List.forall_mem_singleton.mpr ?_⟩⟩
    exact last extras element id stage
      (List.mem_cons_of_mem _ (List.mem_cons_of_mem _ List.mem_cons_self))

theorem hasBareNames_of_chain (bare : IsBare sink.id) {elements : List Element}
    (made : sink.chain = .ok elements) : ∀ element ∈ elements, HasBareNames element := by
  unfold chain at made
  obtain ⟨tail, tailMade, made⟩ := exists_of_bind_eq_ok made
  cases made
  refine List.forall_mem_append.mpr ⟨?_, (shape_tail tailMade).hasBareNames bare
    sink.bare_tailSuffixes (noTransform_of_tail tailMade)⟩
  exact List.forall_mem_cons.mpr ⟨.program _ _ _ (isBare_child bare (by decide)),
    List.forall_mem_singleton.mpr (.program _ _ _ (isBare_child bare (by decide)))⟩

end Sink

/-! ### Configurations -/

theorem hasBareNames_of_debugSinks {spec : Spec} (ready : spec.IsReady .vector) {element : Element}
    (member : element ∈ debugSinks spec) : HasBareNames element := by
  obtain ⟨pipeline, declared, rfl⟩ := List.mem_map.mp member
  have bare := isBare_componentId (ready.pipelineNamed pipeline declared)
  have chars := toList_debugSink pipeline
  refine .other _ ⟨ne_empty_of_mem (chars ▸ List.mem_append_right _ List.mem_cons_self), ?_⟩
    (show Templates.console.name ∉ _ by decide)
  rw [chars]
  exact List.forall_mem_append.mpr ⟨bare.2, by decide⟩

theorem hasBareNames_of_metrics {options : Options} {element : Element}
    (member : element ∈ metrics options) : HasBareNames element := by
  unfold metrics at member
  simp only [List.mem_cons, List.not_mem_nil, or_false] at member
  rcases member with rfl | rfl | rfl
  · exact .other _ ⟨by decide, by decide⟩ (by decide)
  · exact .program _ _ _ ⟨by decide, by decide⟩
  · exact .other _ (show IsBare Id.prometheusOutput from ⟨by decide, by decide⟩)
      (show Templates.prometheus.name ∉ _ by decide)

/-- Names are bare everywhere in a configuration. -/
theorem hasBareNames_of_build {spec : Spec} (ready : spec.IsReady .vector) {secrets : SecretStore}
    {options : Options} {arena : Arena} (built : build spec secrets options = .ok arena) :
    ∀ element ∈ arena.elements, HasBareNames element := by
  intro element member
  rcases mem_cases_of_build built member with
    early | ⟨_, isConsole⟩ | ⟨_, ⟨output, routed, chain, made, inChain⟩ | isMetric⟩
  · exact hasBareNames_of_upToPipelines ready early
  · exact hasBareNames_of_debugSinks ready isConsole
  · have declared := (spec.sublist_routedOutputs ready.clean.outputsDistinct).subset routed
    exact Sink.hasBareNames_of_chain (isBare_componentId (ready.clean.outputNamed output declared))
      made element inChain
  · exact hasBareNames_of_metrics isMetric

/--
A transform of a configuration is read back exactly if what it was rendered from can be embedded.
-/
theorem isReadBack_iff_of_build {spec : Spec} (ready : spec.IsReady .vector)
    {secrets : SecretStore} {options : Options} {arena : Arena}
    (built : build spec secrets options = .ok arena) {engine : Template.Engine}
    (made : Templates.engine = .ok engine) {element : Element} (member : element ∈ arena.elements)
    (isTransform : element.template ∈ transformTemplates) :
    IsReadBack engine element ↔ isEmbeddable element := by
  have named := hasBareNames_of_build ready built
  refine (named element member).isReadBack_iff made (fun input reads => ?_) isTransform
  obtain ⟨position, bound, isElement⟩ := List.getElem_of_mem member
  have found : arena.elements[position]? = some element :=
    isElement ▸ List.getElem?_eq_getElem bound
  have leads := (inOrder_of_build ready.clean built).leadsTo_take found reads
  exact HasBareNames.isUnescaped_of_leadsTo named
    (leads.mono fun _ => List.mem_of_mem_take)

end LogForwarder.Vector
