import NativeApi.Options.Stale
import NativeApi.Proofs.ModelCommands

/-!
# Disabled extensions

Of an extension that is disabled, by itself or by the options, only the name and the
attributes are read, except where the default scope is made.  Main statement: two documents
that are the same once their disabled extensions are emptied have the same registry, the same
classified commands and the same scopes of targets, or the same first error; the models of
the two differ at most in the default scope.
-/

namespace NativeApi

/-! ### Changes inside trees -/

namespace Element

variable {name other : String} {change : Element → Element} {e : Element}

/-- An element without its children. -/
def emptied (e : Element) : Element := ⟨e.name, e.attributes, []⟩

/-- A child, changed if it is an element of a name. -/
def changeNode (name : String) (change : Element → Element) : Node → Node
  | .element child => .element (if child.name = name then change child else child)
  | .text run => .text run

/-- An element with its child elements of a name changed. -/
def changeElements (name : String) (change : Element → Element) (e : Element) : Element :=
  ⟨e.name, e.attributes, e.children.map (changeNode name change)⟩

theorem childElements_changeElements (name : String) (change : Element → Element) (e : Element) :
  (e.changeElements name change).childElements
    = e.childElements.map fun child => if child.name = name then change child else child
  := by
  rw [childElements, childElements, changeElements, elementsOf, elementsOf, List.filterMap_map,
    List.map_filterMap]
  apply List.filterMap_congr
  intro node _
  cases node with
  | element child => rfl
  | text run => rfl

section

variable (change) (keeps : ∀ e, (change e).name = e.name)
include keeps

theorem elements_changeElements_eq_map (e : Element) :
  (e.changeElements name change).elements other
    = (e.elements other).map fun child => if child.name = name then change child else child
  := by
  rw [elements, childElements_changeElements, List.filter_map, elements]
  congr 1
  apply List.filter_congr
  intro child _
  rw [Function.comp_apply]
  split
  · rw [keeps]
  · rfl

theorem elements_changeElements (e : Element) :
  (e.changeElements name change).elements name = (e.elements name).map change
  := by
  rw [elements_changeElements_eq_map change keeps]
  apply List.map_congr_left
  intro child hchild
  rw [if_pos (eq_of_beq (List.mem_filter.mp hchild).2)]

theorem elements_changeElements_of_ne (hne : other ≠ name) (e : Element) :
  (e.changeElements name change).elements other = e.elements other
  := by
  rw [elements_changeElements_eq_map change keeps]
  apply Eq.trans _ (List.map_id _)
  apply List.map_congr_left
  intro child hchild
  have hname := eq_of_beq (List.mem_filter.mp hchild).2
  rw [if_neg (by rwa [hname]), id_eq]

end

end Element

/-! ### Emptying disabled extensions -/

namespace Block

variable (names : List String) (b : Block)

/-- A block, without its children if it is disabled. -/
def emptiedIfDisabled : Block := if b.isDisabled names then ⟨b.element.emptied⟩ else b

theorem name_emptiedIfDisabled :
  (b.emptiedIfDisabled names).name = b.name
  := by
  rw [emptiedIfDisabled]
  split <;> rfl

theorem isDisabled_emptiedIfDisabled :
  (b.emptiedIfDisabled names).isDisabled names = b.isDisabled names
  := by
  rw [emptiedIfDisabled]
  split <;> rfl

theorem emptiedIfDisabled_of_not (h : b.isDisabled names = false) :
  b.emptiedIfDisabled names = b
  := by
  rw [emptiedIfDisabled, h]
  rfl

end Block

/-- A group of extensions, with those emptied that are disabled. -/
def Element.groupWithoutDisabled (names : List String) (group : Element) : Element :=
  group.changeElements "extension" fun e => (Block.emptiedIfDisabled names ⟨e⟩).element

namespace Document

variable (names : List String) (d : Document)

/-- The document with all extensions emptied that are disabled, by themselves or by a list of
names. -/
def withoutDisabled : Document where
  root := d.root.changeElements "extensions" (Element.groupWithoutDisabled names)
  name_root := d.name_root

theorem elements_withoutDisabled {group : String} (h : group ≠ "extensions") :
  (d.withoutDisabled names).root.elements group = d.root.elements group
  := Element.elements_changeElements_of_ne (Element.groupWithoutDisabled names) (fun _ => rfl) h _

theorem inSections_withoutDisabled {group : String} (h : group ≠ "extensions") (item : String) :
  (d.withoutDisabled names).inSections group item = d.inSections group item
  := by
  rw [inSections, elements_withoutDisabled names d h, inSections]

theorem extensions_withoutDisabled :
  (d.withoutDisabled names).extensions = d.extensions.map (·.emptiedIfDisabled names)
  := by
  have keeps (e : Element) : (Block.emptiedIfDisabled names ⟨e⟩).element.name = e.name := by
    rw [Block.emptiedIfDisabled]
    split <;> rfl
  have groups : (d.withoutDisabled names).root.elements "extensions"
      = (d.root.elements "extensions").map (Element.groupWithoutDisabled names) :=
    Element.elements_changeElements (Element.groupWithoutDisabled names) (fun _ => rfl) _
  rw [extensions, inSections, groups, List.flatMap_map, extensions, inSections, List.map_flatMap,
    List.map_flatMap, List.map_flatMap]
  congr 1
  funext group
  rw [Element.groupWithoutDisabled, Element.elements_changeElements _ keeps, List.map_map,
    List.map_map]
  rfl

theorem extension?_withoutDisabled (name : String) :
  (d.withoutDisabled names).extension? name
    = (d.extension? name).map (·.emptiedIfDisabled names)
  := by
  rw [extension?, extensions_withoutDisabled, List.find?_map, extension?]
  congr 2
  funext b
  rw [Function.comp_apply, Block.name_emptiedIfDisabled]

/-- The extensions that are not disabled are all as they were. -/
theorem enabled_withoutDisabled :
  (d.withoutDisabled names).extensions.filter (fun b => !b.isDisabled names)
    = d.extensions.filter fun b => !b.isDisabled names
  := by
  rw [extensions_withoutDisabled, List.filter_map]
  have same : ((fun b => !b.isDisabled names) ∘ (·.emptiedIfDisabled names))
      = fun b : Block => !b.isDisabled names := by
    funext b
    rw [Function.comp_apply, Block.isDisabled_emptiedIfDisabled]
  rw [same]
  apply Eq.trans _ (List.map_id _)
  apply List.map_congr_left
  intro b hb
  rw [Block.emptiedIfDisabled_of_not names b (by simpa using (List.mem_filter.mp hb).2), id_eq]

end Document

/-! ### What disabled extensions leave as it is -/

section

variable (names : List String) (o : Options) (d : Document)

theorem Document.types_withoutDisabled :
  (d.withoutDisabled names).types = d.types
  := d.inSections_withoutDisabled names (by decide) "type"

theorem Document.typesOf_withoutDisabled (category : String) :
  (d.withoutDisabled names).typesOf category = d.typesOf category
  := by
  rw [typesOf, types_withoutDisabled, typesOf]

theorem Document.enumBlocks_withoutDisabled :
  (d.withoutDisabled names).enumBlocks = d.enumBlocks
  := d.elements_withoutDisabled names (by decide)

theorem Document.enumBlock?_withoutDisabled (name : String) :
  (d.withoutDisabled names).enumBlock? name = d.enumBlock? name
  := by
  rw [enumBlock?, enumBlocks_withoutDisabled, enumBlock?]

theorem Document.commands_withoutDisabled :
  (d.withoutDisabled names).commands = d.commands
  := d.inSections_withoutDisabled names (by decide) "command"

theorem Document.commandNames_withoutDisabled :
  (d.withoutDisabled names).commandNames = d.commandNames
  := by
  rw [commandNames, commands_withoutDisabled, commandNames]

theorem Document.features_withoutDisabled :
  (d.withoutDisabled names).features = d.features
  := by
  rw [features, elements_withoutDisabled names d (by decide), features]

theorem Document.platforms_withoutDisabled :
  (d.withoutDisabled names).platforms = d.platforms
  := d.inSections_withoutDisabled names (by decide) "platform"

theorem Registry.contributions_withoutDisabled (sources : List (Nat × String)) :
  contributions o (d.withoutDisabled o.disabledExtensions) sources = contributions o d sources
  := by
  simp only [contributions, ownContributions, Document.enumBlock?_withoutDisabled,
    Document.features_withoutDisabled, Document.enabled_withoutDisabled]

theorem Registry.registerEnumerations_withoutDisabled (n : Naming) :
  registerEnumerations o n (d.withoutDisabled o.disabledExtensions) = registerEnumerations o n d
  := by
  have declares : declareEnum n (d.withoutDisabled o.disabledExtensions) = declareEnum n d := by
    funext s type
    simp only [declareEnum, Document.enumBlock?_withoutDisabled]
  funext r
  simp only [registerEnumerations, Document.typesOf_withoutDisabled, declares,
    contributions_withoutDisabled]

theorem Registry.ofDocument_withoutDisabled (n : Naming) :
  ofDocument o n (d.withoutDisabled o.disabledExtensions) = ofDocument o n d
  := by
  simp only [ofDocument, platformsOf, Document.platforms_withoutDisabled,
    Document.types_withoutDisabled, Document.typesOf_withoutDisabled, constantEntries,
    Document.enumBlock?_withoutDisabled, registerEnumerations_withoutDisabled, registerHandles,
    registerComposites]

theorem CommandAliases.ofDocument_withoutDisabled :
  ofDocument (d.withoutDisabled names) = ofDocument d
  := by
  rw [ofDocument, Document.commandAliases, Document.commands_withoutDisabled, ofDocument,
    Document.commandAliases]

theorem Classification.ofDocument_withoutDisabled (s : Setting) :
  ofDocument s (d.withoutDisabled names) = ofDocument s d
  := by
  rw [ofDocument, Document.commands_withoutDisabled, ofDocument]

/-- A target requires nothing of an extension that is disabled. -/
theorem TargetScope.addExtension_withoutDisabled (r : Registry) (a : CommandAliases) :
  addExtension o (d.withoutDisabled o.disabledExtensions) r a = addExtension o d r a
  := by
  funext s name
  rw [addExtension, Document.extension?_withoutDisabled, addExtension]
  cases d.extension? name with
  | none => rfl
  | some block =>
      cases hdisabled : block.isDisabled o.disabledExtensions with
      | true =>
          simp only [Option.map_some, Block.isDisabled_emptiedIfDisabled, hdisabled, if_true]
      | false =>
          simp only [Option.map_some, Block.emptiedIfDisabled_of_not _ _ hdisabled]

theorem TargetScope.ofExtensions_withoutDisabled (r : Registry) (a : CommandAliases) :
  ofExtensions o (d.withoutDisabled o.disabledExtensions) r a = ofExtensions o d r a
  := by
  funext target names
  rw [ofExtensions, addExtension_withoutDisabled, ofExtensions]

theorem Model.namingFor_withoutDisabled :
  namingFor o (d.withoutDisabled names) = namingFor o d
  := by
  rw [namingFor, tagNames, Document.tags, d.inSections_withoutDisabled names (by decide), namingFor,
    tagNames, Document.tags]

theorem Options.validateTables_withoutDisabled (r : Registry) :
  o.validateTables r (d.withoutDisabled names) = o.validateTables r d
  := by
  simp only [validateTables, staleEntries, Document.commandNames_withoutDisabled,
    Document.extension?_withoutDisabled, Option.isSome_map]

/-- All of a model but its default scope is made without looking into disabled extensions. -/
theorem Model.draft_withoutDisabled
    (scopeOf : Registry → CommandAliases → Except Error DefaultScope) :
  draft scopeOf o (d.withoutDisabled o.disabledExtensions) = draft scopeOf o d
  := by
  simp only [draft, namingFor_withoutDisabled, Registry.ofDocument_withoutDisabled,
    CommandAliases.ofDocument_withoutDisabled, TargetScope.ofTargets,
    TargetScope.ofExtensions_withoutDisabled, Classification.ofDocument_withoutDisabled,
    Document.commandNames_withoutDisabled]

end

/-! ### Documents that differ inside disabled extensions -/

/-- A draft gets any default scope that it is to have. -/
theorem Model.draft_of_draft {scopeOf : Registry → CommandAliases → Except Error DefaultScope}
    {o : Options} {d : Document} {m : Model} (h : draft scopeOf o d = .ok m)
    (scope : DefaultScope) :
  draft (fun _ _ => .ok scope) o d = .ok { m with defaultScope := scope }
  := by
  simp only [draft, Outcome.bind_eq_ok_iff, Outcome.pure_eq_ok_iff] at h ⊢
  obtain ⟨declared, hdeclared, marshalling, hreport, _, _, scopes, hscopes, commands, hcommands,
    rfl⟩ := h
  exact ⟨declared, hdeclared, marshalling, hreport, scope, rfl, scopes, hscopes, commands,
    hcommands, rfl⟩

theorem Model.draft_of_ofDocument {o : Options} {d : Document} {m : Model}
    (h : ofDocument o d = .ok m) :
  draft (DefaultScope.ofDocument o d) o d = .ok m
  := by
  rw [ofDocument_eq_draft] at h
  obtain ⟨m', hdraft, h⟩ := Outcome.bind_eq_ok_iff.mp h
  obtain ⟨_, _, h⟩ := Outcome.bind_eq_ok_iff.mp h
  obtain rfl := Outcome.pure_eq_ok_iff.mp h
  exact hdraft

namespace Document

/-- Two documents say the same but for what their default scopes are made of. -/
structure AgreesBesideDefaultScope (o : Options) (d d' : Document) : Prop where
  naming : Model.namingFor o d' = Model.namingFor o d
  /-- The registry, which is all that is analyzed further, is the same, or the error is. -/
  registry : ∀ n, Registry.ofDocument o n d' = Registry.ofDocument o n d
  aliases : CommandAliases.ofDocument d' = CommandAliases.ofDocument d
  commands : ∀ s, Classification.ofDocument s d' = Classification.ofDocument s d
  scopes : ∀ r a target names,
    TargetScope.ofExtensions o d' r a target names = TargetScope.ofExtensions o d r a target names
  tables : ∀ r, o.validateTables r d' = o.validateTables r d
  /-- The model of the one document, or the first error, is that of the other but for the
  outcome of the default scope. -/
  outcome : Model.ofDocument o d' = do
    let m ← Model.draft (DefaultScope.ofDocument o d') o d
    let _ ← o.validateTables m.registry d
    return m
  model : ∀ m m', Model.ofDocument o d = .ok m → Model.ofDocument o d' = .ok m' →
    m' = { m with defaultScope := m'.defaultScope }

/-- Documents that are the same once their disabled extensions are emptied agree on all but
their default scopes. -/
theorem agreesBesideDefaultScope (o : Options) (d d' : Document)
    (h : d'.withoutDisabled o.disabledExtensions = d.withoutDisabled o.disabledExtensions) :
  d.AgreesBesideDefaultScope o d'
  := by
  have drafts (scopeOf) : Model.draft scopeOf o d' = Model.draft scopeOf o d := by
    rw [← Model.draft_withoutDisabled, h, Model.draft_withoutDisabled]
  have tables (r) : o.validateTables r d' = o.validateTables r d := by
    rw [← Options.validateTables_withoutDisabled o.disabledExtensions, h,
      Options.validateTables_withoutDisabled]
  constructor
  · rw [← Model.namingFor_withoutDisabled o.disabledExtensions, h, Model.namingFor_withoutDisabled]
  · intro n
    rw [← Registry.ofDocument_withoutDisabled, h, Registry.ofDocument_withoutDisabled]
  · rw [← CommandAliases.ofDocument_withoutDisabled o.disabledExtensions, h,
      CommandAliases.ofDocument_withoutDisabled]
  · intro s
    rw [← Classification.ofDocument_withoutDisabled o.disabledExtensions, h,
      Classification.ofDocument_withoutDisabled]
  · intro r a target names
    rw [← TargetScope.ofExtensions_withoutDisabled, h, TargetScope.ofExtensions_withoutDisabled]
  · exact tables
  · rw [Model.ofDocument_eq_draft, drafts]
    simp only [tables]
  · intro m m' hm hm'
    -- both drafts get the default scope of the second model
    have first := Model.draft_of_draft (Model.draft_of_ofDocument hm) m'.defaultScope
    have second := Model.draft_of_draft (Model.draft_of_ofDocument hm') m'.defaultScope
    rw [drafts, first] at second
    exact (Except.ok.inj second).symm

/-- An element of a kind with the given name as its attribute. -/
def namedElement (kind name : String) : Element := (Element.named kind).withAttribute "name" name

/-- A document with a handle and a command, and two extensions: one disables itself, and the
standard options disable the other.  Both require the given elements. -/
def shelvedDocument (required : List Element) : Document where
  root :=
    let extension (name : String) : Element :=
      (namedElement "extension" name).withChild
        (required.foldl Element.withChild (Element.named "require"))
    (Element.named "registry")
      |>.withChild ((Element.named "types").withChild
          ((Registry.declaration "handle" "VkFence").withTextChild "type"
            Handle.dispatchableMacro))
      |>.withChild ((Element.named "commands").withChild
          ((namedElement "command" "vkWaitKHR").withAttribute "alias" "vkWait"))
      |>.withChild ((Element.named "extensions")
          |>.withChild ((extension "VK_KHR_old").withAttribute "supported" "disabled")
          |>.withChild (extension "VK_FUCHSIA_imagepipe_surface"))
  name_root := rfl

/-- The document where the extensions require nothing. -/
def idleDocument : Document := shelvedDocument []

/-- The document where they require the handle, the command, and a member of an enumeration that
is nowhere declared. -/
def busyDocument : Document :=
  shelvedDocument [namedElement "type" "VkFence", namedElement "command" "vkWaitKHR",
    (namedElement "enum" "VK_LOST").withAttribute "extends" "VkNowhere"]

/-- The standard options without targets, which hide no type or command by themselves. -/
def openOptions : Options :=
  { Options.standard.withoutTargets with deniedTypes := [], disabledCommands := [] }

/-- What disabled extensions require may hide types and commands, and extend enumerations that
are nowhere declared, which no one sees. -/
theorem agreesBesideDefaultScope_shelved :
  busyDocument.withoutDisabled openOptions.disabledExtensions
      = idleDocument.withoutDisabled openOptions.disabledExtensions
    ∧ idleDocument.AgreesBesideDefaultScope openOptions busyDocument
    ∧ ∃ m m', Model.ofDocument openOptions idleDocument = .ok m
      ∧ Model.ofDocument openOptions busyDocument = .ok m'
      ∧ m' = { m with defaultScope := m'.defaultScope }
      ∧ (Scope.default m.defaultScope).isTypeVisible m.registry "Fence" = true
      ∧ (Scope.default m'.defaultScope).isTypeVisible m.registry "Fence" = false
  := by
  have hsame : busyDocument.withoutDisabled openOptions.disabledExtensions
      = idleDocument.withoutDisabled openOptions.disabledExtensions :=
    rfl
  have agrees := agreesBesideDefaultScope openOptions idleDocument busyDocument hsame
  have evaluated :
      (Model.ofDocument openOptions idleDocument).toOption.any (fun m =>
        (Model.ofDocument openOptions busyDocument).toOption.any fun m' =>
          (Scope.default m.defaultScope).isTypeVisible m.registry "Fence"
            && !(Scope.default m'.defaultScope).isTypeVisible m.registry "Fence") = true := by
    decide +kernel
  obtain ⟨m, hm, h⟩ := (Option.any_eq_true _ _).mp evaluated
  obtain ⟨m', hm', h⟩ := (Option.any_eq_true _ _).mp h
  have made := Outcome.toOption_eq_some_iff.mp hm
  have made' := Outcome.toOption_eq_some_iff.mp hm'
  rw [Bool.and_eq_true, Bool.not_eq_true'] at h
  exact ⟨hsame, agrees, m, m', made, made', agrees.model m m' made made', h⟩

end Document

end NativeApi
