import NativeApi.Options.Standard
import NativeApi.Proofs.CompositeMembers
import NativeApi.Proofs.MarshallingAnalysis
import NativeApi.Registry.OfDocument

/-!
# Registries of documents are closed

Main statement: in the registry of a document, every entity resolves to one that is no
alias, what composites refer to is there, the raw names of all declarations that are
registered for their own sake are known, and so the analysis of marshalling succeeds.
-/

namespace NativeApi.Registry

variable {r r' : Registry} {o : Options} {n : Naming} {d : Document}

/-! ### The registry of a document -/

/-- The categories whose declarations are registered, aliases of them included. -/
def registeredCategories : List String :=
  ["basetype", "bitmask", "enum", "handle", "funcpointer", "struct", "union"]

/-- The registry that registration begins with. -/
def initial (d : Document) : Registry := { empty with platforms := platformsOf d }

/-- All stages together grow the registry and leave the declared names known, and then
every alias is found to resolve. -/
theorem ofDocument_registers (h : ofDocument o n d = .ok r) :
  Registers o.fieldCounters (fun raw => ∃ category ∈ registeredCategories, d.Declares category raw)
      (initial d, []) (r, [])
    ∧ r.checkAliases = .ok ()
  := by
  rw [ofDocument] at h
  obtain ⟨r₁, hincluded, h⟩ := Outcome.bind_eq_ok_iff.mp h
  obtain ⟨r₂, hbasic, h⟩ := Outcome.bind_eq_ok_iff.mp h
  obtain ⟨r₃, hconstants, h⟩ := Outcome.bind_eq_ok_iff.mp h
  obtain ⟨r₄, henumerations, h⟩ := Outcome.bind_eq_ok_iff.mp h
  obtain ⟨r₅, hhandles, h⟩ := Outcome.bind_eq_ok_iff.mp h
  obtain ⟨r₆, hcomposites, h⟩ := Outcome.bind_eq_ok_iff.mp h
  obtain ⟨_, haliases, h⟩ := Outcome.bind_eq_ok_iff.mp h
  obtain rfl := Outcome.pure_eq_ok_iff.mp h
  have tables : Grows o.fieldCounters (initial d)
      (registerForeignStructs o (registerBuiltins o (initial d))) :=
    ((builds_registerBuiltins o _).trans (builds_registerForeignStructs o _)).grows
  have included : Registers o.fieldCounters
      (fun raw => ∃ type ∈ d.types,
        type.attribute? "category" = some "funcpointer" ∧ type.declaredName? = some raw)
      (registerForeignStructs o (registerBuiltins o (initial d)), []) (r₁, []) := by
    apply registers_foldlM (fun r => (r, [])) _ hincluded
    intro r type r'
    apply registerIncluded_registers
  have basic : Registers o.fieldCounters
      (fun raw => ∃ type ∈ d.typesOf "basetype", type.declaredName? = some raw)
      (r₁, []) (r₂, []) := by
    apply registers_foldlM (fun r => (r, [])) _ hbasic
    intro r type r'
    apply registerBasetype_registers
  have constants : Builds r₂ r₃ := by
    apply builds_foldlM id _ hconstants
    intro r entry r'
    apply registerConstant_builds
  use ?_, haliases
  apply (((((tables.registers.trans included).trans basic).grow constants.grows).trans
    (registerEnumerations_registers henumerations)).trans (registerHandles_registers hhandles)).trans
      (registerComposites_registers hcomposites) |>.imp
  rintro raw ⟨category, hcategory, hraw⟩
  simp only [registeredCategories, List.mem_cons, List.not_mem_nil, or_false] at hcategory
  rw [← Document.declares_iff]
  rcases hcategory with rfl | rfl | rfl | rfl | rfl | rfl | rfl <;> tauto

/-- Registration leaves the platforms as they are. -/
theorem platforms_of_ofDocument (h : ofDocument o n d = .ok r) :
  r.platforms = platformsOf d
  := (ofDocument_registers h).1.grows.extended.platforms

theorem isFitting_of_ofDocument (h : ofDocument o n d = .ok r) :
  r.IsFitting o.fieldCounters
  := by
  apply (ofDocument_registers h).1.grows.fitting
  intro id e c he
  cases he

/-! ### Aliases -/

/-- The name of an entity resolves where the entity does. -/
theorem resolve_of_resolveId {name : String} {id id' : Nat} (hname : r.idOf? name = some id)
    (hid : r.resolveId id = .ok id') (concrete : r.IsConcrete id') :
  ∃ e, r.resolve name = .ok e ∧ e.isAlias = false
  := by
  obtain ⟨e, he, halias⟩ := concrete
  use e
  rw [resolve, hname]
  exact ⟨resolved_eq_ok_iff.mpr ⟨id', hid, he⟩, halias⟩

/-- Every registered name of a document resolves to an entity that is no alias. -/
theorem resolve_of_ofDocument (h : ofDocument o n d = .ok r) {name : String}
    (hname : (r.idOf? name).isSome = true) :
  ∃ e, r.resolve name = .ok e ∧ e.isAlias = false
  := by
  obtain ⟨id, hid⟩ := Option.isSome_iff_exists.mp hname
  obtain ⟨e, he, -⟩ := exists_get?_of_idOf? hid
  obtain ⟨id', hid', concrete⟩ := resolveId_of_checkAliases (ofDocument_registers h).2 he
  apply resolve_of_resolveId hid hid' concrete

/-! ### Closed registries -/

/-- Where the types of members resolve, the analysis of marshalling succeeds. -/
theorem exists_analyze (resolves : r.MembersResolve) :
  ∃ m settled, r.analyze = (.ok m, settled)
  := by
  obtain ⟨m, settled, hanalyze, -⟩ := exists_analyze_marked resolves
  use m, settled

/-- Nothing that a registry refers to is missing, and nothing that its document declares. -/
structure IsClosed (counters : Dict String) (d : Document) (r : Registry) : Prop where
  /-- Every entity stands for one that is no alias. -/
  entities : ∀ id e, r.get? id = some e → ∃ id', r.resolveId id = .ok id' ∧ r.IsConcrete id'
  /-- So does every registered name. -/
  names : ∀ name, (r.idOf? name).isSome = true → ∃ e, r.resolve name = .ok e ∧ e.isAlias = false
  /-- The types of members and the bases of composites are registered names, and lengths and
  counters are members. -/
  composites : r.IsFitting counters
  declared : ∀ category ∈ registeredCategories, ∀ raw, d.Declares category raw →
    (r.idOfRaw? raw).isSome = true
  analysis : ∃ m settled, r.analyze = (.ok m, settled)

/-- The registry of a document is closed. -/
theorem isClosed_of_ofDocument (h : ofDocument o n d = .ok r) :
  r.IsClosed o.fieldCounters d
  := by
  obtain ⟨registers, aliases⟩ := ofDocument_registers h
  have fits := isFitting_of_ofDocument h
  constructor
  · intro id e he
    apply resolveId_of_checkAliases aliases he
  · intro name hname
    apply resolve_of_ofDocument h hname
  · exact fits
  · intro category hcategory raw hraw
    apply registers.isSome_idOfRaw? ⟨category, hcategory, hraw⟩
  · apply exists_analyze
    intro id c hc m hm _
    obtain ⟨e, he, hkind⟩ := compositeAt?_eq_some_iff.mp hc
    have hdeclared := ((fits id e c he hkind).members m hm).isSome_declaredType
    obtain ⟨e', he', -⟩ := resolve_of_ofDocument h hdeclared
    use e'

/-- A declaration of a category with a raw name. -/
def declaration (category raw : String) : Element :=
  ((Element.named "type").withAttribute "category" category).withAttribute "name" raw

/-- The declaration of a member. -/
def memberDeclaration (type stars name : String) : Element :=
  (((Element.named "member").withTextChild "type" type).withText stars).withTextChild "name" name

/-- A structure with a handle, a pointer, and a number with double colons in its raw name,
and aliases of handle and structure. -/
def qualifiedDocument : Document where
  root :=
    let types := [
      (declaration "handle" "VkFence").withTextChild "type" Handle.dispatchableMacro,
      (declaration "handle" "VkFenceKHR").withAttribute "alias" "VkFence",
      (declaration "struct" "VkBatch").withChild (memberDeclaration "VkFenceKHR" " " "fence")
        |>.withChild (memberDeclaration "uint32_t" " " "sizes::items")
        |>.withChild (memberDeclaration "VkBatchKHR" "* " "pItems"),
      (declaration "struct" "VkBatchKHR").withAttribute "alias" "VkBatch"]
    (Element.named "registry").withChild (types.foldl Element.withChild (Element.named "types"))
  name_root := rfl

/-- Options with a table that gives the pointer that number as its length. -/
def qualifiedOptions : Options :=
  { Options.standard with fieldCounters := .ofList [("Items", "Sizes::items")] }

/-- The registry of that document is closed. -/
theorem isClosed_of_ofDocument_qualified :
  ∃ r, ofDocument qualifiedOptions qualifiedOptions.naming qualifiedDocument = .ok r
    ∧ r.IsClosed qualifiedOptions.fieldCounters qualifiedDocument
  := by
  have evaluated :
      (ofDocument qualifiedOptions qualifiedOptions.naming qualifiedDocument).toOption.isSome
        = true := by
    decide +kernel
  obtain ⟨r, hr⟩ := Outcome.isSome_toOption_iff.mp evaluated
  exact ⟨r, hr, isClosed_of_ofDocument hr⟩

/-- The length path of a member begins with the raw name of no member. -/
def HasStrayLength (c : Composite) : Prop :=
  ∃ m ∈ c.members, ∃ path, m.arity = .linkedArray path
    ∧ ∀ sibling ∈ c.members, sibling.rawName ≠ LengthReference.head path

/-- Whether the length path of a member begins with the raw name of no member. -/
def hasStrayLength (c : Composite) : Bool :=
  c.members.any fun m =>
    match m.arity with
    | .linkedArray path => c.members.all (·.rawName != LengthReference.head path)
    | _ => false

theorem hasStrayLength_iff {c : Composite} :
  hasStrayLength c = true ↔ HasStrayLength c
  := by
  rw [hasStrayLength, HasStrayLength, List.any_eq_true]
  apply exists_congr
  intro m
  cases m.arity with
  | linkedArray path => simp
  | scalar => simp
  | fixedArray length => simp

/-- A length path that is a raw name with double colons in it begins with the raw name of no
member. -/
theorem hasStrayLength_qualified :
  ∃ r, ofDocument qualifiedOptions qualifiedOptions.naming qualifiedDocument = .ok r
    ∧ ∃ e ∈ r.entities, ∃ c, e.kind = .composite c ∧ HasStrayLength c
  := by
  have evaluated :
      (ofDocument qualifiedOptions qualifiedOptions.naming qualifiedDocument).toOption.any
        (fun r => r.entities.any fun e => e.composite?.any hasStrayLength) = true := by
    decide +kernel
  obtain ⟨r, hr, h⟩ := (Option.any_eq_true _ _).mp evaluated
  obtain ⟨e, he, h⟩ := List.any_eq_true.mp h
  obtain ⟨c, hc, h⟩ := (Option.any_eq_true _ _).mp h
  use r, Outcome.toOption_eq_some_iff.mp hr, e, he, c, Entity.composite?_eq_some_iff.mp hc
  apply hasStrayLength_iff.mp h

end NativeApi.Registry
