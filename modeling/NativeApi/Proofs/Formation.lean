import NativeApi.Proofs.Arena
import NativeApi.Proofs.EnumMembers

/-!
# How the registries of documents are formed

Registration builds, declares enumerations, and gives enumerations and composites their
members; `Registry.Forms r r'` says that any number of these lead from one registry to
another.  Main statements: every stage forms its registry from the one before, and so in the
registry of a document canonical names are distinct, every raw name leads to an entity, and
no handle has a method yet.
-/

namespace NativeApi.Registry

variable {r r' r'' : Registry} {o : Options} {n : Naming} {d : Document} {type : Element}

/-! ### Formation -/

/-- All that stages of registration do leads from one registry to another. -/
inductive Forms (r : Registry) : Registry → Prop where
  | here : Forms r r
  | builds {r' r'' : Registry} : Forms r r' → Builds r' r'' → Forms r r''
  | enumeration {r' : Registry} (raw name : String) (isBitmask : Bool) : Forms r r' →
    Forms r (r'.register raw name (.enumeration (Enumeration.declared isBitmask))).1
  | addRawName {r' : Registry} (raw : String) {id : Nat} :
    Forms r r' → id < r'.size → Forms r (r'.addRawName raw id)
  | replace {r' : Registry} {id : Nat} {e : Enumeration} (e' : Enumeration) :
    Forms r r' → r'.enumerationAt? id = some e →
    Forms r (r'.modifyKind id fun _ => .enumeration e')
  | describe {r' : Registry} (id : Nat) (members : List Member)
    (base structureType : Option String) : Forms r r' →
    Forms r (r'.modifyKind id (describe members base structureType))

theorem Forms.trans (h : Forms r r') (h' : Forms r' r'') :
  Forms r r''
  := by
  induction h' with
  | here => exact h
  | builds _ hbuilds ih => apply ih.builds hbuilds
  | enumeration raw name isBitmask _ ih => apply ih.enumeration
  | addRawName raw _ hid ih => apply ih.addRawName raw hid
  | replace e' _ he ih => apply ih.replace e' he
  | describe id members base structureType _ ih => apply ih.describe

theorem Builds.forms (h : Builds r r') :
  Forms r r'
  := Forms.here.builds h

/-- A stage forms its registry if its steps do. -/
theorem forms_foldlM {α σ : Type} (view : σ → Registry) {f : σ → α → Except Error σ}
    (step : ∀ s a s', f s a = .ok s' → Forms (view s) (view s')) {as : List α} {s s' : σ}
    (h : as.foldlM f s = .ok s') :
  Forms (view s) (view s')
  := by
  apply Outcome.foldlM_rel (R := fun s s' => Forms (view s) (view s')) _ _ step h
  · intro s
    apply Forms.here
  · intro a b c
    apply Forms.trans

/-- The position that a registration gives is that of an entity. -/
theorem snd_register_lt_size (r : Registry) (raw name : String) (kind : Entity.Kind) :
  (r.register raw name kind).2 < (r.register raw name kind).1.size
  := lt_size_of_idOf? (idOf?_register r raw name kind)

/-! ### Enumerations -/

theorem declareBitmask_forms {s s' : EnumDeclarations} (h : declareBitmask n s type = .ok s') :
  Forms s.registry s'.registry
  := by
  rw [declareBitmask] at h
  split at h
  · rename_i raw _
    have declared := Forms.here.enumeration (r := s.registry) raw (n.typeName raw) true
    split at h
    · obtain rfl := Except.ok.inj h
      apply Forms.here
    · simp only at h
      split at h
      · obtain rfl := Except.ok.inj h
        apply declared.addRawName
        apply snd_register_lt_size
      · obtain rfl := Except.ok.inj h
        exact declared
  · cases h

theorem declareEnum_forms {s s' : EnumDeclarations} (h : declareEnum n d s type = .ok s') :
  Forms s.registry s'.registry
  := by
  rw [declareEnum] at h
  split at h
  · split at h
    · obtain rfl := Except.ok.inj h
      apply Forms.here
    · split at h
      · obtain rfl := Except.ok.inj h
        apply Forms.here
      · obtain rfl := Except.ok.inj h
        apply Forms.here.enumeration
  · cases h

theorem contribute_forms {state state' : Registry × Dict Int} {c : Contribution}
    (h : contribute n state c = .ok state') :
  Forms state.1 state'.1
  := by
  obtain ⟨r, known⟩ := state
  obtain ⟨r', known'⟩ := state'
  obtain ⟨id, m, e, -, he, rfl, -⟩ := contribute_cases h
  apply Forms.here.replace _ he

theorem registerEnumerations_forms (h : registerEnumerations o n d r = .ok r') :
  Forms r r'
  := by
  obtain ⟨s₁, hbitmasks, h⟩ := Outcome.bind_eq_ok_iff.mp h
  obtain ⟨s₂, henums, h⟩ := Outcome.bind_eq_ok_iff.mp h
  obtain ⟨aliased, haliases, h⟩ := Outcome.bind_eq_ok_iff.mp h
  obtain ⟨⟨last, known⟩, hmembers, h⟩ := Outcome.bind_eq_ok_iff.mp h
  obtain rfl := Except.ok.inj h
  have bitmasks : Forms r s₁.registry := by
    apply forms_foldlM EnumDeclarations.registry _ hbitmasks
    intro s type s'
    apply declareBitmask_forms
  have enums : Forms s₁.registry s₂.registry := by
    apply forms_foldlM EnumDeclarations.registry _ henums
    intro s type s'
    apply declareEnum_forms
  have named : Builds s₂.registry aliased := by
    apply builds_foldlM (fun r => r) _ haliases
    intro r declared r'
    apply registerEnumAlias_builds
  apply ((bitmasks.trans enums).builds named).trans
  apply forms_foldlM Prod.fst _ hmembers
  intro state c state'
  apply contribute_forms

/-! ### Composites -/

theorem learnMembers_forms {declared : Nat × Element} (h : learnMembers o n r declared = .ok r') :
  Forms r r'
  := by
  obtain ⟨id, type⟩ := declared
  obtain ⟨⟨next, members⟩, hmembers, h⟩ := Outcome.bind_eq_ok_iff.mp h
  obtain ⟨_, -, h⟩ := Outcome.bind_eq_ok_iff.mp h
  obtain ⟨base, -, h⟩ := Outcome.bind_eq_ok_iff.mp h
  obtain rfl := Except.ok.inj h
  apply Forms.describe
  apply Builds.forms
  apply builds_foldlM Prod.fst _ hmembers
  intro state e state'
  apply addMember_builds

theorem registerComposites_forms (h : registerComposites o n d r = .ok r') :
  Forms r r'
  := by
  obtain ⟨s, hdeclared, h⟩ := Outcome.bind_eq_ok_iff.mp h
  obtain ⟨next, haliases, hmembers⟩ := Outcome.bind_eq_ok_iff.mp h
  have composites : Builds r s.registry := by
    apply builds_foldlM CompositeDeclarations.registry _ hdeclared
    intro s type s'
    apply declareComposite_builds
  have aliased : Builds s.registry next := by
    apply builds_foldlM (fun r => r) _ haliases
    intro r declared r'
    apply registerCompositeAlias_builds
  apply (composites.trans aliased).forms.trans
  apply forms_foldlM (fun r => r) _ hmembers
  intro r declared r'
  apply learnMembers_forms

/-! ### Documents -/

/-- The registry of the types of a document that come before its composites. -/
def ofHandles (o : Options) (n : Naming) (d : Document) : Except Error Registry := do
  let r ← ofBasicTypes o n d
  let r ← registerEnumerations o n d r
  registerHandles n d r

theorem ofDocument_eq_ok_iff_ofHandles :
  ofDocument o n d = .ok r
    ↔ ∃ handled, ofHandles o n d = .ok handled ∧ registerComposites o n d handled = .ok r
        ∧ r.checkAliases = .ok ()
  := by
  rw [ofDocument_eq_ok_iff]
  simp only [ofHandles, Outcome.bind_eq_ok_iff]
  constructor
  · rintro ⟨basic, enumerated, handled, hbasic, henums, hhandles, hrest⟩
    exact ⟨handled, ⟨basic, hbasic, enumerated, henums, hhandles⟩, hrest⟩
  · rintro ⟨handled, ⟨basic, hbasic, enumerated, henums, hhandles⟩, hrest⟩
    exact ⟨basic, enumerated, handled, hbasic, henums, hhandles, hrest⟩

theorem ofHandles_forms (h : ofHandles o n d = .ok r) :
  Forms (initial d) r
  := by
  obtain ⟨basic, hbasic, h⟩ := Outcome.bind_eq_ok_iff.mp h
  obtain ⟨enumerated, henums, hhandles⟩ := Outcome.bind_eq_ok_iff.mp h
  apply ((ofBasicTypes_builds hbasic).forms.trans (registerEnumerations_forms henums)).builds
  apply registerHandles_builds hhandles

theorem ofDocument_forms (h : ofDocument o n d = .ok r) :
  Forms (initial d) r
  := by
  obtain ⟨handled, hhandled, hcomposites, -⟩ := ofDocument_eq_ok_iff_ofHandles.mp h
  apply (ofHandles_forms hhandled).trans (registerComposites_forms hcomposites)

/-! ### Documents that agree -/

/-- Two documents say the same but for their types, as far as registration is concerned. -/
structure AgreesBesideTypes (d d' : Document) : Prop where
  platforms : d'.platforms = d.platforms
  enumBlocks : d'.enumBlocks = d.enumBlocks
  features : d'.features = d.features
  extensions : d'.extensions = d.extensions

/-- A document with the given types. -/
def documentOf (types : List Element) : Document where
  root := (Element.named "registry").withChild
    (types.foldl Element.withChild (Element.named "types"))
  name_root := rfl

/-- The types that are no composites. -/
def plainTypes (types : List Element) : List Element :=
  types.filter fun type => !(compositeKind? type).isSome

/-- What leaves the state as it is can be left out. -/
theorem foldlM_filter {α σ : Type} {f : σ → α → Except Error σ} {keep : α → Bool}
    (hskip : ∀ s a, keep a = false → f s a = .ok s) (as : List α) (s : σ) :
  (as.filter keep).foldlM f s = as.foldlM f s
  := by
  induction as generalizing s with
  | nil => rfl
  | cons a as ih =>
      cases hkeep : keep a with
      | true =>
          rw [List.filter_cons_of_pos hkeep, List.foldlM_cons, List.foldlM_cons]
          simp only [ih]
      | false =>
          rw [List.filter_cons_of_neg (by simp [hkeep]), List.foldlM_cons, hskip s a hkeep, ih]
          rfl

/-- Composites are passed over with the platform types. -/
theorem registerIncluded_composite (r : Registry) (h : (compositeKind? type).isSome = true) :
  registerIncluded o n r type = .ok r
  := by
  rw [registerIncluded]
  cases type.declaredName? with
  | none => rfl
  | some raw =>
      rcases isSome_compositeKind?_iff.mp h with hcategory | hcategory <;> simp [hcategory]

/-- The types of a category other than those of composites are plain. -/
theorem typesOf_eq_filter_plainTypes (d : Document) {category : String}
    (hstruct : category ≠ "struct") (hunion : category ≠ "union") :
  d.typesOf category
    = (plainTypes d.types).filter (·.attribute? "category" == some category)
  := by
  rw [Document.typesOf, plainTypes, List.filter_filter]
  apply List.filter_congr
  intro type _
  cases hcategory : type.attribute? "category" == some category with
  | false => rfl
  | true =>
      rw [beq_iff_eq] at hcategory
      have hplain : ¬(compositeKind? type).isSome = true := by
        rw [isSome_compositeKind?_iff, hcategory]
        simp [hstruct, hunion]
      simp [hplain]

/-- The stages before composites do not depend on these. -/
theorem ofHandles_congr {d' : Document} (beside : AgreesBesideTypes d d')
    (plain : plainTypes d'.types = plainTypes d.types) (o : Options) (n : Naming) :
  ofHandles o n d' = ofHandles o n d
  := by
  have hinitial : initial d' = initial d := by
    rw [initial, initial, platformsOf, beside.platforms, platformsOf]
  have hincluded (s : Registry) :
      d'.types.foldlM (registerIncluded o n) s = d.types.foldlM (registerIncluded o n) s := by
    have hskip (s : Registry) (type : Element) (h : (!(compositeKind? type).isSome) = false) :
        registerIncluded o n s type = .ok s := by
      apply registerIncluded_composite
      simpa using h
    rw [← foldlM_filter hskip, ← foldlM_filter hskip d.types]
    exact congrArg (List.foldlM (registerIncluded o n) s) plain
  have htypes (category : String) (hstruct : category ≠ "struct") (hunion : category ≠ "union") :
      d'.typesOf category = d.typesOf category := by
    rw [typesOf_eq_filter_plainTypes d' hstruct hunion, plain,
      ← typesOf_eq_filter_plainTypes d hstruct hunion]
  have hblock : d'.enumBlock? = d.enumBlock? := by
    funext name
    rw [Document.enumBlock?, beside.enumBlocks, Document.enumBlock?]
  have hdeclare : declareEnum n d' = declareEnum n d := by
    funext s type
    simp only [declareEnum, hblock]
  have hcontributions (sources : List (Nat × String)) :
      contributions o d' sources = contributions o d sources := by
    simp only [contributions, ownContributions, hblock, beside.features, beside.extensions]
  simp only [ofHandles, ofBasicTypes, registerEnumerations, registerHandles, constantEntries,
    hinitial, hincluded, hblock, hdeclare, hcontributions,
    htypes "basetype" (by decide) (by decide), htypes "bitmask" (by decide) (by decide),
    htypes "enum" (by decide) (by decide), htypes "handle" (by decide) (by decide)]

/-! ### Methods -/

/-- No handle has a method. -/
def IsUnbound (r : Registry) : Prop :=
  ∀ id e h, r.get? id = some e → e.kind = .handle h → h.methods = []

theorem isUnbound_initial (d : Document) :
  (initial d).IsUnbound
  := by
  intro id e h he
  cases he

theorem IsUnbound.register (unbound : r.IsUnbound) (raw name : String) {kind : Entity.Kind}
    (hkind : ∀ h, kind = .handle h → h.methods = []) :
  (r.register raw name kind).1.IsUnbound
  := by
  rcases register_cases r raw name kind with ⟨id, -, heq⟩ | ⟨-, heq⟩
  · rw [heq]
    exact unbound
  · rw [heq]
    intro id e h he
    change (r.withEntity _).get? id = some e at he
    rw [get?, withEntity, List.getElem?_append] at he
    split at he
    · apply unbound id e h he
    · obtain rfl := List.mem_singleton.mp (List.mem_of_getElem? he)
      apply hkind h

/-- A change that makes no handle gives none a method. -/
theorem IsUnbound.modifyKind (unbound : r.IsUnbound) (id : Nat)
    {change : Entity.Kind → Entity.Kind}
    (hchange : ∀ kind h, change kind = .handle h → kind = .handle h) :
  (r.modifyKind id change).IsUnbound
  := by
  intro other e h he hkind
  rw [get?_modifyKind] at he
  obtain ⟨e₀, he₀, rfl⟩ := Option.map_eq_some_iff.mp he
  apply unbound other e₀ h he₀
  split at hkind
  · apply hchange _ h hkind
  · exact hkind

theorem Builds.isUnbound (h : Builds r r') (unbound : r.IsUnbound) :
  r'.IsUnbound
  := by
  induction h with
  | here => exact unbound
  | register raw name _ hkind ih =>
      apply ih.register
      rintro h rfl
      cases hkind with
      | handle _ hmethods => exact hmethods
  | addRawName raw _ _ ih => exact ih
  | withConstants constants _ ih => exact ih

theorem Forms.isUnbound (h : Forms r r') (unbound : r.IsUnbound) :
  r'.IsUnbound
  := by
  induction h with
  | here => exact unbound
  | builds _ hbuilds ih => apply hbuilds.isUnbound ih
  | enumeration raw name isBitmask _ ih =>
      apply ih.register
      rintro h ⟨⟩
  | addRawName raw _ _ ih => exact ih
  | replace e' _ _ ih =>
      apply ih.modifyKind
      rintro kind h ⟨⟩
  | describe id members base structureType _ ih =>
      apply ih.modifyKind
      intro kind h hkind
      cases kind with
      | composite c => cases hkind
      | _ => exact hkind

/-- In the registry of a document, no handle has a method yet. -/
theorem isUnbound_of_ofDocument (h : ofDocument o n d = .ok r) :
  r.IsUnbound
  := (ofDocument_forms h).isUnbound (isUnbound_initial d)

/-! ### Consistency -/

/-- There is an index of canonical names that agrees with the registry: canonical names are
distinct, and every raw name leads to an entity. -/
def IsConsistent (r : Registry) : Prop := ∃ ids, Arena.IsConsistent ⟨r, ids⟩

theorem IsConsistent.distinct (h : r.IsConsistent) :
  r.names.Nodup
  := by
  obtain ⟨ids, h⟩ := h
  apply h.distinct

theorem IsConsistent.lt_size (h : r.IsConsistent) {raw : String} {id : Nat}
    (hraw : r.idOfRaw? raw = some id) :
  id < r.size
  := by
  obtain ⟨ids, h⟩ := h
  apply h.rawIds raw id hraw

theorem isConsistent_initial (d : Document) :
  (initial d).IsConsistent
  := ⟨.empty, Arena.isConsistent_empty.distinct, Arena.isConsistent_empty.ids_iff,
    Arena.isConsistent_empty.rawIds⟩

theorem IsConsistent.register (h : r.IsConsistent) (raw name : String) (kind : Entity.Kind) :
  (r.register raw name kind).1.IsConsistent
  := by
  obtain ⟨ids, h⟩ := h
  use ids.insertNew name r.size
  apply Arena.IsConsistent.register (s := ⟨r, ids⟩) h

theorem IsConsistent.withEntity (h : r.IsConsistent) (e : Entity)
    (hnew : r.idOf? e.name = none) :
  (r.withEntity e).IsConsistent
  := by
  obtain ⟨ids, h⟩ := h
  use ids.insertNew e.name r.size
  apply Arena.IsConsistent.withEntity (s := ⟨r, ids⟩) h e hnew

theorem IsConsistent.addRawName (h : r.IsConsistent) (raw : String) {id : Nat}
    (hid : id < r.size) :
  (r.addRawName raw id).IsConsistent
  := by
  obtain ⟨ids, h⟩ := h
  use ids
  apply Arena.IsConsistent.addRawName (s := ⟨r, ids⟩) h raw hid

theorem names_modifyKind (r : Registry) (id : Nat) (change : Entity.Kind → Entity.Kind) :
  (r.modifyKind id change).names = r.names
  := by
  apply map_modifyKind
  intro e _
  rfl

/-- What entities are does not count. -/
theorem IsConsistent.modifyKind (h : r.IsConsistent) (id : Nat)
    (change : Entity.Kind → Entity.Kind) :
  (r.modifyKind id change).IsConsistent
  := by
  obtain ⟨ids, h⟩ := h
  refine ⟨ids, ?_, ?_, ?_⟩
  · rw [names_modifyKind]
    exact h.distinct
  · intro name other
    rw [← getElem?_names_eq_some_iff, names_modifyKind, getElem?_names_eq_some_iff]
    apply h.ids_iff
  · intro raw other hother
    rw [← length_names, names_modifyKind, length_names]
    apply h.rawIds raw other hother

theorem Builds.isConsistent (h : Builds r r') (consistent : r.IsConsistent) :
  r'.IsConsistent
  := by
  induction h with
  | here => exact consistent
  | register raw name _ _ ih => apply ih.register
  | addRawName raw _ hid ih => apply ih.addRawName raw hid
  | withConstants constants _ ih =>
      obtain ⟨ids, h⟩ := ih
      exact ⟨ids, h.distinct, h.ids_iff, h.rawIds⟩

theorem Forms.isConsistent (h : Forms r r') (consistent : r.IsConsistent) :
  r'.IsConsistent
  := by
  induction h with
  | here => exact consistent
  | builds _ hbuilds ih => apply hbuilds.isConsistent ih
  | enumeration raw name isBitmask _ ih => apply ih.register
  | addRawName raw _ hid ih => apply ih.addRawName raw hid
  | replace e' _ _ ih => apply ih.modifyKind
  | describe id members base structureType _ ih => apply ih.modifyKind

theorem isConsistent_of_ofHandles (h : ofHandles o n d = .ok r) :
  r.IsConsistent
  := (ofHandles_forms h).isConsistent (isConsistent_initial d)

/-- In the registry of a document, canonical names are distinct, and every raw name leads to
an entity. -/
theorem isConsistent_of_ofDocument (h : ofDocument o n d = .ok r) :
  r.IsConsistent
  := (ofDocument_forms h).isConsistent (isConsistent_initial d)

end NativeApi.Registry
