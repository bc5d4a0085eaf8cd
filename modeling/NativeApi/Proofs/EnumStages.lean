import NativeApi.Proofs.ClosedRegistries

/-!
# The stages around that of enumerations

A registry is built from basic types and constants, and then its enumerations, handles and
composites are registered.  Main statements: there is no enumeration before their stage, and
the stages after it leave all enumerations as they are.
-/

namespace NativeApi

namespace Registry

variable {r r' : Registry} {o : Options} {n : Naming} {d : Document}

/-! ### The enumerations of a registry -/

/-- The enumeration at a position. -/
def enumerationAt? (r : Registry) (id : Nat) : Option Enumeration :=
  (r.get? id).bind Entity.enumeration?

theorem enumerationAt?_eq_some_iff {id : Nat} {enumeration : Enumeration} :
  r.enumerationAt? id = some enumeration
    ↔ ∃ e, r.get? id = some e ∧ e.kind = .enumeration enumeration
  := by
  simp only [enumerationAt?, Option.bind_eq_some_iff, Entity.enumeration?_eq_some_iff]

/-- A new entity is an enumeration where it says so, and all others are what they were. -/
theorem enumerationAt?_withEntity (r : Registry) (e : Entity) (id : Nat) :
  (r.withEntity e).enumerationAt? id
    = if id = r.size then e.enumeration? else r.enumerationAt? id
  := by
  rw [enumerationAt?, get?, withEntity, List.getElem?_append, enumerationAt?, get?, size]
  rcases Nat.lt_trichotomy id r.entities.length with hlt | heq | hgt
  · rw [if_pos hlt, if_neg (Nat.ne_of_lt hlt)]
  · simp [heq]
  · rw [if_neg (Nat.not_lt_of_gt hgt), if_neg (Nat.ne_of_gt hgt),
      List.getElem?_eq_none (Nat.le_of_lt hgt), List.getElem?_eq_none]
    simp only [List.length_singleton]
    omega

/-- A change that makes no enumeration of anything else, and nothing else of one. -/
theorem enumerationAt?_modifyKind (r : Registry) (id other : Nat)
    {change : Entity.Kind → Entity.Kind}
    (hchange : ∀ e : Entity,
      Entity.enumeration? { e with kind := change e.kind } = e.enumeration?) :
  (r.modifyKind id change).enumerationAt? other = r.enumerationAt? other
  := by
  rw [enumerationAt?, get?_modifyKind, enumerationAt?]
  cases r.get? other with
  | none => rfl
  | some e =>
      rw [Option.map_some, Option.bind_some, Option.bind_some]
      split
      · apply hchange
      · rfl

/-- Registration of anything but an enumeration leaves the enumerations as they are. -/
theorem enumerationAt?_register (r : Registry) (raw name : String) {kind : Entity.Kind}
    (hkind : kind.IsNew) (id : Nat) :
  (r.register raw name kind).1.enumerationAt? id = r.enumerationAt? id
  := by
  rcases register_cases r raw name kind with ⟨_, -, heq⟩ | ⟨-, heq⟩
  · rw [heq]
    rfl
  · rw [heq]
    change (r.withEntity ⟨name, raw, kind⟩).enumerationAt? id = _
    rw [enumerationAt?_withEntity]
    split
    · rename_i hid
      rw [enumerationAt?, get?, List.getElem?_eq_none (Nat.le_of_eq hid.symm)]
      cases hkind <;> rfl
    · rfl

theorem Builds.enumerationAt?_eq (h : Builds r r') (id : Nat) :
  r'.enumerationAt? id = r.enumerationAt? id
  := by
  induction h with
  | here => rfl
  | register raw name _ hkind ih => rw [enumerationAt?_register _ raw name hkind, ih]
  | addRawName raw _ _ ih => exact ih
  | withConstants constants _ ih => exact ih

/-- What composites learn is nothing that enumerations have. -/
theorem enumerationAt?_of_learnMembers {declared : Nat × Element}
    (h : learnMembers o n r declared = .ok r') (id : Nat) :
  r'.enumerationAt? id = r.enumerationAt? id
  := by
  obtain ⟨owner, type⟩ := declared
  rw [learnMembers] at h
  obtain ⟨⟨next, members⟩, hmembers, h⟩ := Outcome.bind_eq_ok_iff.mp h
  obtain ⟨_, -, h⟩ := Outcome.bind_eq_ok_iff.mp h
  obtain ⟨base, -, h⟩ := Outcome.bind_eq_ok_iff.mp h
  obtain rfl := Except.ok.inj h
  have learnt : Builds r next := by
    apply builds_foldlM Prod.fst _ hmembers
    intro state e state'
    apply addMember_builds
  rw [enumerationAt?_modifyKind, learnt.enumerationAt?_eq]
  rintro ⟨name, rawName, kind⟩
  cases kind <;> rfl

theorem enumerationAt?_of_registerComposites (h : registerComposites o n d r = .ok r')
    (id : Nat) :
  r'.enumerationAt? id = r.enumerationAt? id
  := by
  rw [registerComposites] at h
  obtain ⟨s, hdeclared, h⟩ := Outcome.bind_eq_ok_iff.mp h
  obtain ⟨next, haliases, hmembers⟩ := Outcome.bind_eq_ok_iff.mp h
  have composites : Builds r s.registry := by
    apply builds_foldlM CompositeDeclarations.registry _ hdeclared
    intro s type s'
    apply declareComposite_builds
  have aliased : Builds s.registry next := by
    apply builds_foldlM (fun r => r) _ haliases
    intro r declared r'
    apply registerCompositeAlias_builds
  have learnt : r'.enumerationAt? id = next.enumerationAt? id := by
    apply Outcome.foldlM_rel (R := fun r r' => r'.enumerationAt? id = r.enumerationAt? id) _ _ _
      hmembers
    · intro r
      rfl
    · intro a b c hab hbc
      rw [hbc, hab]
    · intro r declared r' hr
      apply enumerationAt?_of_learnMembers hr
  rw [learnt, (composites.trans aliased).enumerationAt?_eq]

/-! ### Stages -/

/-- The registry of the types and constants of a document that come before its
enumerations. -/
def ofBasicTypes (o : Options) (n : Naming) (d : Document) : Except Error Registry := do
  let r := registerForeignStructs o (registerBuiltins o (initial d))
  let r ← d.types.foldlM (registerIncluded o n) r
  let r ← (d.typesOf "basetype").foldlM (registerBasetype o n) r
  (constantEntries d).foldlM registerConstant r

theorem ofDocument_eq_ok_iff :
  ofDocument o n d = .ok r
    ↔ ∃ basic enumerated handled, ofBasicTypes o n d = .ok basic
        ∧ registerEnumerations o n d basic = .ok enumerated
        ∧ registerHandles n d enumerated = .ok handled
        ∧ registerComposites o n d handled = .ok r
        ∧ r.checkAliases = .ok ()
  := by
  simp only [ofDocument, ofBasicTypes, initial, Outcome.bind_eq_ok_iff, Outcome.pure_eq_ok_iff]
  constructor
  · rintro ⟨r₁, h₁, r₂, h₂, r₃, h₃, r₄, h₄, r₅, h₅, r₆, h₆, _, h₇, rfl⟩
    exact ⟨r₃, r₄, r₅, ⟨r₁, h₁, r₂, h₂, h₃⟩, h₄, h₅, h₆, h₇⟩
  · rintro ⟨r₃, r₄, r₅, ⟨r₁, h₁, r₂, h₂, h₃⟩, h₄, h₅, h₆, h₇⟩
    exact ⟨r₁, h₁, r₂, h₂, r₃, h₃, r₄, h₄, r₅, h₅, r, h₆, (), h₇, rfl⟩

theorem ofBasicTypes_builds (h : ofBasicTypes o n d = .ok r) :
  Builds (initial d) r
  := by
  obtain ⟨r₁, hincluded, h⟩ := Outcome.bind_eq_ok_iff.mp h
  obtain ⟨r₂, hbasic, hconstants⟩ := Outcome.bind_eq_ok_iff.mp h
  have tables : Builds (initial d) (registerForeignStructs o (registerBuiltins o (initial d))) :=
    (builds_registerBuiltins o _).trans (builds_registerForeignStructs o _)
  have included : Builds (registerForeignStructs o (registerBuiltins o (initial d))) r₁ := by
    apply builds_foldlM id _ hincluded
    intro r type r'
    apply registerIncluded_builds
  have basic : Builds r₁ r₂ := by
    apply builds_foldlM id _ hbasic
    intro r type r'
    apply registerBasetype_builds
  apply ((tables.trans included).trans basic).trans
  apply builds_foldlM id _ hconstants
  intro r entry r'
  apply registerConstant_builds

/-- There is no enumeration before they are declared. -/
theorem enumerationAt?_of_ofBasicTypes (h : ofBasicTypes o n d = .ok r) (id : Nat) :
  r.enumerationAt? id = none
  := (ofBasicTypes_builds h).enumerationAt?_eq id

end Registry

end NativeApi
