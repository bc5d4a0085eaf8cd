import NativeApi.Marshalling
import NativeApi.Proofs.Outcomes

/-!
# Flags of composites

The flags of the composites are the only part of a registry that the analysis of
marshalling sets.  `Registry.unflagged` is a registry with all of them cleared: two
registries differ in nothing but flags when it is the same for both.  Names, aliases and
the members of composites can be read off it, so they do not depend on flags.
-/

namespace NativeApi

namespace Registry

/-- An entity with its flag cleared, if it has one. -/
def unflaggedEntity (e : Entity) : Entity := { e with kind := withFlag false e.kind }

/-- The registry with the flags of all composites cleared. -/
def unflagged (r : Registry) : Registry := { r with entities := r.entities.map unflaggedEntity }

/-- A composite with its flag replaced. -/
def flagged (needs : Bool) (c : Composite) : Composite := { c with needsMarshalling := needs }

/-- The composite at a position. -/
def compositeAt? (r : Registry) (id : Nat) : Option Composite :=
  (r.get? id).bind Entity.composite?

/-- A canonical name stands for the entity at a position. -/
def StandsFor (r : Registry) (name : String) (id : Nat) : Prop :=
  ∃ start, r.idOf? name = some start ∧ r.resolveId start = .ok id

theorem StandsFor.unique {r : Registry} {name : String} {id id' : Nat}
    (h : r.StandsFor name id) (h' : r.StandsFor name id') :
  id = id'
  := by
  obtain ⟨start, hstart, hid⟩ := h
  obtain ⟨start', hstart', hid'⟩ := h'
  rw [hstart] at hstart'
  obtain rfl := Option.some.inj hstart'
  rw [hid] at hid'
  apply Except.ok.inj hid'

theorem resolved_eq_ok_iff {r : Registry} {start : Nat} {e : Entity} :
  r.resolved start = .ok e ↔ ∃ id, r.resolveId start = .ok id ∧ r.get? id = some e
  := by
  rw [resolved, Outcome.bind_eq_ok_iff]
  apply exists_congr
  intro id
  cases r.get? id <;> simp

/-- Resolving a name gives the entity that it stands for. -/
theorem resolve_eq_ok_iff {r : Registry} {name : String} {e : Entity} :
  r.resolve name = .ok e ↔ ∃ id, r.StandsFor name id ∧ r.get? id = some e
  := by
  rw [resolve]
  cases h : r.idOf? name with
  | none => simp [StandsFor, h]
  | some start => simp [StandsFor, h, resolved_eq_ok_iff]

/-! ### What does not depend on flags -/

@[simp]
theorem get?_unflagged (r : Registry) (id : Nat) :
  r.unflagged.get? id = (r.get? id).map unflaggedEntity
  := List.getElem?_map

@[simp]
theorem size_unflagged (r : Registry) :
  r.unflagged.size = r.size
  := List.length_map _

@[simp]
theorem idOf?_unflagged (r : Registry) (name : String) :
  r.unflagged.idOf? name = r.idOf? name
  := List.findIdx?_map

theorem withFlag_aliasOf_iff {needs : Bool} {kind : Entity.Kind} {target : String} :
  withFlag needs kind = .aliasOf target ↔ kind = .aliasOf target
  := by
  cases kind <;> simp [withFlag]

theorem withFlag_eq_composite_iff {needs : Bool} {kind : Entity.Kind} {c : Composite} :
  withFlag needs kind = .composite c ↔ ∃ c₀, kind = .composite c₀ ∧ flagged needs c₀ = c
  := by
  cases kind <;> simp [withFlag, flagged]

/-- Following aliases does not look at flags. -/
@[simp]
theorem follow_unflagged (r : Registry) (fresh : List Nat) (id : Nat) :
  r.unflagged.follow fresh id = r.follow fresh id
  := by
  fun_induction follow r fresh id with
  | case1 fresh id h =>
      rw [follow, get?_unflagged, h]
      rfl
  | case2 fresh id e h target hkind hfresh next hnext ih =>
      rw [follow, get?_unflagged, h]
      simp [unflaggedEntity, hkind, withFlag, hfresh, hnext, ih]
  | case3 fresh id e h target hkind hfresh hnext =>
      rw [follow, get?_unflagged, h]
      simp [unflaggedEntity, hkind, withFlag, hfresh, hnext]
  | case4 fresh id e h target hkind hfresh =>
      rw [follow, get?_unflagged, h]
      simp [unflaggedEntity, hkind, withFlag, hfresh]
  | case5 fresh id e h hkind =>
      rw [follow, get?_unflagged, h]
      have hkind' : ∀ target, (unflaggedEntity e).kind ≠ .aliasOf target := by
        intro target h'
        apply hkind target (withFlag_aliasOf_iff.mp h')
      simp only [Option.map_some]

@[simp]
theorem resolveId_unflagged (r : Registry) (id : Nat) :
  r.unflagged.resolveId id = r.resolveId id
  := by
  rw [resolveId, resolveId, size_unflagged, follow_unflagged]

@[simp]
theorem standsFor_unflagged {r : Registry} {name : String} {id : Nat} :
  r.unflagged.StandsFor name id ↔ r.StandsFor name id
  := by
  simp [StandsFor]

/-- Resolving a name does not look at flags. -/
theorem resolve_unflagged (r : Registry) (name : String) :
  r.unflagged.resolve name = (r.resolve name).map unflaggedEntity
  := by
  simp only [resolve, idOf?_unflagged]
  cases r.idOf? name with
  | none => rfl
  | some start =>
      simp only [resolved, resolveId_unflagged]
      cases r.resolveId start with
      | error problem => rfl
      | ok id =>
          simp only [bind, Except.bind, get?_unflagged]
          cases r.get? id <;> rfl

/-! ### Registries that differ in flags alone -/

variable {r r' : Registry}

theorem standsFor_congr (h : r'.unflagged = r.unflagged) {name : String} {id : Nat} :
  r'.StandsFor name id ↔ r.StandsFor name id
  := by
  rw [← standsFor_unflagged, h, standsFor_unflagged]

theorem map_resolve_congr (h : r'.unflagged = r.unflagged) (name : String) :
  (r'.resolve name).map unflaggedEntity = (r.resolve name).map unflaggedEntity
  := by
  rw [← resolve_unflagged, h, resolve_unflagged]

theorem resolve_eq_error_congr (h : r'.unflagged = r.unflagged) {name : String}
    {problem : Error} :
  r'.resolve name = .error problem ↔ r.resolve name = .error problem
  := by
  rw [← Outcome.map_eq_error_iff (f := unflaggedEntity), map_resolve_congr h,
    Outcome.map_eq_error_iff]

theorem exists_resolve_congr (h : r'.unflagged = r.unflagged) {name : String} :
  (∃ e, r'.resolve name = .ok e) ↔ ∃ e, r.resolve name = .ok e
  := by
  have hmap := map_resolve_congr h name
  cases hr' : r'.resolve name <;> cases hr : r.resolve name <;> simp_all [Except.map]

/-- An entity of one of the registries is one of the other, up to its flag. -/
theorem get?_of_unflagged_eq (h : r'.unflagged = r.unflagged) {id : Nat} {e' : Entity}
    (he : r'.get? id = some e') :
  ∃ e, r.get? id = some e ∧ unflaggedEntity e' = unflaggedEntity e
  := by
  have hid : (r'.get? id).map unflaggedEntity = (r.get? id).map unflaggedEntity := by
    rw [← get?_unflagged, h, get?_unflagged]
  rw [he, Option.map_some] at hid
  obtain ⟨e, he, heq⟩ := Option.map_eq_some_iff.mp hid.symm
  use e, he, heq.symm

theorem name_of_unflaggedEntity_eq {e e' : Entity} (h : unflaggedEntity e' = unflaggedEntity e) :
  e'.name = e.name
  := by
  change (unflaggedEntity e').name = (unflaggedEntity e).name
  rw [h]

theorem nameOf_congr (h : r'.unflagged = r.unflagged) (id : Nat) :
  r'.nameOf id = r.nameOf id
  := by
  have hid : (r'.get? id).map unflaggedEntity = (r.get? id).map unflaggedEntity := by
    rw [← get?_unflagged, h, get?_unflagged]
  rw [nameOf, nameOf]
  cases he' : r'.get? id with
  | none =>
      cases he : r.get? id with
      | none => rfl
      | some e => simp [he, he'] at hid
  | some e' =>
      obtain ⟨e, he, heq⟩ := get?_of_unflagged_eq h he'
      rw [he]
      apply name_of_unflaggedEntity_eq heq

theorem compositeAt?_eq_some_iff {id : Nat} {c : Composite} :
  r.compositeAt? id = some c ↔ ∃ e, r.get? id = some e ∧ e.kind = .composite c
  := by
  simp only [compositeAt?, Option.bind_eq_some_iff, Entity.composite?_eq_some_iff]

/-- The composites of both registries have the same members. -/
theorem compositeAt?_of_unflagged_eq (h : r'.unflagged = r.unflagged) {id : Nat}
    {c' : Composite} (hc : r'.compositeAt? id = some c') :
  ∃ c, r.compositeAt? id = some c ∧ c'.members = c.members
  := by
  obtain ⟨e', he', hkind'⟩ := compositeAt?_eq_some_iff.mp hc
  obtain ⟨e, he, heq⟩ := get?_of_unflagged_eq h he'
  have hkind : withFlag false e.kind = .composite (flagged false c') := by
    apply Eq.trans (congrArg Entity.kind heq).symm
    simp only [unflaggedEntity, hkind']
    rfl
  obtain ⟨c, hc, hflagged⟩ := withFlag_eq_composite_iff.mp hkind
  use c, compositeAt?_eq_some_iff.mpr ⟨e, he, hc⟩
  apply Eq.symm (congrArg Composite.members hflagged)

/-! ### Setting flags -/

theorem withFlag_withFlag (needs needs' : Bool) (kind : Entity.Kind) :
  withFlag needs (withFlag needs' kind) = withFlag needs kind
  := by
  cases kind <;> rfl

/-- Setting a flag changes nothing but flags. -/
@[simp]
theorem unflagged_setNeedsMarshalling (r : Registry) (id : Nat) (needs : Bool) :
  (r.setNeedsMarshalling id needs).unflagged = r.unflagged
  := by
  have hentities : (r.setNeedsMarshalling id needs).unflagged.entities = r.unflagged.entities := by
    apply List.ext_getElem?
    intro other
    simp only [unflagged, setNeedsMarshalling, modifyKind, List.getElem?_map,
      List.getElem?_modify]
    cases r.entities[other]? with
    | none => rfl
    | some e =>
        by_cases hid : id = other
        · simp [hid, unflaggedEntity, withFlag_withFlag]
        · simp [hid]
  simp only [unflagged, setNeedsMarshalling, modifyKind] at hentities ⊢
  rw [hentities]

@[simp]
theorem unflagged_setFlags (r : Registry) (flags : List (Nat × Bool)) :
  (r.setFlags flags).unflagged = r.unflagged
  := by
  induction flags generalizing r with
  | nil => rfl
  | cons flag flags ih =>
      apply Eq.trans (ih (r.setNeedsMarshalling flag.1 flag.2))
      apply unflagged_setNeedsMarshalling

theorem compositeAt?_setNeedsMarshalling (r : Registry) (id other : Nat) (needs : Bool) :
  (r.setNeedsMarshalling id needs).compositeAt? other
    = (r.compositeAt? other).map (if id = other then flagged needs else fun c => c)
  := by
  simp only [compositeAt?, get?, setNeedsMarshalling, modifyKind, List.getElem?_modify]
  cases r.entities[other]? with
  | none => rfl
  | some e =>
      obtain ⟨name, rawName, kind⟩ := e
      by_cases hid : id = other
      · cases kind <;> simp [hid, withFlag, Entity.composite?, flagged]
      · cases kind <;> simp [hid, Entity.composite?]

/-- After flags have been set by position, the flag at each of the positions is the one
that it got. -/
theorem compositeAt?_setFlags (r : Registry) (f : Nat → Bool) (ids : List Nat) (other : Nat) :
  (r.setFlags (ids.map fun id => (id, f id))).compositeAt? other
    = (r.compositeAt? other).map (if other ∈ ids then flagged (f other) else fun c => c)
  := by
  induction ids generalizing r with
  | nil => simp [setFlags]
  | cons id ids ih =>
      rw [List.map_cons]
      apply Eq.trans (ih (r.setNeedsMarshalling id (f id)))
      rw [compositeAt?_setNeedsMarshalling, Option.map_map]
      congr 1
      funext c
      by_cases hid : id = other
      · by_cases hmem : other ∈ ids <;> simp [hid, hmem, flagged]
      · by_cases hmem : other ∈ ids <;> simp [hid, hmem, Ne.symm hid]

end Registry

end NativeApi
