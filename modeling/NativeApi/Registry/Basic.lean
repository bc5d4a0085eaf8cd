import NativeApi.Dict
import NativeApi.Entity
import NativeApi.Error

/-!
# Registries

A `Registry` holds the declared types in the order of their registration; the position of
an entity is its identity.  Every canonical name belongs to at most one entity, and any
number of raw names may lead to it, of which each keeps the entity that it first led to.
-/

namespace NativeApi

/-- A platform and the macro that protects what belongs to it. -/
structure Platform where
  name : String
  protect : Option String
  deriving DecidableEq

/-- An alias as it is declared: its raw name and that of the type that it stands for. -/
structure DeclaredAlias where
  rawName : String
  target : String
  deriving DecidableEq

/-- The declared types, the raw names that lead to them, the values of constants and the
platforms. -/
structure Registry where
  entities : List Entity
  rawIds : Dict Nat
  constants : Dict Int
  platforms : List Platform

namespace Registry

/-- The registry of nothing. -/
def empty : Registry := ⟨[], .empty, .empty, []⟩

instance : Inhabited Registry := ⟨empty⟩

/-! ### Finding entities -/

/-- The number of entities. -/
def size (r : Registry) : Nat := r.entities.length

/-- The entity at a position. -/
def get? (r : Registry) (id : Nat) : Option Entity := r.entities[id]?

/-- The position of the entity of a canonical name. -/
def idOf? (r : Registry) (name : String) : Option Nat :=
  r.entities.findIdx? (·.name == name)

/-- The position of the entity that a raw name leads to. -/
def idOfRaw? (r : Registry) (raw : String) : Option Nat := r.rawIds.get? raw

/-- The entity of a canonical name. -/
def lookup? (r : Registry) (name : String) : Option Entity := (r.idOf? name).bind r.get?

/-- The entity that a raw name leads to. -/
def lookupRaw? (r : Registry) (raw : String) : Option Entity := (r.idOfRaw? raw).bind r.get?

/-- The canonical name that a raw name leads to. -/
def canonicalOfRaw? (r : Registry) (raw : String) : Option String :=
  (r.lookupRaw? raw).map (·.name)

/-- The name of the entity at a position. -/
def nameOf (r : Registry) (id : Nat) : String :=
  match r.get? id with
  | some entity => entity.name
  | none => ""

/-! ### Registration -/

/-- The registry with one more raw name of an entity, unless the name leads somewhere. -/
def addRawName (r : Registry) (raw : String) (id : Nat) : Registry :=
  { r with rawIds := r.rawIds.insertNew raw id }

/-- The registry with an entity, and its position.  An entity of the canonical name that
is there already stays as it is. -/
def register (r : Registry) (raw name : String) (kind : Entity.Kind) : Registry × Nat :=
  match r.idOf? name with
  | some id => (r.addRawName raw id, id)
  | none =>
    let extended := { r with entities := r.entities ++ [(⟨name, raw, kind⟩ : Entity)] }
    (extended.addRawName raw r.size, r.size)

/-- The registry with what the entity at a position is changed. -/
def modifyKind (r : Registry) (id : Nat) (change : Entity.Kind → Entity.Kind) : Registry :=
  { r with entities := r.entities.modify id fun e => { e with kind := change e.kind } }

/-! ### Kinds of entities -/

/-- The enumerations with their entities. -/
def enumerations (r : Registry) : List (Entity × Enumeration) :=
  r.entities.filterMap fun e => e.enumeration?.map (e, ·)

/-- The composites with their entities. -/
def composites (r : Registry) : List (Entity × Composite) :=
  r.entities.filterMap fun e => e.composite?.map (e, ·)

/-- The handles with their entities. -/
def handles (r : Registry) : List (Entity × Handle) :=
  r.entities.filterMap fun e => e.handle?.map (e, ·)

/-- What has a part of a kind is listed with that part. -/
theorem mem_filterMap_pair_iff {α β : Type} {f : α → Option β} {as : List α} {a : α} {b : β} :
  (a, b) ∈ as.filterMap (fun a => (f a).map (a, ·)) ↔ a ∈ as ∧ f a = some b
  := by
  rw [List.mem_filterMap]
  constructor
  · rintro ⟨a', ha', heq⟩
    obtain ⟨b', hb', heq⟩ := Option.map_eq_some_iff.mp heq
    cases heq
    exact ⟨ha', hb'⟩
  · rintro ⟨ha, hb⟩
    refine ⟨a, ha, ?_⟩
    rw [hb, Option.map_some]

theorem mem_enumerations_iff {r : Registry} {e : Entity} {enumeration : Enumeration} :
  (e, enumeration) ∈ r.enumerations ↔ e ∈ r.entities ∧ e.kind = .enumeration enumeration
  := by
  rw [enumerations, mem_filterMap_pair_iff, Entity.enumeration?_eq_some_iff]

theorem mem_composites_iff {r : Registry} {e : Entity} {composite : Composite} :
  (e, composite) ∈ r.composites ↔ e ∈ r.entities ∧ e.kind = .composite composite
  := by
  rw [composites, mem_filterMap_pair_iff, Entity.composite?_eq_some_iff]

/-- The positions of the composites. -/
def compositeIds (r : Registry) : List Nat :=
  (List.range r.size).filter fun id => ((r.get? id).bind Entity.composite?).isSome

/-! ### Handles and composites -/

/-- A handle with one more method, unless it has it. -/
def addMethod (command : String) : Entity.Kind → Entity.Kind
  | .handle h =>
    .handle (if h.methods.contains command then h
      else { h with methods := h.methods ++ [command] })
  | kind => kind

/-- The registry with a command as a method of the handle at a position. -/
def bindMethod (r : Registry) (id : Nat) (command : String) : Registry :=
  r.modifyKind id (addMethod command)

/-- A composite with its flag set. -/
def withFlag (needs : Bool) : Entity.Kind → Entity.Kind
  | .composite c => .composite { c with needsMarshalling := needs }
  | kind => kind

/-- The registry with the flag of the composite at a position set. -/
def setNeedsMarshalling (r : Registry) (id : Nat) (needs : Bool) : Registry :=
  r.modifyKind id (withFlag needs)

/-- A composite with its members replaced. -/
def withMembers (members : List Member) : Entity.Kind → Entity.Kind
  | .composite c => .composite { c with members }
  | kind => kind

end Registry

end NativeApi
