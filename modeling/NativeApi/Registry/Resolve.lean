import NativeApi.Registry.Basic

/-!
# Resolving aliases

An alias names the entity that it stands for, which may be an alias again.  Following
aliases ends at an entity that is none, at a name that is not registered, or at an alias
that has been passed before.
-/

namespace NativeApi.Registry

/-! ### Chains of aliases -/

/-- Follows aliases from a position, where only those at the given positions have not been
passed yet. -/
def follow (r : Registry) (fresh : List Nat) (id : Nat) : Except Error Nat :=
  match r.get? id with
  | none => .error (.unknownReference "entity" (toString id) "registry lookup")
  | some entity =>
    match entity.kind with
    | .aliasOf target =>
      if id ∈ fresh then
        match r.idOf? target with
        | some next => follow r (fresh.erase id) next
        | none => .error (.unknownReference "alias target" target entity.name)
      else .error (.aliasCycle entity.name)
    | _ => .ok id
termination_by fresh.length
decreasing_by
  have := List.length_erase_of_mem ‹id ∈ fresh›
  have := List.length_pos_of_mem ‹id ∈ fresh›
  omega

/-- The position of the entity that the one at a position stands for. -/
def resolveId (r : Registry) (id : Nat) : Except Error Nat := r.follow (List.range r.size) id

/-! ### Names -/

/-- The entity that the one at a position stands for. -/
def resolved (r : Registry) (id : Nat) : Except Error Entity := do
  let id ← r.resolveId id
  match r.get? id with
  | some entity => .ok entity
  | none => .error (.unknownReference "entity" (toString id) "registry lookup")

/-- The entity that a canonical name stands for. -/
def resolve (r : Registry) (name : String) : Except Error Entity :=
  match r.idOf? name with
  | some id => r.resolved id
  | none => .error (.unknownReference "type" name "registry lookup")

/-- The entity that a raw name stands for. -/
def resolveRaw (r : Registry) (raw : String) : Except Error Entity :=
  match r.idOfRaw? raw with
  | some id => r.resolved id
  | none => .error (.unknownReference "type" raw "registry lookup")

/-- The handle that a raw name stands for. -/
def handleOfRaw? (r : Registry) (raw : String) : Option Entity :=
  (r.resolveRaw raw).toOption.filter (·.handle?.isSome)

/-- Whether the composite that a canonical name stands for has its flag set. -/
def needsMarshalling (r : Registry) (name : String) : Bool :=
  match (r.resolve name).toOption.bind Entity.composite? with
  | some c => c.needsMarshalling
  | none => false

/-- Resolves every alias, up to the first that cannot be. -/
def checkAliases (r : Registry) : Except Error Unit :=
  (List.range r.size).forM fun id =>
    match r.get? id with
    | some entity => if entity.isAlias then (r.resolveId id).map fun _ => () else .ok ()
    | none => .ok ()

end NativeApi.Registry
