import NativeApi.Registry.Resolve

/-!
# Marshalling

A composite is flat, and may be passed by value, unless one of its members is a pointer or
an array of linked length, or holds by value a handle, a type without values, or a
composite that is not flat.  The analysis starts with every composite flat and looks at
all of them again until a pass finds no more that are not.  From this start on, flags are set
and never cleared, so that this is the first pass that changes no flag
(`Registry.analyze_eq_iff_settles`).
-/

namespace NativeApi

/-- What each pass of the analysis found not to be flat. -/
structure Marshalling where
  passes : List NameSet

namespace Marshalling

/-- The number of passes. -/
def passCount (m : Marshalling) : Nat := m.passes.length

/-- What the last pass found not to be flat. -/
def marshalled (m : Marshalling) : NameSet := m.passes.getLastD .empty

/-- Whether each list of names has all those of the one before it. -/
def isIncreasing : List NameSet → Bool
  | s :: t :: rest => s.isSubset t && isIncreasing (t :: rest)
  | _ => true

/-- Whether each pass found at least what the one before it did. -/
def isMonotone (m : Marshalling) : Bool := isIncreasing m.passes

end Marshalling

namespace Registry

/-! ### One member, one composite, one pass -/

/-- Whether a value of what an entity is has to be marshalled. -/
def valueNeedsMarshalling : Entity.Kind → Bool
  | .handle _ => true
  | .composite c => c.needsMarshalling
  | .primitive width => !width.isValue
  | .enumeration _ => false
  | .aliasOf _ => false

/-- Whether a member has to be marshalled, as far as the flags of composites tell. -/
def memberNeedsMarshalling (r : Registry) (m : Member) : Except Error Bool :=
  if m.isPointer then .ok true
  else (r.resolve m.declaredType).map fun entity =>
    match m.arity with
    | .linkedArray _ => true
    | _ => valueNeedsMarshalling entity.kind

/-- Whether one of some members has to be marshalled; those after it do not count. -/
def anyNeedsMarshalling (r : Registry) : List Member → Except Error Bool
  | [] => .ok false
  | m :: members => do
    if ← r.memberNeedsMarshalling m then return true
    else r.anyNeedsMarshalling members

/-- Whether the composite at a position has to be marshalled. -/
def compositeNeedsMarshalling (r : Registry) (id : Nat) : Except Error Bool :=
  match (r.get? id).bind Entity.composite? with
  | some c => r.anyNeedsMarshalling c.members
  | none => .ok false

/-- The composites at some positions, each with whether it has to be marshalled. -/
def marshallingPass (r : Registry) (ids : List Nat) : Except Error (List (Nat × Bool)) :=
  ids.mapM fun id => (r.compositeNeedsMarshalling id).map (id, ·)

/-- The registry with the flags of composites set. -/
def setFlags (r : Registry) (flags : List (Nat × Bool)) : Registry :=
  flags.foldl (fun r flag => r.setNeedsMarshalling flag.1 flag.2) r

/-- The composites that a pass found not to be flat, by name. -/
def marshalledNames (r : Registry) (flags : List (Nat × Bool)) : NameSet :=
  .ofList ((flags.filter (·.2)).map fun flag => r.nameOf flag.1)

/-- The composites that a pass found to be flat, by position. -/
def flatIds (flags : List (Nat × Bool)) : List Nat := (flags.filter (!·.2)).map (·.1)

/-! ### All passes -/

/-- The passes over the composites at some positions from the flags of a registry on, of
which those at the positions `flat` are not set, and the registry with the flags that the
passes lead to.  Another pass follows while fewer composites are flat, which ends whatever the
flags are. -/
def settle (ids : List Nat) (r : Registry) (flat : List Nat) :
    Except Error (List NameSet) × Registry :=
  match r.marshallingPass ids with
  | .error e => (.error e, r)
  | .ok flags =>
    let names := r.marshalledNames flags
    if (flatIds flags).length < flat.length then
      let (later, settled) := settle ids (r.setFlags flags) (flatIds flags)
      (later.map (names :: ·), settled)
    else (.ok [names], r.setFlags flags)
termination_by flat.length

/-- The analysis of a registry, and the registry with the flags that it leads to.  It
starts by clearing all flags, and they stay so where it fails. -/
def analyze (r : Registry) : Except Error Marshalling × Registry :=
  let ids := r.compositeIds
  let (passes, settled) := settle ids (r.setFlags (ids.map (·, false))) ids
  (passes.map .mk, settled)

end Registry

end NativeApi
