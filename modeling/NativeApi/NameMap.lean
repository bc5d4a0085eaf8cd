import NativeApi.Registry.Basic

/-!
# Name maps

A name map leads from the raw names of enumerations, their members and composites to the
canonical ones, and back.  A member goes by the name of its enumeration and its own.
-/

namespace NativeApi

/-- The canonical names of the raw names of an interface. -/
structure NameMap where
  enumerations : Dict String
  members : Dict String
  composites : Dict String

namespace NameMap

/-- The canonical name of a member of an enumeration. -/
def memberName (owner : Entity) (member : EnumMember) : String :=
  owner.name ++ "." ++ member.name

/-- The names of the members of an enumeration that have a raw name. -/
def memberEntries (entry : Entity × Enumeration) : List (String × String) :=
  (entry.2.members.filter (!·.rawName.isEmpty)).map fun member =>
    (member.rawName, memberName entry.1 member)

/-- The name map of a registry, without foreign composites. -/
def ofRegistry (r : Registry) : NameMap where
  enumerations := .ofList (r.enumerations.map fun entry => (entry.1.rawName, entry.1.name))
  members := .ofList (r.enumerations.flatMap memberEntries)
  composites :=
    .ofList ((r.composites.filter (!·.2.foreign)).map fun entry =>
      (entry.1.rawName, entry.1.name))

/-- The canonical name of a raw name. -/
def canonical? (m : NameMap) (raw : String) : Option String :=
  ((m.enumerations.get? raw).or (m.members.get? raw)).or (m.composites.get? raw)

/-- The raw name of a canonical name. -/
def raw? (m : NameMap) (canonical : String) : Option String :=
  ((m.enumerations.entries ++ m.composites.entries ++ m.members.entries).find?
    (·.2 == canonical)).map (·.1)

end NameMap

end NativeApi
