import NativeApi.Entity.Json
import NativeApi.Registry.Basic

/-!
# Registries as data trees

A registry is written with its entities by position, its constants and its platforms; the
raw names that lead to an entity beside its own are left out.
-/

namespace NativeApi

/-- A platform as a tree. -/
def Platform.toJson (p : Platform) : Json :=
  .object [("name", .string p.name), ("protect", .ofOption .string p.protect)]

/-- A registry as a tree. -/
def Registry.toJson (r : Registry) : Json :=
  .object [
    ("entities", .ofList Entity.toJson r.entities),
    ("constants", .ofDict .int r.constants),
    ("platforms", .ofList Platform.toJson r.platforms)]

end NativeApi
