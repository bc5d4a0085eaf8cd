import NativeApi.Entity
import NativeApi.Json.Basic

/-!
# Entities as data trees

What an entity is stands among its own fields, as does the arity of a member among those
of the member.  A counter and the values of a member stand only where there are any.
-/

namespace NativeApi

/-- A member of an enumeration as a tree. -/
def EnumMember.toJson (m : EnumMember) : Json :=
  .object [("name", .string m.name), ("raw_name", .string m.rawName), ("value", .int m.value)]

/-- The length of an inline array as a tree. -/
def ArrayLength.toJson : ArrayLength → Json
  | literal count => .object [("literal", .nat count)]
  | constant name value =>
    .object [("constant", .object [("name", .string name), ("value", .nat value)])]

/-- The fields of an arity. -/
def Arity.fields : Arity → List (String × Json)
  | scalar => [("arity", .string "scalar")]
  | fixedArray length => [("arity", .string "fixed_array"), ("length", length.toJson)]
  | linkedArray member =>
    [("arity", .string "length_linked_array"), ("length_member", .string member)]

/-- A field that stands only where there is a value. -/
def Json.fieldIfAny (name : String) : Option String → List (String × Json)
  | some text => [(name, .string text)]
  | none => []

/-- A member of a composite as a tree. -/
def Member.toJson (m : Member) : Json :=
  .object (
    [("name", .string m.name),
      ("raw_name", .string m.rawName),
      ("declared_type", .string m.declaredType),
      ("raw_type", .string m.rawType),
      ("is_pointer", .bool m.isPointer),
      ("is_const_pointer", .bool m.isConstPointer),
      ("is_double_pointer", .bool m.isDoublePointer),
      ("optional", .bool m.optional)]
    ++ m.arity.fields
    ++ Json.fieldIfAny "counter" m.counter
    ++ Json.fieldIfAny "values" m.values)

/-- The name of a kind of composites. -/
def CompositeKind.text : CompositeKind → String
  | struct => "struct"
  | union => "union"

namespace Entity

/-- The fields of what an entity is. -/
def Kind.fields : Kind → List (String × Json)
  | .primitive width => [("width", .string width.text)]
  | .handle h =>
    [("dispatchable", .bool h.dispatchable),
      ("parent", .ofOption .string h.parent),
      ("methods", .strings h.methods)]
  | .enumeration e =>
    [("is_bitmask", .bool e.isBitmask), ("members", .ofList EnumMember.toJson e.members)]
  | .composite c =>
    [("composite_kind", .string c.kind.text),
      ("members", .ofList Member.toJson c.members),
      ("needs_marshalling", .bool c.needsMarshalling),
      ("extends", .ofOption .string c.base),
      ("structure_type", .ofOption .string c.structureType),
      ("foreign", .bool c.foreign),
      ("returned_only", .bool c.returnedOnly)]
  | .aliasOf target => [("target", .string target)]

/-- An entity as a tree. -/
def toJson (e : Entity) : Json :=
  .object (("name", .string e.name) :: ("raw_name", .string e.rawName)
    :: ("kind", .string e.kindName) :: e.kind.fields)

end Entity

end NativeApi
