import NativeApi.Command.Json
import NativeApi.Model.Basic
import NativeApi.Registry.Json

/-!
# Models as data trees

The parts of a model and the model as a whole, which is written over several lines.
-/

namespace NativeApi

/-- A vendor tag as a tree. -/
def VendorTag.toJson (t : VendorTag) : Json :=
  .object [("name", .string t.name), ("canonical", .string t.canonical)]

/-- The default scope as a tree. -/
def DefaultScope.toJson (s : DefaultScope) : Json :=
  .object [
    ("hidden_type_names", .ofNames s.hiddenTypes),
    ("hidden_command_names", .ofNames s.hiddenCommands)]

/-- The scope of a target as a tree. -/
def TargetScope.toJson (s : TargetScope) : Json :=
  .object [
    ("target", .string s.target),
    ("extensions", .strings s.extensions),
    ("required_type_names", .ofNames s.requiredTypes),
    ("required_command_names", .ofNames s.requiredCommands),
    ("protect", .ofNames s.protect)]

/-- A scope as a tree. -/
def Scope.toJson : Scope → Json
  | .default scope => scope.toJson
  | .target scope => scope.toJson

/-- The command aliases as a tree. -/
def CommandAliases.toJson (a : CommandAliases) : Json := .ofDict .string a.targets

/-- A name map as a tree. -/
def NameMap.toJson (m : NameMap) : Json :=
  .object [
    ("enumerations", .ofDict .string m.enumerations),
    ("enum_members", .ofDict .string m.members),
    ("composites", .ofDict .string m.composites)]

/-- The passes of an analysis as a tree. -/
def Marshalling.toJson (m : Marshalling) : Json :=
  .object [("passes", .ofList .ofNames m.passes)]

namespace Model

/-- The parts of a model by name. -/
def fields (m : Model) : List (String × Json) := [
  ("registry", m.registry.toJson),
  ("vendor_tags", .ofList VendorTag.toJson m.vendorTags),
  ("default_scope", m.defaultScope.toJson),
  ("scopes", .ofList TargetScope.toJson m.scopes),
  ("commands", .ofList Classification.toJson m.commands),
  ("handwritten_commands", .strings m.handwrittenCommands),
  ("command_aliases", m.aliases.toJson),
  ("name_map", m.names.toJson),
  ("marshalling", m.marshalling.toJson)]

/-- A model as a tree. -/
def toJson (m : Model) : Json := .object m.fields

/-- A model as a text. -/
def text (m : Model) : String := m.toJson.pretty 0

end Model

end NativeApi
