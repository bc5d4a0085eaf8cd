import NativeApi.Document
import NativeApi.Naming.Basic
import NativeApi.Registry.Basic

/-!
# Handles

A handle is declared by one of two macros, which say whether it is dispatchable, or as an
alias of another type.
-/

namespace NativeApi

/-- The macro of dispatchable handles. -/
def Handle.dispatchableMacro : String := "VK_DEFINE_HANDLE"

/-- The macro of handles that are numbers. -/
def Handle.numberMacro : String := "VK_DEFINE_NON_DISPATCHABLE_HANDLE"

/-- Whether the macro of a declaration is that of dispatchable handles. -/
def Handle.isDispatchable (definition owner : String) : Except Error Bool :=
  let definition := Text.trim definition
  if definition = dispatchableMacro then .ok true
  else if definition = numberMacro then .ok false
  else .error (.unrecognizedConstruct ("handle macro '" ++ definition ++ "'") owner)

namespace Registry

/-- The parent of a handle: the first entry of the attribute. -/
def parentOf (type : Element) : Option String :=
  (type.attribute? "parent").map fun entries =>
    .ofList (Text.trimChars (Text.firstEntry entries.toList))

/-- The registry with a declared handle; an alias is put off. -/
def registerHandle (n : Naming) (state : Registry × List DeclaredAlias) (type : Element) :
    Except Error (Registry × List DeclaredAlias) := do
  let (r, aliases) := state
  let some raw := type.declaredName?
    | .error (.malformedInput "handle" "declaration without a name")
  match type.attribute? "alias" with
  | some target => return (r, aliases ++ [⟨raw, target⟩])
  | none =>
    let name := n.typeName raw
    let some definition := type.childText? "type"
      | .error (.malformedInput name "handle without a defining macro")
    let dispatchable ← Handle.isDispatchable definition name
    let handle : Handle := ⟨dispatchable, parentOf type, []⟩
    return ((r.register raw name (.handle handle)).1, aliases)

/-- The registry with an alias of a handle, whose target has to be known. -/
def registerHandleAlias (n : Naming) (r : Registry) (declared : DeclaredAlias) :
    Except Error Registry :=
  match r.canonicalOfRaw? declared.target with
  | some target =>
    .ok (r.register declared.rawName (n.typeName declared.rawName) (.aliasOf target)).1
  | none => .error (.unknownReference "handle" declared.target declared.rawName)

/-- The registry with the declared handles, and then with their aliases. -/
def registerHandles (n : Naming) (d : Document) (r : Registry) : Except Error Registry := do
  let (r, aliases) ← (d.typesOf "handle").foldlM (registerHandle n) (r, [])
  aliases.foldlM (registerHandleAlias n) r

end Registry

end NativeApi
