import NativeApi.Document
import NativeApi.Literal
import NativeApi.Naming.Basic
import NativeApi.Options.Basic
import NativeApi.Registry.Resolve

/-!
# Basic types and constants

The types that depend on no other declaration: the types of the language, platform types,
pointers to functions and basic types with a width, and the constants of the interface.
`Registry.reference` finds the type of a raw name and registers it on first sight where a
table knows it.
-/

namespace NativeApi.Registry

/-- The registry with a primitive type. -/
def registerPrimitive (r : Registry) (raw name : String) (width : Width) : Registry :=
  (r.register raw name (.primitive width)).1

/-! ### References -/

/-- The canonical name and the width under which a table knows a raw name, or why none
does. -/
def knownPrimitive (o : Options) (raw context : String) : Except Error (String × Width) :=
  match o.builtinTypes.get? raw with
  | some width => .ok (width.text, width)
  | none =>
    if Text.endsWith "_t" raw then
      match o.basicTypes.get? raw with
      | some width => .ok (width.text, width)
      | none => .error (.unmappedBasicType raw)
    else if Text.beginsWith "PFN_" raw then .ok (raw, .pointer)
    else
      match o.foreignTypes.get? raw with
      | some width => .ok (raw, width)
      | none => .error (.unknownReference "type" raw context)

/-- Refers to the type of a raw name: gives the canonical name that it leads to, or else
registers the type under the name that a table knows.  Where there is none, the registry is
left as it is. -/
def referTo (o : Options) (raw context : String) : EStateM Error Registry String := do
  let r ← get
  match r.canonicalOfRaw? raw with
  | some name => return name
  | none =>
    let (name, width) ← MonadExcept.ofExcept (knownPrimitive o raw context)
    let (r, id) := r.register raw name (.primitive width)
    set r
    return r.nameOf id

/-- The canonical name of the type that a raw name refers to, and the registry with that
type. -/
def reference (o : Options) (r : Registry) (raw context : String) :
    Except Error (Registry × String) :=
  match referTo o raw context r with
  | .ok name r => .ok (r, name)
  | .error e _ => .error e

/-! ### Platforms and included types -/

/-- The platforms of a document that have a name. -/
def platformsOf (d : Document) : List Platform :=
  d.platforms.filterMap fun e =>
    (e.attribute? "name").map fun name => ⟨name, e.attribute? "protect"⟩

/-- The registry with the types of the language. -/
def registerBuiltins (o : Options) (r : Registry) : Registry :=
  o.builtinTypes.entries.foldl
    (fun r entry => r.registerPrimitive entry.1 entry.2.text entry.2) r

/-- The registry with the known platform structures. -/
def registerForeignStructs (o : Options) (r : Registry) : Registry :=
  o.foreignStructs.entries.foldl
    (fun r entry =>
      (r.register entry.1 entry.2
        (.composite { Composite.shell .struct with foreign := true })).1)
    r

/-- The registry with a platform type, which is incomplete where no table knows it. -/
def registerForeign (o : Options) (r : Registry) (raw : String) : Except Error Registry :=
  if (r.idOfRaw? raw).isSome then .ok r
  else if Text.endsWith "_t" raw then
    (r.reference o raw "platform types").map (·.1)
  else .ok (r.registerPrimitive raw raw ((o.foreignTypes.get? raw).getD .incomplete))

/-- The registry with a declared type that is a platform type or a pointer to a
function. -/
def registerIncluded (o : Options) (n : Naming) (r : Registry) (type : Element) :
    Except Error Registry :=
  match type.declaredName? with
  | none => .ok r
  | some raw =>
    match type.attribute? "category" with
    | none => if (type.attribute? "requires").isSome then r.registerForeign o raw else .ok r
    | some category =>
      if category = "funcpointer" then .ok (r.registerPrimitive raw (n.typeName raw) .pointer)
      else .ok r

/-! ### Basic types -/

/-- The registry with a declared basic type, which has the width of the type that it
renames. -/
def registerBasetype (o : Options) (n : Naming) (r : Registry) (type : Element) :
    Except Error Registry := do
  let some raw := type.declaredName?
    | .error (.malformedInput "basetype" "declaration without a name")
  let name := n.typeName raw
  match type.childText? "type" with
  | none => return r.registerPrimitive raw name .incomplete
  | some target =>
    let (r, target) ← r.reference o (Text.trim target) name
    let entity ← r.resolve target
    return r.registerPrimitive raw name (entity.primitive?.getD .incomplete)

/-! ### Constants -/

/-- The registry with a constant, whose value is given or that of a constant before it; one
that is no integer is left out. -/
def registerConstant (r : Registry) (entry : Element) : Except Error Registry :=
  match entry.attribute? "name" with
  | none => .ok r
  | some raw =>
    match entry.attribute? "alias" with
    | some target =>
      match r.constants.get? target with
      | some value => .ok { r with constants := r.constants.insert raw value }
      | none => .error (.unknownReference "API constant" target raw)
    | none =>
      match (entry.attribute? "value").bind Literal.read? with
      | some value => .ok { r with constants := r.constants.insert raw value }
      | none => .ok r

/-- The entries of the block of constants. -/
def constantEntries (d : Document) : List Element :=
  match d.enumBlock? Document.constantsBlock with
  | some block => block.elements "enum"
  | none => []

end NativeApi.Registry
