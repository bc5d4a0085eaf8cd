import NativeApi.Error
import NativeApi.Naming.Segment
import NativeApi.Options.Basic
import NativeApi.Text.Affix

/-!
# Naming

A `Naming` turns the raw names of an interface into the names of its bindings: types,
enumeration members, commands, methods, members and parameters.  It depends on the
options and on the vendor tags of the document, in their order.
-/

namespace NativeApi

/-- A vendor tag and its spelling in canonical names. -/
structure VendorTag where
  name : String
  canonical : String
  deriving DecidableEq

/-- The rules that canonical names are made by. -/
structure Naming where
  globalPrefix : String
  typePrefix : String
  commandPrefix : String
  acronyms : Dict String
  memberRewrites : Dict String
  vendorTags : List VendorTag

/-- The rules of naming of some options, without vendor tags. -/
def Options.naming (o : Options) : Naming where
  globalPrefix := o.globalPrefix
  typePrefix := o.typePrefix
  commandPrefix := o.commandPrefix
  acronyms := o.acronyms
  memberRewrites := o.memberRewrites
  vendorTags := []

namespace Naming

/-! ### Vendor tags -/

/-- The vendor tag of a name. -/
def vendorTag (name : String) : VendorTag := ⟨name, .ofList (capitalized name.toList)⟩

/-- The rules with one more vendor tag, unless its name is empty or known. -/
def learn (n : Naming) (name : String) : Naming :=
  if name.isEmpty || n.vendorTags.any (·.name == name) then n
  else { n with vendorTags := n.vendorTags ++ [vendorTag name] }

/-- The rules with the vendor tags of some names. -/
def learnAll (n : Naming) (names : List String) : Naming := names.foldl learn n

/-! ### Whole names -/

/-- The segments of a raw name that count: all that are not empty, except for a first one
that is the global prefix. -/
def segments (n : Naming) (raw : List Char) : List (List Char) :=
  match Text.splitAt '_' raw with
  | [] => []
  | first :: rest =>
    let rest := rest.filter (!·.isEmpty)
    if first.isEmpty || Text.equalIgnoringCase first n.globalPrefix.toList then rest
    else first :: rest

/-- The canonical spelling of a raw name: its segments side by side. -/
def translate (n : Naming) (raw : String) : String :=
  .ofList ((n.segments raw.toList).flatMap (spelling n.acronyms))

/-! ### Enumeration members -/

/-- What the name of an enumeration says about its members: the beginning they share, the
end they share, and the vendor tag that the member at hand ends in. -/
structure Affixes where
  front : String
  back : Option String
  vendor : Option String

/-- The affixes once a vendor tag has been looked for. -/
def Affixes.withTag (member : String) (a : Affixes) (tag : VendorTag) : Affixes :=
  match Text.before? tag.canonical a.front with
  | some front => { a with front, back := some tag.canonical }
  | none =>
    if Text.endsWith tag.canonical member then { a with vendor := some tag.canonical } else a

/-- The affixes once flags have been told from other enumerations. -/
def Affixes.withFlags (a : Affixes) : Affixes :=
  match Text.before? "Flags" a.front with
  | some front => { a with front, back := some ("Bit" ++ a.back.getD "") }
  | none => a

/-- The affixes of a member of an enumeration. -/
def affixes (n : Naming) (member owner : String) : Affixes :=
  (n.vendorTags.foldl (Affixes.withTag member) ⟨owner, none, none⟩).withFlags

/-- Whether a name begins with a letter. -/
def beginsWithLetter (name : String) : Bool :=
  match name.toList with
  | [] => false
  | c :: _ => Text.isAlphabetic c

/-- A name without the end that the members of its enumeration share. -/
def withoutBack (a : Affixes) (name : String) : String :=
  match a.back with
  | none => name
  | some back =>
    match Text.before? back name with
    | some front => if front.isEmpty then name else front
    | none =>
      match a.vendor with
      | none => name
      | some vendor =>
        match Text.before? (back ++ vendor) name with
        | some front => front ++ vendor
        | none => name

/-- A name without the beginning that the members of its enumeration share. -/
def withoutFront (a : Affixes) (name : String) : String :=
  (Text.afterIgnoringCase? a.front name).getD name

/-- The name of a member inside its enumeration. -/
def enumMember (n : Naming) (raw owner : String) : Except Error String :=
  let full := n.translate raw
  let a := n.affixes full owner
  let name := withoutFront a full
  if beginsWithLetter name then .ok (withoutBack a name)
  else
    match n.memberRewrites.get? owner with
    | some rewrite => .ok (withoutBack a (rewrite ++ name))
    | none =>
      .error (.unrecognizedConstruct
        ("enum member '" ++ raw ++ "' (stripped to '" ++ name ++ "')") owner)

/-! ### Types -/

/-- What follows the beginning of the names of types, if anything does. -/
def afterTypePrefix? (n : Naming) (raw : String) : Option String :=
  (Text.afterIgnoringCase? n.typePrefix raw).filter (!·.isEmpty)

/-- Whether a raw name begins as the names of types do. -/
def hasTypePrefix (n : Naming) (raw : String) : Bool := (n.afterTypePrefix? raw).isSome

/-- The canonical name of a type. -/
def typeName (n : Naming) (raw : String) : String :=
  n.vendorTags.foldl (fun name tag =>
      match Text.before? tag.name name with
      | some front => front ++ tag.canonical
      | none => name)
    ((n.afterTypePrefix? raw).getD raw)

/-- A name without the first vendor tag that it ends in, and that tag. -/
def splitVendor (n : Naming) (name : String) : String × String :=
  match n.vendorTags.find? fun tag => Text.endsWith tag.canonical name with
  | some tag => ((Text.before? tag.canonical name).getD name, tag.canonical)
  | none => (name, "")

/-- The canonical name of the flags that a type of flag bits belongs to. -/
def flagBitsName (n : Naming) (canonical : String) : String :=
  let (base, vendor) := n.splitVendor canonical
  match Text.before? "FlagBits" base with
  | some stem => stem ++ "Flags" ++ vendor
  | none => canonical

/-! ### Commands and methods -/

/-- The public name of a command. -/
def commandName (n : Naming) (raw : String) : String :=
  ((Text.after? n.commandPrefix raw).filter (!·.isEmpty)).getD raw

/-- A name without the name of a handle at its end, after `Get`, or at its beginning. -/
def withoutHandle (name handle : String) : String :=
  match Text.before? handle name with
  | some front => front
  | none =>
    match Text.after? ("Get" ++ handle) name with
    | some rest => "Get" ++ rest
    | none => (Text.after? handle name).getD name

/-- The public name of a command that is a method of a handle. -/
def methodName (n : Naming) (raw handle : String) : String :=
  let name := n.commandName raw
  let short := withoutHandle name handle
  if short.isEmpty || short == "Get" then name else short

/-! ### Members and parameters -/

/-- What follows the `p` of a pointer, if a `p` or a capital does. -/
def afterPointerMark? : List Char → Option (List Char)
  | 'p' :: c :: cs => if Text.isUppercase c || c = 'p' then some (c :: cs) else none
  | _ => none

/-- The name of a member, without up to two marks where it is a pointer. -/
def memberName (n : Naming) (raw : String) (isPointer : Bool) : String :=
  let strip (cs : List Char) := (afterPointerMark? cs).getD cs
  if isPointer then n.translate (.ofList (strip (strip raw.toList))) else n.translate raw

/-- The name of a parameter, without one mark where it is a pointer. -/
def parameterName (raw : String) (isPointer : Bool) : String :=
  if isPointer then
    match afterPointerMark? raw.toList with
    | some rest => .ofList rest
    | none => raw
  else raw

end Naming

end NativeApi
