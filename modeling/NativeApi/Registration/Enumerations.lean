import NativeApi.Document
import NativeApi.Literal
import NativeApi.Naming.Basic
import NativeApi.Options.Basic
import NativeApi.Registry.Resolve

/-!
# Enumerations

Enumerations and flags are declared as types, and get their members from blocks of their
own, from features and from extensions, in this order.  The first member of a canonical
name wins.  Members that extensions add are numbered in ranges that never meet.
-/

namespace NativeApi

namespace EnumMember

/-! ### Values of members -/

/-- The value of the first member that the first extension adds. -/
def extensionBase : Int := 1000000000

/-- The number of values that an extension has for itself. -/
def extensionRange : Int := 1000

/-- The value at an offset in the range of an extension, if each step on the way to it is a
signed number of 64 bits. -/
def offsetValue? (extension offset : Int) (negative : Bool) : Option Int := do
  let before ← Text.signed64? (extension - 1)
  let range ← Text.signed64? (before * extensionRange)
  let base ← Text.signed64? (range + extensionBase)
  let value ← Text.signed64? (base + offset)
  if negative then Text.signed64? (-value) else some value

/-- The value of a bit of a signed number of 64 bits that is not its sign. -/
def bitValue? (text : String) : Option Int :=
  match Text.readNat? 10 Text.bound32 (Text.trimChars text.toList) with
  | some bit => if bit < 63 then some (Int.ofNat (Nat.pow 2 bit)) else none
  | none => none

/-- The value of a member that is given by its offset in the range of an extension. -/
def valueAtOffset (entry : Element) (blockNumber : Option String) (raw offsetText owner : String) :
    Except Error Int := do
  let some offset := Text.readInt64? (Text.trimChars offsetText.toList)
    | .error (.malformedInput owner
        ("offset '" ++ offsetText ++ "' of " ++ raw ++ " is not an integer"))
  let some numberText := (entry.attribute? "extnumber").or blockNumber
    | .error (.malformedInput owner (raw ++ " has an offset but no extension number"))
  let some number := Text.readInt64? (Text.trimChars numberText.toList)
    | .error (.malformedInput owner
        ("extension number '" ++ numberText ++ "' of " ++ raw ++ " is not an integer"))
  match offsetValue? number offset (entry.attribute? "dir" == some "-") with
  | some value => return value
  | none =>
    .error (.malformedInput owner
      ("offset " ++ toString offset ++ " of " ++ raw ++ " in extension " ++ toString number
        ++ " overflows"))

/-- The value of a member: given as a literal, as a bit, as an offset, or as that of a
member before it. -/
def valueOf (entry : Element) (blockNumber : Option String) (known : Dict Int)
    (owner : String) : Except Error Int :=
  let raw := (entry.attribute? "name").getD ""
  match entry.attribute? "value" with
  | some text =>
    match Literal.read? text with
    | some value => .ok value
    | none =>
      .error (.malformedInput owner
        ("value '" ++ text ++ "' of " ++ raw ++ " is not an integer"))
  | none =>
    match entry.attribute? "bitpos" with
    | some text =>
      match bitValue? text with
      | some value => .ok value
      | none =>
        .error (.malformedInput owner
          ("bitpos '" ++ text ++ "' of " ++ raw ++ " is out of range"))
    | none =>
      match entry.attribute? "offset" with
      | some text => valueAtOffset entry blockNumber raw text owner
      | none =>
        match entry.attribute? "alias" with
        | some target =>
          match known.get? target with
          | some value => .ok value
          | none => .error (.unknownReference "enum member" target owner)
        | none =>
          .error (.malformedInput owner
            ("enum member " ++ raw ++ " has no value, bitpos, offset or alias"))

/-- The implicit member of flags, which stands for none of them. -/
def implicit : EnumMember := ⟨"None", "", 0⟩

end EnumMember

/-- An enumeration without members of its own; flags have the implicit one. -/
def Enumeration.declared (isBitmask : Bool) : Enumeration :=
  ⟨isBitmask, if isBitmask then [EnumMember.implicit] else []⟩

namespace Registry

/-! ### Declarations -/

/-- What the declarations of enumerations have led to so far: the registry, the blocks
that the entities get their members from, and the aliases that are put off. -/
structure EnumDeclarations where
  registry : Registry
  sources : List (Nat × String)
  aliases : List DeclaredAlias

/-- One more declaration of flags. -/
def declareBitmask (n : Naming) (s : EnumDeclarations) (type : Element) :
    Except Error EnumDeclarations := do
  let some raw := type.declaredName?
    | .error (.malformedInput "bitmask" "declaration without a name")
  match type.attribute? "alias" with
  | some target => return { s with aliases := s.aliases ++ [⟨raw, target⟩] }
  | none =>
    let (r, id) := s.registry.register raw (n.typeName raw)
      (.enumeration (Enumeration.declared true))
    match (type.attribute? "requires").or (type.attribute? "bitvalues") with
    | some bits =>
      return { s with registry := r.addRawName bits id, sources := s.sources ++ [(id, bits)] }
    | none => return { s with registry := r }

/-- Whether a raw name is one of flag bits. -/
def isFlagBits (raw : String) : Bool := Text.contains "FlagBits" raw

/-- One more declaration of an enumeration, unless its raw name is known. -/
def declareEnum (n : Naming) (d : Document) (s : EnumDeclarations) (type : Element) :
    Except Error EnumDeclarations := do
  let some raw := type.declaredName?
    | .error (.malformedInput "enum" "declaration without a name")
  match type.attribute? "alias" with
  | some target => return { s with aliases := s.aliases ++ [⟨raw, target⟩] }
  | none =>
    if (s.registry.idOfRaw? raw).isSome then return s
    else
      let isBitmask :=
        (d.enumBlock? raw).bind (·.attribute? "type") == some "bitmask" || isFlagBits raw
      let name := if isBitmask then n.flagBitsName (n.typeName raw) else n.typeName raw
      let (r, id) := s.registry.register raw name
        (.enumeration (Enumeration.declared isBitmask))
      return { s with registry := r, sources := s.sources ++ [(id, raw)] }

/-! ### Aliases -/

/-- The canonical name of an alias of an enumeration. -/
def enumAliasName (n : Naming) (raw : String) : String :=
  if isFlagBits raw then n.flagBitsName (n.typeName raw) else n.typeName raw

/-- The registry with an alias, whose target has to be known or an alias as well; where the
name is known, the alias is one more raw name of it. -/
def registerEnumAlias (n : Naming) (aliasNames : List String) (r : Registry)
    (declared : DeclaredAlias) : Except Error Registry := do
  let target ←
    match r.canonicalOfRaw? declared.target with
    | some name => pure name
    | none =>
      if aliasNames.contains declared.target then pure (enumAliasName n declared.target)
      else .error (.unknownReference "enum" declared.target declared.rawName)
  let name := enumAliasName n declared.rawName
  match r.idOf? name with
  | some id => return r.addRawName declared.rawName id
  | none => return (r.register declared.rawName name (.aliasOf target)).1

/-! ### Members -/

/-- Where a member goes: to the entity at a position, or to the one that a raw name stands
for, on behalf of a block. -/
inductive MemberTarget where
  | entity (id : Nat)
  | extended (raw block : String)

/-- A member that a block contributes, with the number of the block. -/
structure Contribution where
  target : MemberTarget
  entry : Element
  blockNumber : Option String

/-- The members that the own blocks of enumerations contribute. -/
def ownContributions (d : Document) (sources : List (Nat × String)) : List Contribution :=
  sources.flatMap fun (id, name) =>
    match d.enumBlock? name with
    | some block => (block.elements "enum").map (⟨.entity id, ·, none⟩)
    | none => []

/-- The members that a feature or extension contributes. -/
def blockContributions (block : Block) : List Contribution :=
  (block.required "enum").filterMap fun entry =>
    (entry.attribute? "extends").map fun raw =>
      ⟨.extended raw block.name, entry, block.numberText?⟩

/-- The members of all enumerations in the order in which they are contributed. -/
def contributions (o : Options) (d : Document) (sources : List (Nat × String)) :
    List Contribution :=
  ownContributions d sources
    ++ d.features.flatMap blockContributions
    ++ (d.extensions.filter fun block => !block.isDisabled o.disabledExtensions).flatMap
        blockContributions

/-- The position of the entity that a member goes to. -/
def memberTarget (r : Registry) : MemberTarget → Except Error Nat
  | .entity id => .ok id
  | .extended raw block =>
    match r.idOfRaw? raw with
    | some id => r.resolveId id
    | none => .error (.unknownReference "enum" raw block)

/-- An enumeration with one more member, unless its raw name is there, or its canonical
name is there or that of the implicit member. -/
def addEnumMember (member : EnumMember) (e : Enumeration) : Enumeration :=
  if (e.memberOfRaw? member.rawName).isSome || member.name == EnumMember.implicit.name
      || (e.member? member.name).isSome then e
  else { e with members := e.members ++ [member] }

/-- The registry and the known values of members with one more contribution. -/
def contribute (n : Naming) (state : Registry × Dict Int) (c : Contribution) :
    Except Error (Registry × Dict Int) := do
  let (r, known) := state
  let id ← r.memberTarget c.target
  let owner := r.nameOf id
  let some raw := c.entry.attribute? "name"
    | .error (.malformedInput owner "enum member without a name")
  let value ← EnumMember.valueOf c.entry c.blockNumber known owner
  let name ← n.enumMember raw owner
  let some e := (r.get? id).bind Entity.enumeration?
    | .error (.unknownReference "enum" owner raw)
  return (r.modifyKind id fun _ => .enumeration (addEnumMember ⟨name, raw, value⟩ e),
    known.insertNew raw value)

/-- The registry with the declared enumerations, their aliases and their members. -/
def registerEnumerations (o : Options) (n : Naming) (d : Document) (r : Registry) :
    Except Error Registry := do
  let s ← (d.typesOf "bitmask").foldlM (declareBitmask n) ⟨r, [], []⟩
  let s ← (d.typesOf "enum").foldlM (declareEnum n d) s
  let r ← s.aliases.foldlM (registerEnumAlias n (s.aliases.map (·.rawName))) s.registry
  let (r, _) ← (contributions o d s.sources).foldlM (contribute n) (r, .empty)
  return r

end Registry

end NativeApi
