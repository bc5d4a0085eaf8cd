import NativeApi.Declarator
import NativeApi.LengthReference
import NativeApi.Registration.BasicTypes

/-!
# Structures and unions

Composites are registered in two rounds, so that members may have the type of any
composite of the document: first all of them without members, with their aliases, and
then the members of each.
-/

namespace NativeApi.Registry

/-! ### The first round -/

/-- What the declarations of composites have led to so far: the registry, the declared
ones with their positions, and the aliases that are put off. -/
structure CompositeDeclarations where
  registry : Registry
  declared : List (Nat × Element)
  aliases : List DeclaredAlias

/-- The kind of composite that a type is declared as. -/
def compositeKind? (type : Element) : Option CompositeKind :=
  match type.attribute? "category" with
  | some category =>
    if category = "struct" then some .struct
    else if category = "union" then some .union
    else none
  | none => none

/-- One more declaration, if it is one of a composite. -/
def declareComposite (n : Naming) (s : CompositeDeclarations) (type : Element) :
    Except Error CompositeDeclarations := do
  match compositeKind? type with
  | none => return s
  | some kind =>
    let some raw := type.declaredName?
      | .error (.malformedInput "composite" "declaration without a name")
    match type.attribute? "alias" with
    | some target => return { s with aliases := s.aliases ++ [⟨raw, target⟩] }
    | none =>
      let shell := { Composite.shell kind with
        returnedOnly := type.attribute? "returnedonly" == some "true" }
      let (r, id) := s.registry.register raw (n.typeName raw) (.composite shell)
      return { s with registry := r, declared := s.declared ++ [(id, type)] }

/-- The registry with an alias, whose target has to be known or an alias as well. -/
def registerCompositeAlias (n : Naming) (aliasNames : List String) (r : Registry)
    (declared : DeclaredAlias) : Except Error Registry := do
  let target ←
    match r.canonicalOfRaw? declared.target with
    | some name => pure name
    | none =>
      if aliasNames.contains declared.target then pure (n.typeName declared.target)
      else .error (.unknownReference "composite" declared.target declared.rawName)
  return (r.register declared.rawName (n.typeName declared.rawName) (.aliasOf target)).1

/-! ### Members -/

/-- How many values a declared member holds. -/
def arityOf (d : Declarator) : Arity :=
  match d.fixedLength with
  | some length => .fixedArray length
  | none =>
    match d.lengthReference? with
    | some reference => if d.isPointer then .linkedArray reference else .scalar
    | none => .scalar

/-- One more member of an owner, and the registry with its type. -/
def addMember (o : Options) (n : Naming) (owner : String)
    (state : Registry × List Member) (e : Element) :
    Except Error (Registry × List Member) := do
  let (r, members) := state
  let d ← Declarator.parse e owner r.constants
  let (r, declaredType) ← r.reference o d.rawType owner
  let member : Member :=
    { name := n.memberName d.rawName d.isPointer
      rawName := d.rawName
      declaredType
      rawType := d.rawType
      isPointer := d.isPointer
      isConstPointer := d.isConst
      isDoublePointer := d.isDoublePointer
      optional := d.optional
      arity := arityOf d
      counter := none
      values := e.attribute? "values" }
  return (r, members ++ [member])

/-- The structure type of a composite: the values of the member that says it. -/
def structureTypeOf (members : List Member) : Option String :=
  members.findSome? fun m => if m.rawName = "sType" then m.values else none

/-- Accepts members whose length members are among them. -/
def checkLengthMembers (members : List Member) (owner : String) : Except Error Unit :=
  members.forM fun m =>
    match m.arity with
    | .linkedArray lengthMember =>
      let head := LengthReference.head lengthMember
      if members.any (·.rawName == head) then .ok ()
      else .error (.unknownReference "length member" head owner)
    | _ => .ok ()

/-- A member with its counter, where a table names one that is among the members. -/
def withCounter (counters : Dict String) (rawNames : Dict String) (m : Member) : Member :=
  match (counters.get? m.name).bind rawNames.get? with
  | none => m
  | some counter =>
    match m.arity with
    | .scalar => if m.isPointer then { m with arity := .linkedArray counter } else m
    | .fixedArray _ => { m with counter := some counter }
    | .linkedArray _ => m

/-- The members with their counters. -/
def withCounters (counters : Dict String) (members : List Member) : List Member :=
  members.map (withCounter counters (.ofList (members.map fun m => (m.name, m.rawName))))

/-- The canonical name of the structure that a structure extends: the first entry of the
attribute. -/
def extendedBy (r : Registry) (type : Element) (owner : String) :
    Except Error (Option String) :=
  match type.attribute? "structextends" with
  | none => .ok none
  | some entries =>
    let base := String.ofList (Text.trimChars (Text.firstEntry entries.toList))
    if base.isEmpty then .ok none
    else
      match r.canonicalOfRaw? base with
      | some name => .ok (some name)
      | none => .error (.unknownReference "structure" base owner)

/-- A composite with what its declaration says beside its kind. -/
def describe (members : List Member) (extended structureType : Option String) :
    Entity.Kind → Entity.Kind
  | .composite c => .composite { c with members, base := extended, structureType }
  | kind => kind

/-- The registry with the members of a declared composite. -/
def learnMembers (o : Options) (n : Naming) (r : Registry) (declared : Nat × Element) :
    Except Error Registry := do
  let (id, type) := declared
  let owner := r.nameOf id
  let (r, members) ← (type.elements "member").foldlM (addMember o n owner) (r, [])
  checkLengthMembers members owner
  let extended ← r.extendedBy type owner
  return r.modifyKind id
    (describe (withCounters o.fieldCounters members) extended (structureTypeOf members))

/-- The registry with the declared composites, their aliases and their members. -/
def registerComposites (o : Options) (n : Naming) (d : Document) (r : Registry) :
    Except Error Registry := do
  let s ← d.types.foldlM (declareComposite n) ⟨r, [], []⟩
  let r ← s.aliases.foldlM (registerCompositeAlias n (s.aliases.map (·.rawName))) s.registry
  s.declared.foldlM (learnMembers o n) r

end NativeApi.Registry
