import NativeApi.Declarator
import NativeApi.LengthReference
import NativeApi.Naming.Basic
import NativeApi.Options.Basic
import NativeApi.Registry.Resolve

/-!
# Parameters

A parameter of a native command has a role, which says what a wrapper does with it.  The
role follows from its own declaration at first; then every parameter that is the length
of an array becomes its count.
-/

namespace NativeApi

/-- How a value of a type crosses over to native code. -/
inductive Treatment where
  | value
  | handle
  | flatComposite
  | marshalledComposite
  | incomplete
  deriving DecidableEq

/-- How values of what an entity is cross over. -/
def Treatment.ofKind : Entity.Kind → Treatment
  | .primitive width => if width.isValue then value else incomplete
  | .enumeration _ => value
  | .handle _ => handle
  | .composite c => if c.needsMarshalling then marshalledComposite else flatComposite
  | .aliasOf _ => incomplete

/-- How values of the type of a canonical name cross over. -/
def Registry.treatmentOf (r : Registry) (name : String) : Except Error Treatment :=
  (r.resolve name).map fun entity => .ofKind entity.kind

/-! ### Roles -/

/-- What a parameter is for. -/
inductive Role where
  | boundSelf
  | input
  | optionalInput
  | text
  | rawBuffer (length : LengthReference)
  | inputArray (count : LengthReference)
  | output
  | outputArray (count : LengthReference)
  | count (array : String) (derivable : Bool)
  deriving DecidableEq

namespace Role

/-- Whether the native command gives a result through the parameter. -/
def isOutput : Role → Bool
  | output => true
  | outputArray _ => true
  | rawBuffer _ => true
  | _ => false

/-- Whether the parameter is an array that the caller gives. -/
def isInputArray : Role → Bool
  | inputArray _ => true
  | _ => false

/-- The length of the array that the parameter is. -/
def length? : Role → Option LengthReference
  | rawBuffer length => some length
  | inputArray length => some length
  | outputArray length => some length
  | _ => none

/-- The parameter that is the length of the array, if it is one by itself. -/
def directLength? (role : Role) : Option String :=
  match role.length? with
  | some (.parameter name) => some name
  | _ => none

end Role

/-! ### Parameters -/

/-- A parameter of a command. -/
structure Parameter where
  name : String
  rawName : String
  declaredType : String
  rawType : String
  isPointer : Bool
  isConst : Bool
  isDoublePointer : Bool
  optional : Bool
  length : Option LengthReference
  fixedLength : Option ArrayLength
  treatment : Treatment
  role : Role
  deriving DecidableEq

namespace Parameter

/-- Whether native code may write through the parameter. -/
def isWritten (p : Parameter) : Bool := p.isPointer && !p.isConst

/-- Whether a parameter may be the number of elements of the one after it. -/
def isCountCandidate (o : Options) (p : Parameter) : Bool :=
  o.isCountType p.rawType && p.fixedLength.isNone

/-- The role that follows from a declaration by itself. -/
def initialRole (d : Declarator) (length : Option LengthReference) (isSelf : Bool) : Role :=
  if isSelf then .boundSelf
  else if d.isText && d.isConst then .text
  else if d.isPointer && !d.isConst then
    match length with
    | some length => if d.rawType = "void" then .rawBuffer length else .outputArray length
    | none => .output
  else
    match length with
    | some count =>
      if d.isPointer then .inputArray count else .input
    | none => if d.optional && d.isPointer then .optionalInput else .input

/-- The length of a declaration, whose first name has to be one of the given ones. -/
def lengthOf (rawNames : List String) (d : Declarator) (owner : String) :
    Except Error (Option LengthReference) :=
  match d.lengthReference? with
  | none => .ok none
  | some text =>
    let reference := LengthReference.parse text
    if rawNames.contains reference.parameterName then .ok (some reference)
    else .error (.unknownReference "length parameter" reference.parameterName owner)

/-- The parameter of a declaration, before it may become a count. -/
def ofDeclarator (r : Registry) (owner : String) (rawNames : List String) (isSelf : Bool)
    (d : Declarator) : Except Error Parameter := do
  let .ok entity := r.resolveRaw d.rawType
    | .error (.unknownReference "type" d.rawType owner)
  let length ← lengthOf rawNames d owner
  let treatment ← r.treatmentOf entity.name
  return {
    name := Naming.parameterName d.rawName d.isPointer
    rawName := d.rawName
    declaredType := entity.name
    rawType := d.rawType
    isPointer := d.isPointer
    isConst := d.isConst
    isDoublePointer := d.isDoublePointer
    optional := d.optional
    length
    fixedLength := d.fixedLength
    treatment
    role := initialRole d length isSelf }

/-! ### Counts -/

/-- An array whose length is a parameter by itself. -/
structure CountLink where
  count : String
  array : String
  isInput : Bool

/-- The arrays among some parameters whose lengths are parameters by themselves. -/
def countLinks (ps : List Parameter) : List CountLink :=
  ps.filterMap fun p =>
    p.role.directLength?.map fun count => ⟨count, p.rawName, p.role.isInputArray⟩

/-- The parameter as the count of an array, and of those that it counts already; it can be
derived if one of them is an input and the count itself is no pointer. -/
def asCount (link : CountLink) (p : Parameter) : Parameter :=
  let derivable := link.isInput && !p.isPointer
  match p.role with
  | .count array existing => { p with role := .count array (existing || derivable) }
  | .boundSelf => p
  | _ => { p with role := .count link.array derivable }

/-- The parameters with the first one that a link names as its count. -/
def linkCount (link : CountLink) : List Parameter → List Parameter
  | [] => []
  | p :: ps => if p.rawName = link.count then asCount link p :: ps else p :: linkCount link ps

/-- The parameters with all counts linked. -/
def linkCounts (ps : List Parameter) : List Parameter :=
  (countLinks ps).foldl (fun ps link => linkCount link ps) ps

/-! ### The parameters of a command -/

/-- The parameters of some declarations, of which the first may be the bound one. -/
def ofDeclarators (r : Registry) (owner : String) (isBound : Bool) (ds : List Declarator) :
    Except Error (List Parameter) := do
  let rawNames := ds.map (·.rawName)
  match ds with
  | [] => return []
  | first :: rest =>
    let head ← ofDeclarator r owner rawNames isBound first
    let tail ← rest.mapM (ofDeclarator r owner rawNames false)
    return linkCounts (head :: tail)

/-- The parameters that a command declares. -/
def ofCommand (r : Registry) (command : Element) (owner : String) (isBound : Bool) :
    Except Error (List Parameter) := do
  let ds ← (command.elements "param").mapM (Declarator.parse · owner r.constants)
  ofDeclarators r owner isBound ds

end Parameter

end NativeApi
