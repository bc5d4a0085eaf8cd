import NativeApi.Width

/-!
# Entities

The types of an interface as they are known once they are declared: primitive types,
handles, enumerations, composites (structures and unions) and aliases, each with a raw
name and a canonical one.
-/

namespace NativeApi

/-! ### Enumerations -/

/-- A member of an enumeration; the implicit member of flags has an empty raw name. -/
structure EnumMember where
  name : String
  rawName : String
  value : Int
  deriving DecidableEq

/-- A list of named values, of which those of flags may be combined. -/
structure Enumeration where
  isBitmask : Bool
  members : List EnumMember
  deriving DecidableEq

namespace Enumeration

/-- The member of a canonical name. -/
def member? (e : Enumeration) (name : String) : Option EnumMember :=
  e.members.find? (·.name == name)

/-- The member of a raw name. -/
def memberOfRaw? (e : Enumeration) (raw : String) : Option EnumMember :=
  e.members.find? (·.rawName == raw)

/-- The first member with a value. -/
def memberOfValue? (e : Enumeration) (value : Int) : Option EnumMember :=
  e.members.find? (·.value == value)

/-- The value of the member of a canonical name. -/
def valueOf? (e : Enumeration) (name : String) : Option Int := (e.member? name).map (·.value)

end Enumeration

/-! ### Handles -/

/-- A reference to an object of the interface, with the commands that are its methods. -/
structure Handle where
  dispatchable : Bool
  parent : Option String
  methods : List String
  deriving DecidableEq

/-- A dispatchable handle is a pointer, and any other is a number of 64 bits. -/
def Handle.width (h : Handle) : Width := if h.dispatchable then .pointer else .u64

/-! ### Composites -/

/-- The number of elements of an inline array. -/
inductive ArrayLength where
  | literal (count : Nat)
  | constant (name : String) (value : Nat)
  deriving DecidableEq

/-- The number of elements. -/
def ArrayLength.count : ArrayLength → Nat
  | literal count => count
  | constant _ value => value

/-- How many values a member holds. -/
inductive Arity where
  | scalar
  | fixedArray (length : ArrayLength)
  | linkedArray (lengthMember : String)
  deriving DecidableEq

/-- Whether a member holds an array. -/
def Arity.isArray : Arity → Bool
  | scalar => false
  | _ => true

/-- A member of a composite. -/
structure Member where
  name : String
  rawName : String
  declaredType : String
  rawType : String
  isPointer : Bool
  isConstPointer : Bool
  isDoublePointer : Bool
  optional : Bool
  arity : Arity
  counter : Option String
  values : Option String
  deriving DecidableEq

/-- The two kinds of composites. -/
inductive CompositeKind where
  | struct
  | union
  deriving DecidableEq

/-- A structure or union. -/
structure Composite where
  kind : CompositeKind
  members : List Member
  needsMarshalling : Bool
  base : Option String
  structureType : Option String
  foreign : Bool
  returnedOnly : Bool
  deriving DecidableEq

namespace Composite

/-- A composite of which no member is known. -/
def shell (kind : CompositeKind) : Composite where
  kind := kind
  members := []
  needsMarshalling := false
  base := none
  structureType := none
  foreign := false
  returnedOnly := false

/-- The member of a raw name. -/
def memberOfRaw? (c : Composite) (raw : String) : Option Member :=
  c.members.find? (·.rawName == raw)

end Composite

/-! ### Entities -/

/-- What an entity is. -/
inductive Entity.Kind where
  | primitive (width : Width)
  | handle (handle : Handle)
  | enumeration (enumeration : Enumeration)
  | composite (composite : Composite)
  | aliasOf (target : String)
  deriving DecidableEq

/-- A declared type. -/
structure Entity where
  name : String
  rawName : String
  kind : Entity.Kind
  deriving DecidableEq

namespace Entity

/-- Whether an entity only stands for another one. -/
def isAlias (e : Entity) : Bool :=
  match e.kind with
  | .aliasOf _ => true
  | _ => false

/-- The width of a primitive type. -/
def primitive? (e : Entity) : Option Width :=
  match e.kind with
  | .primitive width => some width
  | _ => none

/-- An entity as a handle. -/
def handle? (e : Entity) : Option Handle :=
  match e.kind with
  | .handle handle => some handle
  | _ => none

/-- An entity as an enumeration. -/
def enumeration? (e : Entity) : Option Enumeration :=
  match e.kind with
  | .enumeration enumeration => some enumeration
  | _ => none

/-- An entity as a composite. -/
def composite? (e : Entity) : Option Composite :=
  match e.kind with
  | .composite composite => some composite
  | _ => none

/-- The name of what an entity is. -/
def kindName (e : Entity) : String :=
  match e.kind with
  | .primitive _ => "primitive"
  | .handle _ => "handle"
  | .enumeration _ => "enumeration"
  | .composite _ => "composite"
  | .aliasOf _ => "alias"

variable {e : Entity}

theorem handle?_eq_some_iff {handle : Handle} :
  e.handle? = some handle ↔ e.kind = .handle handle
  := by
  obtain ⟨name, rawName, kind⟩ := e
  cases kind <;> simp [handle?]

theorem enumeration?_eq_some_iff {enumeration : Enumeration} :
  e.enumeration? = some enumeration ↔ e.kind = .enumeration enumeration
  := by
  obtain ⟨name, rawName, kind⟩ := e
  cases kind <;> simp [enumeration?]

theorem composite?_eq_some_iff {composite : Composite} :
  e.composite? = some composite ↔ e.kind = .composite composite
  := by
  obtain ⟨name, rawName, kind⟩ := e
  cases kind <;> simp [composite?]

end Entity

end NativeApi
