import NativeApi.Command.Parameter

/-!
# Call shapes

A call shape is a signature that a wrapper shows, with a plan that says for each native
parameter where its argument comes from: from the caller, from the number of elements of
arrays that the caller gives, or from a slot of the wrapper's own.
-/

namespace NativeApi

/-- The two signatures of a command: the simplified one leaves out derivable counts. -/
inductive ShapeKind where
  | raw
  | simplified
  deriving DecidableEq

/-- The name of a signature. -/
def ShapeKind.text : ShapeKind → String
  | raw => "Raw"
  | simplified => "Simplified"

/-- A parameter that the caller gives. -/
structure PublicParameter where
  name : String
  rawName : String
  declaredType : String
  role : Role
  optional : Bool
  receiver : Bool
  deriving DecidableEq

/-- Where a native argument comes from. -/
inductive ArgumentSource where
  | caller (index : Nat)
  | countOf (index : Nat) (siblings : List Nat)
  | slot
  deriving DecidableEq

/-- A signature with the plan of its native arguments. -/
structure CallShape where
  kind : ShapeKind
  publicName : String
  parameters : List PublicParameter
  plan : List ArgumentSource
  deriving DecidableEq

namespace CallShape

/-- Whether the caller does not give a parameter. -/
def isHidden (kind : ShapeKind) (p : Parameter) : Bool :=
  p.role.isOutput
    || match p.role with
      | .count _ derivable => p.isWritten || (kind == .simplified && derivable)
      | _ => false

/-- A parameter as the caller gives it. -/
def publicParameter (p : Parameter) : PublicParameter where
  name := p.name
  rawName := p.rawName
  declaredType := p.declaredType
  role := p.role
  optional := p.optional && p.isPointer
  receiver := p.role == .boundSelf

/-- The parameters, each with its index among those that the caller gives, from `next`
on. -/
def indexed (kind : ShapeKind) (next : Nat) : List Parameter → List (Parameter × Option Nat)
  | [] => []
  | p :: ps =>
    if isHidden kind p then (p, none) :: indexed kind next ps
    else (p, some next) :: indexed kind (next + 1) ps

/-- The indices of the arrays whose length is the parameter of a raw name. -/
def arraysCountedBy (rawName : String) (ps : List (Parameter × Option Nat)) : List Nat :=
  ps.filterMap fun (p, index) => if p.role.directLength? == some rawName then index else none

/-- Where the native argument of a parameter comes from. -/
def sourceOf (ps : List (Parameter × Option Nat)) (p : Parameter) (index : Option Nat) :
    ArgumentSource :=
  match index with
  | some index => .caller index
  | none =>
    if p.isWritten then .slot
    else
      match arraysCountedBy p.rawName ps with
      | first :: siblings => .countOf first siblings
      | [] => .slot

/-- The signature of a kind for some parameters. -/
def ofParameters (kind : ShapeKind) (publicName : String) (ps : List Parameter) : CallShape :=
  let indexedParameters := indexed kind 0 ps
  { kind
    publicName
    parameters := (ps.filter fun p => !isHidden kind p).map publicParameter
    plan := indexedParameters.map fun (p, index) => sourceOf indexedParameters p index }

/-- The parameter of a public name. -/
def parameter? (s : CallShape) (name : String) : Option PublicParameter :=
  s.parameters.find? (·.name == name)

end CallShape

end NativeApi
