import NativeApi.Command.CallShape
import NativeApi.Json.Writer

/-!
# Lowering of calls

The arguments of a caller are lowered to native ones by the plan of a call shape.  Null
stands for an optional argument that is left out and is refused elsewhere, and all arrays
that one count belongs to have to have the same number of elements.

A plan may ask for an argument that there is not.  `CallShape.attempt` keeps this apart from
calls that are refused, and `CallShape.lower` makes an error of either; the plans of
`CallShape.ofParameters` never do so.
-/

namespace NativeApi

/-- An argument of a native command. -/
inductive NativeArgument where
  | value (value : Json)
  | derivedCount (count : Nat)
  | absent
  | slot

namespace CallShape

/-- Why a call has no native arguments: it is refused, or its plan asks for an argument that
there is not. -/
inductive Failure where
  | refused (problem : Error)
  | missing (index : Nat)
  deriving DecidableEq

/-- The error of a call that fails. -/
def Failure.error : Failure → Error
  | refused problem => problem
  | missing index => .unknownReference "argument" (toString index) "plan"

/-- The error of a call that is refused, with its reason. -/
def mismatch (s : CallShape) (reason : String) : Error :=
  .argumentMismatch (s.publicName ++ " (" ++ s.kind.text ++ ")") reason

/-- The public parameter at an index with the argument for it. -/
def argument? (s : CallShape) (arguments : List Json) (index : Nat) :
    Option (PublicParameter × Json) :=
  match s.parameters[index]?, arguments[index]? with
  | some p, some a => some (p, a)
  | _, _ => none

/-- The native argument that the caller gives. -/
def callerArgument (s : CallShape) (arguments : List Json) (index : Nat) :
    Except Failure NativeArgument :=
  match s.argument? arguments index with
  | none => .error (.missing index)
  | some (p, .null) =>
    if p.optional then .ok .absent else .error (.refused (s.mismatch (p.name ++ " is required")))
  | some (_, value) => .ok (.value value)

/-- The number of elements of an argument: of an array its items, of a text its bytes, and
none of an optional one that is left out. -/
def elementCount (s : CallShape) (arguments : List Json) (index : Nat) : Except Failure Nat :=
  match s.argument? arguments index with
  | none => .error (.missing index)
  | some (_, .array items) => .ok items.length
  | some (_, .string text) => .ok text.utf8ByteSize
  | some (p, value) =>
    let problem := s.mismatch (p.name ++ " must be an array, got " ++ value.sortedFields.compact)
    match value with
    | .null => if p.optional then .ok 0 else .error (.refused problem)
    | _ => .error (.refused problem)

/-- The public name of the parameter at an index. -/
def nameAt (s : CallShape) (index : Nat) : String :=
  match s.parameters[index]? with
  | some p => p.name
  | none => ""

/-- Accepts an array that has the given number of elements. -/
def checkSibling (s : CallShape) (arguments : List Json) (index count sibling : Nat) :
    Except Failure Unit := do
  let other ← s.elementCount arguments sibling
  if other = count then return ()
  else
    .error (.refused (s.mismatch
      (s.nameAt sibling ++ " has " ++ toString other ++ " elements but " ++ s.nameAt index
        ++ " has " ++ toString count)))

/-- The native argument of a source. -/
def lowerSource (s : CallShape) (arguments : List Json) : ArgumentSource →
    Except Failure NativeArgument
  | .caller index => s.callerArgument arguments index
  | .countOf index siblings => do
    let count ← s.elementCount arguments index
    siblings.forM (s.checkSibling arguments index count)
    return .derivedCount count
  | .slot => .ok .slot

/-- The native arguments for the arguments of a caller, or why there are none. -/
def attempt (s : CallShape) (arguments : List Json) : Except Failure (List NativeArgument) :=
  if arguments.length = s.parameters.length then s.plan.mapM (s.lowerSource arguments)
  else
    .error (.refused (s.mismatch
      ("expected " ++ toString s.parameters.length ++ " arguments, got "
        ++ toString arguments.length)))

/-- The native arguments for the arguments of a caller. -/
def lower (s : CallShape) (arguments : List Json) : Except Error (List NativeArgument) :=
  (s.attempt arguments).mapError Failure.error

end CallShape

end NativeApi
