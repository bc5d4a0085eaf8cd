import NativeApi.Command.Classification
import NativeApi.Command.Lowering
import NativeApi.Entity.Json

/-!
# Commands as data trees

The role of a parameter stands among the fields of the parameter, and by itself in a call
shape.
-/

namespace NativeApi

/-! ### Parameters -/

/-- A length reference as a tree. -/
def LengthReference.toJson : LengthReference → Json
  | parameter name => .object [("source", .string "parameter"), ("name", .string name)]
  | field name path =>
    .object [("source", .string "field"), ("parameter", .string name),
      ("path", .strings path)]

/-- The name of a treatment. -/
def Treatment.text : Treatment → String
  | value => "value"
  | handle => "handle"
  | flatComposite => "flat_composite"
  | marshalledComposite => "marshalled_composite"
  | incomplete => "opaque"

/-- The fields of a role. -/
def Role.fields : Role → List (String × Json)
  | boundSelf => [("role", .string "bound_self")]
  | input => [("role", .string "input")]
  | optionalInput => [("role", .string "optional_input")]
  | text => [("role", .string "text")]
  | rawBuffer length => [("role", .string "raw_buffer"), ("length", length.toJson)]
  | inputArray length => [("role", .string "input_array"), ("count", length.toJson)]
  | output => [("role", .string "output")]
  | outputArray length => [("role", .string "output_array"), ("count", length.toJson)]
  | count array derivable =>
    [("role", .string "count"), ("array", .string array), ("derivable", .bool derivable)]

/-- A parameter as a tree. -/
def Parameter.toJson (p : Parameter) : Json :=
  .object (
    [("name", .string p.name),
      ("raw_name", .string p.rawName),
      ("declared_type", .string p.declaredType),
      ("raw_type", .string p.rawType),
      ("is_pointer", .bool p.isPointer),
      ("is_const", .bool p.isConst),
      ("is_double_pointer", .bool p.isDoublePointer),
      ("optional", .bool p.optional),
      ("len", .ofOption LengthReference.toJson p.length),
      ("fixed_length", .ofOption ArrayLength.toJson p.fixedLength),
      ("treatment", .string p.treatment.text)]
    ++ p.role.fields)

/-! ### Commands -/

/-- The name of a result convention. -/
def ResultConvention.text : ResultConvention → String
  | value => "returns_value_directly"
  | statusCode => "status_code"

/-- A command as a tree. -/
def Command.toJson (c : Command) : Json :=
  .object [
    ("name", .string c.name),
    ("return_type", .string c.returnType),
    ("raw_return_type", .string c.rawReturnType),
    ("parameters", .ofList Parameter.toJson c.parameters),
    ("result_convention", .string c.resultConvention.text)]

/-- A return strategy as a tree. -/
def ReturnStrategy.toJson : ReturnStrategy → Json
  | passthrough => .object [("strategy", .string "passthrough")]
  | singleValue output =>
    .object [("strategy", .string "single_value"), ("output", .string output)]
  | fillKnownLength output length =>
    .object [("strategy", .string "fill_known_length"), ("output", .string output),
      ("length", length.toJson)]
  | queryThenFill count output =>
    .object [("strategy", .string "query_then_fill"), ("count", .string count),
      ("output", .string output)]

/-- What a wrapper returns as a tree. -/
def PublicReturn.toJson : PublicReturn → Json
  | void => .object [("returns", .string "void")]
  | value type => .object [("returns", .string "value"), ("type", .string type)]
  | array type => .object [("returns", .string "array"), ("type", .string type)]

/-! ### Call shapes -/

/-- The name of a kind of signatures in a tree. -/
def ShapeKind.fieldText : ShapeKind → String
  | raw => "raw"
  | simplified => "simplified"

/-- A public parameter as a tree. -/
def PublicParameter.toJson (p : PublicParameter) : Json :=
  .object [
    ("name", .string p.name),
    ("raw_name", .string p.rawName),
    ("declared_type", .string p.declaredType),
    ("role", .object p.role.fields),
    ("optional", .bool p.optional),
    ("receiver", .bool p.receiver)]

/-- The source of an argument as a tree. -/
def ArgumentSource.toJson : ArgumentSource → Json
  | caller index => .object [("from", .string "public"), ("index", .nat index)]
  | countOf index siblings =>
    .object [("from", .string "count_of"), ("index", .nat index),
      ("siblings", .ofList .nat siblings)]
  | slot => .object [("from", .string "slot")]

/-- A native argument as a tree. -/
def NativeArgument.toJson : NativeArgument → Json
  | value v => .object [("kind", .string "value"), ("value", v)]
  | derivedCount count => .object [("kind", .string "derived_count"), ("value", .nat count)]
  | absent => .object [("kind", .string "absent")]
  | slot => .object [("kind", .string "slot")]

/-- A call shape as a tree. -/
def CallShape.toJson (s : CallShape) : Json :=
  .object [
    ("kind", .string s.kind.fieldText),
    ("public_name", .string s.publicName),
    ("parameters", .ofList PublicParameter.toJson s.parameters),
    ("plan", .ofList ArgumentSource.toJson s.plan)]

/-- A classification as a tree. -/
def Classification.toJson (c : Classification) : Json :=
  .object [
    ("command", c.command.toJson),
    ("public_name", .string c.publicName),
    ("bound_handle", .ofOption .string c.boundHandle),
    ("strategy", c.strategy.toJson),
    ("returns", c.returns.toJson),
    ("shapes", .ofList CallShape.toJson c.shapes),
    ("limitations", .strings c.limitations),
    ("success_member", .string c.successMember)]

end NativeApi
