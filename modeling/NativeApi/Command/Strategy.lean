import NativeApi.Command.Parameter

/-!
# Return strategies

The outputs of a command may become what its wrapper returns: a single value, an array
whose length is known before the call, or an array whose length is asked for first.
-/

namespace NativeApi

/-- What the native result of a command says. -/
inductive ResultConvention where
  | value
  | statusCode
  deriving DecidableEq

/-- A command with its result and its parameters. -/
structure Command where
  name : String
  returnType : String
  rawReturnType : String
  parameters : List Parameter
  resultConvention : ResultConvention
  deriving DecidableEq

namespace Command

/-- The parameter of a raw name. -/
def parameter? (c : Command) (raw : String) : Option Parameter :=
  c.parameters.find? (·.rawName == raw)

/-- The parameters that give results. -/
def outputs (c : Command) : List Parameter := c.parameters.filter (·.role.isOutput)

/-- Whether the native result leaves room for the outputs as what a wrapper returns. -/
def synthesizesReturn (c : Command) : Bool :=
  c.rawReturnType == "void" || c.resultConvention == .statusCode

end Command

/-- How outputs become what a wrapper returns. -/
inductive ReturnStrategy where
  | passthrough
  | singleValue (output : String)
  | fillKnownLength (output : String) (length : LengthReference)
  | queryThenFill (count output : String)
  deriving DecidableEq

/-- What a wrapper returns. -/
inductive PublicReturn where
  | void
  | value (type : String)
  | array (type : String)
  deriving DecidableEq

namespace ReturnStrategy

/-- The strategy for the only output of a command. -/
def ofOnlyOutput? (c : Command) (output : Parameter) : Option ReturnStrategy :=
  match output.role with
  | .output => some (.singleValue output.rawName)
  | .outputArray length | .rawBuffer length =>
    (c.parameter? length.parameterName).map fun counter =>
      if length.isDirect && counter.isWritten then
        .queryThenFill counter.rawName output.rawName
      else .fillKnownLength output.rawName length
  | _ => none

/-- The first two neighbours of which one may count the elements of the other, an
output. -/
def countedPair? (o : Options) : List Parameter → Option (Parameter × Parameter)
  | count :: output :: rest =>
    if count.isCountCandidate o && output.role.isOutput then some (count, output)
    else countedPair? o (output :: rest)
  | _ => none

/-- The strategy for an output and the parameter before it. -/
def ofPair (count output : Parameter) : ReturnStrategy :=
  if count.isWritten then .queryThenFill count.rawName output.rawName
  else .fillKnownLength output.rawName (.parameter count.rawName)

/-- The raw names of some parameters in a row. -/
def listed (ps : List Parameter) : String := String.intercalate ", " (ps.map (·.rawName))

/-- What the strategy for an output leaves out. -/
def ignoredOutputs (outputs : List Parameter) (output : Parameter) : List String :=
  match outputs.filter (·.rawName != output.rawName) with
  | [] => []
  | ignored => ["outputs " ++ listed ignored ++ " are not part of the public return"]

/-- The strategy for several outputs, or one without a strategy of its own, with what it
leaves out. -/
def ofNeighbours (o : Options) (c : Command) : ReturnStrategy × List String :=
  match countedPair? o c.parameters with
  | some (count, output) => (ofPair count output, ignoredOutputs c.outputs output)
  | none =>
    (.passthrough,
      ["no return synthesis for outputs " ++ listed c.outputs
        ++ "; left as native out parameters"])

/-- The strategy for the outputs of a command, with what it leaves out. -/
def ofOutputs (o : Options) (c : Command) : ReturnStrategy × List String :=
  match c.outputs with
  | [] => (.passthrough, [])
  | [only] =>
    match ofOnlyOutput? c only with
    | some strategy => (strategy, [])
    | none => ofNeighbours o c
  | _ => ofNeighbours o c

/-- The strategy of a command, with what it leaves out. -/
def ofCommand (o : Options) (c : Command) : ReturnStrategy × List String :=
  if c.synthesizesReturn then ofOutputs o c else (.passthrough, [])

end ReturnStrategy

namespace PublicReturn

/-- The type of the elements of an output: a buffer is made of bytes. -/
def elementType (c : Command) (raw : String) : String :=
  match c.parameter? raw with
  | some p =>
    match p.role with
    | .rawBuffer _ => Width.u8.text
    | _ => p.declaredType
  | none => ""

/-- What the wrapper of a command returns under a strategy. -/
def ofStrategy (c : Command) : ReturnStrategy → PublicReturn
  | .singleValue output => .value (elementType c output)
  | .fillKnownLength output _ => .array (elementType c output)
  | .queryThenFill _ output => .array (elementType c output)
  | .passthrough =>
    match c.resultConvention with
    | .statusCode => .void
    | .value => if c.rawReturnType = "void" then .void else .value c.returnType

end PublicReturn

end NativeApi
