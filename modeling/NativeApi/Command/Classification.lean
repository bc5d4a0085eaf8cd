import NativeApi.Command.Aliases
import NativeApi.Command.CallShape
import NativeApi.Command.Strategy

/-!
# Classification of commands

The classification of a command says how a wrapper presents it: under which name, as a
method of which handle, with which call shapes, and what it returns.  Aliases and commands
that are wrapped by hand have none.
-/

namespace NativeApi

/-- How a wrapper presents a command. -/
structure Classification where
  command : Command
  publicName : String
  boundHandle : Option String
  strategy : ReturnStrategy
  returns : PublicReturn
  shapes : List CallShape
  limitations : List String
  successMember : String
  deriving DecidableEq

namespace Classification

/-- The signature of a kind. -/
def shape? (c : Classification) (kind : ShapeKind) : Option CallShape :=
  c.shapes.find? (·.kind == kind)

/-- Accepts the result of a native call, unless it is a status other than success. -/
def checkStatus (c : Classification) (code : Int) (statuses : Enumeration) :
    Except Error Unit :=
  match c.command.resultConvention with
  | .value => .ok ()
  | .statusCode =>
    if code = (statuses.valueOf? c.successMember).getD 0 then .ok ()
    else
      .error (.nativeStatus c.command.name code ((statuses.memberOfValue? code).map (·.name)))

/-! ### Classifying -/

/-- What commands are classified by. -/
structure Setting where
  options : Options
  naming : Naming
  registry : Registry
  aliases : CommandAliases

/-- The handle that a command is a method of: the one that its first parameter is, by
value. -/
def boundHandle? (r : Registry) (command : Element) : Option String := do
  let first ← command.element? "param"
  let rawType ← first.childText? "type"
  if Text.contains "*" first.text then none
  else (r.handleOfRaw? (Text.trim rawType)).map (·.name)

/-- Whether a command has a simplified signature. -/
def hasSimplifiedShape (s : Setting) (c : Command) : Bool :=
  c.parameters.any (fun p =>
      match p.role with
      | .count _ derivable => derivable
      | _ => false)
    && !s.options.ignoredSimplifiedCommands.contains (s.naming.commandName c.name)

/-- The signatures of a command. -/
def shapesOf (s : Setting) (publicName : String) (c : Command) : List CallShape :=
  .ofParameters .raw publicName c.parameters
    :: if hasSimplifiedShape s c then [.ofParameters .simplified publicName c.parameters]
      else []

/-- The classification of a command that is known in full. -/
def ofCommand (s : Setting) (boundHandle : Option String) (c : Command) : Classification :=
  let (strategy, limitations) := ReturnStrategy.ofCommand s.options c
  let publicName :=
    match boundHandle with
    | some handle => s.naming.methodName c.name handle
    | none => s.naming.commandName c.name
  { command := c
    publicName
    boundHandle
    strategy
    returns := .ofStrategy c strategy
    shapes := shapesOf s publicName c
    limitations
    successMember := s.options.successMember }

/-- The command of a declaration, given its name and its prototype. -/
def commandOf (s : Setting) (element proto : Element) (name : String) (isBound : Bool) :
    Except Error Command := do
  let some rawReturnType := proto.childText? "type"
    | .error (.malformedInput name "proto without a return type")
  let .ok entity := s.registry.resolveRaw rawReturnType
    | .error (.unknownReference "type" rawReturnType name)
  let parameters ← Parameter.ofCommand s.registry element name isBound
  return {
    name
    returnType := entity.name
    rawReturnType
    parameters
    resultConvention :=
      if rawReturnType = s.options.statusType then .statusCode else .value }

/-- The classification of a declared command, if it is to have one. -/
def ofElement (s : Setting) (element : Element) : Except Error (Option Classification) := do
  let some proto := element.element? "proto"
    | match element.attribute? "name" with
      | some name =>
        if s.aliases.isAlias name then return none
        else .error (.malformedInput "command" "declaration without a proto")
      | none => .error (.malformedInput "command" "declaration without a proto")
  let some name := proto.childText? "name"
    | .error (.malformedInput "command" "proto without a name")
  if s.aliases.isAlias name || s.options.handwrittenCommands.contains name then return none
  else
    let boundHandle := boundHandle? s.registry element
    let command ← commandOf s element proto name boundHandle.isSome
    return some (ofCommand s boundHandle command)

/-- The classifications of the commands of a document. -/
def ofDocument (s : Setting) (d : Document) : Except Error (List Classification) := do
  let all ← d.commands.mapM (ofElement s)
  return all.filterMap id

end Classification

end NativeApi
