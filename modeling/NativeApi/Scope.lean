import NativeApi.Command.Aliases
import NativeApi.Options.Basic
import NativeApi.Registry.Resolve

/-!
# Scopes

A scope says which types and commands a build shows.  The default scope shows all but what
only disabled extensions require and what the options hide; the scope of a target shows
what its extensions require and nothing else.  Types are looked up by the entity that they
stand for, and commands by the command that they stand for.
-/

namespace NativeApi

/-! ### Requirements -/

/-- The types and commands that some blocks require. -/
structure Requirements where
  types : NameSet
  commands : NameSet

namespace Requirements

/-- The requirements of no block. -/
def empty : Requirements := ⟨.empty, .empty⟩

/-- The name that a required type goes by: the canonical one of what it stands for, or the
raw one where it stands for nothing. -/
def typeName (r : Registry) (raw : String) : String :=
  match r.resolveRaw raw with
  | .ok entity => entity.name
  | .error _ => raw

/-- The requirements with those of one more block. -/
def add (r : Registry) (a : CommandAliases) (q : Requirements) (block : Block) :
    Except Error Requirements := do
  let commands ← (block.requiredNames "command").mapM a.resolve
  return {
    types := q.types.insertAll ((block.requiredNames "type").map (typeName r))
    commands := q.commands.insertAll commands }

/-- The requirements of enabled and of disabled blocks, with one more extension. -/
def addExtension (o : Options) (r : Registry) (a : CommandAliases)
    (state : Requirements × Requirements) (block : Block) :
    Except Error (Requirements × Requirements) := do
  let (enabled, disabled) := state
  if block.isDisabled o.disabledExtensions then
    return (enabled, ← disabled.add r a block)
  else return (← enabled.add r a block, disabled)

/-- What features and enabled extensions require, and what disabled extensions do. -/
def ofDocument (o : Options) (d : Document) (r : Registry) (a : CommandAliases) :
    Except Error (Requirements × Requirements) := do
  let features ← d.features.foldlM (add r a) empty
  d.extensions.foldlM (addExtension o r a) (features, empty)

end Requirements

/-! ### Scopes -/

/-- What a build without a target hides. -/
structure DefaultScope where
  hiddenTypes : NameSet
  hiddenCommands : NameSet

/-- What the build of a target shows, and the macros that protect it. -/
structure TargetScope where
  target : String
  extensions : List String
  requiredTypes : NameSet
  requiredCommands : NameSet
  protect : NameSet

/-- The scope of a build. -/
inductive Scope where
  | default (scope : DefaultScope)
  | target (scope : TargetScope)

namespace Scope

/-- The name that a type goes by: that of the entity that it stands for, if it stands for
one. -/
def typeName (r : Registry) (name : String) : String :=
  match r.resolve name with
  | .ok entity => entity.name
  | .error _ => name

/-- Whether a build shows the type of a canonical name. -/
def isTypeVisible (s : Scope) (r : Registry) (name : String) : Bool :=
  match s with
  | .default scope => !scope.hiddenTypes.contains (typeName r name)
  | .target scope => scope.requiredTypes.contains (typeName r name)

/-- Whether a build shows the command of a raw name. -/
def isCommandVisible (s : Scope) (a : CommandAliases) (raw : String) : Bool :=
  match s with
  | .default scope => !scope.hiddenCommands.contains (a.resolveOrSelf raw)
  | .target scope => scope.requiredCommands.contains (a.resolveOrSelf raw)

end Scope

/-! ### The default scope -/

/-- The scope of a build without a target. -/
def DefaultScope.ofDocument (o : Options) (d : Document) (r : Registry)
    (a : CommandAliases) : Except Error DefaultScope := do
  let (enabled, disabled) ← Requirements.ofDocument o d r a
  return {
    hiddenTypes :=
      (disabled.types.diff enabled.types).insertAll (o.deniedTypes.map (Scope.typeName r))
    hiddenCommands :=
      (disabled.commands.diff enabled.commands).insertAll
        (o.disabledCommands.map a.resolveOrSelf) }

/-! ### The scopes of targets -/

namespace TargetScope

/-- The macro that protects what belongs to the platform of a block. -/
def protectOf (r : Registry) (block : Block) : Option String := do
  let platform ← block.platform?
  let known ← r.platforms.find? (·.name == platform)
  known.protect

/-- The scope with one more extension, unless it is disabled. -/
def addExtension (o : Options) (d : Document) (r : Registry) (a : CommandAliases)
    (s : TargetScope) (name : String) : Except Error TargetScope := do
  let some block := d.extension? name | .error (.unknownReference "extension" name s.target)
  if block.isDisabled o.disabledExtensions then return s
  else
    let q ← (⟨s.requiredTypes, s.requiredCommands⟩ : Requirements).add r a block
    return { s with
      extensions := s.extensions ++ [name]
      requiredTypes := q.types
      requiredCommands := q.commands
      protect := s.protect.insertAll (protectOf r block).toList }

/-- The scope of a target with the extensions of the given names. -/
def ofExtensions (o : Options) (d : Document) (r : Registry) (a : CommandAliases)
    (target : String) (names : List String) : Except Error TargetScope :=
  names.foldlM (addExtension o d r a) ⟨target, [], .empty, .empty, .empty⟩

/-- The scopes of the targets of the options. -/
def ofTargets (o : Options) (d : Document) (r : Registry) (a : CommandAliases) :
    Except Error (List TargetScope) :=
  o.targets.entries.mapM fun (target, names) => ofExtensions o d r a target names

end TargetScope

end NativeApi
