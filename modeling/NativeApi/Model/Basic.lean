import NativeApi.Command.Classification
import NativeApi.Marshalling
import NativeApi.NameMap
import NativeApi.Options.Stale
import NativeApi.Registry.OfDocument
import NativeApi.Scope

/-!
# Binding models

A model is all that is known about an interface once it has been analysed: its types, its
scopes, its commands and its names.  `Model.ofDocument` makes the model of a document, or
stops at the first error in it.
-/

namespace NativeApi

/-- The version of the analysis. -/
def version : String := "0.1.0"

/-- What is known about an interface. -/
structure Model where
  registry : Registry
  vendorTags : List VendorTag
  defaultScope : DefaultScope
  scopes : List TargetScope
  commands : List Classification
  handwrittenCommands : List String
  aliases : CommandAliases
  names : NameMap
  marshalling : Marshalling

namespace Model

/-! ### Making models -/

/-- The names of the vendor tags of a document. -/
def tagNames (d : Document) : List String := d.tags.filterMap (·.attribute? "name")

/-- The rules of naming for a document. -/
def namingFor (o : Options) (d : Document) : Naming := o.naming.learnAll (tagNames d)

/-- The registry with each command as a method of the handle that it is bound to. -/
def bindMethods (r : Registry) (commands : List Classification) : Registry :=
  commands.foldl (fun r c =>
      match c.boundHandle.bind r.idOf? with
      | some id => r.bindMethod id c.command.name
      | none => r)
    r

/-- The model of a document, or the first error in it. -/
def ofDocument (o : Options) (d : Document) : Except Error Model := do
  let naming := namingFor o d
  let declared ← Registry.ofDocument o naming d
  let (report, analyzed) := declared.analyze
  let marshalling ← report
  let aliases := CommandAliases.ofDocument d
  let defaultScope ← DefaultScope.ofDocument o d analyzed aliases
  let scopes ← TargetScope.ofTargets o d analyzed aliases
  let commands ← Classification.ofDocument ⟨o, naming, analyzed, aliases⟩ d
  let registry := bindMethods analyzed commands
  let _ ← o.validateTables registry d
  return {
    registry
    vendorTags := naming.vendorTags
    defaultScope
    scopes
    commands
    handwrittenCommands := d.commandNames.filter o.handwrittenCommands.contains
    aliases
    names := .ofRegistry registry
    marshalling }

/-! ### Looking things up -/

/-- The classification of the command that a raw name stands for. -/
def command? (m : Model) (raw : String) : Option Classification :=
  let target := m.aliases.resolveOrSelf raw
  m.commands.find? (·.command.name == target)

/-- The entity that a canonical name stands for. -/
def typeNamed? (m : Model) (name : String) : Option Entity := (m.registry.resolve name).toOption

/-- The scope of a target, or the default scope where none is given. -/
def scope? (m : Model) (target : Option String) : Option Scope :=
  match target with
  | none => some (.default m.defaultScope)
  | some name => (m.scopes.find? (·.target == name)).map .target

/-- The commands that a scope shows. -/
def visibleCommands (m : Model) (s : Scope) : List Classification :=
  m.commands.filter fun c => s.isCommandVisible m.aliases c.command.name

/-- The names of the types, without aliases, that a scope shows. -/
def visibleTypes (m : Model) (s : Scope) : List String :=
  ((m.registry.entities.filter (!·.isAlias)).map (·.name)).filter
    (s.isTypeVisible m.registry)

end Model

end NativeApi
