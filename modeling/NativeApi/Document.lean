import NativeApi.Element.Json
import NativeApi.Error
import NativeApi.Text.Blank
import NativeApi.Text.Integer

/-!
# Documents

A document describes an interface: it is a tree whose root is named `registry`, and its
sections list types, enumerations, commands, features, extensions, vendor tags and
platforms.  A `Block` is a feature or an extension.
-/

namespace NativeApi

/-- A feature or an extension: a named block of requirements. -/
structure Block where
  element : Element

namespace Block

/-- The name of a block, which is empty where none is given. -/
def name (b : Block) : String := (b.element.attribute? "name").getD ""

/-- The number of a block as it is written. -/
def numberText? (b : Block) : Option String := b.element.attribute? "number"

/-- The number of a block. -/
def number? (b : Block) : Option Int :=
  b.numberText?.bind fun text => Text.readInt64? (Text.trimChars text.toList)

/-- The platform that a block belongs to. -/
def platform? (b : Block) : Option String := b.element.attribute? "platform"

/-- Whether a block is disabled, by itself or by a list of names. -/
def isDisabled (b : Block) (names : List String) : Bool :=
  b.element.attribute? "supported" == some "disabled" || names.contains b.name

/-- The lists of requirements of a block. -/
def requirements (b : Block) : List Element := b.element.elements "require"

/-- The requirements of a kind. -/
def required (b : Block) (kind : String) : List Element :=
  b.requirements.flatMap (·.elements kind)

/-- The names of the requirements of a kind. -/
def requiredNames (b : Block) (kind : String) : List String :=
  (b.required kind).filterMap (·.attribute? "name")

end Block

/-- The name of the root of a document. -/
def Document.rootName : String := "registry"

/-- The name of the block of constants. -/
def Document.constantsBlock : String := "API Constants"

/-- A tree whose root is named `registry`. -/
structure Document where
  root : Element
  name_root : root.name = Document.rootName

namespace Document

/-! ### Making documents -/

/-- The document of a tree. -/
def ofElement (root : Element) : Except Error Document :=
  if h : root.name = rootName then .ok ⟨root, h⟩
  else .error (.malformedInput "document root"
    ("top element is '" ++ root.name ++ "', expected '" ++ rootName ++ "'"))

/-- The document of a text. -/
def read (text : String) : Except Error Document :=
  match Element.read? text with
  | some root => ofElement root
  | none => .error (.unreadable "document")

/-! ### Sections -/

/-- The elements of a name inside the sections of a name. -/
def inSections (d : Document) (group item : String) : List Element :=
  (d.root.elements group).flatMap (·.elements item)

/-- The declared types. -/
def types (d : Document) : List Element := d.inSections "types" "type"

/-- The declared types of a category. -/
def typesOf (d : Document) (category : String) : List Element :=
  d.types.filter (·.attribute? "category" == some category)

/-- The blocks of constants and of enumeration members. -/
def enumBlocks (d : Document) : List Element := d.root.elements "enums"

/-- The first block of a name. -/
def enumBlock? (d : Document) (name : String) : Option Element :=
  d.enumBlocks.find? (·.attribute? "name" == some name)

/-- The declared commands. -/
def commands (d : Document) : List Element := d.inSections "commands" "command"

/-- The name of a command: its attribute, or else the text of its prototype. -/
def commandName? (command : Element) : Option String :=
  (command.attribute? "name").or
    ((command.element? "proto").bind (·.childText? "name"))

/-- The names of the commands. -/
def commandNames (d : Document) : List String := d.commands.filterMap commandName?

/-- The commands that stand for another one, with its name. -/
def commandAliases (d : Document) : Dict String :=
  .ofList (d.commands.filterMap fun command =>
    match command.attribute? "name", command.attribute? "alias" with
    | some name, some target => some (name, target)
    | _, _ => none)

/-- The features. -/
def features (d : Document) : List Block := (d.root.elements "feature").map .mk

/-- The extensions. -/
def extensions (d : Document) : List Block := (d.inSections "extensions" "extension").map .mk

/-- The first extension of a name. -/
def extension? (d : Document) (name : String) : Option Block :=
  d.extensions.find? (·.name == name)

/-- The vendor tags. -/
def tags (d : Document) : List Element := d.inSections "tags" "tag"

/-- The platforms. -/
def platforms (d : Document) : List Element := d.inSections "platforms" "platform"

/-- The value of a constant as it is written. -/
def constant? (d : Document) (name : String) : Option String := do
  let block ← d.enumBlock? constantsBlock
  let entry ← (block.elements "enum").find? (·.attribute? "name" == some name)
  entry.attribute? "value"

end Document

end NativeApi
