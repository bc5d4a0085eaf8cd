import NativeApi.Json.Reader
import NativeApi.Options.Standard

/-!
# Options as data trees

Each option is a field of an object.  A missing field keeps its standard value, a given
one replaces it, and a value of the wrong kind makes the whole unreadable.  `fields` lists
the options in their order, and reading and writing go by it.
-/

namespace NativeApi

/-- How values of a type stand in a tree. -/
structure Codec (α : Type) where
  write : α → Json
  read? : Json → Option α

namespace Codec

/-- A text. -/
def text : Codec String := ⟨.string, Json.string?⟩

/-- A truth value. -/
def flag : Codec Bool := ⟨.bool, Json.bool?⟩

/-- A width by its name, which may also be the only field of an object. -/
def width : Codec Width where
  write w := .string w.text
  read?
    | .string name => Width.ofText? name
    | .object [(name, .null)] => Width.ofText? name
    | _ => none

/-- A list of values. -/
def list {α : Type} (item : Codec α) : Codec (List α) where
  write items := .array (items.map item.write)
  read? json := json.array?.bind (·.mapM item.read?)

/-- A table of values, in which a later field replaces an earlier one of its name. -/
def table {α : Type} (value : Codec α) : Codec (Dict α) where
  write d := .object (d.entries.map fun entry => (entry.1, value.write entry.2))
  read?
    | .object fields =>
      (fields.mapM fun field : String × Json => (value.read? field.2).map (field.1, ·)).map
        Dict.ofList
    | _ => none

end Codec

namespace Options

/-- An option: its name, its value in a tree, and the options with a value from a tree. -/
structure Field where
  name : String
  write : Options → Json
  read? : Json → Options → Option Options

/-- The option with the given name, values, view and change. -/
def fieldOf {α : Type} (codec : Codec α) (name : String) (view : Options → α)
    (change : Options → α → Options) : Field where
  name := name
  write o := codec.write (view o)
  read? json o := (codec.read? json).map (change o)

/-- The options in order. -/
def fields : List Field :=
  let text := fieldOf .text
  let texts := fieldOf (.list .text)
  let textTable := fieldOf (.table .text)
  let widthTable := fieldOf (.table .width)
  let listTable := fieldOf (.table (.list .text))
  let flag := fieldOf .flag
  [
    text "global_prefix" (·.globalPrefix) fun o v => { o with globalPrefix := v },
    text "type_prefix" (·.typePrefix) fun o v => { o with typePrefix := v },
    text "command_prefix" (·.commandPrefix) fun o v => { o with commandPrefix := v },
    text "status_type" (·.statusType) fun o v => { o with statusType := v },
    text "success_member" (·.successMember) fun o v => { o with successMember := v },
    textTable "acronyms" (·.acronyms) fun o v => { o with acronyms := v },
    widthTable "basic_types" (·.basicTypes) fun o v => { o with basicTypes := v },
    widthTable "builtin_types" (·.builtinTypes) fun o v => { o with builtinTypes := v },
    widthTable "foreign_types" (·.foreignTypes) fun o v => { o with foreignTypes := v },
    textTable "foreign_structs" (·.foreignStructs) fun o v => { o with foreignStructs := v },
    textTable "member_rewrites" (·.memberRewrites) fun o v => { o with memberRewrites := v },
    textTable "field_counters" (·.fieldCounters) fun o v => { o with fieldCounters := v },
    texts "denied_types" (·.deniedTypes) fun o v => { o with deniedTypes := v },
    texts "disabled_commands" (·.disabledCommands) fun o v => { o with disabledCommands := v },
    texts "handwritten_commands" (·.handwrittenCommands)
      fun o v => { o with handwrittenCommands := v },
    texts "disabled_extensions" (·.disabledExtensions)
      fun o v => { o with disabledExtensions := v },
    texts "ignored_simplified_commands" (·.ignoredSimplifiedCommands)
      fun o v => { o with ignoredSimplifiedCommands := v },
    texts "count_types" (·.countTypes) fun o v => { o with countTypes := v },
    texts "not_length_types" (·.notLengthTypes) fun o v => { o with notLengthTypes := v },
    listTable "targets" (·.targets) fun o v => { o with targets := v },
    flag "strict_tables" (·.strictTables) fun o v => { o with strictTables := v }]

/-- The options as a tree. -/
def toJson (o : Options) : Json := .object (fields.map fun field => (field.name, field.write o))

/-- Whether a name is that of an option. -/
def isField (name : String) : Bool := fields.any (·.name == name)

/-- The options of the fields of a tree, each of which may stand once. -/
def ofFields? (given : List (String × Json)) : Option Options :=
  fields.foldlM (fun o field =>
      match given.filter (·.1 == field.name) with
      | [] => some o
      | [(_, value)] => field.read? value o
      | _ => none)
    standard

/-- The options of a tree: an object, or an array of values in the order of the
options. -/
def ofJson? : Json → Option Options
  | .object given => ofFields? given
  | .array items =>
    if items.length ≤ fields.length then ofFields? ((fields.map (·.name)).zip items)
    else none
  | _ => none

/-- The options of a text. -/
def read (text : String) : Except Error Options :=
  match (Json.readIgnoring? (fun name => !isField name) text).bind ofJson? with
  | some o => .ok o
  | none => .error (.unreadable "generator options")

end Options

end NativeApi
