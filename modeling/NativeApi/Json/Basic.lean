import NativeApi.Dict
import NativeApi.Json.Decimal

/-!
# Data trees

`Json` is the type of the trees that documents, options, arguments and results are
exchanged as.  The fields of an object are listed in the order in which they stand.
-/

namespace NativeApi

/-- A number of a data tree: an integer or a decimal fraction. -/
inductive Number where
  | integer (value : Int)
  | fraction (value : Decimal)
  deriving DecidableEq

/-- A tree of data. -/
inductive Json where
  | null
  | bool (value : Bool)
  | number (value : Number)
  | string (text : String)
  | array (items : List Json)
  | object (fields : List (String × Json))

namespace Json

instance : Inhabited Json := ⟨.null⟩

/-- An integer as a tree. -/
def int (n : Int) : Json := .number (.integer n)

/-- A natural number as a tree. -/
def nat (n : Nat) : Json := int (Int.ofNat n)

/-- A list of texts as a tree. -/
def strings (texts : List String) : Json := .array (texts.map .string)

/-- A value that may be missing as a tree, which is null where it is. -/
def ofOption {α : Type} (encode : α → Json) : Option α → Json
  | some a => encode a
  | none => .null

/-- A list as a tree. -/
def ofList {α : Type} (encode : α → Json) (items : List α) : Json :=
  .array (items.map encode)

/-- A table as a tree, whose fields are in the order of their names. -/
def ofDict {α : Type} (encode : α → Json) (d : Dict α) : Json :=
  .object (d.entries.map fun entry => (entry.1, encode entry.2))

/-- A set of names as a tree. -/
def ofNames (names : NameSet) : Json := strings names.toList

/-- The value of the last field of a name. -/
def lastField? (fields : List (String × Json)) (name : String) : Option Json :=
  fields.reverse.lookup name

/-- The value of a field of an object. -/
def field? : Json → String → Option Json
  | .object fields, name => lastField? fields name
  | _, _ => none

/-- The text of a string. -/
def string? : Json → Option String
  | .string text => some text
  | _ => none

/-- The items of an array. -/
def array? : Json → Option (List Json)
  | .array items => some items
  | _ => none

/-- The value of an integer. -/
def int? : Json → Option Int
  | .number (.integer n) => some n
  | _ => none

/-- The value of a truth value. -/
def bool? : Json → Option Bool
  | .bool b => some b
  | _ => none

end Json

end NativeApi
