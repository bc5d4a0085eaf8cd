import NativeApi.Dict
import NativeApi.Json.Basic

/-!
# Writing data trees

A tree is written on one line, without blanks, or over several lines, each level two
columns further in.  `sortedFields` puts the fields of every object in the order of their
names first.
-/

namespace NativeApi.Json

/-! ### Texts and numbers -/

/-- Four hexadecimal digits. -/
def hexCode (n : Nat) : List Char :=
  let digits := Nat.toDigits 16 n
  List.replicate (4 - digits.length) '0' ++ digits

/-- A character as it stands between quotes: the quote, the backslash and the control
characters are escaped. -/
def escape (c : Char) : List Char :=
  if c = '\"' then ['\\', '\"']
  else if c = '\\' then ['\\', '\\']
  else if c = '\x08' then ['\\', 'b']
  else if c = '\x0c' then ['\\', 'f']
  else if c = '\n' then ['\\', 'n']
  else if c = '\r' then ['\\', 'r']
  else if c = '\t' then ['\\', 't']
  else if c.toNat < 0x20 then '\\' :: 'u' :: hexCode c.toNat
  else [c]

/-- A text between quotes. -/
def quote (text : String) : String :=
  .ofList ('\"' :: text.toList.flatMap escape ++ ['\"'])

/-- The text of a number. -/
def numberText : Number → String
  | .integer n => toString n
  | .fraction d => d.text

/-! ### On one line -/

mutual

/-- A tree on one line. -/
def compact : Json → String
  | .null => "null"
  | .bool true => "true"
  | .bool false => "false"
  | .number n => numberText n
  | .string text => quote text
  | .array items => "[" ++ compactItems items ++ "]"
  | .object fields => "\x7b" ++ compactFields fields ++ "\x7d"

/-- The items of an array on one line. -/
def compactItems : List Json → String
  | [] => ""
  | [item] => compact item
  | item :: items => compact item ++ "," ++ compactItems items

/-- The fields of an object on one line. -/
def compactFields : List (String × Json) → String
  | [] => ""
  | [(name, value)] => quote name ++ ":" ++ compact value
  | (name, value) :: fields =>
    quote name ++ ":" ++ compact value ++ "," ++ compactFields fields

end

/-! ### Over several lines -/

/-- The end of a line and the blanks before a text of a level. -/
def lineBreak (level : Nat) : String := "\n" ++ .ofList (List.replicate (2 * level) ' ')

mutual

/-- A tree over several lines, at a level. -/
def pretty (level : Nat) : Json → String
  | .array (item :: items) =>
    "[" ++ prettyItems (level + 1) (item :: items) ++ lineBreak level ++ "]"
  | .object (field :: fields) =>
    "\x7b" ++ prettyFields (level + 1) (field :: fields) ++ lineBreak level ++ "\x7d"
  | .null => "null"
  | .bool true => "true"
  | .bool false => "false"
  | .number n => numberText n
  | .string text => quote text
  | .array [] => "[]"
  | .object [] => "\x7b\x7d"

/-- The items of an array, each on a line of its own. -/
def prettyItems (level : Nat) : List Json → String
  | [] => ""
  | [item] => lineBreak level ++ pretty level item
  | item :: items => lineBreak level ++ pretty level item ++ "," ++ prettyItems level items

/-- The fields of an object, each on a line of its own. -/
def prettyFields (level : Nat) : List (String × Json) → String
  | [] => ""
  | [(name, value)] => lineBreak level ++ quote name ++ ": " ++ pretty level value
  | (name, value) :: fields =>
    lineBreak level ++ quote name ++ ": " ++ pretty level value ++ ","
      ++ prettyFields level fields

end

/-! ### Fields in order -/

mutual

/-- The tree with the fields of each object by name, the last of each name. -/
def sortedFields : Json → Json
  | .array items => .array (sortedItems items)
  | .object fields => .object (sortedEntries fields)
  | .null => .null
  | .bool value => .bool value
  | .number value => .number value
  | .string text => .string text

/-- The items of an array with their fields by name. -/
def sortedItems : List Json → List Json
  | [] => []
  | item :: items => sortedFields item :: sortedItems items

/-- The fields of an object by name, the last of each name. -/
def sortedEntries : List (String × Json) → List (String × Json)
  | [] => []
  | (name, value) :: fields =>
    let rest := sortedEntries fields
    if (rest.lookup name).isSome then rest
    else Dict.setEntry name (sortedFields value) rest

end

end NativeApi.Json
