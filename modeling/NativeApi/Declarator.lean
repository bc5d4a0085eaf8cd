import NativeApi.Element.Basic
import NativeApi.Entity
import NativeApi.Error
import NativeApi.Text.Affix
import NativeApi.Text.Blank
import NativeApi.Text.Integer

/-!
# Declarators

Members and parameters are declared alike: an element with a child for the type, a child
for the name, and the rest of the declaration as text in between: stars of pointers,
`const`, and the lengths of inline arrays in brackets.
-/

namespace NativeApi

/-- A declaration of a member or parameter. -/
structure Declarator where
  rawType : String
  rawName : String
  isPointer : Bool
  isConst : Bool
  isDoublePointer : Bool
  fixedLength : Option ArrayLength
  length : Option String
  optional : Bool
  deriving DecidableEq

namespace Declarator

/-! ### The text of a declaration -/

/-- The children before the first one of the name. -/
def beforeName : List Node → List Node
  | [] => []
  | .text run :: nodes => .text run :: beforeName nodes
  | .element child :: nodes =>
    if child.name = "name" then [] else .element child :: beforeName nodes

/-- The children after the first one of the type. -/
def afterType : List Node → List Node
  | [] => []
  | .text _ :: nodes => afterType nodes
  | .element child :: nodes => if child.name = "type" then nodes else afterType nodes

/-- The text between the type and the name. -/
def qualifiers (e : Element) : String := Element.runsOf (afterType (beforeName e.children))

/-- The text before the name. -/
def leadingText (e : Element) : String := Element.runsOf (beforeName e.children)

/-- The number of stars between the type and the name. -/
def stars (e : Element) : Nat := (qualifiers e).toList.count '*'

/-! ### Inline arrays -/

/-- The digits of a length, if the text after a bracket is one, with white space around
it and a closing bracket. -/
def lengthDigits? (cs : List Char) : Option (List Char) :=
  let rest := cs.dropWhile Text.isBlank
  let digits := rest.takeWhile Char.isDigit
  match (rest.dropWhile Char.isDigit).dropWhile Text.isBlank with
  | ']' :: _ => if digits.isEmpty then none else some digits
  | _ => none

/-- The digits of the lengths in brackets. -/
def lengthsIn : List Char → List (List Char)
  | [] => []
  | c :: cs =>
    if c = '[' then
      match lengthDigits? cs with
      | some digits => digits :: lengthsIn cs
      | none => lengthsIn cs
    else lengthsIn cs

/-- The lengths in brackets that are numbers of 64 bits. -/
def dimensions (text : String) : List Nat :=
  (lengthsIn text.toList).filterMap (Text.readNat? 10 Text.bound64)

/-- The product of lengths as a number of 64 bits, which wraps around where it does not fit. -/
def product64 (lengths : List Nat) : Nat :=
  lengths.foldr (fun length product => length * product % Text.bound64) 1

/-- The length of an inline array: a constant that is named inside of the declaration, or
the product of the numbers in brackets, in 64 bits. -/
def fixedLengthOf (e : Element) (owner name : String) (constants : Dict Int) :
    Except Error ArrayLength :=
  match e.childText? "enum" with
  | some constant =>
    let constant := Text.trim constant
    match constants.get? constant with
    | some value =>
      if 0 ≤ value then .ok (.constant constant value.toNat)
      else .error (.unknownReference "API constant" constant owner)
    | none => .error (.unknownReference "API constant" constant owner)
  | none =>
    match dimensions e.ownText with
    | [] =>
      .error (.malformedInput owner
        ("array length of " ++ name ++ " is not a literal or constant"))
    | lengths => .ok (.literal (product64 lengths))

/-! ### Declarations -/

/-- Whether the first entry of the attribute says that a value may be left out. -/
def isOptional (e : Element) : Bool :=
  match e.attribute? "optional" with
  | some entries => Text.trimChars (Text.firstEntry entries.toList) == ['t', 'r', 'u', 'e']
  | none => false

/-- The declaration that an element makes, on behalf of an owner, with the constants that
lengths may refer to. -/
def parse (e : Element) (owner : String) (constants : Dict Int) :
    Except Error Declarator := do
  let some rawType := e.childText? "type"
    | .error (.malformedInput owner (e.name ++ " without a type node"))
  let some rawName := e.childText? "name"
    | .error (.malformedInput owner (e.name ++ " without a name node"))
  let isPointer := decide (0 < stars e)
  let fixedLength ←
    if Text.contains "[" e.ownText then
      (fixedLengthOf e owner rawName constants).map some
    else pure none
  return {
    rawType := Text.trim rawType
    rawName := Text.trim rawName
    isPointer
    isConst := isPointer && Text.contains "const" (leadingText e)
    isDoublePointer := decide (2 ≤ stars e)
    fixedLength
    length := e.attribute? "len"
    optional := isOptional e }

/-- The word for a length that the text itself ends. -/
def nullTerminated : String := "null-terminated"

/-- The beginning of a length that is a formula. -/
def formulaMark : String := "latexmath"

/-- What the length of an array refers to: the first entry, unless it is empty, a word for
text or a formula. -/
def lengthReference? (d : Declarator) : Option String :=
  d.length.bind fun entries =>
    let first := String.ofList (Text.trimChars (Text.firstEntry entries.toList))
    if first.isEmpty || first == nullTerminated || Text.beginsWith formulaMark first then none
    else some first

/-- Whether a declaration is one of a text. -/
def isText (d : Declarator) : Bool := d.rawType == "char" && d.isPointer && !d.isDoublePointer

end Declarator

end NativeApi
