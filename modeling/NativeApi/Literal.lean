import NativeApi.Text.Affix
import NativeApi.Text.Blank
import NativeApi.Text.Integer

/-!
# Integer literals

The values of constants and enumeration members are written as literals of C: decimal or
hexadecimal digits, perhaps in parentheses, negated or complemented, with a suffix that
gives the length of the word.
-/

namespace NativeApi

/-- A literal: its digits as a number below two to the power 64, whether a minus sign and
a tilde stand before them, and whether the suffix asks for a word of 64 bits. -/
structure Literal where
  negated : Bool
  complemented : Bool
  wide : Bool
  magnitude : Nat
  deriving DecidableEq

namespace Literal

/-- A text without the given character in front, and whether it stood there. -/
def sign (mark : Char) : List Char → Bool × List Char
  | c :: cs => if c = mark then (true, Text.trimChars cs) else (false, c :: cs)
  | [] => (false, [])

/-- A text without blanks and parentheses around it. -/
def bare (cs : List Char) : List Char :=
  Text.trimChars
    (Text.dropEndWhile (· == ')') ((Text.trimChars cs).dropWhile (· == '(')))

/-- Whether a letter may stand in a suffix. -/
def isSuffixLetter (c : Char) : Bool := c == 'u' || c == 'l'

/-- The number of a row of decimal digits, or hexadecimal ones after `0x`. -/
def magnitude? (digits : List Char) : Option Nat :=
  match digits with
  | '0' :: 'x' :: hex => Text.readNat? 16 Text.bound64 hex
  | _ => Text.readNat? 10 Text.bound64 digits

/-- The literal that a text spells. -/
def parse? (text : String) : Option Literal :=
  let (negated, body) := sign '-' (bare text.toList)
  let (complemented, body) := sign '~' body
  let lowered := body.map Char.toLower
  (magnitude? (Text.dropEndWhile isSuffixLetter lowered)).map fun magnitude =>
    { negated, complemented, magnitude,
      wide := (Text.stripSuffix? ['l', 'l'] lowered).isSome }

/-- The number as a signed word of 64 bits. -/
def word64 (n : Nat) : Int := Int.bmod n Text.bound64

/-- The value of the digits with the tilde, if there is one: a word of 64 bits where the
suffix asks for it, and one of 32 bits elsewhere. -/
def unsignedValue (l : Literal) : Int :=
  if l.complemented then
    if l.wide then word64 (Text.bound64 - 1 - l.magnitude)
    else Int.ofNat (Text.bound32 - 1 - l.magnitude % Text.bound32)
  else word64 l.magnitude

/-- The value of a literal, if it is a signed number of 64 bits. -/
def value? (l : Literal) : Option Int :=
  if l.negated then
    Text.signed64? (if l.complemented then -l.unsignedValue else -Int.ofNat l.magnitude)
  else some l.unsignedValue

/-- The number that a text spells as a literal. -/
def read? (text : String) : Option Int := (parse? text).bind value?

end Literal

end NativeApi
