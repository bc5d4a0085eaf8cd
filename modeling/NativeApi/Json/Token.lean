import NativeApi.Json.Basic
import NativeApi.Text.Integer

/-!
# The tokens of a data tree

`tokens?` cuts a text into brackets, marks, strings and scalars, which are the constants
and numerals.  A string or numeral that is spelled as the format asks but has no value
(half of a surrogate pair, a number out of range) is a token without a value, so that a
reader may still pass over it.  Strings are tokens of their own, for only they are keys.
-/

namespace NativeApi.Json

/-- A token of the text of a tree. -/
inductive Token where
  | beginArray
  | endArray
  | beginObject
  | endObject
  | comma
  | colon
  | string (text : Option String)
  | scalar (value : Option Json)

/-! ### Strings -/

/-- A part of a string: a character, or a code of sixteen bits given by its digits. -/
inductive Piece where
  | char (c : Char)
  | code (n : Nat)

/-- The characters of a string, if each of its codes is one or half of a pair. -/
def characters? : List Piece → Option (List Char)
  | [] => some []
  | .char c :: pieces => (characters? pieces).map (c :: ·)
  | .code high :: .code low :: pieces =>
    if 0xD800 ≤ high ∧ high < 0xDC00 then
      if 0xDC00 ≤ low ∧ low < 0xE000 then
        (characters? pieces).map
          (Char.ofNat (0x10000 + (high - 0xD800) * 0x400 + (low - 0xDC00)) :: ·)
      else none
    else if 0xDC00 ≤ high ∧ high < 0xE000 then none
    else (characters? (.code low :: pieces)).map (Char.ofNat high :: ·)
  | .code n :: pieces =>
    if 0xD800 ≤ n ∧ n < 0xE000 then none
    else (characters? pieces).map (Char.ofNat n :: ·)

/-- The character that a letter after a backslash stands for. -/
def escaped? : Char → Option Char
  | '\"' => some '\"'
  | '\\' => some '\\'
  | '/' => some '/'
  | 'b' => some '\x08'
  | 'f' => some '\x0c'
  | 'n' => some '\n'
  | 'r' => some '\r'
  | 't' => some '\t'
  | _ => none

/-! ### Words -/

/-- A list of digits, in which a leading zero stands alone. -/
def isWholePart : List Char → Bool
  | [] => false
  | ['0'] => true
  | c :: cs => c != '0' && (c :: cs).all Char.isDigit

/-- The digits at the beginning of a text and the rest. -/
def spanDigits (cs : List Char) : List Char × List Char :=
  (cs.takeWhile Char.isDigit, cs.dropWhile Char.isDigit)

/-- The digits after a point, if there is one, and the rest. -/
def fraction? : List Char → Option (List Char × List Char)
  | '.' :: cs => if (spanDigits cs).1.isEmpty then none else some (spanDigits cs)
  | cs => some ([], cs)

/-- The power of ten at the end of a numeral. -/
def power? : List Char → Option Int
  | [] => some 0
  | e :: cs =>
    if e = 'e' ∨ e = 'E' then
      match cs with
      | '-' :: cs => (Text.natOfDigits? 10 cs).map fun n => -Int.ofNat n
      | '+' :: cs => (Text.natOfDigits? 10 cs).map Int.ofNat
      | cs => (Text.natOfDigits? 10 cs).map Int.ofNat
    else none

/-- The number that the digits `cs` continue from `value` as long as it fits in 64 bits,
and how many digits are left. -/
def continueWord (value : Nat) : (cs : List Char) → Nat × Nat
  | [] => (value, 0)
  | c :: cs =>
    let longer := value * 10 + (c.toNat - '0'.toNat)
    if longer < Text.bound64 then continueWord longer cs else (value, cs.length + 1)

/-- The decimal of a numeral, of whose digits those count that fit in 64 bits: the ones
left of the whole part only move the point. -/
def decimalOf (negative : Bool) (whole places : List Char) (power : Int) : Decimal :=
  let (value, left) := continueWord 0 whole
  let (digits, ignored) := continueWord value places
  ⟨negative, digits, power + left - (places.length - ignored)⟩

/-- The number of a numeral: an integer where it fits in 64 bits and has neither point
nor power, and a fraction elsewhere, if it is in range. -/
def numberOf (negative : Bool) (whole places : List Char) (power : Int) (plain : Bool) :
    Option Number :=
  let digits := (Text.natOfDigits? 10 whole).getD 0
  let value : Int := if negative then -Int.ofNat digits else Int.ofNat digits
  let fits :=
    if negative then digits ≠ 0 ∧ Text.least64 ≤ value else digits < Text.bound64
  if plain ∧ fits then some (.integer value)
  else (decimalOf negative whole places power).settled?.map .fraction

/-- The token of a numeral, if it is spelled right. -/
def numeral? (cs : List Char) : Option Token :=
  let negative := cs.head? = some '-'
  let body := if negative then cs.tail else cs
  let (whole, rest) := spanDigits body
  if isWholePart whole then do
    let (places, tail) ← fraction? rest
    let power ← power? tail
    pure (.scalar ((numberOf negative whole places power rest.isEmpty).map .number))
  else none

/-- The token of a word: a constant or a numeral. -/
def word? (cs : List Char) : Option Token :=
  if cs = ['n', 'u', 'l', 'l'] then some (.scalar (some .null))
  else if cs = ['t', 'r', 'u', 'e'] then some (.scalar (some (.bool true)))
  else if cs = ['f', 'a', 'l', 's', 'e'] then some (.scalar (some (.bool false)))
  else numeral? cs

/-! ### Cutting a text -/

/-- What the reader of a text is inside of, with what it has read, last first. -/
inductive Inside where
  | nothing
  | word (read : List Char)
  | quotes (read : List Piece)
  | escape (read : List Piece)
  | code (read : List Piece) (digits value : Nat)

/-- Whether a character belongs to a word. -/
def isWordChar (c : Char) : Bool := c.isAlphanum || c = '+' || c = '-' || c = '.'

/-- A character between tokens. -/
def startToken (c : Char) : Option (Inside × List Token) :=
  if c = ' ' ∨ c = '\t' ∨ c = '\n' ∨ c = '\r' then some (.nothing, [])
  else if c = '[' then some (.nothing, [.beginArray])
  else if c = ']' then some (.nothing, [.endArray])
  else if c = '\x7b' then some (.nothing, [.beginObject])
  else if c = '\x7d' then some (.nothing, [.endObject])
  else if c = ',' then some (.nothing, [.comma])
  else if c = ':' then some (.nothing, [.colon])
  else if c = '\"' then some (.quotes [], [])
  else if isWordChar c then some (.word [c], [])
  else none

/-- One more character, with the tokens that it completes. -/
def readChar : Inside → Char → Option (Inside × List Token)
  | .nothing, c => startToken c
  | .word read, c =>
    if isWordChar c then some (.word (c :: read), [])
    else do
      let token ← word? read.reverse
      let (inside, tokens) ← startToken c
      pure (inside, token :: tokens)
  | .quotes read, c =>
    if c = '\"' then
      some (.nothing, [.string ((characters? read.reverse).map .ofList)])
    else if c = '\\' then some (.escape read, [])
    else if c.toNat < 0x20 then none
    else some (.quotes (.char c :: read), [])
  | .escape read, c =>
    if c = 'u' then some (.code read 0 0, [])
    else (escaped? c).map fun e => (.quotes (.char e :: read), [])
  | .code read digits value, c => do
    let digit ← Text.digitValue? 16 c
    let value := value * 16 + digit
    if digits = 3 then pure (.quotes (.code value :: read), [])
    else pure (.code read (digits + 1) value, [])

/-- One more character, with all tokens so far, last first. -/
def readNext (state : Inside × List Token) (c : Char) : Option (Inside × List Token) :=
  (readChar state.1 c).map fun (inside, tokens) => (inside, tokens.reverse ++ state.2)

/-- The tokens of a text. -/
def tokens? (text : String) : Option (List Token) := do
  let (inside, read) ← text.toList.foldlM readNext (.nothing, [])
  match inside with
  | .nothing => pure read.reverse
  | .word w => (word? w.reverse).map fun token => (token :: read).reverse
  | _ => none

end NativeApi.Json
