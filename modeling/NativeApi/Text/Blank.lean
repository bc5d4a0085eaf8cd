/-!
# White space

`isBlank` is the property White_Space of the character database, and `trim` removes the
white space around a text.
-/

namespace NativeApi.Text

/-- Whether a character is white space, in the whole range of characters. -/
def isBlank (c : Char) : Bool :=
  let n := c.toNat
  (9 ≤ n && n ≤ 13) || n == 0x20 || n == 0x85 || n == 0xA0 || n == 0x1680
    || (0x2000 ≤ n && n ≤ 0x200A) || n == 0x2028 || n == 0x2029 || n == 0x202F
    || n == 0x205F || n == 0x3000

/-- The characters that remain once those with `p` are taken from the end. -/
def dropEndWhile (p : Char → Bool) (cs : List Char) : List Char :=
  (cs.reverse.dropWhile p).reverse

/-- The characters without the white space on either side. -/
def trimChars (cs : List Char) : List Char :=
  dropEndWhile isBlank (cs.dropWhile isBlank)

/-- A text without the white space on either side. -/
def trim (s : String) : String := .ofList (trimChars s.toList)

end NativeApi.Text
