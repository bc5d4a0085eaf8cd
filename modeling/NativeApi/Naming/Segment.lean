import NativeApi.Dict
import NativeApi.Text.Letter

/-!
# The case of name segments

Names are made of segments.  A segment has a fixed spelling, or it is all capitals and
keeps only the first of them, or it is put into mixed case, where a digit and a `d` after
a digit begin a new word.
-/

namespace NativeApi.Naming

/-- The first character as it is and the rest in lower case. -/
def capitalized : List Char → List Char
  | [] => []
  | c :: cs => c :: Text.lowercase cs

/-- The mixed case of a segment after a character: whether it begins a new word, was in
lower case, or was a digit. -/
def mixedCaseAfter (beginsWord wasLower wasDigit : Bool) : List Char → List Char
  | [] => []
  | c :: cs =>
    (if beginsWord then Text.upper c else if wasLower then [c] else Text.lower c)
      ++ mixedCaseAfter (c.isDigit || (wasDigit && c.toLower == 'd')) (Text.isLowercase c)
          c.isDigit cs

/-- The mixed case of a segment. -/
def mixedCase (segment : List Char) : List Char := mixedCaseAfter true false false segment

/-- The spelling of a segment. -/
def spelling (acronyms : Dict String) (segment : List Char) : List Char :=
  match acronyms.get? (.ofList segment) with
  | some fixed => fixed.toList
  | none => if segment.all Text.isUppercase then capitalized segment else mixedCase segment

example : mixedCase ['s', 'T', 'y', 'p', 'e'] = ['S', 'T', 'y', 'p', 'e'] := by decide
example : mixedCase ['m', '2', 'd', 'x'] = ['M', '2', 'D', 'X'] := by decide

end NativeApi.Naming
