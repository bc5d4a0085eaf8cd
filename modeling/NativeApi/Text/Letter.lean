import NativeApi.Text.AlphabetTable
import NativeApi.Text.CaseTable

/-!
# Letters and their case

The classes of letters and the full case mappings.  In ASCII they are the familiar ones;
beyond it they come from the tables.  The lower case of a text depends on context in one
place: a capital sigma at the end of a word becomes a final sigma.
-/

namespace NativeApi.Text

/-- Whether a character has the property Alphabetic. -/
def isAlphabetic (c : Char) : Bool :=
  if c.toNat < 128 then c.isAlpha else inRuns alphabeticRuns c.toNat

/-- Whether a character has the property Uppercase. -/
def isUppercase (c : Char) : Bool :=
  if c.toNat < 128 then c.isUpper else inRuns uppercaseRuns c.toNat

/-- Whether a character has the property Lowercase. -/
def isLowercase (c : Char) : Bool :=
  if c.toNat < 128 then c.isLower else inRuns lowercaseRuns c.toNat

/-- Whether a character has case: upper, lower or title case. -/
def isCased (c : Char) : Bool :=
  isUppercase c || isLowercase c || inRuns titlecaseRuns c.toNat

/-- The ASCII characters that do not end a word for the final sigma. -/
def asciiCaseIgnorable : List Char := ['\x27', '.', ':', '^', '\x60']

/-- Whether a character is passed over when the end of a word is looked for. -/
def isCaseIgnorable (c : Char) : Bool :=
  if c.toNat < 128 then asciiCaseIgnorable.contains c else inRuns caseIgnorableRuns c.toNat

/-- The counterpart of a character under a table of expansions and one of shifts. -/
def counterpart (expansions : List (Nat × List Nat)) (shifts : List Shift) (c : Char) :
    List Char :=
  match expansions.lookup c.toNat with
  | some codes => codes.map Char.ofNat
  | none =>
    match shift? shifts c.toNat with
    | some code => [Char.ofNat code]
    | none => [c]

/-- The upper case of a character, which may be several characters. -/
def upper (c : Char) : List Char :=
  if c.toNat < 128 then [c.toUpper] else counterpart upperExpansions upperShifts c

/-- The lower case of a character by itself, which may be several characters. -/
def lower (c : Char) : List Char :=
  if c.toNat < 128 then [c.toLower] else counterpart lowerExpansions lowerShifts c

/-- Whether a cased character comes first once the ignorable ones are passed over. -/
def startsCased (cs : List Char) : Bool :=
  match cs.dropWhile isCaseIgnorable with
  | [] => false
  | c :: _ => isCased c

/-- The lower case of the text `cs` that stands after `before`, which is given from its
last character back. -/
def lowercaseAfter (before : List Char) : (cs : List Char) → List Char
  | [] => []
  | c :: cs =>
    (if c = 'Σ' then [if startsCased before && !startsCased cs then 'ς' else 'σ']
      else lower c) ++ lowercaseAfter (c :: before) cs

/-- The lower case of a text. -/
def lowercase (cs : List Char) : List Char := lowercaseAfter [] cs

end NativeApi.Text
