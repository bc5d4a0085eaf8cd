/-!
# Integers in texts

Reading bounded integers: a plus sign may stand before the digits, a minus sign only
where negative numbers are in range, and nothing else.
-/

namespace NativeApi.Text

/-- One more than the largest unsigned number of 32 bits: two to the power 32. -/
def bound32 : Nat := 4294967296

/-- One more than the largest unsigned number of 64 bits: two to the power 64. -/
def bound64 : Nat := 18446744073709551616

/-- The least signed number of 64 bits: minus two to the power 63. -/
def least64 : Int := -9223372036854775808

/-- The largest signed number of 64 bits: one less than two to the power 63. -/
def greatest64 : Int := 9223372036854775807

/-- A number, if it is a signed number of 64 bits. -/
def signed64? (n : Int) : Option Int :=
  if least64 ≤ n ∧ n ≤ greatest64 then some n else none

/-- The value of an ASCII digit or letter as a digit of a base up to 36. -/
def digitValue? (base : Nat) (c : Char) : Option Nat :=
  let value :=
    if c.isDigit then c.toNat - '0'.toNat
    else if c.isAlpha then c.toLower.toNat - 'a'.toNat + 10
    else base
  if value < base then some value else none

/-- The number that the digits `cs` continue from `value`. -/
def continueNat? (base : Nat) (value : Nat) : (cs : List Char) → Option Nat
  | [] => some value
  | c :: cs =>
    match digitValue? base c with
    | some digit => continueNat? base (value * base + digit) cs
    | none => none

/-- The number with the digits `cs`, of which there is at least one. -/
def natOfDigits? (base : Nat) (cs : List Char) : Option Nat :=
  if cs.isEmpty then none else continueNat? base 0 cs

/-- The characters after a plus sign, if there is one. -/
def skipPlus : List Char → List Char
  | '+' :: cs => cs
  | cs => cs

/-- The number below `bound` that a text spells. -/
def readNat? (base bound : Nat) (cs : List Char) : Option Nat :=
  match natOfDigits? base (skipPlus cs) with
  | some n => if n < bound then some n else none
  | none => none

/-- The signed number of 64 bits that a text spells. -/
def readInt64? : List Char → Option Int
  | '-' :: cs => (natOfDigits? 10 cs).bind fun n => signed64? (-n)
  | cs => (natOfDigits? 10 (skipPlus cs)).bind fun n => signed64? n

end NativeApi.Text
