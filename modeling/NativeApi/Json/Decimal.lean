/-!
# Decimal fractions

A `Decimal` is a sign, a number in decimal digits and a power of ten.  A numeral that is
no integer of 64 bits stands for a binary fraction of 53 digits: its digits are rounded to
one, and so are the power of ten and the product or quotient of the two, so the last place
may differ from that of the nearest fraction.  It is kept as the shortest decimal that is
nearest to the binary fraction: `Decimal.settled?` finds it, and `Decimal.text` writes it.
-/

namespace NativeApi

/-- The number `± digits * 10 ^ exponent`. -/
structure Decimal where
  negative : Bool
  digits : Nat
  exponent : Int
  deriving DecidableEq

/-- The number `mantissa * 2 ^ exponent`. -/
structure Binary where
  mantissa : Nat
  exponent : Int
  deriving DecidableEq

/-- `base ^ n` over one for `n` at least zero, and one over `base ^ -n` below. -/
def powerRatio (base : Nat) (n : Int) : Nat × Nat :=
  if 0 ≤ n then (base.pow n.toNat, 1) else (1, base.pow (-n).toNat)

/-- The quotient of two numbers to the nearest whole, half to even. -/
def divideToEven (numerator denominator : Nat) : Nat :=
  let quotient := numerator / denominator
  let twice := 2 * (numerator % denominator)
  if twice < denominator then quotient
  else if denominator < twice then quotient + 1
  else quotient + quotient % 2

namespace Binary

/-- The least mantissa of 53 digits: two to the power 52. -/
def leastFull : Nat := 4503599627370496

/-- One more than the largest mantissa of 53 digits: two to the power 53. -/
def mantissaBound : Nat := 9007199254740992

/-- The least exponent of a binary fraction. -/
def leastExponent : Int := -1074

/-- The greatest exponent of a binary fraction. -/
def greatestExponent : Int := 971

/-- The binary fraction nearest to `numerator / denominator`, if it is within range. -/
def ofRatio? (numerator denominator : Nat) : Option Binary :=
  let magnitude : Int := Int.ofNat numerator.log2 - Int.ofNat denominator.log2
  let scaled (q : Int) : Nat × Nat :=
    let (up, down) := powerRatio 2 q
    (numerator * down, denominator * up)
  let rough := magnitude - 53
  let q := if (scaled rough).1 / (scaled rough).2 < mantissaBound then rough else rough + 1
  let q := max leastExponent q
  let mantissa := divideToEven (scaled q).1 (scaled q).2
  let b : Binary := if mantissa = mantissaBound then ⟨leastFull, q + 1⟩ else ⟨mantissa, q⟩
  if b.exponent ≤ greatestExponent then some b else none

/-- The fraction as a quotient of whole numbers. -/
def ratio (b : Binary) : Nat × Nat :=
  let (up, down) := powerRatio 2 b.exponent
  (b.mantissa * up, down)

/-- The fraction nearest to the product of two, if it is within range. -/
def product? (a b : Binary) : Option Binary :=
  ofRatio? (a.ratio.1 * b.ratio.1) (a.ratio.2 * b.ratio.2)

/-- The fraction nearest to the quotient of two, if it is within range. -/
def quotient? (a b : Binary) : Option Binary :=
  ofRatio? (a.ratio.1 * b.ratio.2) (a.ratio.2 * b.ratio.1)

/-- The exponent of the greatest power of ten that is within range. -/
def greatestTen : Nat := 308

/-- The fraction nearest to a power of ten, if it is within range. -/
def powerOfTen? (n : Nat) : Option Binary :=
  if n ≤ greatestTen then ofRatio? (Nat.pow 10 n) 1 else none

/-- The fraction times a power of ten. -/
def timesTen? (b : Binary) (n : Nat) : Option Binary := (powerOfTen? n).bind b.product?

/-- The fraction over a power of ten. -/
def overTen? (b : Binary) (n : Nat) : Option Binary := (powerOfTen? n).bind b.quotient?

/-- The fraction over a power of ten, in steps of at most `greatestTen` that are each
rounded. -/
def scaleDown? (b : Binary) (n : Nat) : Option Binary :=
  if n ≤ greatestTen then b.overTen? n
  else if b.mantissa = 0 then some b
  else (b.overTen? greatestTen).bind fun step => step.scaleDown? (n - greatestTen)
termination_by n
decreasing_by
  have : 0 < greatestTen := by decide
  omega

/-- The fraction times a power of ten, or over it where the exponent is negative.  There
is none out of range, nor for a power of ten that is itself too great, but zero stays. -/
def timesPowerOfTen? (b : Binary) (n : Int) : Option Binary :=
  if b.mantissa = 0 then some b
  else if 0 ≤ n then b.timesTen? n.toNat
  else b.scaleDown? (-n).toNat

/-- The numbers that the fraction is nearest to reach from the first of these to the
second, in quarters of the last binary place. -/
def quarters (b : Binary) : Nat × Nat :=
  let below := if b.mantissa = leastFull && leastExponent < b.exponent then 1 else 2
  (4 * b.mantissa - below, 4 * b.mantissa + 2)

/-- The multiple of `10 ^ k` nearest to the fraction among those that stand for it. -/
def onGrid? (b : Binary) (k : Int) : Option Nat :=
  let (two, half) := powerRatio 2 (b.exponent - 2)
  let (ten, tenth) := powerRatio 10 k
  let scale (quarter : Nat) : Nat := quarter * two * tenth
  let grid := half * ten
  let inside (n : Nat) : Bool :=
    let value := n * grid
    let low := scale b.quarters.1
    let high := scale b.quarters.2
    if b.mantissa % 2 = 0 then decide (low ≤ value) && decide (value ≤ high)
    else decide (low < value) && decide (value < high)
  let value := scale (4 * b.mantissa)
  let down := value / grid
  let nearer := divideToEven value grid
  let farther := if nearer = down then down + 1 else down
  if inside nearer then some nearer else if inside farther then some farther else none

/-- The first grid from `10 ^ k` down on which some point stands for the fraction. -/
def shortestFrom (b : Binary) (k : Int) : (steps : Nat) → Nat × Int
  | 0 => (0, 0)
  | steps + 1 =>
    match b.onGrid? k with
    | some digits => (digits, k)
    | none => shortestFrom b (k - 1) steps

/-- The shortest decimal that stands for the fraction. -/
def shortest (b : Binary) : Nat × Int :=
  if b.mantissa = 0 then (0, 0)
  else
    let places := Int.fdiv ((b.exponent + Int.ofNat b.mantissa.log2 + 1) * 30103) 100000
    shortestFrom b (places + 1) 22

end Binary

namespace Decimal

/-- The shortest decimal that stands for the same binary fraction as the given one, if
that fraction is within range. -/
def settled? (d : Decimal) : Option Decimal :=
  ((Binary.ofRatio? d.digits 1).bind (·.timesPowerOfTen? d.exponent)).map fun b =>
    let (digits, exponent) := b.shortest
    ⟨d.negative, digits, exponent⟩

/-- The text of an exponent, with its sign. -/
def exponentText (n : Int) : List Char :=
  if 0 ≤ n then '+' :: (toString n).toList else (toString n).toList

/-- The text of a decimal: positional where the point is at most four places before the
first digit and at most sixteen after it, and in powers of ten elsewhere. -/
def text (d : Decimal) : String :=
  let digits := Nat.toDigits 10 d.digits
  let point : Int := Int.ofNat digits.length + d.exponent
  let zeros (n : Int) : List Char := List.replicate n.toNat '0'
  let body : List Char :=
    if d.digits = 0 then ['0', '.', '0']
    else if 0 ≤ d.exponent ∧ point ≤ 16 then digits ++ zeros d.exponent ++ ['.', '0']
    else if 0 < point ∧ point ≤ 16 then
      digits.take point.toNat ++ '.' :: digits.drop point.toNat
    else if -5 < point ∧ point ≤ 0 then '0' :: '.' :: zeros (-point) ++ digits
    else
      digits.take 1 ++ (if digits.length = 1 then [] else '.' :: digits.drop 1)
        ++ 'e' :: exponentText (point - 1)
  .ofList (if d.negative then '-' :: body else body)

end Decimal

end NativeApi
