/-!
# JSON numbers

Numbers with a fraction. A number is kept as the shortest decimal that identifies it among the
binary numbers of 53 significant bits. Reading rounds to the nearest of these, a tie to the even
one, at every step: the digits, the power of ten, and their product or quotient. Of the result it
keeps the fewest digits that still round to it. Equal values therefore have one representation, and
a written decimal of up to fifteen digits and a small exponent keeps exactly its digits.
-/

namespace OutboxRelay.Json

/-- The decimal `coefficient · 10 ^ exponent`, negated if `negative`. -/
structure Decimal where
  negative : Bool
  coefficient : Nat
  exponent : Int
deriving DecidableEq, Inhabited

namespace Decimal

/-- A quotient rounded to the nearest integer, a tie to the even one. -/
def roundedQuotient (numerator denominator : Nat) : Nat :=
  let quotient := numerator / denominator
  let twice := 2 * (numerator % denominator)
  if twice < denominator then quotient
  else if denominator < twice then quotient + 1
  else quotient + quotient % 2

/-- A positive number as a quotient of two natural numbers. -/
structure Ratio where
  numerator : Nat
  denominator : Nat

namespace Ratio

/-- The ratio times a power of a base. -/
def scaled (base : Nat) (exponent : Int) (ratio : Ratio) : Ratio :=
  if 0 ≤ exponent then ⟨ratio.numerator * base.pow exponent.toNat, ratio.denominator⟩
  else ⟨ratio.numerator, ratio.denominator * base.pow exponent.natAbs⟩

/-- Whether one ratio is at most another. -/
def notAbove (a b : Ratio) : Bool :=
  a.numerator * b.denominator ≤ b.numerator * a.denominator

/-- Whether one ratio is below another. -/
def below (a b : Ratio) : Bool :=
  a.numerator * b.denominator < b.numerator * a.denominator

end Ratio

/-- The binary number `significand · 2 ^ exponent`. -/
structure Binary where
  significand : Nat
  exponent : Int

namespace Binary

/-- Significands have at most this many bits. -/
def precision : Nat := 53

/-- The first significand that is too long. -/
def significandLimit : Nat := Nat.pow 2 precision

/-- The first significand of full length. -/
def fullSignificand : Nat := Nat.pow 2 (precision - 1)

/-- The least exponent; below it numbers lose precision instead. -/
def leastExponent : Int := -1074

/-- The greatest exponent. -/
def greatestExponent : Int := 971

/-- The binary number nearest to a positive ratio, and nothing if it lies beyond the greatest. -/
def nearest? (ratio : Ratio) : Option Binary :=
  let guess : Int := (ratio.numerator.log2 : Int) - ratio.denominator.log2 - precision
  let atGuess := ratio.scaled 2 (-guess)
  let exponent :=
    if atGuess.numerator < significandLimit * atGuess.denominator then guess else guess + 1
  let exponent := max exponent leastExponent
  let target := ratio.scaled 2 (-exponent)
  let significand := roundedQuotient target.numerator target.denominator
  let found : Binary :=
    if significand = significandLimit then ⟨fullSignificand, exponent + 1⟩
    else ⟨significand, exponent⟩
  if found.exponent ≤ greatestExponent then some found else none

/-- The value of a binary number, or of the point `offset / 4` units beyond it. -/
def valueAt (offset : Int) (binary : Binary) : Ratio :=
  (⟨(4 * (binary.significand : Int) + offset).toNat, 4⟩ : Ratio).scaled 2 binary.exponent

/-- The binary number nearest to a product of two. -/
def times? (a b : Binary) : Option Binary :=
  let x := a.valueAt 0
  let y := b.valueAt 0
  nearest? ⟨x.numerator * y.numerator, x.denominator * y.denominator⟩

/-- The binary number nearest to a quotient of two. -/
def dividedBy? (a b : Binary) : Option Binary :=
  let x := a.valueAt 0
  let y := b.valueAt 0
  nearest? ⟨x.numerator * y.denominator, x.denominator * y.numerator⟩

/-- The greatest exponent of a power of ten that is in range. -/
def greatestPower : Nat := 308

/-- The binary number nearest to a power of ten. -/
def powerOfTen? (exponent : Nat) : Option Binary :=
  nearest? ⟨Nat.pow 10 exponent, 1⟩

/-- A binary number times a power of ten, and nothing if that is beyond the greatest number. A
power too small to have an inverse in range is divided by in portions. -/
def scaledByTen? (exponent : Int) (binary : Binary) : Option Binary :=
  if exponent.natAbs ≤ greatestPower then
    (powerOfTen? exponent.natAbs).bind fun power =>
      if 0 ≤ exponent then binary.times? power else binary.dividedBy? power
  else if binary.significand = 0 then some binary
  else if 0 ≤ exponent then none
  else
    (powerOfTen? greatestPower).bind fun power =>
      (binary.dividedBy? power).bind (scaledByTen? (exponent + greatestPower))
termination_by exponent.natAbs
decreasing_by simp only [greatestPower] at *; omega

/-- Whether a ratio rounds to this binary number. The interval reaches half way to either
neighbour, its ends belong to the number with an even significand, and below a power of two the
neighbour is only half as far. -/
def attracts (binary : Binary) (ratio : Ratio) : Bool :=
  let short := binary.significand = fullSignificand ∧ leastExponent < binary.exponent
  let low := binary.valueAt (if short then -1 else -2)
  let high := binary.valueAt 2
  if binary.significand % 2 = 0 then low.notAbove ratio && ratio.notAbove high
  else low.below ratio && ratio.below high

end Binary

/-- Drop zeros at the end of a coefficient; the fuel bounds their number. -/
def withoutTrailingZeros : Nat → Nat → Int → Nat × Int
  | 0, coefficient, exponent => (coefficient, exponent)
  | fuel + 1, coefficient, exponent =>
    if coefficient ≠ 0 ∧ coefficient % 10 = 0 then
      withoutTrailingZeros fuel (coefficient / 10) (exponent + 1)
    else (coefficient, exponent)

/-- Search the decimal grids from coarse to fine for a point that rounds to the binary number; the
nearer of the two neighbours of the value wins. -/
def shortestFrom (binary : Binary) (value : Ratio) : Nat → Int → Nat × Int
  | 0, exponent => ((value.scaled 10 (-exponent)).numerator, exponent)
  | tries + 1, exponent =>
    let onGrid := value.scaled 10 (-exponent)
    let low := onGrid.numerator / onGrid.denominator
    let nearer := roundedQuotient onGrid.numerator onGrid.denominator
    let other := if nearer = low then low + 1 else low
    let point (coefficient : Nat) : Ratio := (⟨coefficient, 1⟩ : Ratio).scaled 10 exponent
    if binary.attracts (point nearer) then (nearer, exponent)
    else if binary.attracts (point other) then (other, exponent)
    else shortestFrom binary value tries (exponent - 1)

/-- The shortest decimal of a positive binary number. -/
def shortest (binary : Binary) : Nat × Int :=
  let value := binary.valueAt 0
  let magnitude : Int := ((value.numerator.log2 : Int) - value.denominator.log2) * 30103 / 100000
  let (coefficient, exponent) := shortestFrom binary value 20 (magnitude + 2)
  withoutTrailingZeros 400 coefficient exponent

/-- The number that a written decimal denotes, and nothing if it is beyond the greatest number. -/
def ofWritten? (negative : Bool) (coefficient : Nat) (exponent : Int) : Option Decimal :=
  ((Binary.nearest? ⟨coefficient, 1⟩).bind (Binary.scaledByTen? exponent)).map fun binary =>
    if binary.significand = 0 then ⟨negative, 0, 0⟩
    else
      let (coefficient, exponent) := shortest binary
      ⟨negative, coefficient, exponent⟩

/-- The place of the point, counted from the first digit; zero or less if it stands before it. -/
def pointPlace (decimal : Decimal) : Int :=
  (Nat.toDigits 10 decimal.coefficient).length + decimal.exponent

/-- The magnitude without an exponent; a whole number keeps one zero behind its point. -/
def positionalMagnitude (decimal : Decimal) : List Char :=
  let digits := Nat.toDigits 10 decimal.coefficient
  let point := decimal.pointPlace
  if decimal.coefficient = 0 then ['0', '.', '0']
  else if 0 ≤ decimal.exponent then
    digits ++ List.replicate decimal.exponent.toNat '0' ++ ['.', '0']
  else if 0 < point then digits.take point.toNat ++ '.' :: digits.drop point.toNat
  else '0' :: '.' :: List.replicate (-point).toNat '0' ++ digits

/-- The magnitude with one digit before the point and an exponent, which always has a sign. -/
def scientificMagnitude (decimal : Decimal) : List Char :=
  let power := decimal.pointPlace - 1
  let exponent := 'e' :: (if power < 0 then '-' else '+') :: Nat.toDigits 10 power.natAbs
  match Nat.toDigits 10 decimal.coefficient with
  | [] => exponent
  | [single] => single :: exponent
  | first :: rest => first :: '.' :: rest ++ exponent

/-- A magnitude with the sign of the decimal. -/
def withSign (decimal : Decimal) (magnitude : List Char) : List Char :=
  if decimal.negative then '-' :: magnitude else magnitude

/-- The text of a decimal: positional for magnitudes from `10 ^ -5` up to `10 ^ 16`,
otherwise with an exponent. -/
def characters (decimal : Decimal) : List Char :=
  let point := decimal.pointPlace
  decimal.withSign
    (if decimal.coefficient = 0 ∨ -5 < point ∧ point ≤ 16 then decimal.positionalMagnitude
    else decimal.scientificMagnitude)

end Decimal

end OutboxRelay.Json
