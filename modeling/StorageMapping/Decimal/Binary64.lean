namespace StorageMapping.Decimal

/-! Numbers with 53 binary digits. Decimal numbers are rounded to the nearest one, and a number
half-way between two goes to the even one. -/

/-- A finite number is its mantissa times a power of two. The mantissa has at most 53 digits, and
fewer than 53 only at the least exponent. -/
inductive Binary64 where
  | finite (isNegative : Bool) (mantissa : Nat) (exponent : Int)
  | infinite (isNegative : Bool)
  | undefined
deriving DecidableEq, Repr

namespace Binary64

def leastExponent : Int := -1074

/-- All mantissas are below it: the least number with 54 binary digits. -/
def mantissaBound : Nat := 9007199254740992

/-- The least mantissa with 53 binary digits. -/
def leastFullMantissa : Nat := 4503599627370496

/-- The quotient rounded to the nearest whole number, to the even one of two. -/
def roundQuotient (numerator denominator : Nat) : Nat :=
  let quotient := numerator / denominator
  let rest := 2 * (numerator % denominator)
  if denominator < rest || (rest == denominator && quotient % 2 == 1) then quotient + 1
  else quotient

/-- The quotient divided by a power of two, as a quotient again. -/
def scaled (numerator denominator : Nat) (exponent : Int) : Nat × Nat :=
  if exponent < 0 then (numerator * Nat.pow 2 (-exponent).toNat, denominator)
  else (numerator, denominator * Nat.pow 2 exponent.toNat)

/-- The exponent at which a quotient has 53 digits, or the least exponent. -/
def exponentOf (numerator denominator : Nat) : Int :=
  let digits : Int := (Nat.log2 numerator : Int) - (Nat.log2 denominator : Int)
  let low := max (digits - 53) leastExponent
  let (top, bottom) := scaled numerator denominator low
  if top / bottom < mantissaBound then low else low + 1

/-- The nearest number to a quotient that is not zero. -/
def ofQuotient (isNegative : Bool) (numerator denominator : Nat) : Binary64 :=
  let exponent := exponentOf numerator denominator
  let (top, bottom) := scaled numerator denominator exponent
  let mantissa := roundQuotient top bottom
  let (mantissa, exponent) :=
    if mantissa = mantissaBound then (leastFullMantissa, exponent + 1) else (mantissa, exponent)
  if exponent > 971 then .infinite isNegative else .finite isNegative mantissa exponent

/-- The nearest number to a decimal one. Powers of ten far outside the range of the numbers are
not computed. -/
def ofDecimal (isNegative : Bool) (digits : List Nat) (exponent : Int) : Binary64 :=
  let significant := digits.dropWhile (· == 0)
  let value := significant.foldl (fun value digit => value * 10 + digit) 0
  let magnitude := exponent + significant.length
  if value = 0 || magnitude < -400 then .finite isNegative 0 leastExponent
  else if 400 < magnitude then .infinite isNegative
  else if exponent < 0 then ofQuotient isNegative value (Nat.pow 10 (-exponent).toNat)
  else ofQuotient isNegative (value * Nat.pow 10 exponent.toNat) 1

end Binary64

end StorageMapping.Decimal
