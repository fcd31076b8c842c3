import StorageMapping.Decimal.Binary64

namespace StorageMapping.Decimal

/-! The shortest decimal number that is rounded to a given binary one, and its text. -/

/-- The decimal numbers that are rounded to a number, in units of a quarter of its last place. The
ends belong to them when the mantissa is even. -/
structure RoundingRange where
  low : Nat
  value : Nat
  high : Nat
  closed : Bool
  exponent : Int

namespace RoundingRange

def of (mantissa : Nat) (exponent : Int) : RoundingRange :=
  let below := if mantissa = Binary64.leastFullMantissa && exponent ≠ Binary64.leastExponent then 1 else 2
  ⟨4 * mantissa - below, 4 * mantissa, 4 * mantissa + 2, mantissa % 2 == 0, exponent - 2⟩

/-- A decimal number and a number of units on one scale. -/
def onScale (range : RoundingRange) (digits : Nat) (power : Int) (units : Nat) : Nat × Nat :=
  (digits * Nat.pow 10 power.toNat * Nat.pow 2 (-range.exponent).toNat,
    units * Nat.pow 10 (-power).toNat * Nat.pow 2 range.exponent.toNat)

def isBelow (range : RoundingRange) (digits : Nat) (power : Int) (units : Nat) : Bool :=
  let (decimal, binary) := range.onScale digits power units
  decimal < binary

def isAbove (range : RoundingRange) (digits : Nat) (power : Int) (units : Nat) : Bool :=
  let (decimal, binary) := range.onScale digits power units
  binary < decimal

def contains (range : RoundingRange) (digits : Nat) (power : Int) : Bool :=
  if range.closed then
    !range.isBelow digits power range.low && !range.isAbove digits power range.high
  else range.isAbove digits power range.low && range.isBelow digits power range.high

/-- The value in units of a power of ten, rounded down. -/
def floorAt (range : RoundingRange) (power : Int) : Nat :=
  let top := range.value * Nat.pow 10 (-power).toNat * Nat.pow 2 range.exponent.toNat
  top / (Nat.pow 10 power.toNat * Nat.pow 2 (-range.exponent).toNat)

/-- Is the neighbour above at least as near as the one below? -/
def isNearerAbove (range : RoundingRange) (digits : Nat) (power : Int) : Bool :=
  let (below, value) := range.onScale digits power range.value
  let (above, _) := range.onScale (digits + 1) power range.value
  above - value ≤ value - below

/-- The nearer one of the two neighbours at a power of ten that lie in the range. -/
def neighbour? (range : RoundingRange) (power : Int) : Option Nat :=
  let digits := range.floorAt power
  let below := range.contains digits power
  let above := range.contains (digits + 1) power
  if below && above then
    some (if range.isNearerAbove digits power then digits + 1 else digits)
  else if below then some digits
  else if above then some (digits + 1)
  else none

/-- The least power of ten that is greater than the value, searched upward. -/
def magnitudeFrom (range : RoundingRange) : Nat → Int → Int
  | 0, power => power
  | fuel + 1, power =>
      if range.floorAt power = 0 then power else magnitudeFrom range fuel (power + 1)

/-- Tries ever more digits. Seventeen are always enough. -/
def shortestFrom (range : RoundingRange) (magnitude : Int) : Nat → Int → Nat × Int
  | 0, count => (range.floorAt (magnitude - count), magnitude - count)
  | fuel + 1, count =>
      match range.neighbour? (magnitude - count) with
      | some digits => (digits, magnitude - count)
      | none => shortestFrom range magnitude fuel (count + 1)

/-- The digits as a number, and the power of ten of the last one. -/
def shortest (range : RoundingRange) : Nat × Int :=
  range.shortestFrom (range.magnitudeFrom 700 (-340)) 17 1

end RoundingRange

/-- A decimal number written out, with one digit at least on both sides of its point. -/
def positional (digits : Nat) (power : Int) : String :=
  if 0 ≤ power then toString (digits * Nat.pow 10 power.toNat) ++ ".0"
  else
    let places := (-power).toNat
    let fraction := toString (digits % Nat.pow 10 places)
    toString (digits / Nat.pow 10 places) ++ "."
      ++ String.ofList (List.replicate (places - fraction.length) '0') ++ fraction

namespace Binary64

/-- The shortest text that reads back as the number. -/
def text : Binary64 → String
  | .undefined => "NaN"
  | .infinite isNegative => if isNegative then "-inf" else "inf"
  | .finite isNegative mantissa exponent =>
      let (digits, power) :=
        if mantissa = 0 then (0, 0) else (RoundingRange.of mantissa exponent).shortest
      (if isNegative then "-" else "") ++ positional digits power

end Binary64

end StorageMapping.Decimal
