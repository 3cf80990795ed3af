import Timetable.Number.Power
import Timetable.Text.Digit

/-! Double-precision numbers, computed in exact integer arithmetic.

A number is rounded to the nearest double, ties to the even neighbour; it is written with the
fewest decimal digits that read back to it.
-/

set_option autoImplicit false

namespace Timetable

/-- The ratio `numerator / denominator` rounded to the nearest natural number, ties to the even
one. -/
def roundRatio (numerator denominator : Nat) : Nat :=
  let quotient := numerator / denominator
  let twice := 2 * (numerator % denominator)
  if twice < denominator then quotient
  else if denominator < twice then quotient + 1
  else quotient + quotient % 2

inductive Binary64 where
  | finite (negative : Bool) (mantissa : Nat) (exponent : Int)
  | infinite (negative : Bool)
  | undefined
  deriving DecidableEq, Repr, Inhabited

namespace Binary64

def lastPlace (numerator denominator : Nat) : Int :=
  let least : Int := (Nat.log2 numerator : Int) - (Nat.log2 denominator : Int) - 53
  let scaled (e : Int) : Nat :=
    if 0 ≤ e then numerator / (denominator * twoTo e.toNat)
    else numerator * twoTo (-e).toNat / denominator
  -- Of 53 or 54 binary places, 53 are kept.
  let place := if scaled least < twoTo 53 then least else least + 1
  -- Below the least normal double the places run out one by one.
  max place (-1074)

def ofRatio (negative : Bool) (numerator denominator : Nat) : Binary64 :=
  if numerator = 0 then .finite negative 0 0
  else
    let place := lastPlace numerator denominator
    let mantissa :=
      if 0 ≤ place then roundRatio numerator (denominator * twoTo place.toNat)
      else roundRatio (numerator * twoTo (-place).toNat) denominator
    let (mantissa, place) :=
      -- Rounding up may have carried into one more place.
      if mantissa = twoTo 53 then (twoTo 52, place + 1) else (mantissa, place)
    if 971 < place then .infinite negative else .finite negative mantissa place

/-- The double nearest to `± digits * 10 ^ exponent`. Every number from `10 ^ 310` on is infinite,
and every one below `10 ^ -330` is zero. -/
def ofDecimal (negative : Bool) (digits : Nat) (exponent : Int) : Binary64 :=
  if digits = 0 then .finite negative 0 0
  else if 310 ≤ exponent then .infinite negative
  else if exponent + (Nat.log2 digits / 3 + 1 : Nat) < -330 then .finite negative 0 0
  else if 0 ≤ exponent then ofRatio negative (digits * tenTo exponent.toNat) 1
  else ofRatio negative digits (tenTo (-exponent).toNat)

def ratio (mantissa : Nat) (exponent : Int) : Nat × Nat :=
  if 0 ≤ exponent then (mantissa * twoTo exponent.toNat, 1)
  else (mantissa, twoTo (-exponent).toNat)

def leadingPlaces (numerator denominator : Nat) : Nat → Nat
  | 0 => 0
  | fuel + 1 =>
    if denominator ≤ numerator then 0 else leadingPlaces (numerator * 10) denominator fuel + 1

def decimalExponent (numerator denominator : Nat) : Int :=
  if denominator ≤ numerator then
    ((Nat.toDigits 10 (numerator / denominator)).length : Int) - 1
  else -(leadingPlaces numerator denominator 400 : Int)

/-- The whole number of units `10 ^ unit` nearest to a ratio among its two neighbours that read back
as `value`, if one does. -/
def nearestOnGrid (value : Binary64) (numerator denominator : Nat) (unit : Int) : Option Nat :=
  let (top, bottom) :=
    if 0 ≤ unit then (numerator, denominator * tenTo unit.toNat)
    else (numerator * tenTo (-unit).toNat, denominator)
  let low := top / bottom
  -- Doubles stand closer together below a power of two than above it, so that the nearest
  -- multiple need not be the one that reads back.
  let readsBack (n : Nat) : Bool := decide (ofDecimal false n unit = value)
  let nearest := roundRatio top bottom
  if readsBack nearest then some nearest
  else if readsBack low then some low
  else if readsBack (low + 1) then some (low + 1)
  else none

/-- Digits and the exponent of the last one: the coarsest grid below `exponent` that holds a decimal
which reads back, tried for `fuel` more digits. -/
def shortestFrom (value : Binary64) (numerator denominator : Nat) (unit : Int) : Nat → Nat × Int
  | 0 => ((nearestOnGrid value numerator denominator unit).getD 0, unit)
  | fuel + 1 =>
    match nearestOnGrid value numerator denominator unit with
    | some n => (n, unit)
    | none => shortestFrom value numerator denominator (unit - 1) fuel

def shortest (mantissa : Nat) (exponent : Int) : Nat × Int :=
  let (numerator, denominator) := ratio mantissa exponent
  shortestFrom (ofRatio false numerator denominator) numerator denominator
    (decimalExponent numerator denominator) 17

structure Layout where
  leastPositional : Int
  greatestPositional : Int
  exponentDigits : Nat

/-- Literals are positional from one ten-thousandth up to sixteen digits, and have a decimal place
even where it is zero. -/
def literalLayout : Layout := ⟨-4, 15, 2⟩

def trimZeros : List Char → Int → List Char × Int
  | digits, unit =>
    let kept := (digits.reverse.dropWhile (· = '0')).reverse
    (kept, unit + (digits.length - kept.length : Nat))

def Layout.write (layout : Layout) (digits : List Char) (unit : Int) : List Char :=
  let (digits, unit) := trimZeros digits unit
  let leading : Int := unit + digits.length - 1
  if leading < layout.leastPositional ∨ layout.greatestPositional < leading then
    let sign := if leading < 0 then '-' else '+'
    let exponent := Nat.toDigits 10 leading.natAbs
    let fraction := digits.drop 1
    digits.take 1 ++ (if fraction.isEmpty then [] else '.' :: fraction) ++ 'e' :: sign ::
      (List.replicate (layout.exponentDigits - exponent.length) '0' ++ exponent)
  else if leading < 0 then
    '0' :: '.' :: (List.replicate (-leading - 1).toNat '0' ++ digits)
  else
    let whole := digits.take (leading.toNat + 1)
    let fraction := digits.drop (leading.toNat + 1)
    whole ++ List.replicate (leading.toNat + 1 - whole.length) '0' ++ '.' ::
      (if fraction.isEmpty then ['0'] else fraction)

def literal : Binary64 → String
  | .undefined => "nan"
  | .infinite negative => if negative then "-inf" else "inf"
  | .finite negative mantissa exponent =>
    let body :=
      if mantissa = 0 then ['0', '.', '0']
      else
        let (digits, unit) := shortest mantissa exponent
        literalLayout.write (Nat.toDigits 10 digits) unit
    String.ofList (if negative then '-' :: body else body)

def scaled (scale : Nat) : Binary64 → Int
  | .finite negative mantissa exponent =>
    let (numerator, denominator) := ratio mantissa exponent
    let rounded : Int := roundRatio (numerator * scale) denominator
    if negative then -rounded else rounded
  | _ => 0

def twoPlaces (value : Binary64) : String :=
  let hundredths := scaled 100 value
  let sign := if hundredths < 0 then "-" else ""
  sign ++ Text.ofNat (hundredths.natAbs / 100) ++ "." ++ Text.padded 2 (hundredths.natAbs % 100)

def ofIntRatio (numerator : Int) (denominator : Nat) : Binary64 :=
  ofRatio (decide (numerator < 0)) numerator.natAbs denominator

def toRatio : Binary64 → Int × Nat
  | .finite negative mantissa exponent =>
    let (numerator, denominator) := ratio mantissa exponent
    (if negative then -(numerator : Int) else numerator, denominator)
  | _ => (0, 1)

/-- The sum of two doubles, rounded once. A sum that vanishes is negative if both its terms are. -/
def plus : Binary64 → Binary64 → Binary64
  | .undefined, _ | _, .undefined => .undefined
  | .infinite left, .infinite right => if left = right then .infinite left else .undefined
  | .infinite negative, .finite _ _ _ | .finite _ _ _, .infinite negative => .infinite negative
  | .finite left m e, .finite right n f =>
    let (a, b) := toRatio (.finite left m e)
    let (c, d) := toRatio (.finite right n f)
    let sum := a * d + c * b
    if sum = 0 then .finite (left && right) 0 0 else ofIntRatio sum (b * d)

def negated : Binary64 → Binary64
  | .finite negative mantissa exponent => .finite (!negative) mantissa exponent
  | .infinite negative => .infinite (!negative)
  | .undefined => .undefined

def difference (left right : Binary64) : Binary64 :=
  left.plus right.negated

def times (factor : Nat) : Binary64 → Binary64
  | .finite negative mantissa exponent =>
    let (numerator, denominator) := ratio mantissa exponent
    ofRatio negative (numerator * factor) denominator
  | value => value

def dividedBy (divisor : Nat) : Binary64 → Binary64
  | .finite negative mantissa exponent =>
    let (numerator, denominator) := ratio mantissa exponent
    ofRatio negative numerator (denominator * divisor)
  | value => value

end Binary64

end Timetable
