import ContactSearch.Json.Basic
import ContactSearch.Number.Decimal
import ContactSearch.Number.Layout

namespace ContactSearch
namespace Json

/-!
# Numbers in document text

A numeral without a fraction and an exponent is an integer when it fits 64
bits, counted with a sign when it is negative.  Every other numeral is a
double.  Its digits are gathered into a significand of 64 bits; digits that no
longer fit are dropped, and the significand is scaled by one power of ten in
double arithmetic.  So the last digit of a long numeral may differ from the
nearest double, and a value too large for a double is refused.
-/

/-- The largest significand plus one. -/
def significandBound : Nat := 2 ^ 64

/--
Take digits into a significand while it fits.  The result is the significand and the number
of digits left out.
-/
def gather (significand : Nat) : List Char -> Nat × Nat
  | [] => (significand, 0)
  | c :: rest =>
      let next := 10 * significand + Decimal.digitValue c
      if next < significandBound then gather next rest else (significand, rest.length + 1)

/-- The largest power of ten used in one scaling step. -/
def largestScale : Nat := 308

/-- The double of a power of ten up to the largest scale. -/
def powerOfTen (exponent : Nat) : Finite :=
  match Double.ofNat (10 ^ exponent) with
  | .finite value => value
  | _ => Finite.zero

/-- The finite part of a double; a scaled down value is always finite. -/
def finiteOrZero (negative : Bool) : Double -> Finite
  | .finite value => value
  | _ => { Finite.zero with negative }

/-- A value divided by a power of ten, in at most two steps; beyond them nothing is left. -/
def scaleDown (x : Finite) (exponent : Nat) : Finite :=
  let step := fun (y : Finite) (power : Nat) =>
    finiteOrZero y.negative (Double.divide y (powerOfTen power))
  if exponent ≤ largestScale then step x exponent
  else if exponent ≤ 2 * largestScale then
    step (step x largestScale) (exponent - largestScale)
  else { Finite.zero with negative := x.negative }

/-- A value multiplied by a power of ten, unless the product is too large. -/
def scaleUp? (x : Finite) (exponent : Nat) : Option Finite :=
  if x.units = 0 then some x
  else if exponent ≤ largestScale then
    match Double.multiply x (powerOfTen exponent) with
    | .finite value => some value
    | _ => none
  else none

/-- The double of a gathered significand and its decimal exponent. -/
def scaled? (negative : Bool) (significand : Nat) (exponent : Int) : Option Finite :=
  let start := finiteOrZero negative (Double.ofRatio negative significand 1)
  match exponent with
  | .ofNat up => scaleUp? start up
  | .negSucc below => some (scaleDown start (below + 1))

/-- The integer of a numeral without fraction and exponent, when it fits. -/
def integer? (negative : Bool) (digits : List Char) : Option Int :=
  let magnitude := Decimal.value digits
  if negative then
    if 0 < magnitude ∧ magnitude ≤ 2 ^ 63 then some (-(magnitude : Int)) else none
  else
    if magnitude < significandBound then some magnitude else none

/-- The value of a numeral from its parts. -/
def numeral? (negative : Bool) (whole fraction : List Char) (exponent : Int) (isPlain : Bool) :
    Option Json :=
  match (if isPlain then integer? negative whole else none) with
  | some value => some (.integer value)
  | none =>
      let (significand, droppedWhole) := gather 0 whole
      let (significand, droppedFraction) := gather significand fraction
      let taken := fraction.length - droppedFraction
      (scaled? negative significand (exponent + droppedWhole - taken)).map Json.double

/-- Digits at the front of a text, and the rest. -/
def spanDigits (cs : List Char) : List Char × List Char :=
  (cs.takeWhile Char.isDigit, cs.dropWhile Char.isDigit)

/-- The exponent after its marker: an optional sign and at least one digit. -/
def readExponent? (cs : List Char) : Option (Int × List Char) :=
  let (negative, unsigned) := match cs with
    | '-' :: rest => (true, rest)
    | '+' :: rest => (false, rest)
    | rest => (false, rest)
  let (digits, after) := spanDigits unsigned
  if digits = [] then none
  else
    let magnitude : Int := Decimal.value digits
    some (if negative then -magnitude else magnitude, after)

/-- Whether digits are a whole part: not empty, and no zero in front of another digit. -/
def isWholePart : List Char -> Bool
  | [] => false
  | ['0'] => true
  | c :: _ => c != '0'

/-- The exponent part of a numeral, if there is one. -/
def readExponentPart? : List Char -> Option (Option Int × List Char)
  | [] => some (none, [])
  | c :: rest =>
      if c = 'e' ∨ c = 'E' then
        (readExponent? rest).map fun (exponent, after) => (some exponent, after)
      else
        some (none, c :: rest)

/-- A numeral at the front of a text, after its sign. -/
def readUnsigned? (negative : Bool) (cs : List Char) : Option (Json × List Char) := do
  let (whole, afterWhole) := spanDigits cs
  if isWholePart whole then
    match afterWhole with
    | '.' :: rest =>
        let (fraction, afterFraction) := spanDigits rest
        if fraction = [] then
          none
        else
          let (exponent, after) ← readExponentPart? afterFraction
          let value ← numeral? negative whole fraction (exponent.getD 0) false
          return (value, after)
    | rest =>
        let (exponent, after) ← readExponentPart? rest
        let value ← numeral? negative whole [] (exponent.getD 0) exponent.isNone
        return (value, after)
  else
    none

/-- A numeral at the front of a text. -/
def readNumber? : List Char -> Option (Json × List Char)
  | '-' :: rest => readUnsigned? true rest
  | cs => readUnsigned? false cs

end Json
end ContactSearch
