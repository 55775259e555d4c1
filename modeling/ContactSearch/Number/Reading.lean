import ContactSearch.Number.Decimal
import ContactSearch.Number.Double

namespace ContactSearch
namespace Double

/-!
# Reading doubles from text

The grammar is a sign, then either a named value or decimal digits with an
optional fraction and an optional exponent.  Digits may be missing on one side
of the point, not on both.  The result is the double nearest to the exact
decimal value, however many digits are written.
-/

/-- The double nearest to a decimal numeral given by the digits on both sides of its point. -/
def ofDigits (negative : Bool) (whole fraction : List Char) (exponent : Int) : Double :=
  ofDecimal negative (Decimal.value (whole ++ fraction)) (exponent - fraction.length)

/-- An optional sign, and whether it was a minus. -/
def takeSign : List Char -> Bool × List Char
  | '-' :: rest => (true, rest)
  | '+' :: rest => (false, rest)
  | cs => (false, cs)

/-- The exponent part of a numeral; a missing one is zero, an empty one is refused. -/
def exponent? : List Char -> Option Int
  | [] => some 0
  | marker :: rest =>
      if marker = 'e' ∨ marker = 'E' then
        let signed := takeSign rest
        (Decimal.read? signed.2).map fun magnitude =>
          if signed.1 then -(magnitude : Int) else magnitude
      else
        none

/-- Decimal digits with an optional fraction and exponent. -/
def decimal? (negative : Bool) (cs : List Char) : Option Double :=
  let whole := cs.takeWhile Char.isDigit
  let afterWhole := cs.dropWhile Char.isDigit
  let hasPoint := afterWhole.head? = some '.'
  let fraction := if hasPoint then afterWhole.tail.takeWhile Char.isDigit else []
  let tail := if hasPoint then afterWhole.tail.dropWhile Char.isDigit else afterWhole
  if whole = [] ∧ fraction = [] then
    none
  else
    (exponent? tail).map (ofDigits negative whole fraction)

/-- The named values, in any mixture of cases. -/
def named? (negative : Bool) (cs : List Char) : Option Double :=
  let name := String.ofList (cs.map Char.toLower)
  if name = "inf" ∨ name = "infinity" then some (.infinite negative)
  else if name = "nan" then some .nan
  else none

/-- Read a double from a whole text. -/
def ofText? (cs : List Char) : Option Double :=
  let signed := takeSign cs
  (named? signed.1 signed.2).or (decimal? signed.1 signed.2)

end Double
end ContactSearch
