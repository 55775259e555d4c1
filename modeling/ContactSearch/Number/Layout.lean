import ContactSearch.Number.Shortest

namespace ContactSearch

/-!
# Layouts of doubles

Two layouts share the shortest digits.  The plain layout never uses an
exponent and writes no fraction for whole numbers; script values are shown in
it.  The document layout always shows that a number is a double, by a fraction
or by an exponent, and turns to the exponent for very large and very small
magnitudes; documents are written in it.
-/

namespace Finite

/-- A minus sign for the values that carry one, negative zero included. -/
def sign (x : Finite) : List Char :=
  if x.negative then ['-'] else []

/-- Plain decimal text: no exponent, no needless fraction; a tie takes the larger digit. -/
def plainText (x : Finite) : List Char :=
  if x.units = 0 then x.sign ++ ['0']
  else
    let parts := (Significant.shortest .up x).positional
    x.sign ++ parts.1 ++ (if parts.2 = [] then [] else '.' :: parts.2)

/-- The decimal exponents that the document layout still writes in full. -/
def writtenInFull (exponent : Int) : Bool :=
  -5 ≤ exponent && exponent < 16

/-- Digits with the point after the first one, then the exponent with its sign. -/
def scientific (digits : List Char) (exponent : Int) : List Char :=
  let mantissa := match digits with
    | [] => []
    | [single] => [single]
    | first :: rest => first :: '.' :: rest
  let exponentSign := if exponent < 0 then '-' else '+'
  mantissa ++ 'e' :: exponentSign :: Decimal.digits exponent.natAbs

/-- Document text of a double; a tie takes the even digit. -/
def documentText (x : Finite) : List Char :=
  if x.units = 0 then x.sign ++ ['0', '.', '0']
  else
    let number := Significant.shortest .even x
    let exponent := number.point - 1
    if writtenInFull exponent then
      let parts := number.positional
      x.sign ++ parts.1 ++ '.' :: (if parts.2 = [] then ['0'] else parts.2)
    else
      x.sign ++ scientific number.digits exponent

end Finite

namespace Double

/-- Plain text of a script number. -/
def plainText : Double -> List Char
  | .nan => ['N', 'a', 'N']
  | .infinite true => ['-', 'i', 'n', 'f']
  | .infinite false => ['i', 'n', 'f']
  | .finite value => value.plainText

end Double
end ContactSearch
