import ContactSearch.Json.Basic
import ContactSearch.Number.Layout
import ContactSearch.Number.Reading
import ContactSearch.Text.Blank

namespace ContactSearch
namespace Script

/-!
# Script values

What an expression can evaluate to.  Numbers are doubles here, whatever they
are in the document; arrays and objects stay document values, so that accesses
can go on into them.

Strict equality asks for the same type.  Loose equality first turns booleans
into numbers, and a string that meets a number into the number it spells.
-/

/-- The value of an expression. -/
inductive Value where
  | undefined
  | null
  | boolean (value : Bool)
  | number (value : Double)
  | string (value : String)
  | array (items : List Json)
  | object (entries : List (String × Json))
  deriving Inhabited

namespace Value

/-- The value of a document value. -/
def ofJson : Json -> Value
  | .null => .null
  | .bool value => .boolean value
  | .integer value => .number (Double.ofInt value)
  | .double value => .number (.finite value)
  | .string text => .string text
  | .array items => .array items
  | .object entries => .object entries

/-- The type of a value; arrays count as objects. -/
def typeName : Value -> String
  | .undefined => "undefined"
  | .null => "null"
  | .boolean _ => "boolean"
  | .number _ => "number"
  | .string _ => "string"
  | .array _ => "object"
  | .object _ => "object"

/-- Whether a value counts as true. -/
def isTruthy : Value -> Bool
  | .undefined => false
  | .null => false
  | .boolean value => value
  | .number value => value.isTruthy
  | .string value => value != ""
  | .array _ => true
  | .object _ => true

/-- The number that a string spells: blanks spell zero, and what is no number spells none. -/
def spelledNumber (text : String) : Double :=
  let cs := Text.trim text.toList
  if cs = [] then Double.zero else (Double.ofText? cs).getD .nan

/-- The number that a boolean stands for in loose equality. -/
def booleanNumber (value : Bool) : Double :=
  if value then Double.one else Double.zero

/-- Equality of values of the same type. -/
def strictEquals : Value -> Value -> Bool
  | .undefined, .undefined => true
  | .null, .null => true
  | .boolean left, .boolean right => left == right
  | .number left, .number right => left.equals right
  | .string left, .string right => left == right
  | .array left, .array right => Json.equals (.array left) (.array right)
  | .object left, .object right => Json.equals (.object left) (.object right)
  | _, _ => false

/-- Whether a value is null or undefined. -/
def isNullish : Value -> Bool
  | .undefined => true
  | .null => true
  | _ => false

/-- Equality of a number and a value that is not a boolean. -/
def numberEquals (left : Double) : Value -> Bool
  | .number right => left.equals right
  | .string text => (spelledNumber text).equals left
  | _ => false

/-- Equality after conversion. -/
def looseEquals (left right : Value) : Bool :=
  if left.isNullish || right.isNullish then
    left.isNullish && right.isNullish
  else
    match left, right with
    | .boolean left, .boolean right => left == right
    | .boolean value, other => numberEquals (booleanNumber value) other
    | other, .boolean value => numberEquals (booleanNumber value) other
    | .number value, .string text => numberEquals value (.string text)
    | .string text, .number value => numberEquals value (.string text)
    | left, right => strictEquals left right

end Value
end Script
end ContactSearch
