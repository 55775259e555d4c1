import ContactSearch.Number.Decimal

namespace ContactSearch
namespace Base64

/-!
# Base64

Three bytes are written as four symbols of six bits.  Only the canonical form
is read: the last group is filled up with padding, and the bits that no byte
uses are zero.

Symbols are checked from left to right.  The last group may end in padding,
every earlier one may not.  A text that is one symbol too long is refused for
that symbol first, when it is none.
-/

/-- Why a text is not in the encoding. -/
inductive Fault where
  | symbol (c : Char) (offset : Nat)
  | length (count : Nat)
  | lastSymbol (c : Char) (offset : Nat)
  | padding
  deriving DecidableEq

/-- The wording of a refused text; a symbol is shown by its number. -/
def Fault.message : Fault -> String
  | .symbol c offset =>
      "Invalid symbol " ++ Decimal.natText c.toNat ++ ", offset " ++ Decimal.natText offset ++ "."
  | .length count => "Invalid input length: " ++ Decimal.natText count
  | .lastSymbol c offset =>
      "Invalid last symbol " ++ Decimal.natText c.toNat ++ ", offset " ++
        Decimal.natText offset ++ "."
  | .padding => "Invalid padding"

/-- The six bits of a symbol. -/
def sextet? (c : Char) : Option Nat :=
  if 'A' ≤ c ∧ c ≤ 'Z' then some (c.toNat - 65)
  else if 'a' ≤ c ∧ c ≤ 'z' then some (c.toNat - 71)
  else if '0' ≤ c ∧ c ≤ '9' then some (c.toNat + 4)
  else if c = '+' then some 62
  else if c = '/' then some 63
  else none

/-- The bits of symbols that stand from an offset on, or the first character that is no symbol. -/
def sextets (offset : Nat) : List Char -> Except Fault (List Nat)
  | [] => .ok []
  | c :: rest =>
      match sextet? c with
      | none => .error (.symbol c offset)
      | some value => (sextets (offset + 1) rest).map (value :: ·)

/-- The first byte of a group. -/
def firstByte (a b : Nat) : UInt8 :=
  UInt8.ofNat (a * 4 + b / 16)

/-- The second byte of a group. -/
def secondByte (b c : Nat) : UInt8 :=
  UInt8.ofNat (b % 16 * 16 + c / 4)

/-- The third byte of a group. -/
def thirdByte (c d : Nat) : UInt8 :=
  UInt8.ofNat (c % 4 * 64 + d)

/-- The bytes of a full group. -/
def groupBytes : List Nat -> List UInt8
  | [a, b, c, d] => [firstByte a b, secondByte b c, thirdByte c d]
  | _ => []

/-- The bytes of the symbols in the last group, whose unused bits have to be zero. -/
def lastBytes (offset : Nat) (symbols : List Char) : List Nat -> Except Fault (List UInt8)
  | [a, b] =>
      if b % 16 = 0 then .ok [firstByte a b]
      else .error (.lastSymbol (symbols.getLastD '=') (offset + 1))
  | [a, b, c] =>
      if c % 4 = 0 then .ok [firstByte a b, secondByte b c]
      else .error (.lastSymbol (symbols.getLastD '=') (offset + 2))
  | values => .ok (groupBytes values)

/-- Read the last group, which may be padded; only an empty text has an empty one. -/
def decodeLast (offset : Nat) (group : List Char) : Except Fault (List UInt8) := do
  let symbols := group.takeWhile (· ≠ '=')
  let padding := group.dropWhile (· ≠ '=')
  let values ← sextets offset symbols
  if padding ≠ [] ∧ (symbols.length < 2 ∨ padding.any (· ≠ '=')) then
    .error (.symbol '=' (offset + symbols.length))
  else if group ≠ [] ∧ symbols.length < 2 then
    .error (.length (offset + symbols.length))
  else if group.length % 4 ≠ 0 then
    .error .padding
  else
    lastBytes offset symbols values

/-- Read the groups that stand from an offset on. -/
def decodeFrom (offset : Nat) : List Char -> Except Fault (List UInt8)
  | a :: b :: c :: d :: e :: rest => do
      let values ← sextets offset [a, b, c, d]
      let more ← decodeFrom (offset + 4) (e :: rest)
      return groupBytes values ++ more
  | group => decodeLast offset group

/-- Whether a text is one character too long, and that character can stand nowhere. -/
def strayEnd? (text : List Char) : Option Char :=
  if text.length % 4 = 1 then
    text.getLast?.filter fun c => c ≠ '=' && (sextet? c).isNone
  else
    none

/-- The bytes that a text encodes. -/
def decode (text : List Char) : Except Fault (List UInt8) :=
  match strayEnd? text with
  | some c => .error (.symbol c (text.length - 1))
  | none => decodeFrom 0 text

end Base64
end ContactSearch
