import ContactSearch.Number.Decimal
import ContactSearch.Text.Hexadecimal

namespace ContactSearch
namespace Server

/-!
# Network addresses

The server listens on an address that is given as text: four decimal bytes, or
eight hexadecimal groups of which one run of zeros may be left out.  The last
two groups may be written as four decimal bytes.

The text that is shown is the short one: the longest run of at least two zero
groups is left out, the first of several equally long ones, and an address
that stands for four bytes shows them.
-/

/-- The address of a host. -/
inductive Address where
  | short (first second third fourth : Fin 256)
  | long (groups : List (Fin 65536)) (eight : groups.length = 8)
  deriving DecidableEq

namespace Address

/-- A reader takes a value from the front of a text and leaves the rest. -/
abbrev Reader (α : Type) := List Char -> Option (α × List Char)

/-- A decimal byte of at most three digits, without superfluous zeros in front. -/
def readByte : Reader (Fin 256) := fun cs =>
  let digits := cs.takeWhile Char.isDigit
  let value := Decimal.value digits
  if digits = [] ∨ 3 < digits.length ∨ (digits.head? = some '0' ∧ 1 < digits.length) then none
  else if small : value < 256 then some (⟨value, small⟩, cs.dropWhile Char.isDigit)
  else none

/-- A value after a given character. -/
def readAfter (mark : Char) (reader : Reader α) : Reader α
  | [] => none
  | c :: rest => if c = mark then reader rest else none

/-- Four decimal bytes with points between them. -/
def readBytes : Reader (Fin 256 × Fin 256 × Fin 256 × Fin 256) := fun cs => do
  let (first, cs) ← readByte cs
  let (second, cs) ← readAfter '.' readByte cs
  let (third, cs) ← readAfter '.' readByte cs
  let (fourth, cs) ← readAfter '.' readByte cs
  return ((first, second, third, fourth), cs)

/-- The number that hexadecimal digits denote. -/
def hexNumber (digits : List Char) : Nat :=
  digits.foldl (fun total c => total * 16 + (Text.hexValue? c).getD 0) 0

/-- Whether a character is a hexadecimal digit. -/
def isHexDigit (c : Char) : Bool :=
  (Text.hexValue? c).isSome

/-- A group of one to four hexadecimal digits. -/
def readGroup : Reader (Fin 65536) := fun cs =>
  let digits := cs.takeWhile isHexDigit
  let value := hexNumber digits
  if digits = [] ∨ 4 < digits.length then none
  else if small : value < 65536 then some (⟨value, small⟩, cs.dropWhile isHexDigit)
  else none

/-- A value that follows a colon, unless it is the first one. -/
def readPart (isFirst : Bool) (reader : Reader α) : Reader α :=
  if isFirst then reader else readAfter ':' reader

/-- Two groups that hold four bytes. -/
def pairGroups : Fin 256 × Fin 256 × Fin 256 × Fin 256 -> List (Fin 65536)
  | (first, second, third, fourth) =>
      [⟨first.val * 256 + second.val, by omega⟩, ⟨third.val * 256 + fourth.val, by omega⟩]

/--
As many groups as there are, within a limit; four decimal bytes take two places and end the
list.  The answer says whether they did.
-/
def readGroups (isFirst : Bool) : Nat -> List Char -> List (Fin 65536) × Bool × List Char
  | 0, cs => ([], false, cs)
  | room + 1, cs =>
      match (if 0 < room then readPart isFirst readBytes cs else none) with
      | some (value, rest) => (pairGroups value, true, rest)
      | none =>
          match readPart isFirst readGroup cs with
          | some (group, rest) =>
              let (groups, endsInBytes, rest) := readGroups false room rest
              (group :: groups, endsInBytes, rest)
          | none => ([], false, cs)

/-- The address of eight groups. -/
def ofGroups? (groups : List (Fin 65536)) : Option Address :=
  if eight : groups.length = 8 then some (.long groups eight) else none

/-- Eight groups; a pair of colons stands for the zeros that are left out, at least one group. -/
def readLong : Reader Address := fun cs =>
  let (front, endsInBytes, rest) := readGroups true 8 cs
  if front.length = 8 then
    (ofGroups? front).map fun address => (address, rest)
  else if endsInBytes then
    none
  else
    match rest with
    | ':' :: ':' :: rest =>
        let (back, _, rest) := readGroups true (7 - front.length) rest
        let zeros := List.replicate (8 - front.length - back.length) 0
        (ofGroups? (front ++ zeros ++ back)).map fun address => (address, rest)
    | _ => none

/-- Four decimal bytes. -/
def readShort : Reader Address := fun cs =>
  (readBytes cs).map fun ((first, second, third, fourth), rest) =>
    (.short first second third fourth, rest)

/-- The address that is the whole of a text. -/
def ofText? (text : String) : Option Address :=
  match (readShort text.toList).or (readLong text.toList) with
  | some (address, []) => some address
  | _ => none

/-- Four bytes with points between them. -/
def dotted (first second third fourth : Nat) : String :=
  Decimal.natText first ++ "." ++ Decimal.natText second ++ "." ++ Decimal.natText third ++ "." ++
    Decimal.natText fourth

/-- Groups with colons between them. -/
def colons (groups : List Nat) : String :=
  ":".intercalate (groups.map fun group => String.ofList (Text.hexDigits group))

/-- The start and length of the longest run of zeros, the first of several equally long ones. -/
def longestZeros (groups : List Nat) : Nat × Nat :=
  let starts := List.range groups.length
  let run := fun start => ((groups.drop start).takeWhile (· == 0)).length
  starts.foldl (fun best start => if best.2 < run start then (start, run start) else best) (0, 0)

/-- The short text of eight groups. -/
def longText : List Nat -> String
  | [0, 0, 0, 0, 0, 0xFFFF, high, low] =>
      "::ffff:" ++ dotted (high / 256) (high % 256) (low / 256) (low % 256)
  | groups =>
      let (start, count) := longestZeros groups
      if 1 < count then
        colons (groups.take start) ++ "::" ++ colons (groups.drop (start + count))
      else
        colons groups

/-- The text of an address and of the number that tells the listeners on it apart. -/
def socketText (address : Address) (number : Nat) : String :=
  match address with
  | .short first second third fourth =>
      dotted first.val second.val third.val fourth.val ++ ":" ++ Decimal.natText number
  | .long groups _ => "[" ++ longText (groups.map Fin.val) ++ "]:" ++ Decimal.natText number

end Address
end Server
end ContactSearch
