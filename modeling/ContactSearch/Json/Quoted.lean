import ContactSearch.Text.Hexadecimal

namespace ContactSearch
namespace Json

/-!
# Quoted strings in document text

Writing escapes the quotation mark, the backslash and the control characters
below a space, and nothing else.  Reading accepts every escape of the format:
a `\u` escape above the basic plane comes as two surrogates, and a surrogate
that stands alone is refused.
-/

/-- The characters that have an escape of one letter, with that letter. -/
def shortEscapes : List (Char × Char) :=
  [('"', '"'), ('\\', '\\'), ('\x08', 'b'), ('\x0c', 'f'), ('\n', 'n'), ('\r', 'r'), ('\t', 't')]

/-- How a character is written inside a quoted string. -/
def escaped (c : Char) : List Char :=
  match shortEscapes.find? (fun pair => pair.1 == c) with
  | some pair => ['\\', pair.2]
  | none => if c.toNat < 32 then '\\' :: 'u' :: Text.hexQuad c.toNat else [c]

/-- A quoted string. -/
def quoted (text : String) : List Char :=
  '"' :: text.toList.flatMap escaped ++ ['"']

/-- The character that a one-letter escape stands for. -/
def unescaped? (letter : Char) : Option Char :=
  if letter = '/' then some '/'
  else (shortEscapes.find? (fun pair => pair.2 == letter)).map Prod.fst

/-- Whether a code unit is the first half of a surrogate pair. -/
def isLeadingSurrogate (unit : Nat) : Bool :=
  0xD800 ≤ unit && unit < 0xDC00

/-- Whether a code unit is the second half of a surrogate pair. -/
def isTrailingSurrogate (unit : Nat) : Bool :=
  0xDC00 ≤ unit && unit < 0xE000

/-- The code point of a surrogate pair. -/
def pairedCode (leading trailing : Nat) : Nat :=
  0x10000 + (leading - 0xD800) * 0x400 + (trailing - 0xDC00)

/--
The rest of a quoted string after its opening quotation mark: its characters, and the text
after the closing one.
-/
def readQuoted? : List Char -> Option (List Char × List Char)
  | [] => none
  | '"' :: rest => some ([], rest)
  | '\\' :: 'u' :: a :: b :: c :: d :: rest => do
      let unit ← Text.hexQuad? a b c d
      if isLeadingSurrogate unit then
        match rest with
        | '\\' :: 'u' :: e :: f :: g :: h :: rest =>
            let trailing ← Text.hexQuad? e f g h
            if isTrailingSurrogate trailing then
              let (text, after) ← readQuoted? rest
              return (Char.ofNat (pairedCode unit trailing) :: text, after)
            else
              none
        | _ => none
      else if isTrailingSurrogate unit then
        none
      else
        let (text, after) ← readQuoted? rest
        return (Char.ofNat unit :: text, after)
  | '\\' :: letter :: rest => do
      let c ← unescaped? letter
      let (text, after) ← readQuoted? rest
      return (c :: text, after)
  | c :: rest =>
      if c.toNat < 32 || c == '\\' then
        none
      else do
        let (text, after) ← readQuoted? rest
        return (c :: text, after)

end Json
end ContactSearch
