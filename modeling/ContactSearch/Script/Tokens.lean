import ContactSearch.Script.Token
import ContactSearch.Text.Alphabetic
import ContactSearch.Text.Blank
import ContactSearch.Text.Hexadecimal
import ContactSearch.Text.Numeric

namespace ContactSearch
namespace Script

/-!
# Reading tokens

One token is read from the front of a text that does not begin with white
space.  The reader says what the token is and how many characters belong to it
after its first one, so every step takes at least one character and reading a
whole text ends.  Words and numbers are as long as they can be.
-/

/-- Whether a name can begin with a character. -/
def isNameStart (c : Char) : Bool :=
  Text.isAlphabetic c || c == '_' || c == '$'

/-- Whether a name can go on with a character. -/
def isNamePart (c : Char) : Bool :=
  Text.isAlphabetic c || Text.isNumeric c || c == '_' || c == '$'

/-- The character that a backslash and a letter stand for; unknown letters stand for themselves. -/
def escapedCharacter (letter : Char) : Char :=
  match letter with
  | 'n' => '\n'
  | 'r' => '\r'
  | 't' => '\t'
  | 'b' => '\x08'
  | 'f' => '\x0c'
  | '0' => '\x00'
  | other => other

/-- Whether a number is not the code point of a character. -/
def isSurrogate (code : Nat) : Bool :=
  0xD800 ≤ code && code < 0xE000

/--
The string spelled after an opening quote, with the number of characters taken, the closing
quote included.
-/
def readString (quote : Char) : List Char -> Except StringFault (List Char × Nat)
  | [] => .error (.unterminated quote)
  | c :: rest =>
      if c = quote then
        .ok ([], 1)
      else if c = '\\' then
        match rest with
        | [] => .error .incompleteEscape
        | letter :: rest =>
            if letter = 'u' then
              match rest with
              | first :: second :: third :: fourth :: rest =>
                  match Text.hexQuad? first second third fourth with
                  | none => .error .invalidUnicodeEscape
                  | some code =>
                      if isSurrogate code then
                        .error .invalidUnicodeCharacter
                      else do
                        let (value, taken) ← readString quote rest
                        return (Char.ofNat code :: value, taken + 6)
              | _ => .error .invalidUnicodeEscape
            else do
              let (value, taken) ← readString quote rest
              return (escapedCharacter letter :: value, taken + 2)
      else do
        let (value, taken) ← readString quote rest
        return (c :: value, taken + 1)

/-- The digits after the point of a number; the point belongs to the number only if one follows. -/
def fractionPart : List Char -> List Char
  | '.' :: rest =>
      let digits := rest.takeWhile Char.isDigit
      if digits = [] then [] else '.' :: digits
  | _ => []

/-- A number whose first digit has been read: the characters that follow it. -/
def numberTail (rest : List Char) : List Char :=
  rest.takeWhile Char.isDigit ++ fractionPart (rest.dropWhile Char.isDigit)

/-- The token of a word: a reserved word or a name. -/
def wordLexeme (word : String) : Lexeme :=
  match Keyword.ofText? word with
  | some keyword => .keyword keyword
  | none => .identifier word

namespace Lexeme

/-- A symbol and the number of its characters after the first. -/
def ofSymbol (mark : Symbol) (more : Nat) : Lexeme × Nat :=
  (.symbol mark, more)

/-- The token that begins with a character, and how many of the following characters it takes. -/
def first (c : Char) (rest : List Char) : Lexeme × Nat :=
  match c with
  | '.' => ofSymbol .dot 0
  | '[' => ofSymbol .openBracket 0
  | ']' => ofSymbol .closeBracket 0
  | '(' => ofSymbol .openParen 0
  | ')' => ofSymbol .closeParen 0
  | '=' =>
      match rest with
      | '=' :: '=' :: _ => ofSymbol .strictEqual 2
      | '=' :: _ => ofSymbol .equal 1
      | _ => (.invalid .assignment, 0)
  | '!' =>
      match rest with
      | '=' :: '=' :: _ => ofSymbol .strictNotEqual 2
      | '=' :: _ => ofSymbol .notEqual 1
      | _ => ofSymbol .bang 0
  | '&' =>
      match rest with
      | '&' :: _ => ofSymbol .and 1
      | _ => (.invalid .singleAmpersand, 0)
  | '|' =>
      match rest with
      | '|' :: _ => ofSymbol .or 1
      | _ => (.invalid .singleBar, 0)
  | c =>
      if c = '"' ∨ c = '\x27' then
        match readString c rest with
        | .ok (value, taken) => (.string (String.ofList value), taken)
        | .error fault => (.invalid (.badString fault), 0)
      else if c.isDigit then
        let tail := numberTail rest
        (.number (String.ofList (c :: tail)), tail.length)
      else if isNameStart c then
        let tail := rest.takeWhile isNamePart
        (wordLexeme (String.ofList (c :: tail)), tail.length)
      else
        (.invalid (.unexpectedCharacter c), 0)

end Lexeme

/-- The tokens of a text that begins at a position; nothing follows the end or a fault. -/
def tokensFrom (position : Nat) : List Char -> List Token
  | [] => [⟨.endOfInput, position⟩]
  | c :: rest =>
      if Text.isBlank c then
        tokensFrom (position + 1) rest
      else
        let (lexeme, more) := Lexeme.first c rest
        if lexeme.isInvalid then
          [⟨lexeme, position⟩]
        else
          ⟨lexeme, position⟩ :: tokensFrom (position + 1 + more) (rest.drop more)
termination_by text => text.length
decreasing_by
  · simp
  · simp only [List.length_drop, List.length_cons]
    omega

/-- The tokens of a script. -/
def tokenize (source : String) : List Token :=
  tokensFrom 0 source.toList

end Script
end ContactSearch
