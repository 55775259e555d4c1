namespace ContactSearch
namespace Script

/-!
# Tokens of scripts

A script is a filter expression over one document.  Its tokens are string
literals, number literals, names, five reserved words and twelve symbols.  A
token list ends with the end of the input or with the first fault; both are
tokens, because messages point at their positions.
-/

/-- The reserved words. -/
inductive Keyword where
  | true
  | false
  | null
  | undefined
  | this
  deriving DecidableEq

/-- The operators and delimiters. -/
inductive Symbol where
  | dot
  | openBracket
  | closeBracket
  | bang
  | equal
  | strictEqual
  | notEqual
  | strictNotEqual
  | and
  | or
  | openParen
  | closeParen
  deriving DecidableEq

/-- Why a string literal is refused. -/
inductive StringFault where
  | unterminated (quote : Char)
  | incompleteEscape
  | invalidUnicodeEscape
  | invalidUnicodeCharacter
  deriving DecidableEq

/-- Why no token can be read. -/
inductive LexicalFault where
  | badString (fault : StringFault)
  | assignment
  | singleAmpersand
  | singleBar
  | unexpectedCharacter (c : Char)
  deriving DecidableEq

/-- What a token is, apart from where it stands. -/
inductive Lexeme where
  | string (value : String)
  | number (digits : String)
  | identifier (name : String)
  | keyword (word : Keyword)
  | symbol (mark : Symbol)
  | endOfInput
  | invalid (fault : LexicalFault)
  deriving DecidableEq

/-- A token with the number of characters in front of it. -/
structure Token where
  lexeme : Lexeme
  position : Nat
  deriving DecidableEq

namespace Keyword

/-- The spelling of a reserved word. -/
def text : Keyword -> String
  | .true => "true"
  | .false => "false"
  | .null => "null"
  | .undefined => "undefined"
  | .this => "this"

/-- The name of a reserved word in messages. -/
def name : Keyword -> String
  | .true => "True"
  | .false => "False"
  | .null => "Null"
  | .undefined => "Undefined"
  | .this => "This"

/-- The reserved word that a word spells. -/
def ofText? (word : String) : Option Keyword :=
  [Keyword.true, .false, .null, .undefined, .this].find? fun keyword => keyword.text == word

theorem ofText?_text (keyword : Keyword) : ofText? keyword.text = some keyword := by
  cases keyword <;> decide

theorem text_of_ofText? {word : String} {keyword : Keyword} (found : ofText? word = some keyword) :
    keyword.text = word := by
  simpa using List.find?_some found

end Keyword

namespace Symbol

/-- The spelling of a symbol. -/
def text : Symbol -> String
  | .dot => "."
  | .openBracket => "["
  | .closeBracket => "]"
  | .bang => "!"
  | .equal => "=="
  | .strictEqual => "==="
  | .notEqual => "!="
  | .strictNotEqual => "!=="
  | .and => "&&"
  | .or => "||"
  | .openParen => "("
  | .closeParen => ")"

/-- The name of a symbol in messages. -/
def name : Symbol -> String
  | .dot => "Dot"
  | .openBracket => "OpenBracket"
  | .closeBracket => "CloseBracket"
  | .bang => "Bang"
  | .equal => "Equal"
  | .strictEqual => "StrictEqual"
  | .notEqual => "NotEqual"
  | .strictNotEqual => "StrictNotEqual"
  | .and => "And"
  | .or => "Or"
  | .openParen => "OpenParen"
  | .closeParen => "CloseParen"

end Symbol

/-- The wording of a refused string literal. -/
def StringFault.message : StringFault -> String
  | .unterminated quote =>
      "Unterminated string literal (missing closing " ++ String.singleton quote ++ ")"
  | .incompleteEscape => "Incomplete escape sequence in string literal"
  | .invalidUnicodeEscape => "Invalid unicode escape sequence"
  | .invalidUnicodeCharacter => "Invalid unicode character"

/-- The wording of a fault, without its position. -/
def LexicalFault.message : LexicalFault -> String
  | .badString fault => "String error: Parse error: " ++ fault.message
  | .assignment => "Assignment '=' is not supported"
  | .singleAmpersand => "Unexpected '&' character (did you mean '&&'?)"
  | .singleBar => "Unexpected '|' character (did you mean '||'?)"
  | .unexpectedCharacter c => "Unexpected character '" ++ String.singleton c ++ "'"

namespace Lexeme

/-- The name of a kind of token in messages. -/
def kindName : Lexeme -> String
  | .string _ => "StringLiteral"
  | .number _ => "NumberLiteral"
  | .identifier _ => "Identifier"
  | .keyword word => word.name
  | .symbol mark => mark.name
  | .endOfInput => "Eof"
  | .invalid _ => "Error"

/-- The content of a token: the value of a string, the message of a fault, else the spelling. -/
def text : Lexeme -> String
  | .string value => value
  | .number digits => digits
  | .identifier name => name
  | .keyword word => word.text
  | .symbol mark => mark.text
  | .endOfInput => ""
  | .invalid fault => fault.message

/-- Whether a token stands for a fault. -/
def isInvalid : Lexeme -> Bool
  | .invalid _ => true
  | _ => false

end Lexeme
end Script
end ContactSearch
