import ContactSearch.Number.Reading
import ContactSearch.Script.Tokens
import ContactSearch.Script.Tree

namespace ContactSearch
namespace Script

/-!
# Reading expressions

From loosest to tightest: `||`, `&&`, the four equalities, `!`, accesses by
name or by key, and operands.  Binary operators group to the left.  Two limits
hold for a script as a whole: how deeply expressions and negations may be
nested, and how many binary operators and accesses it may have.

The reader is built from the inside out.  What may stand inside parentheses or
brackets, or behind a negation, is the reader for one level less, so the depth
limit is also what makes reading end.  A chain of operators ends because every
operator uses up one of those that are still allowed.
-/

/-- How many expressions and negations may be open at once. -/
def maxDepth : Nat := 200

/-- How many binary operators and accesses a script may have. -/
def maxOperators : Nat := 256

/-- What the reader was doing when it met a token that does not fit. -/
inductive Context where
  | afterExpression
  | afterDot
  | closingBracket
  | closingParenthesis
  | operand
  deriving DecidableEq

/-- Why a script is not an expression. -/
inductive SyntaxFault where
  | invalidToken (fault : LexicalFault) (position : Nat)
  | unexpectedEnd (context : Context) (position : Nat)
  | unexpectedToken (lexeme : Lexeme) (context : Context) (position : Nat)
  | invalidNumber (digits : String) (position : Nat)
  | tooDeep
  | tooManyOperators
  deriving DecidableEq

/-- The words for a context in messages. -/
def Context.text : Context -> String
  | .afterExpression => "after expression"
  | .afterDot => "after '.'"
  | .closingBracket => "closing '['"
  | .closingParenthesis => "closing '('"
  | .operand => "where an operand was expected"

/-- The wording of a refused script. -/
def SyntaxFault.message : SyntaxFault -> String
  | .invalidToken fault position =>
      fault.message ++ " at position " ++ Decimal.natText position
  | .unexpectedEnd context position =>
      "Unexpected end of input " ++ context.text ++ " at position " ++ Decimal.natText position
  | .unexpectedToken lexeme context position =>
      "Unexpected token " ++ lexeme.kindName ++ " ('" ++ lexeme.text ++ "') " ++ context.text ++
        " at position " ++ Decimal.natText position
  | .invalidNumber digits position =>
      "Invalid number '" ++ digits ++ "' at position " ++ Decimal.natText position
  | .tooDeep =>
      "Expression too deeply nested (max depth: " ++ Decimal.natText maxDepth ++ ")"
  | .tooManyOperators =>
      "Expression has too many operators (max: " ++ Decimal.natText maxOperators ++ ")"

/-- The tokens that are still to be read, and how many operators are still allowed. -/
structure Cursor where
  tokens : List Token
  operators : Nat

/-- A step that reads something off the tokens. -/
abbrev Step (α : Type) := Cursor -> Except SyntaxFault (α × Cursor)

namespace Cursor

/-- The token that is read next.  A token list is never empty, so the default is not seen. -/
def current (cursor : Cursor) : Token :=
  cursor.tokens.headD ⟨.endOfInput, 0⟩

/-- The cursor behind the current token. -/
def next (cursor : Cursor) : Cursor :=
  { cursor with tokens := cursor.tokens.tail }

/-- The cursor behind an operator, which uses up one of those allowed. -/
def takeOperator (cursor : Cursor) : Except SyntaxFault Cursor :=
  match cursor.operators with
  | 0 => .error .tooManyOperators
  | operators + 1 => .ok { tokens := cursor.tokens.tail, operators }

/-- The fault of a current token that does not fit. -/
def unexpected (cursor : Cursor) (context : Context) : SyntaxFault :=
  match cursor.current.lexeme with
  | .invalid fault => .invalidToken fault cursor.current.position
  | .endOfInput => .unexpectedEnd context cursor.current.position
  | lexeme => .unexpectedToken lexeme context cursor.current.position

/-- The cursor behind a symbol that has to come next. -/
def expect (cursor : Cursor) (mark : Symbol) (context : Context) : Except SyntaxFault Cursor :=
  if cursor.current.lexeme = .symbol mark then .ok cursor.next
  else .error (cursor.unexpected context)

end Cursor

/-! ## Binary operators -/

/-- The meaning of a token as a disjunction sign. -/
def orOperator? : Lexeme -> Option (Tree -> Tree -> Tree)
  | .symbol .or => some Tree.or
  | _ => none

/-- The meaning of a token as a conjunction sign. -/
def andOperator? : Lexeme -> Option (Tree -> Tree -> Tree)
  | .symbol .and => some Tree.and
  | _ => none

/-- The meaning of a token as an equality sign. -/
def equalityOperator? : Lexeme -> Option (Tree -> Tree -> Tree)
  | .symbol .equal => some (Tree.equality .equal)
  | .symbol .notEqual => some (Tree.equality .notEqual)
  | .symbol .strictEqual => some (Tree.equality .strictEqual)
  | .symbol .strictNotEqual => some (Tree.equality .strictNotEqual)
  | _ => none

/-- Extend a left operand by the operators that follow it.  The fuel is the number allowed. -/
def chainFrom (operator? : Lexeme -> Option (Tree -> Tree -> Tree)) (operand : Step Tree) :
    Nat -> Tree -> Step Tree
  | fuel, left, cursor =>
      match operator? cursor.current.lexeme with
      | none => .ok (left, cursor)
      | some combine =>
          match fuel with
          | 0 => .error .tooManyOperators
          | fuel + 1 => do
              let behind ← cursor.takeOperator
              let (right, rest) ← operand behind
              chainFrom operator? operand fuel (combine left right) rest

/-- Operands with the operators of one level between them, grouped to the left. -/
def chain (operator? : Lexeme -> Option (Tree -> Tree -> Tree)) (operand : Step Tree) :
    Step Tree := fun cursor => do
  let (left, rest) ← operand cursor
  chainFrom operator? operand rest.operators left rest

/-- The three levels of binary operators over an operand. -/
def disjunction (operand : Step Tree) : Step Tree :=
  chain orOperator? (chain andOperator? (chain equalityOperator? operand))

/-! ## Accesses and operands -/

/-- Extend an object by the accesses that follow it; the fuel is how many operators are allowed. -/
def accessesFrom (inner : Step Tree) : Nat -> Tree -> Step Tree
  | fuel, object, cursor =>
      match cursor.current.lexeme with
      | .symbol .dot =>
          match fuel with
          | 0 => .error .tooManyOperators
          | fuel + 1 => do
              let behind ← cursor.takeOperator
              match behind.current.lexeme with
              | .identifier name => accessesFrom inner fuel (.member object name) behind.next
              | _ => .error (behind.unexpected .afterDot)
      | .symbol .openBracket =>
          match fuel with
          | 0 => .error .tooManyOperators
          | fuel + 1 => do
              let behind ← cursor.takeOperator
              let (key, rest) ← inner behind
              let closed ← rest.expect .closeBracket .closingBracket
              accessesFrom inner fuel (.index object key) closed
      | _ => .ok (object, cursor)

/-- The literal of a reserved word, or the document itself. -/
def keywordTree : Keyword -> Tree
  | .true => .literal (.boolean true)
  | .false => .literal (.boolean false)
  | .null => .literal .null
  | .undefined => .literal .undefined
  | .this => .this

/-- A literal, a name, or an expression in parentheses. -/
def primary (inner : Step Tree) : Step Tree := fun cursor =>
  match cursor.current.lexeme with
  | .string value => .ok (.literal (.string value), cursor.next)
  | .number digits =>
      match Double.ofText? digits.toList with
      | some value => .ok (.literal (.number value), cursor.next)
      | none => .error (.invalidNumber digits cursor.current.position)
  | .keyword word => .ok (keywordTree word, cursor.next)
  | .identifier name => .ok (.identifier name, cursor.next)
  | .symbol .openParen => do
      let (tree, rest) ← inner cursor.next
      let closed ← rest.expect .closeParen .closingParenthesis
      return (tree, closed)
  | _ => .error (cursor.unexpected .operand)

/-- An operand with its accesses. -/
def access (inner : Step Tree) : Step Tree := fun cursor => do
  let (object, rest) ← primary inner cursor
  accessesFrom inner rest.operators object rest

/-- An operand with the negations in front of it. -/
def negation (operand inner : Step Tree) : Step Tree := fun cursor =>
  if cursor.current.lexeme = .symbol .bang then do
    let (tree, rest) ← operand cursor.next
    return (.not tree, rest)
  else
    access inner cursor

/-- The refusal to go one level deeper. -/
def tooDeep : Step Tree := fun _ =>
  .error .tooDeep

/-- An operand in which the given number of further levels may be opened. -/
def operand : Nat -> Step Tree
  | 0 => negation tooDeep tooDeep
  | levels + 1 => negation (operand levels) (disjunction (operand levels))

/-- An expression that may open the given number of levels, itself included. -/
def expression : Nat -> Step Tree
  | 0 => tooDeep
  | levels + 1 => disjunction (operand levels)

/-- The tree of a token list. -/
def Tree.ofTokens (tokens : List Token) : Except SyntaxFault Tree := do
  let (tree, rest) ← expression maxDepth ⟨tokens, maxOperators⟩
  if rest.current.lexeme = .endOfInput then
    return tree
  else
    .error (rest.unexpected .afterExpression)

/-- The tree of a script. -/
def Tree.parse (source : String) : Except SyntaxFault Tree :=
  Tree.ofTokens (tokenize source)

end Script
end ContactSearch
