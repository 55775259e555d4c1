import ContactSearch.Number.Layout
import ContactSearch.Text.Quoted

namespace ContactSearch
namespace Script

/-!
# Expression trees

The tree of a script after parentheses are gone.  Its display writes
parentheses around every binary node, which shows how operators were grouped.
A negation is displayed without parentheses, so its extent is not shown when
it stands in front of an access.
-/

/-- Literals. -/
inductive Literal where
  | string (value : String)
  | number (value : Double)
  | boolean (value : Bool)
  | null
  | undefined
  deriving DecidableEq

/-- The four equality operators. -/
inductive Equality where
  | equal
  | notEqual
  | strictEqual
  | strictNotEqual
  deriving DecidableEq

/-- An expression. -/
inductive Tree where
  | literal (value : Literal)
  | this
  | identifier (name : String)
  | member (object : Tree) (property : String)
  | index (object key : Tree)
  | not (operand : Tree)
  | equality (operator : Equality) (left right : Tree)
  | and (left right : Tree)
  | or (left right : Tree)
  deriving DecidableEq

namespace Equality

/-- The spelling of an equality operator. -/
def text : Equality -> String
  | .equal => "=="
  | .notEqual => "!="
  | .strictEqual => "==="
  | .strictNotEqual => "!=="

end Equality

namespace Literal

/-- The display of a literal. -/
def display : Literal -> List Char
  | .string value => Text.quoted value
  | .number value => value.plainText
  | .boolean true => "true".toList
  | .boolean false => "false".toList
  | .null => "null".toList
  | .undefined => "undefined".toList

end Literal

namespace Tree

/-- The number of disjunctions in a tree. -/
def orCount : Tree -> Nat
  | .or left right => 1 + orCount left + orCount right
  | .and left right => orCount left + orCount right
  | .equality _ left right => orCount left + orCount right
  | .index object key => orCount object + orCount key
  | .member object _ => orCount object
  | .not operand => orCount operand
  | .literal _ => 0
  | .this => 0
  | .identifier _ => 0

/-- Two displayed operands and the operator between them, in parentheses. -/
def parenthesized (left : List Char) (operator : String) (right : List Char) : List Char :=
  '(' :: left ++ ' ' :: operator.toList ++ ' ' :: right ++ [')']

/-- The display of a tree. -/
def display : Tree -> List Char
  | .literal value => value.display
  | .this => "this".toList
  | .identifier name => name.toList
  | .member object property => display object ++ '.' :: property.toList
  | .index object key => display object ++ '[' :: display key ++ [']']
  | .not operand => '!' :: display operand
  | .equality operator left right => parenthesized (display left) operator.text (display right)
  | .and left right => parenthesized (display left) "&&" (display right)
  | .or left right => parenthesized (display left) "||" (display right)

/-- The display of a tree as a string. -/
def text (tree : Tree) : String :=
  String.ofList tree.display

end Tree
end Script
end ContactSearch
