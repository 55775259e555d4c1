import ContactSearch.Proofs.Script.Grammar
import ContactSearch.Proofs.Script.Lexemes

namespace ContactSearch
namespace Script

/-!
# What a tree keeps of its tokens

Parentheses and negation signs leave no more than a shape behind.  All other
tokens leave a mark in the tree: literals, names, and one mark for each binary
operator and each access.  The marks of a tree are those of its tokens, in
their order.  So what holds of every token of a text holds of every mark, and
the operators of a text can be counted in its tree.
-/

/-- What a token leaves in a tree. -/
inductive Mark where
  | literal (value : Literal)
  | name (text : String)
  | operator
  deriving DecidableEq

/-- The marks of a tree from left to right. -/
def Tree.marks : Tree -> List Mark
  | .literal value => [.literal value]
  | .this => []
  | .identifier name => [.name name]
  | .member object property => object.marks ++ [.operator, .name property]
  | .index object key => object.marks ++ .operator :: key.marks
  | .not operand => operand.marks
  | .equality _ left right => left.marks ++ .operator :: right.marks
  | .and left right => left.marks ++ .operator :: right.marks
  | .or left right => left.marks ++ .operator :: right.marks

/-- The literal of a reserved word. -/
def Keyword.literal? : Keyword -> Option Literal
  | .true => some (.boolean Bool.true)
  | .false => some (.boolean Bool.false)
  | .null => some .null
  | .undefined => some .undefined
  | .this => none

/-- What a token leaves in a tree, if it leaves anything but a shape. -/
def Lexeme.mark? : Lexeme -> Option Mark
  | .string value => some (.literal (.string value))
  | .number digits => (Double.ofText? digits.toList).map fun value => .literal (.number value)
  | .identifier name => some (.name name)
  | .keyword word => word.literal?.map Mark.literal
  | .symbol mark => if (Lexeme.symbol mark).isOperator then some .operator else none
  | .endOfInput => none
  | .invalid _ => none

theorem Sign.marks_combine {level : Level} (sign : Sign level) (left right : Tree) :
    (sign.combine left right).marks = left.marks ++ .operator :: right.marks := by
  cases sign <;> rfl

theorem Sign.mark?_symbol {level : Level} (sign : Sign level) :
    (Lexeme.symbol sign.symbol).mark? = some .operator := by
  cases sign with
  | or => rfl
  | and => rfl
  | equality operator => cases operator <;> rfl

theorem mark?_dot : (Lexeme.symbol .dot).mark? = some .operator := rfl

theorem mark?_openBracket : (Lexeme.symbol .openBracket).mark? = some .operator := rfl

theorem mark?_identifier (name : String) :
    (Lexeme.identifier name).mark? = some (.name name) := rfl

theorem Spells.mark? {lexeme : Lexeme} {value : Literal} (spelled : Spells lexeme value) :
    lexeme.mark? = some (.literal value) := by
  cases spelled with
  | number read => rw [Lexeme.mark?, read, Option.map_some]
  | _ => rfl

mutual

/-- The marks of a derivation's tree are those of its tokens. -/
theorem Derivation.marks_tree {category : Category} :
    forall derivation : Derivation category,
      derivation.tree.marks = derivation.yield.filterMap Lexeme.mark?
  | .expression body => body.marks_tree
  | .chain first rest => by
      rw [Derivation.tree, Derivation.yield, rest.marks_extend, first.marks_tree,
        List.filterMap_append]
  | .not operand => operand.marks_tree
  | .plain access => access.marks_tree
  | .access object rest => by
      rw [Derivation.tree, Derivation.yield, rest.marks_extend, object.marks_tree,
        List.filterMap_append]
  | .literal lexeme value spelled => by
      rw [Derivation.yield, List.filterMap_cons_some spelled.mark?]
      rfl
  | .this => rfl
  | .identifier name => rfl
  | .parenthesized inner => by
      rw [Derivation.tree, inner.marks_tree, Derivation.yield, List.filterMap_cons_none rfl,
        List.filterMap_append]
      exact (List.append_nil _).symm

/-- What follows adds the marks of its tokens. -/
theorem Continuation.marks_extend {repetition : Repetition} :
    forall (rest : Continuation repetition) (left : Tree),
      (rest.extend left).marks = left.marks ++ rest.yield.filterMap Lexeme.mark?
  | .chainEnd, left => (List.append_nil left.marks).symm
  | .chainMore sign operand rest, left => by
      rw [Continuation.extend, Continuation.yield, rest.marks_extend, sign.marks_combine,
        operand.marks_tree, List.filterMap_cons_some sign.mark?_symbol, List.filterMap_append,
        List.append_assoc, List.cons_append]
  | .accessEnd, left => (List.append_nil left.marks).symm
  | .member property rest, left => by
      rw [Continuation.extend, Continuation.yield, rest.marks_extend, Tree.marks,
        List.filterMap_cons_some mark?_dot, List.filterMap_cons_some (mark?_identifier property),
        List.append_assoc]
      rfl
  | .index key rest, left => by
      rw [Continuation.extend, Continuation.yield, rest.marks_extend, Tree.marks,
        key.marks_tree, List.filterMap_cons_some mark?_openBracket, List.filterMap_append,
        List.filterMap_cons_none rfl, List.append_assoc, List.cons_append]

end

/-! ## String literals -/

/-- The value of a string literal in a tree. -/
def Mark.string? : Mark -> Option String
  | .literal (.string value) => some value
  | _ => none

theorem Tree.strings_eq (tree : Tree) : tree.strings = tree.marks.filterMap Mark.string? := by
  induction tree with
  | literal value => cases value <;> rfl
  | this => rfl
  | identifier name => rfl
  | member object property ih =>
      rw [Tree.strings, Tree.marks, List.filterMap_append, ih]
      exact (List.append_nil _).symm
  | not operand ih => exact ih
  | index left right ih ih' | equality _ left right ih ih' | and left right ih ih'
  | or left right ih ih' =>
      rw [Tree.strings, Tree.marks, List.filterMap_append, List.filterMap_cons_none rfl, ih, ih']

theorem Lexeme.string?_eq (lexeme : Lexeme) : lexeme.string? = lexeme.mark?.bind Mark.string? := by
  cases lexeme with
  | number digits => cases spelled : Double.ofText? digits.toList <;> simp [mark?, spelled] <;> rfl
  | keyword word => cases word <;> rfl
  | symbol mark => cases mark <;> rfl
  | _ => rfl

/-- A tree has the string literals of its tokens, in their order. -/
theorem Derivation.strings_tree {category : Category} (derivation : Derivation category) :
    derivation.tree.strings = derivation.yield.filterMap Lexeme.string? := by
  have same : Lexeme.string? = fun lexeme => lexeme.mark?.bind Mark.string? :=
    funext Lexeme.string?_eq
  rw [derivation.tree.strings_eq, derivation.marks_tree, List.filterMap_filterMap, same]

/-! ## Operators -/

/-- The number of binary operators and accesses in a tree. -/
def Tree.operatorCount (tree : Tree) : Nat :=
  tree.marks.countP (· == .operator)

theorem Lexeme.mark?_eq_operator_iff (lexeme : Lexeme) :
    lexeme.mark? = some .operator <-> lexeme.isOperator = true := by
  cases lexeme with
  | symbol mark => cases mark <;> simp [mark?, isOperator]
  | number digits =>
      cases spelled : Double.ofText? digits.toList <;> simp [mark?, isOperator, spelled]
  | keyword word => cases word <;> simp [mark?, isOperator, Keyword.literal?]
  | _ => simp [mark?, isOperator]

theorem countP_filterMap_mark? (lexemes : List Lexeme) :
    (lexemes.filterMap Lexeme.mark?).countP (· == .operator) = Script.operatorCount lexemes := by
  rw [List.countP_filterMap, Script.operatorCount]
  apply List.countP_congr
  intro lexeme _
  rw [<- lexeme.mark?_eq_operator_iff]
  cases lexeme.mark? <;> simp

/-- A tree has as many operators as the tokens that it was read from. -/
theorem Derivation.operatorCount_tree {category : Category} (derivation : Derivation category) :
    derivation.tree.operatorCount = Script.operatorCount derivation.yield := by
  rw [Tree.operatorCount, derivation.marks_tree, countP_filterMap_mark?]

end Script
end ContactSearch
