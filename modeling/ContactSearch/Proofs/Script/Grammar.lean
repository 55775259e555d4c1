import ContactSearch.Script.Reading

namespace ContactSearch
namespace Script

/-!
# The grammar of scripts

The grammar is stated apart from the reader.  An expression is a chain of
conjunctions with `||` between them, a conjunction is a chain of equalities
with `&&`, and an equality is a chain of negations with one of the four
equality signs.  A negation is an access behind any number of `!`, an access
is an operand behind which properties and keys are named, and an operand is a
literal, `this`, a name, or an expression in parentheses.

A derivation is data.  It has a yield, which is the list of tokens that it
derives, and a tree, in which chains are grouped to the left and parentheses
are gone.  So "the derivation is unique" says that the yield determines it.

A derivation also has a depth: how many expressions and negations are open at
once.  How many operators it has can be seen in its yield.
-/

/-- The levels of binary operators, from loosest to tightest. -/
inductive Level where
  | disjunction
  | conjunction
  | equality

/-- The operators of a level. -/
inductive Sign : Level -> Type where
  | or : Sign .disjunction
  | and : Sign .conjunction
  | equality (operator : Equality) : Sign .equality

/-- What a derivation derives. -/
inductive Category where
  | expression
  | chain (level : Level)
  | negation
  | access
  | operand

/-- What can follow any number of times: operands of a chain, and accesses. -/
inductive Repetition where
  | chain (level : Level)
  | access

/-- The operands of a chain are one level tighter. -/
def Level.operand : Level -> Category
  | .disjunction => .chain .conjunction
  | .conjunction => .chain .equality
  | .equality => .negation

/-- The symbol of an equality operator. -/
def Equality.symbol : Equality -> Symbol
  | .equal => .equal
  | .notEqual => .notEqual
  | .strictEqual => .strictEqual
  | .strictNotEqual => .strictNotEqual

namespace Sign

variable {level : Level}

/-- The symbol of an operator. -/
def symbol : Sign level -> Symbol
  | .or => .or
  | .and => .and
  | .equality operator => operator.symbol

/-- The tree of an operator between two operands. -/
def combine : Sign level -> Tree -> Tree -> Tree
  | .or => Tree.or
  | .and => Tree.and
  | .equality operator => Tree.equality operator

/-- On one level, different operators have different symbols. -/
theorem symbol_injective {first second : Sign level} (same : first.symbol = second.symbol) :
    first = second := by
  cases first with
  | or =>
      cases second
      rfl
  | and =>
      cases second
      rfl
  | equality operator =>
      cases second with
      | equality other =>
          cases operator <;> cases other <;> first
            | rfl
            | cases same

end Sign

/-- The literal that a token spells. -/
inductive Spells : Lexeme -> Literal -> Prop where
  | string (value : String) : Spells (.string value) (.string value)
  | number {digits : String} {value : Double} (read : Double.ofText? digits.toList = some value) :
      Spells (.number digits) (.number value)
  | true : Spells (.keyword .true) (.boolean true)
  | false : Spells (.keyword .false) (.boolean false)
  | null : Spells (.keyword .null) .null
  | undefined : Spells (.keyword .undefined) .undefined

theorem Spells.unique {lexeme : Lexeme} {first second : Literal}
    (left : Spells lexeme first) (right : Spells lexeme second) : first = second := by
  cases left with
  | number read =>
      cases right with
      | number read' => rw [Option.some.inj (read.symm.trans read')]
  | _ =>
      cases right
      rfl

mutual

/-- A derivation of a category. -/
inductive Derivation : Category -> Type where
  | expression (body : Derivation (.chain .disjunction)) : Derivation .expression
  | chain {level : Level} (first : Derivation level.operand)
      (rest : Continuation (.chain level)) : Derivation (.chain level)
  | not (operand : Derivation .negation) : Derivation .negation
  | plain (access : Derivation .access) : Derivation .negation
  | access (object : Derivation .operand) (rest : Continuation .access) : Derivation .access
  | literal (lexeme : Lexeme) (value : Literal) (spelled : Spells lexeme value) :
      Derivation .operand
  | this : Derivation .operand
  | identifier (name : String) : Derivation .operand
  | parenthesized (inner : Derivation .expression) : Derivation .operand

/-- A derivation of what follows the first operand of a chain, or an object. -/
inductive Continuation : Repetition -> Type where
  | chainEnd {level : Level} : Continuation (.chain level)
  | chainMore {level : Level} (sign : Sign level) (operand : Derivation level.operand)
      (rest : Continuation (.chain level)) : Continuation (.chain level)
  | accessEnd : Continuation .access
  | member (property : String) (rest : Continuation .access) : Continuation .access
  | index (key : Derivation .expression) (rest : Continuation .access) : Continuation .access

end

mutual

/-- The tokens that a derivation derives. -/
def Derivation.yield {category : Category} : Derivation category -> List Lexeme
  | .expression body => body.yield
  | .chain first rest => first.yield ++ rest.yield
  | .not operand => .symbol .bang :: operand.yield
  | .plain access => access.yield
  | .access object rest => object.yield ++ rest.yield
  | .literal lexeme _ _ => [lexeme]
  | .this => [.keyword .this]
  | .identifier name => [.identifier name]
  | .parenthesized inner => .symbol .openParen :: (inner.yield ++ [.symbol .closeParen])

/-- The tokens of what follows. -/
def Continuation.yield {repetition : Repetition} : Continuation repetition -> List Lexeme
  | .chainEnd => []
  | .chainMore sign operand rest => .symbol sign.symbol :: (operand.yield ++ rest.yield)
  | .accessEnd => []
  | .member property rest => .symbol .dot :: .identifier property :: rest.yield
  | .index key rest =>
      .symbol .openBracket :: (key.yield ++ .symbol .closeBracket :: rest.yield)

end

mutual

/-- The tree of a derivation. -/
def Derivation.tree {category : Category} : Derivation category -> Tree
  | .expression body => body.tree
  | .chain first rest => rest.extend first.tree
  | .not operand => .not operand.tree
  | .plain access => access.tree
  | .access object rest => rest.extend object.tree
  | .literal _ value _ => .literal value
  | .this => .this
  | .identifier name => .identifier name
  | .parenthesized inner => inner.tree

/-- The tree of what stands in front together with what follows, grouped to the left. -/
def Continuation.extend {repetition : Repetition} : Continuation repetition -> Tree -> Tree
  | .chainEnd, left => left
  | .chainMore sign operand rest, left => rest.extend (sign.combine left operand.tree)
  | .accessEnd, left => left
  | .member property rest, left => rest.extend (.member left property)
  | .index key rest, left => rest.extend (.index left key.tree)

end

mutual

/-- How many expressions and negations are open at once. -/
def Derivation.depth {category : Category} : Derivation category -> Nat
  | .expression body => body.depth + 1
  | .chain first rest => max first.depth rest.depth
  | .not operand => operand.depth + 1
  | .plain access => access.depth
  | .access object rest => max object.depth rest.depth
  | .literal _ _ _ => 0
  | .this => 0
  | .identifier _ => 0
  | .parenthesized inner => inner.depth

/-- How many expressions and negations are open at once in what follows. -/
def Continuation.depth {repetition : Repetition} : Continuation repetition -> Nat
  | .chainEnd => 0
  | .chainMore _ operand rest => max operand.depth rest.depth
  | .accessEnd => 0
  | .member _ rest => rest.depth
  | .index key rest => max key.depth rest.depth

end

/-- Whether a token is a binary operator or opens an access. -/
def Lexeme.isOperator : Lexeme -> Bool
  | .symbol .or => true
  | .symbol .and => true
  | .symbol .equal => true
  | .symbol .notEqual => true
  | .symbol .strictEqual => true
  | .symbol .strictNotEqual => true
  | .symbol .dot => true
  | .symbol .openBracket => true
  | _ => false

/-- The number of binary operators and accesses among tokens. -/
def operatorCount (lexemes : List Lexeme) : Nat :=
  lexemes.countP Lexeme.isOperator

/-! ## Tightness -/

/-- How tightly a token goes on with what stands in front of it; most tokens do not. -/
def Lexeme.tightness : Lexeme -> Nat
  | .symbol .or => 1
  | .symbol .and => 2
  | .symbol .equal => 3
  | .symbol .notEqual => 3
  | .symbol .strictEqual => 3
  | .symbol .strictNotEqual => 3
  | .symbol .dot => 4
  | .symbol .openBracket => 4
  | _ => 0

/-- The tightness of the operators of a level. -/
def Level.tightness : Level -> Nat
  | .disjunction => 1
  | .conjunction => 2
  | .equality => 3

/-- A token that is at least this tight belongs to a category that it follows. -/
def Category.tightness : Category -> Nat
  | .expression => 1
  | .chain level => level.tightness
  | .negation => 4
  | .access => 4
  | .operand => 5

/-- A token that is at least this tight belongs to a repetition that it follows. -/
def Repetition.tightness : Repetition -> Nat
  | .chain level => level.tightness
  | .access => 4

/-- The tightness of the first token, if there is one. -/
def frontTightness : List Lexeme -> Nat
  | [] => 0
  | lexeme :: _ => lexeme.tightness

@[simp] theorem frontTightness_cons (lexeme : Lexeme) (rest : List Lexeme) :
    frontTightness (lexeme :: rest) = lexeme.tightness := rfl

theorem frontTightness_le (lexemes : List Lexeme) : frontTightness lexemes ≤ 4 := by
  cases lexemes with
  | nil => exact Nat.zero_le 4
  | cons lexeme rest =>
      rw [frontTightness_cons]
      unfold Lexeme.tightness
      split <;> omega

@[simp] theorem Sign.tightness_symbol {level : Level} (sign : Sign level) :
    (Lexeme.symbol sign.symbol).tightness = level.tightness := by
  cases sign with
  | or => rfl
  | and => rfl
  | equality operator => cases operator <;> rfl

theorem Level.tightness_operand (level : Level) :
    level.operand.tightness = level.tightness + 1 := by
  cases level <;> rfl

/-- What follows in a chain begins with an operator of the level, or is empty. -/
theorem Continuation.front_chain {level : Level} (rest : Continuation (.chain level))
    {behind : List Lexeme} (stops : frontTightness behind < level.tightness) :
    frontTightness (rest.yield ++ behind) < level.operand.tightness := by
  rw [level.tightness_operand]
  cases rest with
  | chainEnd =>
      rw [Continuation.yield, List.nil_append]
      omega
  | chainMore sign operand rest =>
      rw [Continuation.yield, List.cons_append, frontTightness_cons, sign.tightness_symbol]
      omega

/-- No token continues an operand, so what follows an object needs no condition. -/
theorem Continuation.front_access (lexemes : List Lexeme) :
    frontTightness lexemes < Category.operand.tightness :=
  Nat.lt_succ_of_le (frontTightness_le lexemes)

/-- Nothing behind an expression, or a closing symbol: neither belongs to it. -/
theorem front_nil : frontTightness [] < Category.expression.tightness := by
  decide

theorem front_closeParen (rest : List Lexeme) :
    frontTightness (.symbol .closeParen :: rest) < Category.expression.tightness :=
  Nat.zero_lt_one

theorem front_closeBracket (rest : List Lexeme) :
    frontTightness (.symbol .closeBracket :: rest) < Category.expression.tightness :=
  Nat.zero_lt_one

/-- An access does not begin with a negation sign. -/
theorem Derivation.front_access (access : Derivation .access) :
    exists lexeme rest, access.yield = lexeme :: rest ∧ lexeme ≠ .symbol .bang := by
  cases access with
  | access object rest =>
      rw [Derivation.yield]
      cases object with
      | literal lexeme value spelled =>
          refine ⟨lexeme, _, rfl, ?_⟩
          intro same
          subst same
          cases spelled
      | this => exact ⟨_, _, rfl, Lexeme.noConfusion⟩
      | identifier name => exact ⟨_, _, rfl, Lexeme.noConfusion⟩
      | parenthesized inner => exact ⟨_, _, rfl, by decide⟩

/-! ## Unambiguity -/

mutual

/--
Two derivations of one category that begin the same text are equal, provided that neither could
have gone on with the token behind it.
-/
theorem Derivation.eq_of_yield_append {category : Category} :
    forall (first second : Derivation category) {behind behind' : List Lexeme},
      frontTightness behind < category.tightness ->
      frontTightness behind' < category.tightness ->
      first.yield ++ behind = second.yield ++ behind' ->
      first = second ∧ behind = behind'
  | .expression body, second, behind, behind', stops, stops', same => by
      cases second with
      | expression other =>
          rcases body.eq_of_yield_append other stops stops' same with ⟨rfl, rfl⟩
          exact ⟨rfl, rfl⟩
  | .chain start rest, second, behind, behind', stops, stops', same => by
      cases second with
      | chain start' rest' =>
          simp only [Derivation.yield, List.append_assoc] at same
          rcases start.eq_of_yield_append start'
            (rest.front_chain stops) (rest'.front_chain stops') same with ⟨rfl, restSame⟩
          rcases rest.eq_of_yield_append rest' stops stops' restSame with ⟨rfl, rfl⟩
          exact ⟨rfl, rfl⟩
  | .not operand, second, behind, behind', stops, stops', same => by
      cases second with
      | not operand' =>
          simp only [Derivation.yield, List.cons_append, List.cons.injEq, true_and] at same
          rcases operand.eq_of_yield_append operand' stops stops' same with ⟨rfl, rfl⟩
          exact ⟨rfl, rfl⟩
      | plain access =>
          rcases access.front_access with ⟨lexeme, tail, front, different⟩
          simp only [Derivation.yield, front, List.cons_append, List.cons.injEq] at same
          exact absurd same.1.symm different
  | .plain access, second, behind, behind', stops, stops', same => by
      cases second with
      | not operand =>
          rcases access.front_access with ⟨lexeme, tail, front, different⟩
          simp only [Derivation.yield, front, List.cons_append, List.cons.injEq] at same
          exact absurd same.1 different
      | plain access' =>
          rcases access.eq_of_yield_append access' stops stops' same with ⟨rfl, rfl⟩
          exact ⟨rfl, rfl⟩
  | .access object rest, second, behind, behind', stops, stops', same => by
      cases second with
      | access object' rest' =>
          simp only [Derivation.yield, List.append_assoc] at same
          rcases object.eq_of_yield_append object'
            (Continuation.front_access _) (Continuation.front_access _) same with ⟨rfl, restSame⟩
          rcases rest.eq_of_yield_append rest' stops stops' restSame with ⟨rfl, rfl⟩
          exact ⟨rfl, rfl⟩
  | .literal lexeme value spelled, second, behind, behind', _, _, same => by
      cases second with
      | literal lexeme' value' spelled' =>
          simp only [Derivation.yield, List.cons_append, List.nil_append, List.cons.injEq] at same
          rcases same with ⟨rfl, rfl⟩
          cases spelled.unique spelled'
          exact ⟨rfl, rfl⟩
      | _ =>
          simp only [Derivation.yield, List.cons_append, List.cons.injEq] at same
          rcases same with ⟨rfl, _⟩
          cases spelled
  | .this, second, behind, behind', _, _, same => by
      cases second with
      | this => exact ⟨rfl, (List.cons.inj same).2⟩
      | literal lexeme value spelled =>
          simp only [Derivation.yield, List.cons_append, List.cons.injEq] at same
          rcases same with ⟨rfl, _⟩
          cases spelled
      | _ => cases same
  | .identifier name, second, behind, behind', _, _, same => by
      cases second with
      | identifier name' =>
          simp only [Derivation.yield, List.cons_append, List.nil_append, List.cons.injEq,
            Lexeme.identifier.injEq] at same
          rcases same with ⟨rfl, rfl⟩
          exact ⟨rfl, rfl⟩
      | literal lexeme value spelled =>
          simp only [Derivation.yield, List.cons_append, List.cons.injEq] at same
          rcases same with ⟨rfl, _⟩
          cases spelled
      | _ => cases same
  | .parenthesized inner, second, behind, behind', _, _, same => by
      cases second with
      | parenthesized inner' =>
          simp only [Derivation.yield, List.cons_append, List.append_assoc, List.cons.injEq,
            true_and] at same
          rcases inner.eq_of_yield_append inner'
            (front_closeParen _) (front_closeParen _) same with ⟨rfl, restSame⟩
          exact ⟨rfl, (List.cons.inj restSame).2⟩
      | literal lexeme value spelled =>
          simp only [Derivation.yield, List.cons_append, List.cons.injEq] at same
          rcases same with ⟨rfl, _⟩
          cases spelled
      | _ => cases same

/-- Two continuations that begin the same text are equal under the same proviso. -/
theorem Continuation.eq_of_yield_append {repetition : Repetition} :
    forall (first second : Continuation repetition) {behind behind' : List Lexeme},
      frontTightness behind < repetition.tightness ->
      frontTightness behind' < repetition.tightness ->
      first.yield ++ behind = second.yield ++ behind' ->
      first = second ∧ behind = behind'
  | .chainEnd, second, behind, behind', stops, _, same => by
      cases second with
      | chainEnd => exact ⟨rfl, same⟩
      | chainMore sign operand rest =>
          rw [show behind = _ from same, Continuation.yield, List.cons_append,
            frontTightness_cons, sign.tightness_symbol] at stops
          exact absurd stops (Nat.lt_irrefl _)
  | .chainMore sign operand rest, second, behind, behind', stops, stops', same => by
      cases second with
      | chainEnd =>
          rw [show behind' = _ from same.symm, Continuation.yield, List.cons_append,
            frontTightness_cons, sign.tightness_symbol] at stops'
          exact absurd stops' (Nat.lt_irrefl _)
      | chainMore sign' operand' rest' =>
          simp only [Continuation.yield, List.cons_append, List.append_assoc, List.cons.injEq,
            Lexeme.symbol.injEq] at same
          rcases same with ⟨sameSign, same⟩
          cases Sign.symbol_injective sameSign
          rcases operand.eq_of_yield_append operand'
            (rest.front_chain stops) (rest'.front_chain stops') same with ⟨rfl, restSame⟩
          rcases rest.eq_of_yield_append rest' stops stops' restSame with ⟨rfl, rfl⟩
          exact ⟨rfl, rfl⟩
  | .accessEnd, second, behind, behind', stops, _, same => by
      cases second with
      | accessEnd => exact ⟨rfl, same⟩
      | _ =>
          rw [show behind = _ from same] at stops
          exact absurd stops (Nat.lt_irrefl 4)
  | .member property rest, second, behind, behind', stops, stops', same => by
      cases second with
      | accessEnd =>
          rw [show behind' = _ from same.symm] at stops'
          exact absurd stops' (Nat.lt_irrefl 4)
      | member property' rest' =>
          simp only [Continuation.yield, List.cons_append, List.cons.injEq,
            Lexeme.identifier.injEq, true_and] at same
          rcases same with ⟨rfl, same⟩
          rcases rest.eq_of_yield_append rest' stops stops' same with ⟨rfl, rfl⟩
          exact ⟨rfl, rfl⟩
      | index key rest' => cases same
  | .index key rest, second, behind, behind', stops, stops', same => by
      cases second with
      | accessEnd =>
          rw [show behind' = _ from same.symm] at stops'
          exact absurd stops' (Nat.lt_irrefl 4)
      | member property rest' => cases same
      | index key' rest' =>
          simp only [Continuation.yield, List.cons_append, List.append_assoc, List.cons.injEq,
            true_and] at same
          rcases key.eq_of_yield_append key'
            (front_closeBracket _) (front_closeBracket _) same with ⟨rfl, restSame⟩
          rcases rest.eq_of_yield_append rest' stops stops' (List.cons.inj restSame).2 with
            ⟨rfl, rfl⟩
          exact ⟨rfl, rfl⟩

end

/-- The grammar is unambiguous: the tokens of an expression determine its derivation. -/
theorem Derivation.yield_injective {first second : Derivation .expression}
    (same : first.yield = second.yield) : first = second :=
  (first.eq_of_yield_append second front_nil front_nil (congrArg (· ++ []) same)).1

/-! ## String literals -/

/-- The value of a string literal. -/
def Lexeme.string? : Lexeme -> Option String
  | .string value => some value
  | _ => none

/-- The string literals of a tree from left to right. -/
def Tree.strings : Tree -> List String
  | .literal (.string value) => [value]
  | .literal _ => []
  | .this => []
  | .identifier _ => []
  | .member object _ => object.strings
  | .index object key => object.strings ++ key.strings
  | .not operand => operand.strings
  | .equality _ left right => left.strings ++ right.strings
  | .and left right => left.strings ++ right.strings
  | .or left right => left.strings ++ right.strings

end Script
end ContactSearch
