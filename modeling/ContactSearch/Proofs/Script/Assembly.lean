import ContactSearch.Proofs.Script.Grammar

namespace ContactSearch
namespace Script

/-!
# Derivations put together

A negation can stand wherever an operand of a binary operator is asked for,
with nothing written around it.  Two of them with an operator between them,
in parentheses, are an operand again, and an access can be followed by more
accesses.  Of each of these the tokens, the tree and the depth are told.
-/

namespace Continuation

/-- Accesses with more accesses behind them. -/
def accessedBy : Continuation .access -> Continuation .access -> Continuation .access
  | .accessEnd, more => more
  | .member property rest, more => .member property (rest.accessedBy more)
  | .index key rest, more => .index key (rest.accessedBy more)

theorem yield_accessedBy : forall rest more : Continuation .access,
    (rest.accessedBy more).yield = rest.yield ++ more.yield
  | .accessEnd, more => by rw [accessedBy, yield, List.nil_append]
  | .member property rest, more => by
      rw [accessedBy, yield, yield, yield_accessedBy rest more, List.cons_append, List.cons_append]
  | .index key rest, more => by
      rw [accessedBy, yield, yield, yield_accessedBy rest more, List.cons_append,
        List.append_assoc, List.cons_append]

theorem extend_accessedBy : forall (rest more : Continuation .access) (object : Tree),
    (rest.accessedBy more).extend object = more.extend (rest.extend object)
  | .accessEnd, more, object => by rw [accessedBy, extend]
  | .member property rest, more, object => by
      rw [accessedBy, extend, extend]
      exact extend_accessedBy rest more (.member object property)
  | .index key rest, more, object => by
      rw [accessedBy, extend, extend]
      exact extend_accessedBy rest more (.index object key.tree)

theorem depth_accessedBy : forall rest more : Continuation .access,
    (rest.accessedBy more).depth = max rest.depth more.depth
  | .accessEnd, more => by rw [accessedBy, depth, Nat.zero_max]
  | .member property rest, more => by
      rw [accessedBy, depth, depth, depth_accessedBy rest more]
  | .index key rest, more => by
      rw [accessedBy, depth, depth, depth_accessedBy rest more, Nat.max_assoc]

end Continuation

namespace Derivation

/-- An access with more accesses behind it. -/
def accessedBy (more : Continuation .access) : Derivation .access -> Derivation .access
  | .access object rest => .access object (rest.accessedBy more)

section Accessed

variable (more : Continuation .access) (object : Derivation .access)

theorem yield_accessedBy : (object.accessedBy more).yield = object.yield ++ more.yield := by
  cases object with | access object rest =>
  rw [accessedBy, yield, yield, rest.yield_accessedBy, List.append_assoc]

theorem tree_accessedBy : (object.accessedBy more).tree = more.extend object.tree := by
  cases object with | access object rest =>
  rw [accessedBy, tree, tree, rest.extend_accessedBy]

theorem depth_accessedBy : (object.accessedBy more).depth = max object.depth more.depth := by
  cases object with | access object rest =>
  rw [accessedBy, depth, depth, rest.depth_accessedBy, Nat.max_assoc]

end Accessed

/-! ## Through the levels -/

/-- A negation as an operand of a level. -/
def asOperand (operand : Derivation .negation) : forall level : Level, Derivation level.operand
  | .equality => operand
  | .conjunction => .chain operand .chainEnd
  | .disjunction => .chain (.chain operand .chainEnd) .chainEnd

/-- A chain of any level as a disjunction. -/
def asDisjunction : forall {level : Level}, Derivation (.chain level) ->
    Derivation (.chain .disjunction)
  | .disjunction, body => body
  | .conjunction, body => .chain body .chainEnd
  | .equality, body => .chain (.chain body .chainEnd) .chainEnd

section Operand

variable (operand : Derivation .negation) (level : Level)

theorem yield_asOperand : (operand.asOperand level).yield = operand.yield := by
  cases level <;> simp [asOperand, yield, Continuation.yield] <;> rfl

theorem tree_asOperand : (operand.asOperand level).tree = operand.tree := by
  cases level <;> rfl

theorem depth_asOperand : (operand.asOperand level).depth = operand.depth := by
  cases level <;> simp [asOperand, depth, Continuation.depth] <;> rfl

end Operand

section Disjunction

variable {level : Level} (body : Derivation (.chain level))

theorem yield_asDisjunction : body.asDisjunction.yield = body.yield := by
  cases level <;> simp [asDisjunction, yield, Continuation.yield] <;> rfl

theorem tree_asDisjunction : body.asDisjunction.tree = body.tree := by
  cases level <;> rfl

theorem depth_asDisjunction : body.asDisjunction.depth = body.depth := by
  cases level <;> simp [asDisjunction, depth, Continuation.depth] <;> rfl

end Disjunction

/-! ## Whole expressions -/

/-- A negation as an expression. -/
def asExpression (operand : Derivation .negation) : Derivation .expression :=
  .expression (.chain (operand.asOperand .disjunction) .chainEnd)

section Expression

variable (operand : Derivation .negation)

theorem yield_asExpression : operand.asExpression.yield = operand.yield := by
  rw [asExpression, yield, yield, yield_asOperand, Continuation.yield, List.append_nil]

theorem tree_asExpression : operand.asExpression.tree = operand.tree :=
  rfl

theorem depth_asExpression : operand.asExpression.depth = operand.depth + 1 := by
  rw [asExpression, depth, depth, depth_asOperand, Continuation.depth, Nat.max_zero]

end Expression

/-- Two operands with an operator between them, in parentheses. -/
def grouped {level : Level} (sign : Sign level) (left right : Derivation .negation) :
    Derivation .access :=
  .access (.parenthesized (.expression
    (asDisjunction (.chain (left.asOperand level)
      (.chainMore sign (right.asOperand level) .chainEnd))))) .accessEnd

section Grouped

variable {level : Level} (sign : Sign level) (left right : Derivation .negation)

theorem yield_grouped :
    (grouped sign left right).yield =
      .symbol .openParen ::
        (left.yield ++ .symbol sign.symbol :: (right.yield ++ [.symbol .closeParen])) := by
  simp only [grouped, yield, yield_asDisjunction, yield_asOperand, Continuation.yield,
    List.append_nil, List.append_assoc, List.cons_append]

theorem tree_grouped : (grouped sign left right).tree = sign.combine left.tree right.tree := by
  simp only [grouped, tree, tree_asDisjunction, tree_asOperand, Continuation.extend]

theorem depth_grouped : (grouped sign left right).depth = max left.depth right.depth + 1 := by
  simp only [grouped, depth, depth_asDisjunction, depth_asOperand, Continuation.depth,
    Nat.max_zero]

end Grouped

end Derivation
end Script
end ContactSearch
