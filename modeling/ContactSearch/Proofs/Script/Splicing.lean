import ContactSearch.Proofs.Script.Grammar
import ContactSearch.Proofs.Script.Truth

namespace ContactSearch
namespace Script

/-!
# Expressions spliced into a disjunction

An expression can be written between two operands of a disjunction without
parentheses.  Its own topmost alternatives then become operands of the
enclosing disjunction and are grouped with the operand in front of them, so the
tree of the expression is no part of the tree of the whole.

The outcome does not show this.  The alternatives are tried in the same order
as before, and the first one that is true or fails settles the whole.
-/

namespace Continuation

variable {level : Level}

/-- The operands of a chain with more operands behind them. -/
def followedBy : Continuation (.chain level) -> Continuation (.chain level) ->
    Continuation (.chain level)
  | .chainEnd, more => more
  | .chainMore sign operand rest, more => .chainMore sign operand (rest.followedBy more)

theorem yield_followedBy : forall rest more : Continuation (.chain level),
    (rest.followedBy more).yield = rest.yield ++ more.yield
  | .chainEnd, more => by rw [followedBy, yield, List.nil_append]
  | .chainMore sign operand rest, more => by
      rw [followedBy, yield, yield, yield_followedBy rest more, List.cons_append,
        List.append_assoc]

theorem extend_followedBy : forall (rest more : Continuation (.chain level)) (left : Tree),
    (rest.followedBy more).extend left = more.extend (rest.extend left)
  | .chainEnd, more, left => by rw [followedBy, extend]
  | .chainMore sign operand rest, more, left => by
      rw [followedBy, extend, extend]
      exact extend_followedBy rest more (sign.combine left operand.tree)

theorem depth_followedBy : forall rest more : Continuation (.chain level),
    (rest.followedBy more).depth = max rest.depth more.depth
  | .chainEnd, more => by rw [followedBy, depth, Nat.zero_max]
  | .chainMore sign operand rest, more => by
      rw [followedBy, depth, depth, depth_followedBy rest more, Nat.max_assoc]

/-- The first alternative can be tried apart from those that are grouped with it. -/
theorem test_extend_or (document : Json) :
    forall (rest : Continuation (.chain .disjunction)) (first second : Tree),
      (rest.extend (.or first second)).test document =
        either (first.test document) ((rest.extend second).test document)
  | .chainEnd, first, second => Tree.test_or document first second
  | .chainMore .or operand rest, first, second => by
      calc
        (rest.extend (.or (.or first second) operand.tree)).test document =
            either ((Tree.or first second).test document)
              ((rest.extend operand.tree).test document) :=
          test_extend_or document rest (.or first second) operand.tree
        _ = either (first.test document)
              (either (second.test document) ((rest.extend operand.tree).test document)) := by
          rw [Tree.test_or, either_assoc]
        _ = either (first.test document)
              ((rest.extend (.or second operand.tree)).test document) := by
          rw [test_extend_or document rest second operand.tree]

end Continuation

namespace Derivation

/-- An expression between two operands of a disjunction, without parentheses. -/
def between (front back : Derivation Level.disjunction.operand) :
    Derivation .expression -> Derivation .expression
  | .expression (.chain first rest) =>
      .expression (.chain front
        (.chainMore .or first (rest.followedBy (.chainMore .or back .chainEnd))))

variable (front back : Derivation Level.disjunction.operand) (inner : Derivation .expression)

theorem yield_between :
    (between front back inner).yield =
      front.yield ++ .symbol .or :: (inner.yield ++ .symbol .or :: back.yield) := by
  cases inner with | expression body =>
  cases body with | chain first rest =>
  simp only [between, yield, Continuation.yield, Continuation.yield_followedBy, Sign.symbol,
    List.append_assoc, List.append_nil]

theorem depth_between :
    (between front back inner).depth =
      max (front.depth + 1) (max inner.depth (back.depth + 1)) := by
  cases inner with | expression body =>
  cases body with | chain first rest =>
  simp only [between, depth, Continuation.depth, Continuation.depth_followedBy]
  omega

/-- The three are tried one after another, as if the expression stood in parentheses. -/
theorem test_tree_between (document : Json) :
    (between front back inner).tree.test document =
      either (front.tree.test document)
        (either (inner.tree.test document) (back.tree.test document)) := by
  cases inner with | expression body =>
  cases body with | chain first rest =>
  have grouped : (between front back (.expression (.chain first rest))).tree =
      .or (rest.extend (.or front.tree first.tree)) back.tree := by
    simp only [between, tree, Continuation.extend, Continuation.extend_followedBy, Sign.combine]
  rw [grouped, Tree.test_or, Continuation.test_extend_or, either_assoc]
  rfl

end Derivation
end Script
end ContactSearch
