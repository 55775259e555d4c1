import ContactSearch.Proofs.Outcome
import ContactSearch.Script.Evaluation

namespace ContactSearch
namespace Script

/-!
# When expressions count as true

Only the truth of an expression decides whether a document is found, so the
values behind it can be forgotten.  The truth of a conjunction or disjunction
follows from the outcomes of its operands, of which the second one counts only
if the first one does not decide.  Outcomes combined in this way can be grouped
as one likes, and an operand that is false and cannot fail can be left out.
-/

/-- Whether the value of a tree on a document value counts as true. -/
def Tree.test (document : Json) (tree : Tree) : Except EvaluationFault Bool :=
  (tree.evaluate document).map Value.isTruthy

variable {ε : Type}

/-- The outcome of a conjunction: the second outcome counts only if the first is true. -/
def both (first second : Except ε Bool) : Except ε Bool :=
  match first with
  | .ok true => second
  | _ => first

/-- The outcome of a disjunction: the second outcome counts only if the first is false. -/
def either (first second : Except ε Bool) : Except ε Bool :=
  match first with
  | .ok false => second
  | _ => first

theorem both_ok (first second : Bool) :
    both (.ok first : Except ε Bool) (.ok second) = .ok (first && second) := by
  cases first <;> rfl

theorem either_assoc (first second third : Except ε Bool) :
    either (either first second) third = either first (either second third) := by
  rcases first with fault | passed
  · rfl
  · cases passed <;> rfl

theorem either_false (outcome : Except ε Bool) : either outcome (.ok false) = outcome := by
  rcases outcome with fault | passed
  · rfl
  · cases passed <;> rfl

/-- A disjunction with an answer on the left fails only where the right operand counts. -/
theorem either_eq_error_iff {first : Bool} {second : Except ε Bool} {fault : ε} :
    either (.ok first) second = .error fault <-> first = false ∧ second = .error fault := by
  cases first with
  | false => exact ⟨fun fails => ⟨rfl, fails⟩, fun pair => pair.2⟩
  | true => exact ⟨nofun, fun pair => nomatch pair.1⟩

theorem mapError_either {ε' : Type} (wrap : ε -> ε') (first second : Except ε Bool) :
    (either first second).mapError wrap =
      either (first.mapError wrap) (second.mapError wrap) := by
  rcases first with fault | passed
  · rfl
  · cases passed <;> rfl

namespace Tree

variable (document : Json)

theorem test_of_evaluate {document : Json} {tree : Tree} {value : Value}
    (evaluated : tree.evaluate document = .ok value) : tree.test document = .ok value.isTruthy := by
  rw [test, evaluated]
  rfl

theorem test_and (left right : Tree) :
    (Tree.and left right).test document = both (left.test document) (right.test document) := by
  rw [test, evaluate]
  cases evaluated : left.evaluate document with
  | error fault =>
      rw [test, evaluated]
      rfl
  | ok value =>
      rw [test_of_evaluate evaluated]
      cases truth : value.isTruthy with
      | true =>
          simp only [bind, Except.bind, truth, if_true]
          rfl
      | false =>
          simp only [bind, Except.bind, truth, Bool.false_eq_true, if_false]
          exact congrArg Except.ok truth

theorem test_or (left right : Tree) :
    (Tree.or left right).test document = either (left.test document) (right.test document) := by
  rw [test, evaluate]
  cases evaluated : left.evaluate document with
  | error fault =>
      rw [test, evaluated]
      rfl
  | ok value =>
      rw [test_of_evaluate evaluated]
      cases truth : value.isTruthy with
      | true =>
          simp only [bind, Except.bind, truth, if_true]
          exact congrArg Except.ok truth
      | false =>
          simp only [bind, Except.bind, truth, Bool.false_eq_true, if_false]
          rfl

/-- A field of an object compared with a text: there is always an answer. -/
theorem test_equal_member (entries : List (String × Json)) (field text : String) :
    (Tree.equality .equal (.member .this field) (.literal (.string text))).test (.object entries) =
      .ok ((valueOrUndefined (Json.lookup field entries)).looseEquals (.string text)) :=
  rfl

end Tree

theorem Expression.parse_eq_ok_iff {source : String} {expression : Expression} :
    Expression.parse source = .ok expression <->
      expression.source = source ∧ Tree.parse source = .ok expression.tree := by
  rw [parse]
  cases Tree.parse source with
  | error fault => exact ⟨nofun, nofun⟩
  | ok tree =>
      constructor
      · intro read
        cases read
        exact ⟨rfl, rfl⟩
      · rintro ⟨rfl, same⟩
        cases same
        rfl

/-- Whether an expression holds is whether its tree does. -/
theorem Expression.test_eq (expression : Expression) (document : Json) :
    expression.test document = (expression.tree.test document).mapError .failed := by
  rw [test, Expression.evaluate, Tree.test]
  cases expression.tree.evaluate document <;> rfl

end Script
end ContactSearch
