import ContactSearch.Proofs.Json.Reordering
import ContactSearch.Proofs.Outcome
import ContactSearch.Script.Evaluation

namespace ContactSearch
namespace Script

/-!
# Expressions on reordered documents

An expression on a reordered document has a reordered value, or none for the
same reason.  Each operation is treated by itself: what it answers on reordered
values is the same answer, or a reordered one.  An expression is then settled
along its structure, whatever runs through its operators, indices and accesses.
-/

namespace Value

/-- The values that differ only in the order of the keys of their objects, at any depth. -/
inductive Reordered : Value -> Value -> Prop where
  | refl (value : Value) : Reordered value value
  | array {left right : List Json} (items : (Json.array left).Reordered (.array right)) :
      Reordered (.array left) (.array right)
  | object {left right : List (String × Json)}
      (entries : (Json.object left).Reordered (.object right)) :
      Reordered (.object left) (.object right)

theorem reordered_ofJson {left right : Json} (reordered : left.Reordered right) :
    (ofJson left).Reordered (ofJson right) := by
  cases reordered.alike with
  | same => exact .refl _
  | arrays => exact .array reordered
  | objects => exact .object reordered

theorem reordered_valueOrUndefined {left right : Option Json}
    (reordered : Option.Rel Json.Reordered left right) :
    (valueOrUndefined left).Reordered (valueOrUndefined right) := by
  cases reordered with
  | none => exact .refl _
  | some same => exact reordered_ofJson same

/-! ## What is no document value any more -/

/-- Arrays and objects are loosely equal only to values of their type. -/
theorem looseEquals_of_object {value : Value} (object : value.typeName = "object")
    (other : Value) :
    value.looseEquals other = value.strictEquals other ∧
      other.looseEquals value = other.strictEquals value := by
  cases value with
  | array items => cases other <;> exact ⟨rfl, rfl⟩
  | object entries => cases other <;> exact ⟨rfl, rfl⟩
  | _ => simp [typeName] at object

namespace Reordered

variable {left right left' right' : Value}

theorem isTruthy_eq (reordered : left.Reordered right) : left.isTruthy = right.isTruthy := by
  cases reordered <;> rfl

theorem keyProperty_eq (reordered : left.Reordered right) :
    keyProperty left = keyProperty right := by
  cases reordered <;> rfl

theorem strictEquals_left (reordered : left.Reordered right) (other : Value) :
    left.strictEquals other = right.strictEquals other := by
  cases reordered with
  | refl => rfl
  | array items =>
      cases other with
      | array others => exact items.interchangeable.onLeft (.array others)
      | _ => rfl
  | object entries =>
      cases other with
      | object others => exact entries.interchangeable.onLeft (.object others)
      | _ => rfl

theorem strictEquals_right (reordered : left.Reordered right) (other : Value) :
    other.strictEquals left = other.strictEquals right := by
  cases reordered with
  | refl => rfl
  | array items =>
      cases other with
      | array others => exact items.interchangeable.onRight (.array others)
      | _ => rfl
  | object entries =>
      cases other with
      | object others => exact entries.interchangeable.onRight (.object others)
      | _ => rfl

theorem looseEquals_left (reordered : left.Reordered right) (other : Value) :
    left.looseEquals other = right.looseEquals other := by
  have strict := reordered.strictEquals_left other
  cases reordered with
  | refl => rfl
  | array | object =>
      rwa [(looseEquals_of_object rfl other).1, (looseEquals_of_object rfl other).1]

theorem looseEquals_right (reordered : left.Reordered right) (other : Value) :
    other.looseEquals left = other.looseEquals right := by
  have strict := reordered.strictEquals_right other
  cases reordered with
  | refl => rfl
  | array | object =>
      rwa [(looseEquals_of_object rfl other).2, (looseEquals_of_object rfl other).2]

theorem holds_eq (lefts : left.Reordered left') (rights : right.Reordered right')
    (operator : Equality) : operator.holds left right = operator.holds left' right' := by
  have strict := (lefts.strictEquals_left right).trans (rights.strictEquals_right left')
  have loose := (lefts.looseEquals_left right).trans (rights.looseEquals_right left')
  cases operator with
  | equal => exact loose
  | notEqual => exact congrArg not loose
  | strictEqual => exact strict
  | strictNotEqual => exact congrArg not strict

theorem readProperty_corresponds (reordered : left.Reordered right) (property : String) :
    Corresponds Eq Reordered (readProperty left property) (readProperty right property) := by
  cases reordered with
  | refl =>
      cases readProperty left property with
      | error fault => exact .fault rfl
      | ok read => exact .result (.refl read)
  | array items =>
      rw [readProperty, readProperty]
      split
      · rw [items.length_eq]
        exact .result (.refl _)
      · apply Corresponds.result
        apply reordered_valueOrUndefined
        cases position? property with
        | none => exact .none
        | some place => exact items.items place
  | object entries =>
      exact .result (reordered_valueOrUndefined (entries.values property))

end Reordered
end Value

/-- An expression has reordered values on reordered documents, or fails on both alike. -/
theorem Tree.evaluate_corresponds {document document' : Json}
    (reordered : document.Reordered document') (tree : Tree) :
    Corresponds Eq Value.Reordered (tree.evaluate document) (tree.evaluate document') := by
  induction tree with
  | literal value => exact .result (.refl _)
  | this => exact .result (Value.reordered_ofJson reordered)
  | identifier name =>
      rw [evaluate, evaluate]
      split
      · exact .result (Value.reordered_ofJson reordered)
      · exact .fault rfl
  | member object property ih =>
      exact ih.bind fun _ _ target => target.readProperty_corresponds property
  | index object key ihObject ihKey =>
      refine ihObject.bind fun _ _ target => ihKey.bind fun _ _ value => ?_
      rw [value.keyProperty_eq]
      exact (Corresponds.refl _).bind fun _ _ same =>
        same ▸ target.readProperty_corresponds _
  | not operand ih =>
      refine ih.bind fun _ _ value => ?_
      rw [value.isTruthy_eq]
      exact .result (.refl _)
  | equality operator left right ihLeft ihRight =>
      refine ihLeft.bind fun _ _ lefts => ihRight.bind fun _ _ rights => ?_
      rw [lefts.holds_eq rights]
      exact .result (.refl _)
  | and left right ihLeft ihRight =>
      refine ihLeft.bind fun _ _ value => ?_
      rw [value.isTruthy_eq]
      split
      · exact ihRight
      · exact .result value
  | or left right ihLeft ihRight =>
      refine ihLeft.bind fun _ _ value => ?_
      rw [value.isTruthy_eq]
      split
      · exact .result value
      · exact ihRight

namespace Expression

variable {document document' : Json} (reordered : document.Reordered document')
  (expression : Expression)
include reordered

theorem evaluate_corresponds :
    Corresponds Eq Value.Reordered (expression.evaluate document)
      (expression.evaluate document') := by
  have outcomes := expression.tree.evaluate_corresponds reordered
  rw [evaluate, evaluate]
  generalize expression.tree.evaluate document = left at outcomes ⊢
  generalize expression.tree.evaluate document' = right at outcomes ⊢
  cases outcomes with
  | fault same => exact .fault (congrArg ScriptFault.failed same)
  | result value => exact .result value

theorem test_eq_of_reordered : expression.test document = expression.test document' := by
  have outcomes := evaluate_corresponds reordered expression
  rw [test, test]
  generalize expression.evaluate document = left at outcomes ⊢
  generalize expression.evaluate document' = right at outcomes ⊢
  cases outcomes with
  | fault same => exact congrArg Except.error same
  | result value => exact congrArg Except.ok value.isTruthy_eq

end Expression
end Script
end ContactSearch
