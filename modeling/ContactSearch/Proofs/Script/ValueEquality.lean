import ContactSearch.Proofs.Json.Equality
import ContactSearch.Proofs.Script.Reordering

namespace ContactSearch
namespace Script

/-!
# Laws of the two equalities of values

Strict equality is an equivalence but for not-a-number, which is not even equal
to itself.  Loose equality is decided by strict equality within one type, and by
conversion across types.  The conversions are written for one order of the
operands at a time, and both orders come to the same comparison.

Loose equality is not transitive, so nothing of the kind is stated: a text that
spells a number is loosely equal to that number, and so is another text that
spells it, but the two texts are not loosely equal to each other.

Objects are compared under the condition that every key stands once.  A document
with this property is never left: all values of an expression on it have it too.
-/

namespace Value

/-- Values whose objects, at every depth, hold each key once. -/
def HasDistinctKeys : Value -> Prop
  | .array items => (Json.array items).HasDistinctKeys
  | .object entries => (Json.object entries).HasDistinctKeys
  | _ => True

theorem hasDistinctKeys_ofJson {json : Json} (distinct : json.HasDistinctKeys) :
    (ofJson json).HasDistinctKeys := by
  cases json with
  | array items => exact distinct
  | object entries => exact distinct
  | _ => trivial

theorem hasDistinctKeys_valueOrUndefined {held : Option Json}
    (distinct : forall json, held = some json -> json.HasDistinctKeys) :
    (valueOrUndefined held).HasDistinctKeys := by
  cases held with
  | none => trivial
  | some json => exact hasDistinctKeys_ofJson (distinct json rfl)

theorem hasDistinctKeys_of_readProperty {target value : Value} {property : String}
    (distinct : target.HasDistinctKeys) (read : readProperty target property = .ok value) :
    value.HasDistinctKeys := by
  cases target with
  | undefined | null => cases read
  | boolean _ | number _ =>
      cases read
      trivial
  | string text =>
      rw [readProperty] at read
      split at read <;> cases read <;> trivial
  | array items =>
      rw [readProperty] at read
      split at read
      · cases read
        trivial
      · cases read
        apply hasDistinctKeys_valueOrUndefined
        intro json found
        rcases Option.bind_eq_some_iff.mp found with ⟨place, _, held⟩
        exact distinct.item (List.mem_of_getElem? held)
  | object entries =>
      cases read
      apply hasDistinctKeys_valueOrUndefined
      intro json found
      exact distinct.entry (Json.mem_of_lookup found)

/-- On a document whose keys stand once, the values of an expression have no other keys. -/
theorem hasDistinctKeys_of_evaluate {document : Json} (distinct : document.HasDistinctKeys)
    {tree : Tree} {value : Value} (evaluated : tree.evaluate document = .ok value) :
    value.HasDistinctKeys := by
  induction tree generalizing value with
  | literal literal =>
      cases evaluated
      cases literal <;> trivial
  | this =>
      cases evaluated
      exact hasDistinctKeys_ofJson distinct
  | identifier name =>
      rw [Tree.evaluate] at evaluated
      split at evaluated <;> cases evaluated
      exact hasDistinctKeys_ofJson distinct
  | member object property ih =>
      rcases exists_of_bind_eq_ok evaluated with ⟨target, read, property⟩
      exact hasDistinctKeys_of_readProperty (ih read) property
  | index object key ih _ =>
      rcases exists_of_bind_eq_ok evaluated with ⟨target, read, keyed⟩
      rcases exists_of_bind_eq_ok keyed with ⟨keyValue, _, named⟩
      rcases exists_of_bind_eq_ok named with ⟨property, _, property'⟩
      exact hasDistinctKeys_of_readProperty (ih read) property'
  | not operand _ =>
      rcases exists_of_bind_eq_ok evaluated with ⟨_, _, same⟩
      cases same
      trivial
  | equality operator left right _ _ =>
      rcases exists_of_bind_eq_ok evaluated with ⟨_, _, rest⟩
      rcases exists_of_bind_eq_ok rest with ⟨_, _, same⟩
      cases same
      trivial
  | and left right ih ih' =>
      rcases exists_of_bind_eq_ok evaluated with ⟨first, read, chosen⟩
      split at chosen
      · exact ih' chosen
      · cases chosen
        exact ih read
  | or left right ih ih' =>
      rcases exists_of_bind_eq_ok evaluated with ⟨first, read, chosen⟩
      split at chosen
      · cases chosen
        exact ih read
      · exact ih' chosen

/-! ## Strict equality -/

section Laws

variable {left right : Value}

theorem strictEquals_self_iff {value : Value} (distinct : value.HasDistinctKeys) :
    value.strictEquals value = true <-> value ≠ .number .nan := by
  cases value with
  | undefined | null => exact ⟨fun _ => nofun, fun _ => rfl⟩
  | boolean value => exact ⟨fun _ => nofun, fun _ => beq_self_eq_true value⟩
  | number value =>
      rw [strictEquals, Double.equals_self_iff, ne_eq, ne_eq, number.injEq]
  | string text => exact ⟨fun _ => nofun, fun _ => beq_self_eq_true text⟩
  | array items => exact ⟨fun _ => nofun, fun _ => Json.equals_self distinct⟩
  | object entries => exact ⟨fun _ => nofun, fun _ => Json.equals_self distinct⟩

theorem strictEquals_comm (distinct : left.HasDistinctKeys) (distinct' : right.HasDistinctKeys) :
    left.strictEquals right = right.strictEquals left := by
  cases left with
  | undefined | null => cases right <;> rfl
  | boolean value =>
      cases right with
      | boolean other => exact Bool.beq_comm
      | _ => rfl
  | number value =>
      cases right with
      | number other => exact value.equals_comm other
      | _ => rfl
  | string text =>
      cases right with
      | string other => exact Bool.beq_comm
      | _ => rfl
  | array items =>
      cases right with
      | array others => exact Json.equals_comm distinct distinct'
      | _ => rfl
  | object entries =>
      cases right with
      | object others => exact Json.equals_comm distinct distinct'
      | _ => rfl

theorem strictEquals_trans {first second third : Value}
    (before : first.strictEquals second = true) (after : second.strictEquals third = true) :
    first.strictEquals third = true := by
  cases second with
  | undefined =>
      cases first with
      | undefined => exact after
      | _ => cases before
  | null =>
      cases first with
      | null => exact after
      | _ => cases before
  | boolean value =>
      cases first with
      | boolean other => exact (eq_of_beq before) ▸ after
      | _ => cases before
  | number value =>
      cases first with
      | number other =>
          cases third with
          | number last => exact Double.equals_trans before after
          | _ => cases after
      | _ => cases before
  | string text =>
      cases first with
      | string other => exact (eq_of_beq before) ▸ after
      | _ => cases before
  | array items =>
      cases first with
      | array others =>
          cases third with
          | array rest =>
              have left : (Json.array others).equals (.array items) = true := before
              exact Json.equals_trans left after
          | _ => cases after
      | _ => cases before
  | object entries =>
      cases first with
      | object others =>
          cases third with
          | object rest =>
              have left : (Json.object others).equals (.object entries) = true := before
              exact Json.equals_trans left after
          | _ => cases after
      | _ => cases before

theorem typeName_eq_of_strictEquals (same : left.strictEquals right = true) :
    left.typeName = right.typeName := by
  cases left <;> cases right <;> first | rfl | cases same

/-! ## Loose equality -/

/-- Within one type nothing is converted. -/
theorem looseEquals_of_typeName (same : left.typeName = right.typeName) :
    left.looseEquals right = left.strictEquals right := by
  cases left <;> cases right <;> first | rfl | simp [typeName] at same

theorem looseEquals_of_strictEquals (same : left.strictEquals right = true) :
    left.looseEquals right = true :=
  (looseEquals_of_typeName (typeName_eq_of_strictEquals same)).trans same

theorem looseEquals_comm (distinct : left.HasDistinctKeys) (distinct' : right.HasDistinctKeys) :
    left.looseEquals right = right.looseEquals left := by
  by_cases same : left.typeName = right.typeName
  · rw [looseEquals_of_typeName same, looseEquals_of_typeName same.symm]
    exact strictEquals_comm distinct distinct'
  · -- across types the same conversion is made from either side
    cases left <;> cases right <;> first | rfl | exact absurd rfl same

/-- Null and undefined are told apart from everything else, but not from each other. -/
theorem looseEquals_of_nothing {nothing : Value} (none : nothing = .null ∨ nothing = .undefined)
    (value : Value) :
    (nothing.looseEquals value = true <-> value = .null ∨ value = .undefined) ∧
      (value.looseEquals nothing = true <-> value = .null ∨ value = .undefined) := by
  rcases none with rfl | rfl <;> cases value <;> simp [looseEquals, isNullish]

end Laws

/--
The laws of the two equalities.  Strict equality is symmetric and transitive, and only not-a-number
differs from itself.  Loose equality is symmetric, holds whenever strict equality does, and is
strict equality within one type.  Null and undefined are loosely equal to themselves, to each other
and to nothing else, on either side.
-/
theorem equality_laws :
    (forall value : Value, value.HasDistinctKeys ->
      (value.strictEquals value = true <-> value ≠ .number .nan)) ∧
    (forall first second third : Value, first.strictEquals second = true ->
      second.strictEquals third = true -> first.strictEquals third = true) ∧
    (forall left right : Value, left.HasDistinctKeys -> right.HasDistinctKeys ->
      left.strictEquals right = right.strictEquals left ∧
      left.looseEquals right = right.looseEquals left ∧
      (left.strictEquals right = true -> left.looseEquals right = true) ∧
      (left.typeName = right.typeName -> left.looseEquals right = left.strictEquals right)) ∧
    (forall nothing value : Value, nothing = .null ∨ nothing = .undefined ->
      (nothing.looseEquals value = true <-> value = .null ∨ value = .undefined) ∧
      (value.looseEquals nothing = true <-> value = .null ∨ value = .undefined)) := by
  refine ⟨fun _ => strictEquals_self_iff, fun _ _ _ => strictEquals_trans, ?_,
    fun _ value none => looseEquals_of_nothing none value⟩
  intro left right distinct distinct'
  exact ⟨strictEquals_comm distinct distinct', looseEquals_comm distinct distinct',
    looseEquals_of_strictEquals, looseEquals_of_typeName⟩

/-- The entries of a reading, a double and a list. -/
def readingEntries (level : Finite) : List (String × Json) :=
  [("level", .double level), ("tags", .array [.integer 1, .null])]

theorem equality_laws_reading :
    let first : Value := .object (readingEntries .zero)
    let second : Value := .object (readingEntries Finite.zero.negate).reverse
    first.HasDistinctKeys ∧ second.HasDistinctKeys ∧
    first.strictEquals second = true ∧ second.strictEquals first = true ∧
    first.looseEquals second = true ∧ second.looseEquals first = true ∧
    first.strictEquals first = true ∧ (number .nan).strictEquals (number .nan) ≠ true ∧
    first.looseEquals second = first.strictEquals second ∧ first.looseEquals null ≠ true := by
  intro first second
  have distinct : first.HasDistinctKeys := by
    simp [first, readingEntries, HasDistinctKeys, Json.HasDistinctKeys,
      Json.EntriesHaveDistinctKeys, Json.ItemsHaveDistinctKeys]
  have distinct' : second.HasDistinctKeys := by
    simp [second, readingEntries, HasDistinctKeys, Json.HasDistinctKeys,
      Json.EntriesHaveDistinctKeys, Json.ItemsHaveDistinctKeys]
  have same : first.strictEquals second = true := by decide +kernel
  rcases equality_laws with ⟨reflexive, transitive, symmetric, nothing⟩
  rcases symmetric first second distinct distinct' with ⟨swapped, swapped', weaker, within⟩
  have back : second.strictEquals first = true := swapped ▸ same
  have loose : first.looseEquals second = true := weaker same
  refine ⟨distinct, distinct', same, back, loose, swapped' ▸ loose,
    transitive first second first same back, ?_, within rfl, ?_⟩
  · exact fun equal => (reflexive (.number .nan) trivial).mp equal rfl
  · intro equal
    rcases (nothing .null first (Or.inl rfl)).2.mp equal with none | none <;>
      simp [first] at none

end Value
end Script
end ContactSearch
