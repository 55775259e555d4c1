import Mathlib.Data.List.Perm.Subperm
import ContactSearch.Proofs.Json.Reordering

namespace ContactSearch
namespace Json

/-!
# Equality of values is an equivalence

Equality looks at an object from one side only: every entry on the left must
have an equal value under its key on the right, and both sides must have the
same number of entries.  That this is symmetric is due to the keys.  Where each
key stands once, as many keys on both sides are the same keys, so every entry on
the right has been compared as well.  Where a key is repeated the direction
matters, and reflexivity fails with it.

Transitivity needs no such condition.  Doubles within a value are finite, so
nothing differs from itself.
-/

/-- Induction on values, with the claim for whatever stands in an array or under a key. -/
@[elab_as_elim]
theorem nestedInduction {motive : Json -> Prop}
    (null : motive .null)
    (bool : forall value, motive (.bool value))
    (integer : forall value, motive (.integer value))
    (double : forall value, motive (.double value))
    (string : forall text, motive (.string text))
    (array : forall items, (forall item, item ∈ items -> motive item) -> motive (.array items))
    (object : forall entries, (forall entry, entry ∈ entries -> motive entry.2) ->
      motive (.object entries)) (value : Json) : motive value :=
  match value with
  | .null => null
  | .bool value => bool value
  | .integer value => integer value
  | .double value => double value
  | .string text => string text
  | .array items => array items fun item _ =>
      nestedInduction null bool integer double string array object item
  | .object entries => object entries fun entry _ =>
      nestedInduction null bool integer double string array object entry.2
termination_by value
decreasing_by
  · next member =>
      have smaller := List.sizeOf_lt_of_mem member
      rw [Json.array.sizeOf_spec]
      omega
  · next member =>
      have smaller := List.sizeOf_lt_of_mem member
      have held : sizeOf entry = 1 + sizeOf entry.1 + sizeOf entry.2 := rfl
      rw [Json.object.sizeOf_spec]
      omega

/-! ## Keys that stand once -/

theorem itemsHaveDistinctKeys_iff {items : List Json} :
    ItemsHaveDistinctKeys items <-> forall item, item ∈ items -> item.HasDistinctKeys := by
  induction items with
  | nil => simp [ItemsHaveDistinctKeys]
  | cons item items ih => simp [ItemsHaveDistinctKeys, ih]

theorem entriesHaveDistinctKeys_iff {entries : List (String × Json)} :
    EntriesHaveDistinctKeys entries <->
      forall entry, entry ∈ entries -> entry.2.HasDistinctKeys := by
  induction entries with
  | nil => simp [EntriesHaveDistinctKeys]
  | cons entry entries ih => simp [EntriesHaveDistinctKeys, ih]

theorem HasDistinctKeys.item {items : List Json} (distinct : (Json.array items).HasDistinctKeys)
    {item : Json} (member : item ∈ items) : item.HasDistinctKeys := by
  rw [HasDistinctKeys] at distinct
  exact itemsHaveDistinctKeys_iff.mp distinct item member

theorem HasDistinctKeys.entry {entries : List (String × Json)}
    (distinct : (Json.object entries).HasDistinctKeys) {entry : String × Json}
    (member : entry ∈ entries) : entry.2.HasDistinctKeys := by
  rw [HasDistinctKeys] at distinct
  exact entriesHaveDistinctKeys_iff.mp distinct.2 entry member

theorem HasDistinctKeys.keys {entries : List (String × Json)}
    (distinct : (Json.object entries).HasDistinctKeys) : (entries.map Prod.fst).Nodup := by
  rw [HasDistinctKeys] at distinct
  exact distinct.1

theorem mem_of_lookup {key : String} {value : Json} {entries : List (String × Json)}
    (found : lookup key entries = some value) : (key, value) ∈ entries := by
  induction entries with
  | nil => cases found
  | cons entry entries ih =>
      rcases entry with ⟨name, held⟩
      rw [lookup] at found
      split at found
      · next same =>
          cases found
          exact same ▸ List.mem_cons_self
      · exact List.mem_cons_of_mem _ (ih found)

/-! ## One level down -/

/-- Arrays are equal place by place. -/
theorem equals_array_iff {left right : List Json} :
    (Json.array left).equals (.array right) = true <->
      left.length = right.length ∧
        forall (place : Nat) (item other : Json), left[place]? = some item ->
          right[place]? = some other -> item.equals other = true := by
  rw [equals]
  induction left generalizing right with
  | nil => cases right <;> simp [itemsEqual]
  | cons item left ih =>
      cases right with
      | nil => simp [itemsEqual]
      | cons other right =>
          rw [itemsEqual, Bool.and_eq_true, ih, List.length_cons, List.length_cons,
            Nat.add_right_cancel_iff]
          constructor
          · rintro ⟨first, size, behind⟩
            refine ⟨size, fun place one another => ?_⟩
            cases place with
            | zero =>
                intro same same'
                cases same
                cases same'
                exact first
            | succ place => exact behind place one another
          · rintro ⟨size, items⟩
            exact ⟨items 0 item other rfl rfl, size, fun place => items (place + 1)⟩

/-- Objects of one size are equal if each entry on the left has an equal value on the right. -/
theorem equals_object_iff {left right : List (String × Json)} :
    (Json.object left).equals (.object right) = true <->
      left.length = right.length ∧
        forall entry, entry ∈ left ->
          exists other, lookup entry.1 right = some other ∧ entry.2.equals other = true := by
  rw [equals, entriesWithin_eq_all, Bool.and_eq_true, beq_iff_eq, List.all_eq_true]
  simp only [Option.any_eq_true]

/-- As many different keys, all of which stand on the other side, are all keys there. -/
theorem perm_keys_of_equals {left right : List (String × Json)}
    (distinct : (left.map Prod.fst).Nodup)
    (same : (Json.object left).equals (.object right) = true) :
    (left.map Prod.fst).Perm (right.map Prod.fst) := by
  rcases equals_object_iff.mp same with ⟨size, values⟩
  have within : left.map Prod.fst ⊆ right.map Prod.fst := by
    intro key member
    rcases List.mem_map.mp member with ⟨entry, listed, rfl⟩
    rcases values entry listed with ⟨other, found, _⟩
    exact List.mem_map.mpr ⟨_, mem_of_lookup found, rfl⟩
  have sizes : (right.map Prod.fst).length = (left.map Prod.fst).length := by
    rw [List.length_map, List.length_map, size]
  exact (distinct.subperm within).perm_of_length_le (Nat.le_of_eq sizes)

/-! ## The three laws -/

theorem equals_self {value : Json} (distinct : value.HasDistinctKeys) :
    value.equals value = true := by
  induction value using nestedInduction with
  | null => rw [equals]
  | bool value => rw [equals, beq_self_eq_true]
  | integer value => rw [equals, beq_self_eq_true]
  | double value => rw [equals, value.equals_refl]
  | string text => rw [equals, beq_self_eq_true]
  | array items ih =>
      refine equals_array_iff.mpr ⟨rfl, fun place item other found found' => ?_⟩
      cases Option.some.inj (found.symm.trans found')
      have member := List.mem_of_getElem? found
      exact ih item member (distinct.item member)
  | object entries ih =>
      refine equals_object_iff.mpr ⟨rfl, fun entry member => ⟨entry.2, ?_, ?_⟩⟩
      · exact (lookup_eq_some_iff distinct.keys).mpr member
      · exact ih entry member (distinct.entry member)

theorem equals_symm {left right : Json} (distinct : left.HasDistinctKeys)
    (distinct' : right.HasDistinctKeys) (same : left.equals right = true) :
    right.equals left = true := by
  induction left using nestedInduction generalizing right with
  | null => cases right <;> simp [equals] at same ⊢
  | bool value =>
      cases right <;> simp [equals] at same ⊢
      exact same.symm
  | integer value =>
      cases right <;> simp [equals] at same ⊢
      exact same.symm
  | double value =>
      cases right <;> simp [equals] at same ⊢
      rwa [Finite.equals_comm]
  | string text =>
      cases right <;> simp [equals] at same ⊢
      exact same.symm
  | array items ih =>
      cases right with
      | array others =>
          rcases equals_array_iff.mp same with ⟨size, places⟩
          refine equals_array_iff.mpr ⟨size.symm, fun place other item found' found => ?_⟩
          have member := List.mem_of_getElem? found
          have member' := List.mem_of_getElem? found'
          exact ih item member (distinct.item member) (distinct'.item member')
            (places place item other found found')
      | _ => simp [equals] at same
  | object entries ih =>
      cases right with
      | object others =>
          rcases equals_object_iff.mp same with ⟨size, values⟩
          refine equals_object_iff.mpr ⟨size.symm, fun other member' => ?_⟩
          -- the key of each entry on the right is a key on the left, and that entry was compared
          have key : other.1 ∈ entries.map Prod.fst :=
            (perm_keys_of_equals distinct.keys same).mem_iff.mpr (List.mem_map_of_mem member')
          rcases List.mem_map.mp key with ⟨entry, member, named⟩
          rcases values entry member with ⟨compared, found, equal⟩
          have found' := (lookup_eq_some_iff distinct'.keys).mpr member'
          rw [<- named] at found' ⊢
          cases Option.some.inj (found.symm.trans found')
          exact ⟨entry.2, (lookup_eq_some_iff distinct.keys).mpr member,
            ih entry member (distinct.entry member) (distinct'.entry member') equal⟩
      | _ => simp [equals] at same

theorem equals_comm {left right : Json} (distinct : left.HasDistinctKeys)
    (distinct' : right.HasDistinctKeys) : left.equals right = right.equals left :=
  Bool.eq_iff_iff.mpr ⟨equals_symm distinct distinct', equals_symm distinct' distinct⟩

theorem equals_trans {first second third : Json} (left : first.equals second = true)
    (right : second.equals third = true) : first.equals third = true := by
  induction first using nestedInduction generalizing second third with
  | null =>
      cases second <;> simp [equals] at left
      exact right
  | bool value =>
      cases second <;> simp [equals] at left
      exact left ▸ right
  | integer value =>
      cases second <;> simp [equals] at left
      exact left ▸ right
  | double value =>
      cases second <;> simp [equals] at left
      cases third <;> simp [equals] at right ⊢
      exact Finite.equals_trans left right
  | string text =>
      cases second <;> simp [equals] at left
      exact left ▸ right
  | array items ih =>
      cases second with
      | array others =>
          cases third with
          | array rest =>
              rcases equals_array_iff.mp left with ⟨size, places⟩
              rcases equals_array_iff.mp right with ⟨size', places'⟩
              refine equals_array_iff.mpr ⟨size.trans size', ?_⟩
              intro place item last found found'
              have inside : place < others.length :=
                size ▸ (List.getElem?_eq_some_iff.mp found).1
              have between := List.getElem?_eq_getElem inside
              exact ih item (List.mem_of_getElem? found) (places place item _ found between)
                (places' place _ last between found')
          | _ => simp [equals] at right
      | _ => simp [equals] at left
  | object entries ih =>
      cases second with
      | object others =>
          cases third with
          | object rest =>
              rcases equals_object_iff.mp left with ⟨size, values⟩
              rcases equals_object_iff.mp right with ⟨size', values'⟩
              refine equals_object_iff.mpr ⟨size.trans size', fun entry member => ?_⟩
              rcases values entry member with ⟨between, found, equal⟩
              have held : (entry.1, between) ∈ others := mem_of_lookup found
              rcases values' (entry.1, between) held with ⟨last, found', equal'⟩
              exact ⟨last, found', ih entry member equal equal'⟩
          | _ => simp [equals] at right
      | _ => simp [equals] at left

end Json
end ContactSearch
