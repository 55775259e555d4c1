import ContactSearch.Json.Basic

namespace ContactSearch
namespace Json

/-!
# Values up to the order of their keys

A value is reordered by permuting the entries of its objects, in any of them
and at any depth.  The items of an array keep their places, and a value that
stands in an object stays with its key.  An object is permuted only if its keys
are different, as those of every object that is read are; a key given twice
would be looked up differently afterwards.

Reordering cannot be observed.  The values under a key, and the items at an
index, are the same up to reordering, and equality does not tell a value from
a reordered one, on either side.
-/

/-- The values that differ only in the order of the keys of their objects, at any depth. -/
inductive Reordered : Json -> Json -> Prop where
  | refl (value : Json) : Reordered value value
  | entries {left right : List (String × Json)} (distinct : (left.map Prod.fst).Nodup)
      (same : left.Perm right) : Reordered (.object left) (.object right)
  | item (front behind : List Json) {left right : Json} (changed : Reordered left right) :
      Reordered (.array (front ++ left :: behind)) (.array (front ++ right :: behind))
  | entry (front behind : List (String × Json)) (key : String) {left right : Json}
      (changed : Reordered left right) :
      Reordered (.object (front ++ (key, left) :: behind))
        (.object (front ++ (key, right) :: behind))
  | trans {first second third : Json} (before : Reordered first second)
      (after : Reordered second third) : Reordered first third

/-! ## Looking up -/

/-- Among different keys, the entries say what is looked up. -/
theorem lookup_eq_some_iff {entries : List (String × Json)}
    (distinct : (entries.map Prod.fst).Nodup) {key : String} {value : Json} :
    lookup key entries = some value <-> (key, value) ∈ entries := by
  induction entries with
  | nil => exact ⟨nofun, nofun⟩
  | cons entry entries ih =>
      rcases entry with ⟨name, held⟩
      rcases List.nodup_cons.mp distinct with ⟨fresh, distinct⟩
      rw [lookup, List.mem_cons]
      by_cases same : name = key
      · subst same
        rw [if_pos rfl]
        constructor
        · intro found
          cases found
          exact Or.inl rfl
        · rintro (first | later)
          · cases first
            rfl
          · exact absurd (List.mem_map_of_mem later) fresh
      · rw [if_neg same, ih distinct]
        constructor
        · exact Or.inr
        · rintro (first | later)
          · cases first
            exact absurd rfl same
          · exact later

theorem lookup_eq_of_perm {entries others : List (String × Json)}
    (distinct : (entries.map Prod.fst).Nodup) (same : entries.Perm others) (key : String) :
    lookup key entries = lookup key others := by
  have distinct' : (others.map Prod.fst).Nodup := (same.map Prod.fst).nodup_iff.mp distinct
  apply Option.ext
  intro value
  rw [lookup_eq_some_iff distinct, lookup_eq_some_iff distinct', same.mem_iff]

/-- When one entry gets another value, a key is looked up as before, or it is the entry's. -/
theorem lookup_of_changed (front behind : List (String × Json)) (name key : String)
    (left right : Json) :
    lookup key (front ++ (name, left) :: behind) = lookup key (front ++ (name, right) :: behind) ∨
      lookup key (front ++ (name, left) :: behind) = some left ∧
        lookup key (front ++ (name, right) :: behind) = some right := by
  induction front with
  | nil =>
      rw [List.nil_append, List.nil_append, lookup, lookup]
      by_cases same : name = key
      · rw [if_pos same, if_pos same]
        exact Or.inr ⟨rfl, rfl⟩
      · rw [if_neg same, if_neg same]
        exact Or.inl rfl
  | cons entry front ih =>
      rcases entry with ⟨other, held⟩
      rw [List.cons_append, List.cons_append, lookup, lookup]
      by_cases same : other = key
      · rw [if_pos same, if_pos same]
        exact Or.inl rfl
      · rw [if_neg same, if_neg same]
        exact ih

/-! ## One level down -/

/-- What reordering keeps of a value, seen through its items or through its keys. -/
inductive Alike : Json -> Json -> Prop where
  | same (value : Json) : Alike value value
  | arrays {left right : List Json} (size : left.length = right.length)
      (items : forall place : Nat, Option.Rel Reordered left[place]? right[place]?) :
      Alike (.array left) (.array right)
  | objects {left right : List (String × Json)}
      (values : forall key, Option.Rel Reordered (lookup key left) (lookup key right)) :
      Alike (.object left) (.object right)

theorem reordered_self (held : Option Json) : Option.Rel Reordered held held := by
  cases held with
  | none => exact .none
  | some value => exact .some (.refl value)

theorem reordered_trans {first second third : Option Json}
    (before : Option.Rel Reordered first second) (after : Option.Rel Reordered second third) :
    Option.Rel Reordered first third := by
  cases before with
  | none => exact after
  | some left =>
      cases after with
      | some right => exact .some (left.trans right)

theorem Alike.trans {first second third : Json} (before : Alike first second)
    (after : Alike second third) : Alike first third := by
  cases before with
  | same => exact after
  | arrays size items =>
      cases after with
      | same => exact .arrays size items
      | arrays size' items' =>
          exact .arrays (size.trans size') fun place => reordered_trans (items place) (items' place)
  | objects values =>
      cases after with
      | same => exact .objects values
      | objects values' => exact .objects fun key => reordered_trans (values key) (values' key)

theorem Reordered.alike {left right : Json} (reordered : left.Reordered right) :
    Alike left right := by
  induction reordered with
  | refl value => exact .same value
  | entries distinct same =>
      apply Alike.objects
      intro key
      rw [lookup_eq_of_perm distinct same]
      exact reordered_self _
  | item front behind changed _ =>
      apply Alike.arrays
      · rw [List.length_append, List.length_append, List.length_cons, List.length_cons]
      · intro place
        rw [List.getElem?_append, List.getElem?_append]
        split
        · exact reordered_self _
        · cases place - front.length with
          | zero => exact .some changed
          | succ later => exact reordered_self _
  | @entry front behind name left right changed _ =>
      apply Alike.objects
      intro key
      rcases lookup_of_changed front behind name key left right with unchanged | ⟨before, after⟩
      · rw [unchanged]
        exact reordered_self _
      · rw [before, after]
        exact .some changed
  | trans _ _ before after => exact before.trans after

theorem Reordered.length_eq {left right : List Json}
    (reordered : (Json.array left).Reordered (.array right)) : left.length = right.length := by
  cases reordered.alike with
  | same => rfl
  | arrays size _ => exact size

theorem Reordered.items {left right : List Json}
    (reordered : (Json.array left).Reordered (.array right)) (place : Nat) :
    Option.Rel Reordered left[place]? right[place]? := by
  cases reordered.alike with
  | same => exact reordered_self _
  | arrays _ items => exact items place

theorem Reordered.values {left right : List (String × Json)}
    (reordered : (Json.object left).Reordered (.object right)) (key : String) :
    Option.Rel Reordered (lookup key left) (lookup key right) := by
  cases reordered.alike with
  | same => exact reordered_self _
  | objects values => exact values key

/-! ## Equality -/

/-- Values that equality does not tell apart, on either side. -/
structure Interchangeable (left right : Json) : Prop where
  onLeft : forall other : Json, left.equals other = right.equals other
  onRight : forall other : Json, other.equals left = other.equals right

theorem entriesWithin_eq_all (left right : List (String × Json)) :
    entriesWithin left right =
      left.all fun entry => (lookup entry.1 right).any entry.2.equals := by
  induction left with
  | nil => rfl
  | cons entry left ih =>
      rcases entry with ⟨key, value⟩
      rw [entriesWithin, List.all_cons, ih]
      cases lookup key right <;> rfl

theorem interchangeable_of_entries {left right : List (String × Json)}
    (size : left.length = right.length)
    (onLeft : forall others, entriesWithin left others = entriesWithin right others)
    (onRight : forall key value,
      (lookup key left).any (equals value) = (lookup key right).any (equals value)) :
    Interchangeable (.object left) (.object right) := by
  constructor
  · intro other
    cases other with
    | object others => rw [equals, equals, size, onLeft]
    | _ => simp only [equals]
  · intro other
    cases other with
    | object others =>
        rw [equals, equals, size, entriesWithin_eq_all, entriesWithin_eq_all]
        congr 2
        funext entry
        exact onRight entry.1 entry.2
    | _ => simp only [equals]

section Changed

variable {left right : Json} (same : Interchangeable left right)
include same

theorem itemsEqual_left (front behind others : List Json) :
    itemsEqual (front ++ left :: behind) others =
      itemsEqual (front ++ right :: behind) others := by
  induction front generalizing others with
  | nil =>
      cases others with
      | nil => simp only [List.nil_append, itemsEqual]
      | cons other others =>
          rw [List.nil_append, List.nil_append, itemsEqual, itemsEqual, same.onLeft]
  | cons first front ih =>
      cases others with
      | nil => simp only [List.cons_append, itemsEqual]
      | cons other others =>
          rw [List.cons_append, List.cons_append, itemsEqual, itemsEqual, ih]

theorem itemsEqual_right (front behind others : List Json) :
    itemsEqual others (front ++ left :: behind) =
      itemsEqual others (front ++ right :: behind) := by
  induction front generalizing others with
  | nil =>
      cases others with
      | nil => simp only [List.nil_append, itemsEqual]
      | cons other others =>
          rw [List.nil_append, List.nil_append, itemsEqual, itemsEqual, same.onRight]
  | cons first front ih =>
      cases others with
      | nil => simp only [List.cons_append, itemsEqual]
      | cons other others =>
          rw [List.cons_append, List.cons_append, itemsEqual, itemsEqual, ih]

theorem Interchangeable.items (front behind : List Json) :
    Interchangeable (.array (front ++ left :: behind)) (.array (front ++ right :: behind)) := by
  constructor
  · intro other
    cases other with
    | array others => rw [equals, equals, itemsEqual_left same]
    | _ => simp only [equals]
  · intro other
    cases other with
    | array others => rw [equals, equals, itemsEqual_right same]
    | _ => simp only [equals]

theorem Interchangeable.entries (front behind : List (String × Json)) (key : String) :
    Interchangeable (.object (front ++ (key, left) :: behind))
      (.object (front ++ (key, right) :: behind)) := by
  apply interchangeable_of_entries
  · rw [List.length_append, List.length_append, List.length_cons, List.length_cons]
  · intro others
    rw [entriesWithin_eq_all, entriesWithin_eq_all, List.all_append, List.all_append,
      List.all_cons, List.all_cons, funext same.onLeft]
  · intro name value
    rcases lookup_of_changed front behind key name left right with unchanged | ⟨before, after⟩
    · rw [unchanged]
    · rw [before, after]
      exact same.onRight value

end Changed

/-- Equality does not see the order of keys, at any depth. -/
theorem Reordered.interchangeable {left right : Json} (reordered : left.Reordered right) :
    Interchangeable left right := by
  induction reordered with
  | refl value => exact ⟨fun _ => rfl, fun _ => rfl⟩
  | entries distinct same =>
      apply interchangeable_of_entries same.length_eq
      · intro others
        rw [entriesWithin_eq_all, entriesWithin_eq_all, same.all_eq]
      · intro key value
        rw [lookup_eq_of_perm distinct same]
  | item front behind _ ih => exact ih.items front behind
  | entry front behind key _ ih => exact ih.entries front behind key
  | trans _ _ before after =>
      exact ⟨fun other => (before.onLeft other).trans (after.onLeft other),
        fun other => (before.onRight other).trans (after.onRight other)⟩

theorem Reordered.equals_eq {left left' right right' : Json} (lefts : left.Reordered left')
    (rights : right.Reordered right') : left.equals right = left'.equals right' :=
  (lefts.interchangeable.onLeft right).trans (rights.interchangeable.onRight left')

end Json
end ContactSearch
