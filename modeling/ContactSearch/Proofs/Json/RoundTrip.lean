import ContactSearch.Proofs.Json.Entries
import ContactSearch.Proofs.Json.Numerals

namespace ContactSearch
namespace Json

/-!
# Values are read back from their compact text

A value is given back by a reader that may go as deep as the value is nested.
The induction is on values.  A container contributes its marks, and everything
else is an obligation of the values within: integers have to be within bounds,
doubles must have a text that is read back, and the keys of an object must
differ.

One more obligation concerns the reader.  It takes an object whose first key
announces a carried text for something else, so no object within may be one.
-/

/-! ## The values within a value -/

mutual

/-- All values that a value is made of, itself included. -/
def parts : Json -> List Json
  | .array items => .array items :: partsOfItems items
  | .object entries => .object entries :: partsOfEntries entries
  | value => [value]

/-- The values within the items of an array. -/
def partsOfItems : List Json -> List Json
  | [] => []
  | item :: items => parts item ++ partsOfItems items

/-- The values within the entries of an object. -/
def partsOfEntries : List (String × Json) -> List Json
  | [] => []
  | (_, value) :: entries => parts value ++ partsOfEntries entries

end

mutual

/-- How many arrays and objects stand within one another. -/
def nesting : Json -> Nat
  | .array items => nestingOfItems items + 1
  | .object entries => nestingOfEntries entries + 1
  | _ => 0

/-- The nesting of the items of an array. -/
def nestingOfItems : List Json -> Nat
  | [] => 0
  | item :: items => max (nesting item) (nestingOfItems items)

/-- The nesting of the entries of an object. -/
def nestingOfEntries : List (String × Json) -> Nat
  | [] => 0
  | (_, value) :: entries => max (nesting value) (nestingOfEntries entries)

end

theorem self_mem_parts (value : Json) : value ∈ value.parts := by
  cases value <;> exact List.mem_cons_self

theorem mem_partsOfItems {part : Json} {items : List Json} :
    part ∈ partsOfItems items <-> exists item, item ∈ items ∧ part ∈ item.parts := by
  induction items with
  | nil => simp [partsOfItems]
  | cons item items ih => simp [partsOfItems, ih]

theorem mem_partsOfEntries {part : Json} {entries : List (String × Json)} :
    part ∈ partsOfEntries entries <-> exists entry, entry ∈ entries ∧ part ∈ entry.2.parts := by
  induction entries with
  | nil => simp [partsOfEntries]
  | cons entry entries ih => simp [partsOfEntries, ih]

/-! ## Values that can be given back -/

/-- Whether a value, apart from those within, is one that documents hold. -/
def isProper : Json -> Bool
  | .integer value => isMachineInteger value
  | .object entries => decide (entries.map Prod.fst).Nodup
  | _ => true

/-- Whether a value is no double whose text is read as something else. -/
def isExact : Json -> Bool
  | .double x => isReadBack x
  | _ => true

/-- Whether a value is an object whose first key announces a carried text. -/
def announces : Json -> Bool
  | .object entries => announcesText entries
  | _ => false

/-- Values that are given back, as far as it depends on each of them alone. -/
structure AreLegible (values : List Json) : Prop where
  proper : forall value, value ∈ values -> value.isProper = true
  exact : forall value, value ∈ values -> value.isExact = true
  silent : forall value, value ∈ values -> value.announces = false

theorem AreLegible.mono {values others : List Json} (legible : AreLegible values)
    (subset : forall value, value ∈ others -> value ∈ values) : AreLegible others where
  proper := fun value member => legible.proper value (subset value member)
  exact := fun value member => legible.exact value (subset value member)
  silent := fun value member => legible.silent value (subset value member)

/-! ## Leaves -/

section Leaves

variable (carried : List Char -> Option Json)

theorem exists_readWith (levels : Nat) :
    exists nested, readValue? carried levels = readWith carried nested := by
  cases levels with
  | zero => exact ⟨none, rfl⟩
  | succ levels => exact ⟨some (readValue? carried levels), rfl⟩

theorem ne_of_isDigit {c d : Char} (digit : c.isDigit = true) (other : d.isDigit = false) :
    c ≠ d := by
  rintro rfl
  rw [digit] at other
  cases other

theorem readWith_of_numeral (nested : Option Reader) {c : Char}
    (first : c = '-' ∨ c.isDigit = true) (rest : List Char) :
    readWith carried nested (c :: rest) = readNumber? (c :: rest) := by
  have other (d : Char) (notMinus : '-' ≠ d) (notDigit : d.isDigit = false) : c ≠ d := by
    rcases first with rfl | digit
    · exact notMinus
    · exact ne_of_isDigit digit notDigit
  rw [readWith.eq_7]
  · exact fun _ same => other '[' (by decide) rfl (List.cons.inj same).1
  · exact fun _ same => other '{' (by decide) rfl (List.cons.inj same).1
  · exact fun _ same => other '"' (by decide) rfl (List.cons.inj same).1
  · exact fun _ same => other 'n' (by decide) rfl (List.cons.inj same).1
  · exact fun _ same => other 't' (by decide) rfl (List.cons.inj same).1
  · exact fun _ same => other 'f' (by decide) rfl (List.cons.inj same).1

theorem isBlank_of_numeral {c : Char} (first : c = '-' ∨ c.isDigit = true) :
    isBlank c = false := by
  rcases first with rfl | digit
  · rfl
  · simp [isBlank, ne_of_isDigit digit]

/-- A number is read back if its text is the numeral of it. -/
theorem readsBack_of_readNumber? {value : Json} (levels : Nat)
    (read : readNumber? value.compact = some (value, [])) :
    ReadsBack (readValue? carried levels) value := by
  intro rest delimits
  rcases exists_of_readNumber? read with ⟨c, behind, shape, first⟩
  rcases exists_readWith carried levels with ⟨nested, same⟩
  have whole := readNumber?_append delimits value.compact
  rw [read, shape, List.cons_append] at whole
  rw [shape, List.cons_append, skipBlanks_cons (isBlank_of_numeral first), same,
    readWith_of_numeral carried nested first, whole]
  rfl

theorem readsBack_null (levels : Nat) : ReadsBack (readValue? carried levels) .null := by
  intro rest _
  rcases exists_readWith carried levels with ⟨nested, same⟩
  rw [same]
  rfl

theorem readsBack_bool (levels : Nat) (value : Bool) :
    ReadsBack (readValue? carried levels) (.bool value) := by
  intro rest _
  rcases exists_readWith carried levels with ⟨nested, same⟩
  rw [same]
  cases value <;> rfl

end Leaves

/-! ## Arrays -/

theorem delimits_bracket (rest : List Char) : Delimits (']' :: rest) :=
  Or.inr (Or.inl rfl)

theorem compactItems_cons_cons (item next : Json) (items : List Json) :
    compactItems (item :: next :: items) =
      item.compact ++ ',' :: compactItems (next :: items) := by
  rw [compactItems]
  exact fun nothing => by cases nothing

theorem readItems?_last {item : Reader} {value : Json} (reads : ReadsBack item value)
    (fuel : Nat) (rest : List Char) :
    readItems? item (fuel + 1) (value.compact ++ ']' :: rest) = some ([value], rest) := by
  rw [readItems?]
  simp only [reads _ (delimits_bracket rest), Option.bind_eq_bind, Option.bind_some,
    (delimits_bracket rest).skipBlanks]
  rfl

theorem readItems?_more {item : Reader} {value : Json} (reads : ReadsBack item value)
    (fuel : Nat) (rest : List Char) :
    readItems? item (fuel + 1) (value.compact ++ ',' :: rest) =
      (readItems? item fuel rest).map fun pair => (value :: pair.1, pair.2) := by
  rw [readItems?]
  simp only [reads _ (delimits_comma rest), Option.bind_eq_bind, Option.bind_some,
    (delimits_comma rest).skipBlanks]
  cases readItems? item fuel rest <;> rfl

theorem readItems?_compactItems {item : Reader} {items : List Json} (present : items ≠ [])
    (reads : forall value, value ∈ items -> ReadsBack item value) {fuel : Nat}
    (enough : items.length ≤ fuel) (rest : List Char) :
    readItems? item fuel (compactItems items ++ ']' :: rest) = some (items, rest) := by
  induction items generalizing fuel with
  | nil => exact absurd rfl present
  | cons value items ih =>
      have readsFirst : ReadsBack item value := reads value List.mem_cons_self
      cases fuel with
      | zero => cases enough
      | succ fuel =>
          cases items with
          | nil =>
              rw [compactItems]
              exact readItems?_last readsFirst fuel rest
          | cons next items =>
              have readsRest := fun other member => reads other (List.mem_cons_of_mem value member)
              have later := ih (List.cons_ne_nil next items) readsRest
                (Nat.le_of_succ_le_succ enough)
              rw [compactItems_cons_cons, List.append_assoc, List.cons_append,
                readItems?_more readsFirst, later]
              rfl

theorem length_le_compactItems (items : List Json) :
    items.length ≤ (compactItems items).length + 1 := by
  induction items with
  | nil => exact Nat.zero_le _
  | cons item items ih =>
      cases items with
      | nil => exact Nat.le_add_left 1 _
      | cons next items =>
          have whole := congrArg List.length (compactItems_cons_cons item next items)
          simp only [List.length_append, List.length_cons] at whole ih ⊢
          omega

/-- The text of a legible value begins with a mark that is neither blank nor closes an array. -/
theorem exists_compact_cons {value : Json} (legible : AreLegible value.parts) :
    exists c rest, value.compact = c :: rest ∧ isBlank c = false ∧ c ≠ ']' := by
  have number (read : readNumber? value.compact = some (value, [])) :
      exists c rest, value.compact = c :: rest ∧ isBlank c = false ∧ c ≠ ']' := by
    rcases exists_of_readNumber? read with ⟨c, rest, shape, first⟩
    refine ⟨c, rest, shape, isBlank_of_numeral first, ?_⟩
    rintro rfl
    rcases first with minus | digit
    · cases minus
    · cases digit
  cases value with
  | null => exact ⟨_, _, rfl, rfl, by decide⟩
  | bool value => cases value <;> exact ⟨_, _, rfl, rfl, by decide⟩
  | integer value =>
      apply number
      exact readNumber?_integerText (legible.proper _ (self_mem_parts _))
  | double x =>
      apply number
      exact readNumber?_documentText (legible.exact _ (self_mem_parts _))
  | string text => exact ⟨_, _, rfl, rfl, by decide⟩
  | array items => exact ⟨_, _, rfl, rfl, by decide⟩
  | object entries => exact ⟨_, _, rfl, rfl, by decide⟩

theorem readArray?_compactItems {item : Reader} {items : List Json}
    (legible : AreLegible (partsOfItems items))
    (reads : forall value, value ∈ items -> ReadsBack item value) (rest : List Char) :
    readArray? item (compactItems items ++ ']' :: rest) = some (.array items, rest) := by
  cases items with
  | nil =>
      rw [compactItems, List.nil_append, readArray?, (delimits_bracket rest).skipBlanks]
      rfl
  | cons value items =>
      have first : AreLegible value.parts := legible.mono fun part member =>
        List.mem_append_left _ member
      rcases exists_compact_cons first with ⟨c, behind, shape, visible, other⟩
      have front : exists tail, compactItems (value :: items) ++ ']' :: rest = c :: tail := by
        cases items with
        | nil => exact ⟨_, by rw [compactItems, shape, List.cons_append]⟩
        | cons next items =>
            exact ⟨_, by rw [compactItems_cons_cons, shape, List.cons_append, List.cons_append]⟩
      have enough : (value :: items).length ≤
          (compactItems (value :: items) ++ ']' :: rest).length := by
        rw [List.length_append]
        apply Nat.le_trans (length_le_compactItems (value :: items))
        exact Nat.add_le_add_left (Nat.le_add_left 1 rest.length) _
      have read := readItems?_compactItems (List.cons_ne_nil value items) reads enough rest
      rcases front with ⟨tail, shape'⟩
      rw [shape'] at read ⊢
      rw [readArray?, skipBlanks_cons visible]
      split
      · next closes => exact absurd (List.cons.inj closes).1 other
      · rw [read]
        rfl

theorem readsBack_array {carried : List Char -> Option Json} {levels : Nat} {items : List Json}
    (legible : AreLegible (partsOfItems items))
    (reads : forall value, value ∈ items -> ReadsBack (readValue? carried levels) value) :
    ReadsBack (readValue? carried (levels + 1)) (.array items) := by
  intro rest _
  rw [compact, List.cons_append, List.cons_append, List.append_assoc, List.singleton_append,
    skipBlanks_cons rfl, readValue?, readWith]
  exact readArray?_compactItems legible reads rest

/-! ## All values -/

mutual

/-- A legible value is read back by a reader that may go as deep. -/
theorem readsBack (carried : List Char -> Option Json) :
    forall (value : Json) {levels : Nat}, AreLegible value.parts -> value.nesting ≤ levels ->
      ReadsBack (readValue? carried levels) value
  | .null, levels, _, _ => readsBack_null carried levels
  | .bool value, levels, _, _ => readsBack_bool carried levels value
  | .integer value, levels, legible, _ => by
      apply readsBack_of_readNumber? carried levels
      exact readNumber?_integerText (legible.proper _ (self_mem_parts _))
  | .double x, levels, legible, _ => by
      apply readsBack_of_readNumber? carried levels
      exact readNumber?_documentText (legible.exact _ (self_mem_parts _))
  | .string text, levels, _, _ => readsBack_string carried levels text
  | .array items, levels, legible, deep => by
      have inside : AreLegible (partsOfItems items) := legible.mono fun part member =>
        List.mem_cons_of_mem _ member
      cases levels with
      | zero => cases deep
      | succ levels =>
          apply readsBack_array inside
          exact readsBack_items carried items inside (Nat.le_of_succ_le_succ deep)
  | .object entries, levels, legible, deep => by
      have inside : AreLegible (partsOfEntries entries) := legible.mono fun part member =>
        List.mem_cons_of_mem _ member
      have distinct : (entries.map Prod.fst).Nodup :=
        of_decide_eq_true (legible.proper _ (self_mem_parts _))
      have plain : announcesText entries = false := legible.silent _ (self_mem_parts _)
      cases levels with
      | zero => cases deep
      | succ levels =>
          intro rest _
          have reads := readsBack_entries carried entries inside (Nat.le_of_succ_le_succ deep)
          rw [readValue?_object plain reads, mergeEntries_of_nodup distinct]

theorem readsBack_items (carried : List Char -> Option Json) :
    forall (items : List Json) {levels : Nat}, AreLegible (partsOfItems items) ->
      nestingOfItems items ≤ levels ->
      forall value, value ∈ items -> ReadsBack (readValue? carried levels) value
  | [], _, _, _, value, member => absurd member List.not_mem_nil
  | item :: items, levels, legible, deep, value, member => by
      have depths := Nat.max_le.mp deep
      rcases List.mem_cons.mp member with same | behind
      · rw [same]
        exact readsBack carried item
          (legible.mono fun part inside => List.mem_append_left _ inside) depths.1
      · exact readsBack_items carried items
          (legible.mono fun part inside => List.mem_append_right _ inside) depths.2 value behind

theorem readsBack_entries (carried : List Char -> Option Json) :
    forall (entries : List (String × Json)) {levels : Nat},
      AreLegible (partsOfEntries entries) -> nestingOfEntries entries ≤ levels ->
      forall entry, entry ∈ entries -> ReadsBack (readValue? carried levels) entry.2
  | [], _, _, _, entry, member => absurd member List.not_mem_nil
  | (key, value) :: entries, levels, legible, deep, entry, member => by
      have depths := Nat.max_le.mp deep
      rcases List.mem_cons.mp member with rfl | behind
      · exact readsBack carried value
          (legible.mono fun part inside => List.mem_append_left _ inside) depths.1
      · exact readsBack_entries carried entries
          (legible.mono fun part inside => List.mem_append_right _ inside) depths.2 entry behind

end

end Json
end ContactSearch
