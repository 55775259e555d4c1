import ContactSearch.Proofs.Json.RoundTrip
import Mathlib.Data.List.DropRight

namespace ContactSearch
namespace Json

/-!
# Texts that are carried are never left in a value

An object whose first key announces a carried text is replaced by the value of
that text, wherever it stands.  So no value that is read has such an object
within it, and a value that has one cannot be read from any text.  This is
followed through the readers; the reader of carried texts is one of them, with
a bound on how often it is used.
-/

/-- A value without objects whose first key announces a carried text. -/
def IsSilent (value : Json) : Prop :=
  forall part, part ∈ value.parts -> part.announces = false

theorem isSilent_of_leaf {value : Json} (alone : value.parts = [value])
    (plain : value.announces = false) : value.IsSilent := by
  intro part member
  rw [alone] at member
  rw [List.mem_singleton.mp member, plain]

theorem isSilent_array {items : List Json}
    (silent : forall item, item ∈ items -> item.IsSilent) : (array items).IsSilent := by
  intro part member
  rcases List.mem_cons.mp member with rfl | inside
  · rfl
  · rcases mem_partsOfItems.mp inside with ⟨item, listed, within⟩
    exact silent item listed part within

theorem isSilent_object_iff {entries : List (String × Json)} :
    (object entries).IsSilent <->
      announcesText entries = false ∧ forall entry, entry ∈ entries -> entry.2.IsSilent := by
  constructor
  · intro silent
    refine ⟨silent _ (self_mem_parts _), fun entry listed part within => silent part ?_⟩
    exact List.mem_cons_of_mem _ (mem_partsOfEntries.mpr ⟨entry, listed, within⟩)
  · rintro ⟨plain, silent⟩ part member
    rcases List.mem_cons.mp member with rfl | inside
    · exact plain
    · rcases mem_partsOfEntries.mp inside with ⟨entry, listed, within⟩
      exact silent entry listed part within

/-- Merging keeps the first key, so it makes no object announce anything. -/
theorem announcesText_mergeEntries (entries : List (String × Json)) :
    announcesText (mergeEntries entries) = announcesText entries := by
  rw [announcesText, announcesText, head?_keys_mergeEntries]

theorem IsSilent.mergeEntries {entries : List (String × Json)}
    (silent : (object entries).IsSilent) : (object (mergeEntries entries)).IsSilent := by
  rw [isSilent_object_iff] at silent ⊢
  rw [announcesText_mergeEntries]
  exact ⟨silent.1, fun entry member => silent.2 entry (mem_of_mem_mergeEntries member)⟩

/-! ## Readers -/

/-- A reader that reads nothing but silent values. -/
def ReadsSilently (item : Reader) : Prop :=
  forall {cs value after}, item cs = some (value, after) -> value.IsSilent

/-- What an array consists of, from one item on. -/
theorem readItems?_cases {item : Reader} {fuel : Nat} {cs after : List Char} {items : List Json}
    (read : readItems? item (fuel + 1) cs = some (items, after)) :
    exists value afterValue others, item (skipBlanks cs) = some (value, afterValue) ∧
      items = value :: others ∧
      (others = [] ∨ exists rest, readItems? item fuel rest = some (others, after)) := by
  rw [readItems?] at read
  rcases Option.bind_eq_some_iff.mp read with ⟨⟨value, afterValue⟩, first, read⟩
  dsimp only at read
  split at read
  · cases read
    exact ⟨value, afterValue, [], first, rfl, Or.inl rfl⟩
  · next rest _ =>
      rcases Option.bind_eq_some_iff.mp read with ⟨⟨others, after'⟩, later, read⟩
      cases read
      exact ⟨value, afterValue, others, first, rfl, Or.inr ⟨rest, later⟩⟩
  · cases read

theorem isSilent_of_readItems? {item : Reader} (silent : ReadsSilently item) :
    forall {fuel : Nat} {cs after : List Char} {items : List Json},
      readItems? item fuel cs = some (items, after) ->
      forall value, value ∈ items -> value.IsSilent := by
  intro fuel
  induction fuel with
  | zero => nofun
  | succ fuel ih =>
      intro cs after items read value member
      rcases readItems?_cases read with ⟨first, _, others, found, rfl, later⟩
      rcases List.mem_cons.mp member with rfl | behind
      · exact silent found
      · rcases later with rfl | ⟨rest, read'⟩
        · cases behind
        · exact ih read' value behind

theorem isSilent_of_readArray? {item : Reader} (silent : ReadsSilently item)
    {cs after : List Char} {value : Json} (read : readArray? item cs = some (value, after)) :
    value.IsSilent := by
  rw [readArray?] at read
  split at read
  · cases read
    exact isSilent_array fun item member => absurd member List.not_mem_nil
  · rcases Option.map_eq_some_iff.mp read with ⟨⟨items, after'⟩, read', same⟩
    cases same
    exact isSilent_array (isSilent_of_readItems? silent read')

/-- What an object consists of, from one key on. -/
theorem readEntries?_cases {item : Reader} {fuel : Nat} {cs after : List Char}
    {entries : List (String × Json)}
    (read : readEntries? item (fuel + 1) cs = some (entries, after)) :
    exists quotedKey key afterKey beforeValue value afterValue others,
      skipBlanks cs = '"' :: quotedKey ∧ readQuoted? quotedKey = some (key, afterKey) ∧
      skipBlanks afterKey = ':' :: beforeValue ∧
      item (skipBlanks beforeValue) = some (value, afterValue) ∧
      entries = (String.ofList key, value) :: others ∧
      (others = [] ∨ exists rest, readEntries? item fuel rest = some (others, after)) := by
  rw [readEntries?] at read
  split at read
  · next quotedKey front =>
      rcases Option.bind_eq_some_iff.mp read with ⟨⟨key, afterKey⟩, keyed, read⟩
      dsimp only at read
      split at read
      · next beforeValue colon =>
          rcases Option.bind_eq_some_iff.mp read with ⟨⟨value, afterValue⟩, found, read⟩
          dsimp only at read
          split at read
          · cases read
            exact ⟨_, _, _, _, _, _, [], front, keyed, colon, found, rfl, Or.inl rfl⟩
          · next rest _ =>
              rcases Option.bind_eq_some_iff.mp read with ⟨⟨others, after'⟩, later, read⟩
              cases read
              exact ⟨_, _, _, _, _, _, others, front, keyed, colon, found, rfl,
                Or.inr ⟨rest, later⟩⟩
          · cases read
      · cases read
  · cases read

theorem isSilent_of_readEntries? {item : Reader} (silent : ReadsSilently item) :
    forall {fuel : Nat} {cs after : List Char} {entries : List (String × Json)},
      readEntries? item fuel cs = some (entries, after) ->
      forall entry, entry ∈ entries -> entry.2.IsSilent := by
  intro fuel
  induction fuel with
  | zero => nofun
  | succ fuel ih =>
      intro cs after entries read entry member
      rcases readEntries?_cases read with
        ⟨_, _, _, _, value, _, others, _, _, _, found, rfl, later⟩
      rcases List.mem_cons.mp member with rfl | behind
      · exact silent found
      · rcases later with rfl | ⟨rest, read'⟩
        · cases behind
        · exact ih read' entry behind

/-- Entries that are read as such do not begin with the announcing key. -/
theorem announcesText_of_readEntries? {item : Reader} {fuel : Nat} {cs after : List Char}
    {entries : List (String × Json)} (plain : afterCarrierKey? (skipBlanks cs) = none)
    (read : readEntries? item fuel cs = some (entries, after)) :
    announcesText entries = false := by
  cases fuel with
  | zero => cases read
  | succ fuel =>
      rcases readEntries?_cases read with
        ⟨quotedKey, key, afterKey, _, value, _, others, front, keyed, colon, _, rfl, _⟩
      rw [front, afterCarrierKey?, keyed, Option.bind_eq_bind, Option.bind_some] at plain
      simp only [colon] at plain
      split at plain
      · cases plain
      · next other => simpa [announcesText] using other

/-- A value that a numeral is read as. -/
def IsNumber (value : Json) : Prop :=
  (exists n, value = .integer n) ∨ exists x, value = .double x

theorem isNumber_of_numeral? {negative isPlain : Bool} {whole fraction : List Char}
    {exponent : Int} {value : Json}
    (read : numeral? negative whole fraction exponent isPlain = some value) : value.IsNumber := by
  rw [numeral?] at read
  split at read
  · next n _ =>
      cases read
      exact Or.inl ⟨n, rfl⟩
  · rcases Option.map_eq_some_iff.mp read with ⟨x, _, rfl⟩
    exact Or.inr ⟨x, rfl⟩

theorem isNumber_of_readEnd? {negative isWhole : Bool} {whole fraction cs after : List Char}
    {value : Json} (read : readEnd? negative whole fraction isWhole cs = some (value, after)) :
    value.IsNumber := by
  rcases Option.bind_eq_some_iff.mp read with ⟨_, _, read'⟩
  rcases Option.bind_eq_some_iff.mp read' with ⟨value', found, same⟩
  cases same
  exact isNumber_of_numeral? found

theorem isNumber_of_readUnsigned? {negative : Bool} {cs after : List Char} {value : Json}
    (read : readUnsigned? negative cs = some (value, after)) : value.IsNumber := by
  rw [readUnsigned?_eq] at read
  split at read
  · rw [readAfterWhole?.eq_def] at read
    split at read
    · split at read
      · cases read
      · exact isNumber_of_readEnd? read
    · exact isNumber_of_readEnd? read
  · cases read

theorem isNumber_of_readNumber? {cs after : List Char} {value : Json}
    (read : readNumber? cs = some (value, after)) : value.IsNumber := by
  rw [readNumber?.eq_def] at read
  split at read
  · exact isNumber_of_readUnsigned? read
  · exact isNumber_of_readUnsigned? read

/-- A reader of carried texts that gives nothing but silent values. -/
def CarriesSilently (carried : List Char -> Option Json) : Prop :=
  forall {cs value}, carried cs = some value -> value.IsSilent

section Carried

variable {carried : List Char -> Option Json} (carries : CarriesSilently carried)
include carries

theorem isSilent_of_readCarried? {cs after : List Char} {value : Json}
    (read : readCarried? carried cs = some (value, after)) : value.IsSilent := by
  rw [readCarried?] at read
  split at read
  · rcases Option.bind_eq_some_iff.mp read with ⟨⟨text, afterText⟩, _, read⟩
    dsimp only at read
    split at read
    · rcases Option.map_eq_some_iff.mp read with ⟨value', found, same⟩
      cases same
      exact carries found
    · cases read
  · cases read

theorem isSilent_of_readObject? {item : Reader} (silent : ReadsSilently item)
    {cs after : List Char} {value : Json}
    (read : readObject? carried item cs = some (value, after)) : value.IsSilent := by
  rw [readObject?] at read
  split at read
  · cases read
    exact isSilent_object_iff.mpr ⟨rfl, fun entry member => absurd member List.not_mem_nil⟩
  · split at read
    · exact isSilent_of_readCarried? carries read
    · next plain =>
        rcases Option.map_eq_some_iff.mp read with ⟨⟨entries, after'⟩, read', same⟩
        cases same
        have again : skipBlanks (skipBlanks cs) = skipBlanks cs :=
          List.dropWhile_idempotent isBlank cs
        apply IsSilent.mergeEntries
        rw [isSilent_object_iff]
        exact ⟨announcesText_of_readEntries? (again.symm ▸ plain) read',
          isSilent_of_readEntries? silent read'⟩

theorem readsSilently_readWith {nested : Option Reader}
    (silent : forall item, item ∈ nested -> ReadsSilently item) :
    ReadsSilently (readWith carried nested) := by
  intro cs value after read
  rw [readWith.eq_def] at read
  split at read
  · rcases Option.bind_eq_some_iff.mp read with ⟨item, same, read'⟩
    exact isSilent_of_readArray? (silent item same) read'
  · rcases Option.bind_eq_some_iff.mp read with ⟨item, same, read'⟩
    exact isSilent_of_readObject? carries (silent item same) read'
  · rcases Option.map_eq_some_iff.mp read with ⟨_, _, same⟩
    cases same
    exact isSilent_of_leaf rfl rfl
  · rcases Option.map_eq_some_iff.mp read with ⟨_, _, same⟩
    cases same
    exact isSilent_of_leaf rfl rfl
  · rcases Option.map_eq_some_iff.mp read with ⟨_, _, same⟩
    cases same
    exact isSilent_of_leaf rfl rfl
  · rcases Option.map_eq_some_iff.mp read with ⟨_, _, same⟩
    cases same
    exact isSilent_of_leaf rfl rfl
  · rcases isNumber_of_readNumber? read with ⟨_, rfl⟩ | ⟨_, rfl⟩
    · exact isSilent_of_leaf rfl rfl
    · exact isSilent_of_leaf rfl rfl

theorem readsSilently_readValue? (levels : Nat) : ReadsSilently (readValue? carried levels) := by
  induction levels with
  | zero =>
      apply readsSilently_readWith carries
      intro item same
      cases same
  | succ levels ih =>
      apply readsSilently_readWith carries
      intro item same
      cases same
      exact ih

theorem carriesSilently_readWhole? (levels : Nat) :
    CarriesSilently (readWhole? carried levels) := by
  intro cs value read
  rw [readWhole?] at read
  split at read
  · next found =>
      split at read
      · cases read
        exact readsSilently_readValue? carries levels found
      · cases read
  · cases read

end Carried

theorem carriesSilently_readText? (depth : Nat) : CarriesSilently (readText? depth) := by
  induction depth with
  | zero =>
      apply carriesSilently_readWhole?
      intro cs value read
      cases read
  | succ depth ih => exact carriesSilently_readWhole? ih nestingLimit

/-- No text is read as a value with an object that announces a carried text. -/
theorem isSilent_of_ofText? {levels : Nat} {cs : List Char} {value : Json}
    (read : ofText? levels cs = some value) : value.IsSilent :=
  carriesSilently_readWhole? (carriesSilently_readText? cs.length) levels read

end Json
end ContactSearch
