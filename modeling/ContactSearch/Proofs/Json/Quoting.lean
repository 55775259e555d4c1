import ContactSearch.Json.Reading
import ContactSearch.Json.Writing

namespace ContactSearch
namespace Json

/-!
# Reading back what was written

A quoted string is read back one character at a time: what is written for a
character is read as that character, whatever follows.  From this an object is
read back entry by entry, provided that its values are.

The text of a value is followed by a comma, a closing mark or nothing.  A
numeral would go on with a digit, so this is part of what reading back means.
-/

/-! ## Quoted strings -/

theorem hexQuad?_hexQuad {value : Nat} (small : value < 65536) (rest : List Char) :
    exists first second third fourth, Text.hexQuad value ++ rest =
        first :: second :: third :: fourth :: rest ∧
      Text.hexQuad? first second third fourth = some value := by
  refine ⟨_, _, _, _, rfl, ?_⟩
  rw [Text.hexQuad?, Text.hexValue?_hexDigit (Nat.mod_lt _ (by decide)),
    Text.hexValue?_hexDigit (Nat.mod_lt _ (by decide)),
    Text.hexValue?_hexDigit (Nat.mod_lt _ (by decide)),
    Text.hexValue?_hexDigit (Nat.mod_lt _ (by decide))]
  exact congrArg some (by omega)

/-- A letter of a short escape stands for its character, and is not the letter of a code. -/
theorem unescaped?_of_shortEscape {pair : Char × Char} (member : pair ∈ shortEscapes) :
    pair.2 ≠ 'u' ∧ unescaped? pair.2 = some pair.1 := by
  have all : forall pair, pair ∈ shortEscapes ->
      pair.2 ≠ 'u' ∧ unescaped? pair.2 = some pair.1 := by decide
  exact all pair member

theorem readQuoted?_of_letter {letter c : Char} (notU : letter ≠ 'u')
    (stands : unescaped? letter = some c) (rest : List Char) :
    readQuoted? ('\\' :: letter :: rest) =
      (readQuoted? rest).map fun pair => (c :: pair.1, pair.2) := by
  rw [readQuoted?.eq_4 letter rest (fun _ _ _ _ _ same _ => notU same), stands]
  cases readQuoted? rest <;> rfl

theorem readQuoted?_of_control {value : Nat} (small : value < 32) (rest : List Char) :
    readQuoted? ('\\' :: 'u' :: Text.hexQuad value ++ rest) =
      (readQuoted? rest).map fun pair => (Char.ofNat value :: pair.1, pair.2) := by
  rcases hexQuad?_hexQuad (Nat.lt_trans small (by decide)) rest with
    ⟨first, second, third, fourth, written, read⟩
  have notLeading : isLeadingSurrogate value = false := by
    simp only [isLeadingSurrogate, Bool.and_eq_false_iff, decide_eq_false_iff_not]
    omega
  have notTrailing : isTrailingSurrogate value = false := by
    simp only [isTrailingSurrogate, Bool.and_eq_false_iff, decide_eq_false_iff_not]
    omega
  rw [List.cons_append, List.cons_append, written, readQuoted?.eq_3, read]
  simp only [Option.bind_eq_bind, Option.bind_some, notLeading, notTrailing, Bool.false_eq_true,
    if_false]
  cases readQuoted? rest <;> rfl

theorem readQuoted?_of_plain {c : Char} (notQuote : c ≠ '"') (notBackslash : c ≠ '\\')
    (visible : ¬ c.toNat < 32) (rest : List Char) :
    readQuoted? (c :: rest) = (readQuoted? rest).map fun pair => (c :: pair.1, pair.2) := by
  rw [readQuoted?.eq_5 c rest notQuote (fun _ _ _ _ _ same _ => notBackslash same)
    (fun _ _ same _ => notBackslash same)]
  simp only [visible, decide_false, Bool.false_or, beq_iff_eq, notBackslash, if_false]
  cases readQuoted? rest <;> rfl

/-- What is written for a character is read as that character. -/
theorem readQuoted?_escaped (c : Char) (rest : List Char) :
    readQuoted? (escaped c ++ rest) =
      (readQuoted? rest).map fun pair => (c :: pair.1, pair.2) := by
  unfold escaped
  cases short : shortEscapes.find? (fun pair => pair.1 == c) with
  | some pair =>
      rcases unescaped?_of_shortEscape (List.mem_of_find?_eq_some short) with ⟨notU, stands⟩
      have same := List.find?_some short
      rw [← beq_iff_eq.mp same]
      exact readQuoted?_of_letter notU stands rest
  | none =>
      have long : forall pair, pair ∈ shortEscapes -> pair.1 ≠ c := by
        intro pair member same
        have other := List.find?_eq_none.mp short pair member
        exact other (beq_iff_eq.mpr same)
      by_cases control : c.toNat < 32
      · rw [if_pos control, readQuoted?_of_control control rest, Char.ofNat_toNat]
      · rw [if_neg control]
        apply readQuoted?_of_plain _ _ control
        · exact (long ('"', '"') (by decide)).symm
        · exact (long ('\\', '\\') (by decide)).symm

/-- A quoted text is read back, up to the mark that closes it. -/
theorem readQuoted?_flatMap_escaped (text rest : List Char) :
    readQuoted? (text.flatMap escaped ++ '"' :: rest) = some (text, rest) := by
  induction text with
  | nil => exact readQuoted?.eq_2 rest
  | cons c text ih =>
      rw [List.flatMap_cons, List.append_assoc, readQuoted?_escaped, ih]
      rfl

/-! ## Objects -/

/-- What can follow the text of a value: nothing, a comma or a closing mark. -/
def Delimits : List Char -> Prop
  | [] => True
  | c :: _ => c = ',' ∨ c = ']' ∨ c = '}'

theorem skipBlanks_cons {c : Char} (visible : isBlank c = false) (rest : List Char) :
    skipBlanks (c :: rest) = c :: rest := by
  rw [skipBlanks, List.dropWhile_cons_of_neg]
  exact Bool.eq_false_iff.mp visible

theorem Delimits.skipBlanks {rest : List Char} (delimits : Delimits rest) :
    skipBlanks rest = rest := by
  cases rest with
  | nil => rfl
  | cons c rest =>
      rcases delimits with rfl | rfl | rfl <;> exact skipBlanks_cons rfl rest

/-- A reader reads a value back from its compact text. -/
def ReadsBack (item : Reader) (value : Json) : Prop :=
  forall rest, Delimits rest -> item (skipBlanks (value.compact ++ rest)) = some (value, rest)

theorem quoted_append (text : String) (rest : List Char) :
    quoted text ++ rest = '"' :: (text.toList.flatMap escaped ++ '"' :: rest) := by
  rw [quoted, List.append_assoc, List.cons_append, List.singleton_append]

theorem delimits_comma (rest : List Char) : Delimits (',' :: rest) :=
  Or.inl rfl

theorem delimits_brace (rest : List Char) : Delimits ('}' :: rest) :=
  Or.inr (Or.inr rfl)

theorem readEntries?_last {item : Reader} {value : Json} (reads : ReadsBack item value)
    (fuel : Nat) (key : String) (rest : List Char) :
    readEntries? item (fuel + 1) (quoted key ++ ':' :: (value.compact ++ '}' :: rest)) =
      some ([(key, value)], rest) := by
  rw [readEntries?, quoted_append, skipBlanks_cons rfl]
  simp only [readQuoted?_flatMap_escaped, Option.bind_eq_bind, Option.bind_some,
    skipBlanks_cons (show isBlank ':' = false from rfl), reads _ (delimits_brace rest),
    (delimits_brace rest).skipBlanks, String.ofList_toList]
  rfl

theorem readEntries?_more {item : Reader} {value : Json} (reads : ReadsBack item value)
    (fuel : Nat) (key : String) (rest : List Char) :
    readEntries? item (fuel + 1) (quoted key ++ ':' :: (value.compact ++ ',' :: rest)) =
      (readEntries? item fuel rest).map fun pair => ((key, value) :: pair.1, pair.2) := by
  rw [readEntries?, quoted_append, skipBlanks_cons rfl]
  simp only [readQuoted?_flatMap_escaped, Option.bind_eq_bind, Option.bind_some,
    skipBlanks_cons (show isBlank ':' = false from rfl), reads _ (delimits_comma rest),
    (delimits_comma rest).skipBlanks, String.ofList_toList]
  cases readEntries? item fuel rest <;> rfl

theorem compactEntries_cons_cons (key : String) (value : Json) (next : String × Json)
    (entries : List (String × Json)) :
    compactEntries ((key, value) :: next :: entries) =
      quoted key ++ ':' :: (value.compact ++ ',' :: compactEntries (next :: entries)) := by
  rw [compactEntries, List.append_assoc]
  · rfl
  · exact fun nothing => by cases nothing

theorem readEntries?_compactEntries {item : Reader} {entries : List (String × Json)}
    (present : entries ≠ []) (reads : forall entry, entry ∈ entries -> ReadsBack item entry.2)
    {fuel : Nat} (enough : entries.length ≤ fuel) (rest : List Char) :
    readEntries? item fuel (compactEntries entries ++ '}' :: rest) = some (entries, rest) := by
  induction entries generalizing fuel with
  | nil => exact absurd rfl present
  | cons entry entries ih =>
      rcases entry with ⟨key, value⟩
      have readsFirst : ReadsBack item value := reads (key, value) List.mem_cons_self
      cases fuel with
      | zero => cases enough
      | succ fuel =>
          cases entries with
          | nil =>
              rw [compactEntries, List.append_assoc, List.cons_append]
              exact readEntries?_last readsFirst fuel key rest
          | cons next entries =>
              have readsRest := fun entry member =>
                reads entry (List.mem_cons_of_mem (key, value) member)
              have later := ih (List.cons_ne_nil next entries) readsRest
                (Nat.le_of_succ_le_succ enough)
              rw [compactEntries_cons_cons, List.append_assoc, List.cons_append, List.append_assoc,
                List.cons_append, readEntries?_more readsFirst, later]
              rfl

theorem length_le_compactEntries (entries : List (String × Json)) :
    entries.length ≤ (compactEntries entries).length := by
  induction entries with
  | nil => exact Nat.zero_le _
  | cons entry entries ih =>
      rcases entry with ⟨key, value⟩
      cases entries with
      | nil =>
          rw [compactEntries, List.length_append, List.length_cons, List.length_cons,
            List.length_nil]
          omega
      | cons next entries =>
          have whole := congrArg List.length (compactEntries_cons_cons key value next entries)
          simp only [List.length_append, List.length_cons] at whole ih ⊢
          omega

/-- The text of entries begins with their first key. -/
theorem exists_compactEntries_cons (key : String) (value : Json) (entries : List (String × Json)) :
    exists rest, compactEntries ((key, value) :: entries) = quoted key ++ ':' :: rest := by
  cases entries with
  | nil => exact ⟨value.compact, by rw [compactEntries]⟩
  | cons next entries => exact ⟨_, compactEntries_cons_cons key value next entries⟩

theorem afterCarrierKey?_quoted {key : String} (plain : key ≠ carrierKey) (rest : List Char) :
    afterCarrierKey? (quoted key ++ ':' :: rest) = none := by
  rw [quoted_append, afterCarrierKey?]
  simp only [readQuoted?_flatMap_escaped, Option.bind_eq_bind, Option.bind_some,
    skipBlanks_cons (show isBlank ':' = false from rfl), String.ofList_toList, if_neg plain]

theorem readObject?_of_quote (carried : List Char -> Option Json) (item : Reader)
    (rest : List Char) (plain : afterCarrierKey? ('"' :: rest) = none) :
    readObject? carried item ('"' :: rest) =
      (readEntries? item ('"' :: rest).length ('"' :: rest)).map fun pair =>
        (.object (mergeEntries pair.1), pair.2) := by
  rw [readObject?, skipBlanks_cons (show isBlank '"' = false from rfl)]
  split
  · next behind closes => exact absurd (List.cons.inj closes).1 (by decide)
  · rw [plain]

/-- Whether the first key of an object announces a carried text. -/
def announcesText (entries : List (String × Json)) : Bool :=
  (entries.map Prod.fst).head? == some carrierKey

/-- Entries are read back as an object, unless their first key announces a carried text. -/
theorem readObject?_compactEntries {carried : List Char -> Option Json} {item : Reader}
    {entries : List (String × Json)} (plain : announcesText entries = false)
    (reads : forall entry, entry ∈ entries -> ReadsBack item entry.2) (rest : List Char) :
    readObject? carried item (compactEntries entries ++ '}' :: rest) =
      some (.object (mergeEntries entries), rest) := by
  have enough : entries.length ≤ (compactEntries entries ++ '}' :: rest).length := by
    rw [List.length_append]
    exact Nat.le_trans (length_le_compactEntries entries) (Nat.le_add_right _ _)
  cases entries with
  | nil =>
      rw [compactEntries, List.nil_append, readObject?, (delimits_brace rest).skipBlanks]
      rfl
  | cons entry entries =>
      rcases entry with ⟨key, value⟩
      have readEntries := readEntries?_compactEntries (List.cons_ne_nil _ _) reads enough rest
      rcases exists_compactEntries_cons key value entries with ⟨behind, shape⟩
      have other : key ≠ carrierKey := by
        rintro rfl
        cases plain
      have announced := afterCarrierKey?_quoted other (behind ++ '}' :: rest)
      rw [shape, List.append_assoc, List.cons_append] at readEntries ⊢
      rw [quoted_append] at announced readEntries ⊢
      apply Eq.trans (readObject?_of_quote carried item _ announced)
      rw [readEntries]
      rfl

theorem readsBack_string (carried : List Char -> Option Json) (levels : Nat) (text : String) :
    ReadsBack (readValue? carried levels) (.string text) := by
  intro rest delimits
  have read (nested : Option Reader) :
      readWith carried nested ('"' :: (text.toList.flatMap escaped ++ '"' :: rest)) =
        some (.string text, rest) := by
    rw [readWith, readQuoted?_flatMap_escaped, Option.map_some]
    exact congrArg (fun same => some (string same, rest)) String.ofList_toList
  rw [compact, quoted_append, skipBlanks_cons rfl]
  cases levels with
  | zero => exact read none
  | succ levels => exact read (some (readValue? carried levels))

/-- An object is read back, with its entries merged, one level above its values. -/
theorem readValue?_object {carried : List Char -> Option Json} {levels : Nat}
    {entries : List (String × Json)} (plain : announcesText entries = false)
    (reads : forall entry, entry ∈ entries -> ReadsBack (readValue? carried levels) entry.2)
    (rest : List Char) :
    readValue? carried (levels + 1) (skipBlanks ((object entries).compact ++ rest)) =
      some (.object (mergeEntries entries), rest) := by
  rw [compact, List.cons_append, List.cons_append, List.append_assoc, List.singleton_append,
    skipBlanks_cons rfl, readValue?, readWith]
  exact readObject?_compactEntries plain reads rest

/-- The compact text of an object is the text of its merged entries. -/
theorem ofText?_object {entries : List (String × Json)} {levels : Nat}
    (plain : announcesText entries = false)
    (reads : forall carried entry, entry ∈ entries ->
      ReadsBack (readValue? carried levels) entry.2) :
    ofText? (levels + 1) (object entries).compact = some (.object (mergeEntries entries)) := by
  have readValues := reads (readText? (object entries).compact.length)
  have read := readValue?_object plain readValues []
  rw [List.append_nil] at read
  rw [ofText?, readWhole?, read]
  rfl

end Json
end ContactSearch
