import ContactSearch.Proofs.Script.Grammar
import ContactSearch.Proofs.Script.Layout

namespace ContactSearch
namespace Script

/-!
# Tokens that are written one after another

A token that is written in front of other text is read as itself, as long as
the text behind it cannot become part of it.  For a word or a numeral this asks
that no letter, digit, underscore or dollar sign stands behind it, nor a point
with a digit.  A string literal and the symbols need nothing, apart from those
symbols that an equals sign would make longer.
-/

/-! ## What may stand behind -/

/-- A text that adds nothing to a word or a numeral in front of it. -/
structure Apart (behind : List Char) : Prop where
  stops : forall c, c ∈ behind.head? -> isNamePart c = false
  pointless : fractionPart behind = []

theorem apart_nil : Apart [] :=
  ⟨fun _ => nofun, rfl⟩

theorem apart_cons {c : Char} (stops : isNamePart c = false) (noPoint : c ≠ '.')
    (rest : List Char) : Apart (c :: rest) := by
  constructor
  · intro d first
    cases first
    exact stops
  · simp [fractionPart, noPoint]

/-- A blank and the brackets and parentheses of an expression end words and numerals. -/
theorem apart_of_mem {c : Char} (listed : c ∈ [' ', '[', ']', ')']) (rest : List Char) :
    Apart (c :: rest) := by
  simp only [List.mem_cons, List.not_mem_nil, or_false] at listed
  rcases listed with rfl | rfl | rfl | rfl
  all_goals exact apart_cons (by decide +kernel) (by decide) rest

/-- A point behind which no digit stands adds nothing either. -/
theorem apart_point {c : Char} (notDigit : c.isDigit = false) (rest : List Char) :
    Apart ('.' :: c :: rest) := by
  constructor
  · intro d first
    cases first
    decide +kernel
  · simp [fractionPart, notDigit]

/-! ## Symbols -/

/-- The symbols that are read the same whatever follows them. -/
def delimiters : List (Char × Symbol) :=
  [('.', .dot), ('[', .openBracket), (']', .closeBracket), ('(', .openParen), (')', .closeParen)]

theorem lexemes_delimiter (c : Char) (mark : Symbol) (listed : (c, mark) ∈ delimiters)
    (rest : List Char) : lexemes (c :: rest) = .symbol mark :: lexemes rest := by
  have alone : forall pair, pair ∈ delimiters ->
      Text.isBlank pair.1 = false ∧ Lexeme.first pair.1 rest = (.symbol pair.2, 0) := by
    simp only [delimiters, List.forall_mem_cons]
    exact ⟨⟨rfl, rfl⟩, ⟨rfl, rfl⟩, ⟨rfl, rfl⟩, ⟨rfl, rfl⟩, ⟨rfl, rfl⟩, fun _ => nofun⟩
  exact lexemes_of_valid (alone _ listed).1 (alone _ listed).2 rfl

/-- The sign of an operator is read as itself in front of a blank. -/
theorem Sign.lexemes_text {level : Level} (sign : Sign level) (behind : List Char) :
    lexemes (sign.symbol.text.toList ++ ' ' :: behind) =
      .symbol sign.symbol :: lexemes behind := by
  have passed : lexemes (' ' :: behind) = lexemes behind := lexemes_of_blank rfl
  rw [<- passed]
  cases sign with
  | or => exact lexemes_of_valid rfl rfl rfl
  | and => exact lexemes_of_valid rfl rfl rfl
  | equality operator => cases operator <;> exact lexemes_of_valid rfl rfl rfl

/-! ## Words -/

/-- A word in front of a text that adds nothing to it is read as itself. -/
theorem lexemes_word {text : String} (word : IsWord text) {behind : List Char}
    (apart : Apart behind) :
    lexemes (text.toList ++ behind) = wordLexeme text :: lexemes behind :=
  lexemes_of_spelled (.word word) (endsBefore_wordLexeme_iff.mpr apart.stops)

/-- A text that is read as a name: a word that is not reserved. -/
structure IsName (text : String) : Prop where
  word : IsWord text
  free : Keyword.ofText? text = none

theorem IsName.lexeme {text : String} (name : IsName text) :
    wordLexeme text = .identifier text := by
  rw [wordLexeme, name.free]

/-- Every name among the lexemes of a text is one that can be written again. -/
theorem isName_of_mem {text : List Char} {name : String}
    (member : .identifier name ∈ lexemes text) : IsName name := by
  rcases exists_first_of_mem member rfl with ⟨c, rest, first⟩
  rcases first_cases c rest with
    ⟨_, same⟩ | ⟨_, same⟩ | ⟨_, same⟩ | ⟨_, same⟩ | ⟨start, notDigit, same⟩
  · cases first.symm.trans same
  · cases first.symm.trans same
  · cases first.symm.trans same
  · cases first.symm.trans same
  · have spelled := same.symm.trans first
    rw [wordLexeme] at spelled
    split at spelled
    · cases spelled
    · next free =>
        cases spelled
        refine ⟨⟨c, rest.takeWhile isNamePart, String.toList_ofList, start, notDigit, ?_⟩, free⟩
        exact fun d inside => List.all_eq_true.mp List.all_takeWhile d inside

/-! ## Numerals -/

/-- A numeral in front of a text that adds nothing to it is read as itself. -/
theorem lexemes_numeral {whole fraction : List Char} (present : whole ≠ [])
    (digits : Double.AreDigits whole) (digits' : Double.AreDigits fraction)
    {behind : List Char} (apart : Apart behind) :
    lexemes (whole ++ Double.pointed fraction ++ behind) =
      .number (String.ofList (whole ++ Double.pointed fraction)) :: lexemes behind :=
  lexemes_of_spelled (.number present digits digits')
    ⟨fun c first => isDigit_of_isNamePart (apart.stops c first), fun _ => apart.pointless⟩

/-! ## String literals -/

/-- A character that is shown raw or by a short escape. -/
def IsShortlyShown (c : Char) : Prop :=
  Text.shown c = [c] ∨ c ∈ Text.shortEscapes.map Prod.fst

instance (c : Char) : Decidable (IsShortlyShown c) :=
  inferInstanceAs (Decidable (_ ∨ _))

/-- What a short escape shows is an item of a literal for the same character. -/
theorem item_of_shortEscape : forall pair, pair ∈ Text.shortEscapes ->
    Text.shown pair.1 = ['\\', pair.2] ∧
      ((pair.2, pair.1) ∈ namedEscapes ∨
        (pair.1 = pair.2 ∧ pair.1 ≠ 'u' ∧ pair.1 ∉ namedEscapes.map Prod.fst)) := by
  decide +kernel

theorem item_shown {c : Char} (short : IsShortlyShown c) : Item '"' (Text.shown c) c := by
  rcases short with raw | listed
  · rw [raw]
    apply Item.raw
    · rintro rfl
      exact absurd raw (by decide)
    · rintro rfl
      exact absurd raw (by decide)
  · rcases List.mem_map.mp listed with ⟨pair, member, rfl⟩
    rcases item_of_shortEscape pair member with ⟨shape, named | ⟨same, notU, unnamed⟩⟩
    · rw [shape]
      exact .named named
    · rw [shape, <- same]
      exact .itself notU unnamed

theorem items_flatMap_shown {cs : List Char} (short : forall c, c ∈ cs -> IsShortlyShown c) :
    Items '"' (cs.flatMap Text.shown) cs := by
  induction cs with
  | nil => exact .nil
  | cons c cs ih =>
      rw [List.flatMap_cons]
      apply Items.cons (item_shown (short c List.mem_cons_self))
      exact ih fun d member => short d (List.mem_cons_of_mem c member)

/-- A text that is shown raw or by short escapes is read back behind its quotation marks. -/
theorem lexemes_quoted {text : String} (short : forall c, c ∈ text.toList -> IsShortlyShown c)
    (behind : List Char) :
    lexemes (Text.quoted text ++ behind) = .string text :: lexemes behind := by
  have whole : Text.quoted text ++ behind =
      '"' :: (text.toList.flatMap Text.shown ++ '"' :: behind) := by
    rw [Text.quoted, List.cons_append, List.cons_append, List.append_assoc,
      List.singleton_append]
  have read := lexemes_of_items (Or.inl rfl) (items_flatMap_shown short) behind
  rw [String.ofList_toList] at read
  rw [whole]
  exact read

end Script
end ContactSearch
