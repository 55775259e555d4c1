import ContactSearch.Proofs.Script.Quotation

namespace ContactSearch

/-!
# Where tokens begin and end

The first character of a text tells whether a numeral or a word begins there,
and these are as long as they can be.  Some symbols begin like longer ones, and
are read when the longer ones do not fit.  A blank belongs to no token at all:
it is neither a letter nor a numeral of any script, nor is it a mark.
-/

namespace Text

/-- No blank is a letter or a numeral of any script. -/
theorem blank_ranges_apart : forall range, range ∈ blankRanges ->
    forall code, code ∈ List.range' range.1 (range.2 + 1 - range.1) ->
      inRanges code alphabeticRanges = false ∧ inRanges code numericRanges = false := by
  decide +kernel

theorem isBlank_apart {c : Char} (blank : isBlank c = true) :
    isAlphabetic c = false ∧ isNumeric c = false := by
  rcases exists_range_of_inRanges blank with ⟨range, listed, reached, within⟩
  apply blank_ranges_apart range listed c.toNat
  rw [List.mem_range'_1]
  omega

end Text

namespace Script

/-! ## Blanks -/

theorem ne_of_isBlank {blank c : Char} (isBlank : Text.isBlank blank = true)
    (visible : Text.isBlank c = false) : blank ≠ c := by
  rintro rfl
  rw [isBlank] at visible
  cases visible

theorem isNamePart_of_isBlank {c : Char} (blank : Text.isBlank c = true) :
    isNamePart c = false := by
  have apart := Text.isBlank_apart blank
  have underscore : c ≠ '_' := ne_of_isBlank blank rfl
  have dollar : c ≠ '$' := ne_of_isBlank blank rfl
  simp only [isNamePart, apart, beq_eq_false_iff_ne.mpr underscore,
    beq_eq_false_iff_ne.mpr dollar, Bool.or_false]

theorem isBlank_of_isNamePart {c : Char} (part : isNamePart c = true) :
    Text.isBlank c = false := by
  cases blank : Text.isBlank c with
  | false => rfl
  | true =>
      rw [isNamePart_of_isBlank blank] at part
      cases part

/-! ## Digits and letters -/

theorem isNumeric_of_isDigit {c : Char} (digit : c.isDigit = true) : Text.isNumeric c = true := by
  have bounds : 48 ≤ c.toNat ∧ c.toNat ≤ 57 := by
    simpa [Char.isDigit, UInt32.le_iff_toNat_le] using digit
  rw [Text.isNumeric, Text.numericRanges, Text.inRanges, if_neg (by omega), if_pos bounds.2]

theorem isNamePart_of_isDigit {c : Char} (digit : c.isDigit = true) : isNamePart c = true := by
  simp [isNamePart, isNumeric_of_isDigit digit]

theorem isNamePart_of_isNameStart {c : Char} (start : isNameStart c = true) :
    isNamePart c = true := by
  simp only [isNameStart, Bool.or_eq_true] at start
  simp only [isNamePart, Bool.or_eq_true]
  rcases start with (letter | underscore) | dollar
  · exact Or.inl (Or.inl (Or.inl letter))
  · exact Or.inl (Or.inr underscore)
  · exact Or.inr dollar

theorem isDigit_of_isNamePart {c : Char} (stops : isNamePart c = false) : c.isDigit = false := by
  cases digit : c.isDigit with
  | false => rfl
  | true =>
      rw [isNamePart_of_isDigit digit] at stops
      cases stops

/-! ## The first token -/

theorem first_of_digit {c : Char} (digit : c.isDigit = true) (rest : List Char) :
    Lexeme.first c rest =
      (.number (String.ofList (c :: numberTail rest)), (numberTail rest).length) := by
  unfold Lexeme.first
  split
  all_goals try cases digit
  have notQuote : ¬ (c = '"' ∨ c = '\x27') := by
    rintro (rfl | rfl) <;> cases digit
  rw [if_neg notQuote, if_pos digit]

theorem first_of_isNameStart {c : Char} (start : isNameStart c = true)
    (notDigit : c.isDigit = false) (rest : List Char) :
    Lexeme.first c rest =
      (wordLexeme (String.ofList (c :: rest.takeWhile isNamePart)),
        (rest.takeWhile isNamePart).length) := by
  unfold Lexeme.first
  split
  all_goals try cases start
  have notQuote : ¬ (c = '"' ∨ c = '\x27') := by
    rintro (rfl | rfl) <;> cases start
  rw [if_neg notQuote, notDigit, if_neg Bool.false_ne_true, if_pos start]

/-- A symbol that could be longer is read where no equals sign follows. -/
theorem first_equal {rest : List Char} (stops : rest.head? ≠ some '=') :
    Lexeme.first '=' ('=' :: rest) = (.symbol .equal, 1) := by
  cases rest with
  | nil => rfl
  | cons c rest =>
      have other : c ≠ '=' := fun same => stops (congrArg some same)
      simp [Lexeme.first, Lexeme.ofSymbol, other]

theorem first_notEqual {rest : List Char} (stops : rest.head? ≠ some '=') :
    Lexeme.first '!' ('=' :: rest) = (.symbol .notEqual, 1) := by
  cases rest with
  | nil => rfl
  | cons c rest =>
      have other : c ≠ '=' := fun same => stops (congrArg some same)
      simp [Lexeme.first, Lexeme.ofSymbol, other]

theorem first_bang {rest : List Char} (stops : rest.head? ≠ some '=') :
    Lexeme.first '!' rest = (.symbol .bang, 0) := by
  cases rest with
  | nil => rfl
  | cons c rest =>
      have other : c ≠ '=' := fun same => stops (congrArg some same)
      simp [Lexeme.first, Lexeme.ofSymbol, other]

end Script
end ContactSearch
