import ContactSearch.Proofs.Number.Numerals
import ContactSearch.Script.Tokens

namespace ContactSearch
namespace Script

/-!
# Lexemes of a text

The lexemes of a text are its tokens without their positions.  They do not
depend on where the text begins, so they can be read off one at a time: a
blank is passed over, and what begins with any other character is followed by
the lexemes of the rest.

The last lexeme is the end of the input or a fault, and no other lexeme is.
Every numeral among them spells a number.
-/

/-- What the tokens of a text are, apart from where they stand. -/
def lexemes (text : List Char) : List Lexeme :=
  (tokensFrom 0 text).map Token.lexeme

theorem map_lexeme_tokensFrom_eq (position position' : Nat) (text : List Char) :
    (tokensFrom position text).map Token.lexeme = (tokensFrom position' text).map Token.lexeme := by
  fun_induction tokensFrom position text generalizing position' with
  | case1 position =>
      rw [tokensFrom]
      rfl
  | case2 position c rest blank ih =>
      rw [tokensFrom, if_pos blank]
      exact ih (position' + 1)
  | case3 position c rest visible lexeme more first invalid =>
      rw [tokensFrom, if_neg visible, first]
      simp only [invalid, if_true]
      rfl
  | case4 position c rest visible lexeme more first valid ih =>
      rw [tokensFrom, if_neg visible, first]
      simp only [valid, Bool.false_eq_true, if_false, List.map_cons]
      rw [ih (position' + 1 + more)]

theorem map_lexeme_tokensFrom (position : Nat) (text : List Char) :
    (tokensFrom position text).map Token.lexeme = lexemes text :=
  map_lexeme_tokensFrom_eq position 0 text

theorem map_lexeme_tokenize (source : String) :
    (tokenize source).map Token.lexeme = lexemes source.toList :=
  rfl

/-! ## One lexeme at a time -/

theorem lexemes_nil : lexemes [] = [.endOfInput] := by
  rw [lexemes, tokensFrom]
  rfl

theorem lexemes_of_blank {c : Char} {rest : List Char} (blank : Text.isBlank c = true) :
    lexemes (c :: rest) = lexemes rest := by
  rw [lexemes, tokensFrom, if_pos blank, map_lexeme_tokensFrom]

theorem lexemes_of_invalid {c : Char} {rest : List Char} {lexeme : Lexeme} {more : Nat}
    (visible : Text.isBlank c = false) (first : Lexeme.first c rest = (lexeme, more))
    (invalid : lexeme.isInvalid = true) : lexemes (c :: rest) = [lexeme] := by
  rw [lexemes, tokensFrom, visible, first]
  simp [invalid]

theorem lexemes_of_valid {c : Char} {rest : List Char} {lexeme : Lexeme} {more : Nat}
    (visible : Text.isBlank c = false) (first : Lexeme.first c rest = (lexeme, more))
    (valid : lexeme.isInvalid = false) :
    lexemes (c :: rest) = lexeme :: lexemes (rest.drop more) := by
  rw [lexemes, tokensFrom, visible, first]
  simp [valid, map_lexeme_tokensFrom]

/-- Induction along the lexemes of a text. -/
theorem lexemes_induction {motive : List Char -> Prop} (nil : motive [])
    (blank : forall c rest, Text.isBlank c = true -> motive rest -> motive (c :: rest))
    (invalid : forall c rest lexeme more, Text.isBlank c = false ->
      Lexeme.first c rest = (lexeme, more) -> lexeme.isInvalid = true -> motive (c :: rest))
    (valid : forall c rest lexeme more, Text.isBlank c = false ->
      Lexeme.first c rest = (lexeme, more) -> lexeme.isInvalid = false ->
      motive (rest.drop more) -> motive (c :: rest)) (text : List Char) : motive text := by
  have all : forall (_ : Nat), motive text := by
    intro position
    fun_induction tokensFrom position text with
    | case1 => exact nil
    | case2 position c rest white ih => exact blank c rest white ih
    | case3 position c rest visible lexeme more first fault =>
        exact invalid c rest lexeme more (Bool.eq_false_iff.mpr visible) first fault
    | case4 position c rest visible lexeme more first proper ih =>
        exact valid c rest lexeme more (Bool.eq_false_iff.mpr visible) first
          (Bool.eq_false_iff.mpr proper) ih
  exact all 0

/-! ## The end of a token list -/

/-- The end of the input and the faults end a token list. -/
def Lexeme.isTerminal : Lexeme -> Bool
  | .endOfInput => true
  | .invalid _ => true
  | _ => false

/-- The lexemes that a text can begin with; numerals and words take all there is of them. -/
theorem first_cases (c : Char) (rest : List Char) :
    (exists mark, (Lexeme.first c rest).1 = .symbol mark) ∨
    (exists fault, (Lexeme.first c rest).1 = .invalid fault) ∨
    (exists value, (Lexeme.first c rest).1 = .string value) ∨
    (c.isDigit = true ∧
      (Lexeme.first c rest).1 = .number (String.ofList (c :: numberTail rest))) ∨
    (isNameStart c = true ∧ c.isDigit = false ∧
      (Lexeme.first c rest).1 = wordLexeme (String.ofList (c :: rest.takeWhile isNamePart))) := by
  unfold Lexeme.first
  repeat' split
  all_goals first
    | exact Or.inl ⟨_, rfl⟩
    | exact Or.inr (Or.inl ⟨_, rfl⟩)
    | exact Or.inr (Or.inr (Or.inl ⟨_, rfl⟩))
    | exact Or.inr (Or.inr (Or.inr (Or.inl ⟨by assumption, rfl⟩)))
    | exact Or.inr (Or.inr (Or.inr (Or.inr
        ⟨by assumption, Bool.eq_false_iff.mpr (by assumption), rfl⟩)))

theorem wordLexeme_cases (word : String) :
    (exists keyword, wordLexeme word = .keyword keyword) ∨ wordLexeme word = .identifier word := by
  unfold wordLexeme
  split
  · exact Or.inl ⟨_, rfl⟩
  · exact Or.inr rfl

theorem first_ne_endOfInput (c : Char) (rest : List Char) :
    (Lexeme.first c rest).1 ≠ .endOfInput := by
  rcases first_cases c rest with ⟨_, same⟩ | ⟨_, same⟩ | ⟨_, same⟩ | ⟨_, same⟩ | ⟨_, _, same⟩
  · exact same ▸ Lexeme.noConfusion
  · exact same ▸ Lexeme.noConfusion
  · exact same ▸ Lexeme.noConfusion
  · exact same ▸ Lexeme.noConfusion
  · rcases wordLexeme_cases (String.ofList (c :: rest.takeWhile isNamePart)) with
      ⟨_, same'⟩ | same'
    · exact same ▸ same' ▸ Lexeme.noConfusion
    · exact same ▸ same' ▸ Lexeme.noConfusion

/-- A lexeme that a text begins with, and that is no fault, does not end the list. -/
theorem isTerminal_first {c : Char} {rest : List Char} {lexeme : Lexeme} {more : Nat}
    (first : Lexeme.first c rest = (lexeme, more)) (valid : lexeme.isInvalid = false) :
    lexeme.isTerminal = false := by
  have present := first_ne_endOfInput c rest
  rw [first] at present
  cases lexeme with
  | endOfInput => exact absurd rfl present
  | invalid fault => cases valid
  | _ => rfl

/-- The last lexeme of a text is the only one that ends a token list. -/
theorem lexemes_eq_append (text : List Char) :
    exists body last, lexemes text = body ++ [last] ∧ last.isTerminal = true ∧
      forall lexeme, lexeme ∈ body -> lexeme.isTerminal = false := by
  induction text using lexemes_induction with
  | nil => exact ⟨[], .endOfInput, lexemes_nil, rfl, fun _ => nofun⟩
  | blank c rest white ih => rwa [lexemes_of_blank white]
  | invalid c rest lexeme more visible first fault =>
      refine ⟨[], lexeme, lexemes_of_invalid visible first fault, ?_, fun _ => nofun⟩
      cases lexeme with
      | invalid => rfl
      | _ => cases fault
  | valid c rest lexeme more visible first proper ih =>
      rcases ih with ⟨body, last, shape, terminal, others⟩
      refine ⟨lexeme :: body, last, ?_, terminal, ?_⟩
      · rw [lexemes_of_valid visible first proper, shape, List.cons_append]
      · intro other member
        rcases List.mem_cons.mp member with rfl | later
        · exact isTerminal_first first proper
        · exact others other later

/-- Tokens that do not end a list are all the tokens of a text if nothing but its end follows. -/
theorem lexemes_eq_append_endOfInput {text : List Char} {front behind : List Lexeme}
    (shape : lexemes text = front ++ behind)
    (proper : forall lexeme, lexeme ∈ front -> lexeme.isTerminal = false)
    (finished : behind.headD .endOfInput = .endOfInput) :
    lexemes text = front ++ [.endOfInput] := by
  rcases lexemes_eq_append text with ⟨body, last, shape', terminal, others⟩
  rw [shape'] at shape
  cases behind with
  | nil =>
      have member : last ∈ front := by
        rw [List.append_nil] at shape
        exact shape ▸ List.mem_append_right body (List.mem_singleton_self last)
      rw [proper last member] at terminal
      cases terminal
  | cons lexeme rest =>
      change lexeme = .endOfInput at finished
      subst finished
      cases rest with
      | nil => rw [shape', shape]
      | cons next rest =>
          -- the end of the input would stand in front of another token
          have split : front ++ .endOfInput :: next :: rest =
              (front ++ .endOfInput :: (next :: rest).dropLast) ++
                [(next :: rest).getLast (List.cons_ne_nil _ _)] := by
            rw [List.append_assoc, List.cons_append, List.dropLast_concat_getLast]
          rw [split] at shape
          have bodies := (List.append_inj' shape rfl).1
          have early := others .endOfInput (bodies ▸ List.mem_append_right front List.mem_cons_self)
          cases early

/-- Every lexeme of a text that does not end the list begins somewhere in the text. -/
theorem exists_first_of_mem {text : List Char} {lexeme : Lexeme} (member : lexeme ∈ lexemes text)
    (proper : lexeme.isTerminal = false) :
    exists c rest, (Lexeme.first c rest).1 = lexeme := by
  induction text using lexemes_induction with
  | nil =>
      rw [lexemes_nil] at member
      cases List.mem_singleton.mp member
      cases proper
  | blank c rest white ih =>
      rw [lexemes_of_blank white] at member
      exact ih member
  | invalid c rest other more visible first fault =>
      rw [lexemes_of_invalid visible first fault] at member
      cases List.mem_singleton.mp member
      exact ⟨c, rest, congrArg Prod.fst first⟩
  | valid c rest other more visible first valid ih =>
      rw [lexemes_of_valid visible first valid] at member
      rcases List.mem_cons.mp member with rfl | later
      · exact ⟨c, rest, congrArg Prod.fst first⟩
      · exact ih later

/-! ## Numerals -/

/-- A fraction is digits behind a point, or nothing. -/
theorem exists_fractionPart (cs : List Char) :
    exists digits, fractionPart cs = Double.pointed digits ∧ Double.AreDigits digits := by
  unfold fractionPart
  split
  · next rest =>
      refine ⟨rest.takeWhile Char.isDigit, ?_, ?_⟩
      · rw [Double.pointed]
      · exact fun c member => List.all_eq_true.mp List.all_takeWhile c member
  · exact ⟨[], rfl, List.forall_mem_nil _⟩

/-- A digit and what a numeral takes behind it spell a number, which is not negated. -/
theorem ofText?_numeral {c : Char} (digit : c.isDigit = true) (rest : List Char) :
    exists whole fraction, Double.ofText? (c :: numberTail rest) =
      some (Double.ofDigits false whole fraction 0) := by
  have digits : Double.AreDigits (c :: rest.takeWhile Char.isDigit) := by
    intro d member
    rcases List.mem_cons.mp member with rfl | later
    · exact digit
    · exact List.all_eq_true.mp List.all_takeWhile d later
  rcases exists_fractionPart (rest.dropWhile Char.isDigit) with ⟨fraction, shape, digits'⟩
  refine ⟨c :: rest.takeWhile Char.isDigit, fraction, ?_⟩
  rw [numberTail, shape, <- List.cons_append]
  exact Double.ofText?_of_parts (List.cons_ne_nil _ _) digits digits'

/-- Every numeral among the lexemes of a text spells a number, which is not negated. -/
theorem ofText?_of_number_mem {text : List Char} {digits : String}
    (member : .number digits ∈ lexemes text) :
    exists whole fraction, Double.ofText? digits.toList =
      some (Double.ofDigits false whole fraction 0) := by
  rcases exists_first_of_mem member rfl with ⟨c, rest, first⟩
  rcases first_cases c rest with
    ⟨_, same⟩ | ⟨_, same⟩ | ⟨_, same⟩ | ⟨digit, same⟩ | ⟨_, _, same⟩
  · cases first.symm.trans same
  · cases first.symm.trans same
  · cases first.symm.trans same
  · rw [Lexeme.number.inj (first.symm.trans same), String.toList_ofList]
    exact ofText?_numeral digit rest
  · rcases wordLexeme_cases (String.ofList (c :: rest.takeWhile isNamePart)) with
      ⟨_, same'⟩ | same'
    · cases first.symm.trans (same.trans same')
    · cases first.symm.trans (same.trans same')

end Script
end ContactSearch
