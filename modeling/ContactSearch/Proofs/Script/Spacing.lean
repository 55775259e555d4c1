import ContactSearch.Proofs.Script.FirstFault
import ContactSearch.Proofs.Script.Layout
import ContactSearch.Proofs.Script.Relocation

namespace ContactSearch
namespace Script

/-!
# White space between tokens

White space may be inserted in front of every token of a text and behind the
last one, in all these places at once.  The text then has the same tokens, and
each of them is moved by as much as was inserted in front of it.

The layout of the text shows why.  The spellings of the tokens stay together,
and what stands behind one of them begins as before or with white space, so it
goes on the token no more than before.  From the moved tokens a script is read
as from those of the text.
-/

/-! ## Inserting -/

/-- A text with something inserted in front of each of its characters and behind the last one. -/
def spread (gap : Nat -> List Char) (position : Nat) : List Char -> List Char
  | [] => gap position
  | c :: text => gap position ++ c :: spread gap (position + 1) text

/-- A script with something inserted at its positions. -/
def spaced (gap : Nat -> List Char) (source : String) : String :=
  String.ofList (spread gap 0 source.toList)

/-- How many characters are inserted at the positions below a position. -/
def inserted (gap : Nat -> List Char) : Nat -> Nat
  | 0 => 0
  | position + 1 => inserted gap position + (gap position).length

/-- Where the character at a position gets, behind what is inserted at the position as well. -/
def shifted (gap : Nat -> List Char) (position : Nat) : Nat :=
  position + inserted gap (position + 1)

section Inserting

variable {gap : Nat -> List Char} {position : Nat}

theorem inserted_add_of_empty {size : Nat}
    (empty : forall p, position ≤ p -> p < position + size -> gap p = []) :
    inserted gap (position + size) = inserted gap position := by
  induction size with
  | zero => rfl
  | succ size ih =>
      have last := empty (position + size) (Nat.le_add_right _ _) (Nat.lt_succ_self _)
      rw [<- Nat.add_assoc, inserted, last, List.length_nil, Nat.add_zero]
      exact ih fun p above below => empty p above (Nat.lt_succ_of_lt below)

theorem spread_of_empty {own behind : List Char}
    (empty : forall p, position ≤ p -> p < position + own.length -> gap p = []) :
    spread gap position (own ++ behind) = own ++ spread gap (position + own.length) behind := by
  induction own generalizing position with
  | nil => rfl
  | cons c own ih =>
      have first := empty position (Nat.le_refl _) (Nat.lt_add_of_pos_right (Nat.succ_pos _))
      have later : forall p, position + 1 ≤ p -> p < position + 1 + own.length -> gap p = [] := by
        intro p above below
        apply empty p (Nat.le_of_succ_le above)
        rw [List.length_cons]
        omega
      rw [List.cons_append, spread, first, List.nil_append, ih later, List.length_cons,
        Nat.add_assoc, Nat.add_comm 1, List.cons_append]

/-- White space that is inserted into the text behind a token makes the token no longer. -/
theorem noLonger_spread (blank : forall p, AreBlank (gap p)) (position : Nat)
    (behind : List Char) : NoLonger behind (spread gap position behind) := by
  -- a spread text begins with white space, or with the first character of the text
  have begins (position : Nat) (text : List Char) {c : Char} {rest : List Char}
      (shape : spread gap position text = c :: rest) :
      Text.isBlank c = true ∨
        exists tail, text = c :: tail ∧ rest = spread gap (position + 1) tail := by
    cases inside : gap position with
    | cons first others =>
        left
        have member : first ∈ gap position := inside ▸ List.mem_cons_self
        cases text <;>
        · rw [spread, inside] at shape
          cases shape
          exact blank position _ member
    | nil =>
        right
        cases text with
        | nil =>
            rw [spread, inside] at shape
            cases shape
        | cons d tail =>
            rw [spread, inside] at shape
            cases shape
            exact ⟨tail, rfl, rfl⟩
  constructor
  · intro c member
    rcases List.head?_eq_some_iff.mp member with ⟨rest, shape⟩
    rcases begins position behind shape with white | ⟨tail, rfl, _⟩
    · exact Or.inr (isParting_of_isBlank white)
    · exact Or.inl rfl
  · rw [fractionPart_eq_nil_iff, fractionPart_eq_nil_iff]
    intro pointless d rest shape
    rcases begins position behind shape with white | ⟨tail, rfl, shape'⟩
    · exact absurd rfl (isParting_of_isBlank white).noPoint
    · rcases begins (position + 1) tail shape'.symm with white | ⟨tail', rfl, _⟩
      · exact isDigit_of_isNamePart (isNamePart_of_isBlank white)
      · exact pointless d tail' rfl

end Inserting

/-! ## The layout of a spread text -/

namespace Layout

variable {gap : Nat -> List Char} {position : Nat} {text : List Char} {tokens : List Token}

theorem afterBlanks {blanks : List Char} (blank : AreBlank blanks)
    (layout : Layout (position + blanks.length) text tokens) :
    Layout position (blanks ++ text) tokens := by
  induction blanks generalizing position with
  | nil => exact layout
  | cons c blanks ih =>
      rw [List.length_cons, Nat.add_comm blanks.length, <- Nat.add_assoc] at layout
      exact .blank (blank c List.mem_cons_self)
        (ih (fun d member => blank d (List.mem_cons_of_mem c member)) layout)

/-- Nothing is inserted within a token. -/
theorem empty_within {own behind : List Char} {lexeme : Lexeme}
    (rest : Layout (position + own.length) behind tokens)
    (boundaries : forall p, position ≤ p -> gap p ≠ [] ->
      exists token, token ∈ (⟨lexeme, position⟩ :: tokens : List Token) ∧ token.position = p) :
    forall p, position + 1 ≤ p -> p < position + own.length -> gap p = [] := by
  intro p above below
  by_cases none : gap p = []
  · exact none
  rcases boundaries p (Nat.le_of_succ_le above) none with ⟨token, member, rfl⟩
  rcases List.mem_cons.mp member with rfl | later
  · exact absurd above (Nat.not_succ_le_self _)
  · exact absurd (rest.bounds token later).1 (Nat.not_le_of_gt below)

/-- White space at the positions of its tokens moves the tokens of a text, and changes no other. -/
theorem spread (layout : Layout position text tokens)
    (finished : exists token, token ∈ tokens ∧ token.lexeme = .endOfInput)
    (boundaries : forall p, position ≤ p -> gap p ≠ [] ->
      exists token, token ∈ tokens ∧ token.position = p)
    (blank : forall p, AreBlank (gap p)) :
    Layout (position + inserted gap position) (Script.spread gap position text)
      (tokens.map (Token.moved (shifted gap))) := by
  induction layout with
  | finished position =>
      have ending : Layout (position + inserted gap position + (gap position).length) []
          [⟨.endOfInput, shifted gap position⟩] := by
        rw [shifted, inserted, <- Nat.add_assoc]
        exact .finished _
      have whole := ending.afterBlanks (blank position)
      rwa [List.append_nil] at whole
  | @blank position c text tokens white rest ih =>
      have later := ih finished fun p above => boundaries p (Nat.le_of_succ_le above)
      rw [Script.spread]
      apply afterBlanks (blank position)
      apply Layout.blank white
      rw [inserted] at later
      have same : position + inserted gap position + (gap position).length + 1 =
          position + 1 + (inserted gap position + (gap position).length) := by omega
      rwa [same]
  | refused visible first =>
      rcases finished with ⟨token, member, ending⟩
      cases List.mem_singleton.mp member
      cases ending
  | @token position own behind lexeme tokens spelled ends rest ih =>
      have finished' : exists token, token ∈ tokens ∧ token.lexeme = .endOfInput := by
        rcases finished with ⟨token, member, ending⟩
        rcases List.mem_cons.mp member with rfl | later
        · have proper := spelled.isTerminal
          rw [show lexeme = .endOfInput from ending] at proper
          cases proper
        · exact ⟨token, later, ending⟩
      have present := List.length_pos_iff.mpr spelled.ne_nil
      have later := ih finished' fun p above inside => by
        rcases boundaries p (Nat.le_of_add_right_le above) inside with ⟨token, member, same⟩
        rcases List.mem_cons.mp member with rfl | listed
        · change position = p at same
          omega
        · exact ⟨token, listed, same⟩
      have empty := empty_within rest boundaries
      rcases spelled.exists_cons with ⟨c, tail, rfl, _⟩
      have size : position + (c :: tail).length = position + 1 + tail.length := by
        rw [List.length_cons]
        omega
      rw [size] at later empty
      rw [List.cons_append, Script.spread, spread_of_empty empty, <- List.cons_append]
      apply afterBlanks (blank position)
      have begins : position + inserted gap position + (gap position).length =
          shifted gap position := by
        rw [shifted, inserted, Nat.add_assoc]
      rw [begins]
      apply Layout.token spelled (ends.of_noLonger (noLonger_spread blank _ behind))
      rw [inserted_add_of_empty empty] at later
      have continues : shifted gap position + (c :: tail).length =
          position + 1 + tail.length + inserted gap (position + 1) := by
        rw [shifted, List.length_cons]
        omega
      rwa [continues]

end Layout

theorem tokenize_spaced {source : String} {gap : Nat -> List Char}
    (whole : exists token, token ∈ tokenize source ∧ token.lexeme = .endOfInput)
    (boundaries : forall position, gap position ≠ [] ->
      exists token, token ∈ tokenize source ∧ token.position = position)
    (blank : forall position, AreBlank (gap position)) :
    tokenize (spaced gap source) = (tokenize source).map (Token.moved (shifted gap)) := by
  have layout : Layout 0 source.toList (tokenize source) := layout_tokensFrom 0 source.toList
  have moved := layout.spread whole (fun position _ => boundaries position) blank
  rw [tokenize, spaced, String.toList_ofList]
  exact moved.tokensFrom_eq

/--
White space between tokens does not matter.  If a text is read to its end, then any white space may
be inserted at the positions of its tokens, the end of the input included: the tokens are the same
and are moved by what is inserted in front of them, the same tree is read from them, and a refusal
has the same message, apart from its position, which is moved as well.
-/
theorem spacing_between_tokens_irrelevant {source : String} {gap : Nat -> List Char}
    (whole : exists token, token ∈ tokenize source ∧ token.lexeme = .endOfInput)
    (boundaries : forall position, gap position ≠ [] ->
      exists token, token ∈ tokenize source ∧ token.position = position)
    (blank : forall position, AreBlank (gap position)) :
    tokenize (spaced gap source) =
      (tokenize source).map
        (fun token => ⟨token.lexeme, token.position + inserted gap (token.position + 1)⟩) ∧
    (forall tree, Tree.parse source = .ok tree -> Tree.parse (spaced gap source) = .ok tree) ∧
    (forall fault, Tree.parse source = .error fault ->
      exists fault', Tree.parse (spaced gap source) = .error fault' ∧
        (fault.position? = none -> fault' = fault) ∧
        (forall position, fault.position? = some position ->
          exists text,
            fault.message = text ++ " at position " ++ Decimal.natText position ∧
            fault'.message = text ++ " at position " ++
              Decimal.natText (position + inserted gap (position + 1)))) := by
  have tokens := tokenize_spaced whole boundaries blank
  have outcomes := ofTokens_moved (shifted gap) (isClosed_tokenize source maxOperators)
  rw [<- tokens] at outcomes
  change Corresponds _ _ (Tree.parse source) (Tree.parse (spaced gap source)) at outcomes
  refine ⟨tokens, ?_⟩
  generalize Tree.parse (spaced gap source) = outcome at outcomes ⊢
  constructor
  · intro tree parsed
    rw [parsed] at outcomes
    cases outcomes with
    | result same => exact same ▸ rfl
  · intro fault refused
    rw [refused] at outcomes
    cases outcomes with
    | fault moved =>
        subst moved
        refine ⟨_, rfl, fun nowhere => fault.moved_of_none nowhere _, ?_⟩
        intro position located
        rcases SyntaxFault.exists_message_moved located with ⟨text, ends⟩
        exact ⟨text, fault.moved_id ▸ ends id, ends (shifted gap)⟩

/-- Operators at the end of a text, with white space in front of all of it and within. -/
theorem spacing_between_tokens_irrelevant_refused :
    let gap : Nat -> List Char := fun position =>
      if position = 0 then [' '] else if position = 6 then ['\n', ' '] else []
    (exists token, token ∈ tokenize "this.a==" ∧ token.lexeme = .endOfInput) ∧
    (forall position, gap position ≠ [] ->
      exists token, token ∈ tokenize "this.a==" ∧ token.position = position) ∧
    (forall position, AreBlank (gap position)) ∧
    spaced gap "this.a==" = " this.a\n ==" ∧
    Tree.parse "this.a==" = .error (.unexpectedEnd .operand 8) ∧
    exists fault, Tree.parse " this.a\n ==" = .error fault ∧
      exists text,
        (SyntaxFault.unexpectedEnd .operand 8).message =
          text ++ " at position " ++ Decimal.natText 8 ∧
        fault.message = text ++ " at position " ++ Decimal.natText 11 := by
  intro gap
  have tokens : tokenize "this.a==" =
      [⟨.keyword .this, 0⟩, ⟨.symbol .dot, 4⟩, ⟨.identifier "a", 5⟩, ⟨.symbol .equal, 6⟩,
        ⟨.endOfInput, 8⟩] := by
    decide +kernel
  have whole : exists token, token ∈ tokenize "this.a==" ∧ token.lexeme = .endOfInput := by
    rw [tokens]
    exact ⟨⟨.endOfInput, 8⟩, by decide, rfl⟩
  have boundaries : forall position, gap position ≠ [] ->
      exists token, token ∈ tokenize "this.a==" ∧ token.position = position := by
    intro position inside
    rw [tokens]
    by_cases start : position = 0
    · exact ⟨⟨.keyword .this, 0⟩, by decide, start.symm⟩
    by_cases operator : position = 6
    · exact ⟨⟨.symbol .equal, 6⟩, by decide, operator.symm⟩
    · simp [gap, start, operator] at inside
  have blank : forall position, AreBlank (gap position) := by
    intro position
    dsimp only [gap]
    split
    · exact List.all_eq_true.mp (by decide)
    · split
      · exact List.all_eq_true.mp (by decide)
      · exact List.forall_mem_nil _
  have text : spaced gap "this.a==" = " this.a\n ==" := by decide
  have refused : Tree.parse "this.a==" = .error (.unexpectedEnd .operand 8) := by
    rw [Tree.parse, tokens]
    rfl
  refine ⟨whole, boundaries, blank, text, refused, ?_⟩
  rcases (spacing_between_tokens_irrelevant whole boundaries blank).2.2 _ refused with
    ⟨fault, moved, _, located⟩
  rcases located 8 rfl with ⟨shown, before, after⟩
  rw [text] at moved
  exact ⟨fault, moved, shown, before, after⟩

end Script
end ContactSearch
