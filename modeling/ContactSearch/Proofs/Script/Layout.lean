import ContactSearch.Proofs.Script.Spelling

namespace ContactSearch
namespace Script

/-!
# Layout of a text

A text consists of white space and the spellings of its tokens, up to its end
or to the first character with which no token can begin.  This layout is a
relation between a text and a token list, and the reader of tokens computes
it: every text has a layout with the tokens that are read off it, and no
layout with other ones.

So whatever holds of all layouts holds of the tokens that are read, with their
positions.  More text behind a text leaves its tokens as they are if it begins
with a character that goes on none of them.  And nothing of a text gets lost:
the spellings of the tokens and the white space between them can be cut out of
the text by the positions alone.
-/

/-- A text that begins at a position, taken apart into its tokens. -/
inductive Layout : Nat -> List Char -> List Token -> Prop where
  | finished (position : Nat) : Layout position [] [⟨.endOfInput, position⟩]
  | blank {position : Nat} {c : Char} {text : List Char} {tokens : List Token}
      (blank : Text.isBlank c = true) (rest : Layout (position + 1) text tokens) :
      Layout position (c :: text) tokens
  | refused {position more : Nat} {c : Char} {text : List Char} {fault : LexicalFault}
      (visible : Text.isBlank c = false)
      (first : Lexeme.first c text = (.invalid fault, more)) :
      Layout position (c :: text) [⟨.invalid fault, position⟩]
  | token {position : Nat} {own behind : List Char} {lexeme : Lexeme} {tokens : List Token}
      (spelled : lexeme.Spelled own) (ends : lexeme.EndsBefore behind)
      (rest : Layout (position + own.length) behind tokens) :
      Layout position (own ++ behind) (⟨lexeme, position⟩ :: tokens)

/-! ## The layout of a text is what is read -/

theorem tokensFrom_nil (position : Nat) : tokensFrom position [] = [⟨.endOfInput, position⟩] := by
  rw [tokensFrom]

theorem tokensFrom_of_blank {c : Char} (blank : Text.isBlank c = true) (position : Nat)
    (text : List Char) : tokensFrom position (c :: text) = tokensFrom (position + 1) text := by
  rw [tokensFrom, if_pos blank]

theorem tokensFrom_of_refused {c : Char} {text : List Char} {fault : LexicalFault} {more : Nat}
    (visible : Text.isBlank c = false) (first : Lexeme.first c text = (.invalid fault, more))
    (position : Nat) : tokensFrom position (c :: text) = [⟨.invalid fault, position⟩] := by
  rw [tokensFrom, visible, first]
  rfl

theorem tokensFrom_of_spelled {lexeme : Lexeme} {own behind : List Char}
    (spelled : lexeme.Spelled own) (ends : lexeme.EndsBefore behind) (position : Nat) :
    tokensFrom position (own ++ behind) =
      ⟨lexeme, position⟩ :: tokensFrom (position + own.length) behind := by
  rcases spelled.exists_cons with ⟨c, tail, rfl, visible⟩
  have valid := Lexeme.isInvalid_of_isTerminal spelled.isTerminal
  rw [List.cons_append, tokensFrom, visible, first_of_spelled spelled ends]
  simp only [valid, Bool.false_eq_true, if_false, List.drop_left, List.length_cons]
  rw [Nat.add_assoc, Nat.add_comm 1]

theorem lexemes_of_spelled {lexeme : Lexeme} {own behind : List Char}
    (spelled : lexeme.Spelled own) (ends : lexeme.EndsBefore behind) :
    lexemes (own ++ behind) = lexeme :: lexemes behind := by
  rw [lexemes, tokensFrom_of_spelled spelled ends, List.map_cons, map_lexeme_tokensFrom]

theorem Layout.tokensFrom_eq {position : Nat} {text : List Char} {tokens : List Token}
    (layout : Layout position text tokens) : tokensFrom position text = tokens := by
  induction layout with
  | finished position => exact tokensFrom_nil position
  | blank blank rest ih => rw [tokensFrom_of_blank blank, ih]
  | refused visible first => exact tokensFrom_of_refused visible first _
  | token spelled ends rest ih => rw [tokensFrom_of_spelled spelled ends, ih]

theorem layout_tokensFrom (position : Nat) (text : List Char) :
    Layout position text (tokensFrom position text) := by
  fun_induction tokensFrom position text with
  | case1 position => exact .finished position
  | case2 position c rest blank ih => exact .blank blank ih
  | case3 position c rest visible lexeme more first invalid =>
      cases lexeme with
      | invalid fault => exact .refused (Bool.eq_false_iff.mpr visible) first
      | _ => cases invalid
  | case4 position c rest visible lexeme more first proper ih =>
      rcases exists_taken first (Bool.eq_false_iff.mpr proper) with
        ⟨own, behind, rfl, rfl, spelled, ends⟩
      rw [List.drop_left, Nat.add_assoc, Nat.add_comm 1] at ih
      rw [List.drop_left, Nat.add_assoc, Nat.add_comm 1]
      exact .token spelled ends ih

/-! ## More text behind a text that is read to its end -/

/-- A text that is read to its end keeps its tokens in front of a character that goes on none. -/
theorem Layout.append {position : Nat} {front : List Char} {tokens : List Token}
    (layout : Layout position front tokens) {body : List Token} {ending : Token}
    (shape : tokens = body ++ [ending]) (finished : ending.lexeme = .endOfInput)
    {c : Char} (parting : IsParting c) {behind : List Char} {later : List Token}
    (rest : Layout (position + front.length) (c :: behind) later) :
    Layout position (front ++ c :: behind) (body ++ later) := by
  induction layout generalizing body with
  | finished position =>
      have none : body = [] := (List.append_eq_singleton_iff.mp shape.symm).elim And.left
        fun other => nomatch other.2
      rw [none]
      exact rest
  | @blank position d text tokens blank _ ih =>
      apply Layout.blank blank
      apply ih shape
      rwa [List.length_cons, Nat.add_comm text.length, <- Nat.add_assoc] at rest
  | refused visible first =>
      -- the fault would have to be the end of the input
      rcases List.append_eq_singleton_iff.mp shape.symm with ⟨_, same⟩ | ⟨_, same⟩
      · cases List.singleton_inj.mp same
        cases finished
      · cases same
  | @token position own text lexeme tokens spelled ends _ ih =>
      cases body with
      | nil =>
          -- the token would have to be the end of the input
          cases (List.cons.inj shape).1
          have proper := spelled.isTerminal
          rw [show lexeme = .endOfInput from finished] at proper
          cases proper
      | cons head body =>
          rw [List.cons_append] at shape
          rcases List.cons.inj shape with ⟨rfl, shape'⟩
          rw [List.append_assoc]
          apply Layout.token spelled (ends.of_noLonger (noLonger_append parting text behind))
          apply ih shape'
          rwa [List.length_append, <- Nat.add_assoc] at rest

/-- A text that can be read to its end has the same tokens in front of a blank and more text. -/
theorem lexemes_append_of_blank {text : List Char} {body : List Lexeme}
    (whole : lexemes text = body ++ [.endOfInput]) {blank : Char}
    (isBlank : Text.isBlank blank = true) (behind : List Char) :
    lexemes (text ++ blank :: behind) = body ++ lexemes behind := by
  rcases List.map_eq_append_iff.mp whole with ⟨front, last, shape, rfl, single⟩
  rcases List.map_eq_singleton_iff.mp single with ⟨ending, rfl, finished⟩
  have joined := (layout_tokensFrom 0 text).append shape finished (isParting_of_isBlank isBlank)
    (layout_tokensFrom (0 + text.length) (blank :: behind))
  rw [lexemes, joined.tokensFrom_eq, List.map_append, map_lexeme_tokensFrom,
    lexemes_of_blank isBlank]

/-! ## Tokens and the text between them -/

namespace Lexeme

variable {lexeme other : Lexeme} {own behind : List Char}

/-- Nothing goes on a token where nothing follows. -/
theorem endsBefore_nil (lexeme : Lexeme) : lexeme.EndsBefore [] := by
  cases lexeme with
  | identifier name => exact fun _ => nofun
  | keyword word => exact fun _ => nofun
  | number digits => exact ⟨fun _ => nofun, fun _ => rfl⟩
  | symbol mark =>
      cases mark with
      | equal => exact nofun
      | notEqual => exact nofun
      | bang => exact nofun
      | _ => trivial
  | _ => trivial

/-- No two tokens have a spelling in common. -/
theorem Spelled.unique (spelled : lexeme.Spelled own) (spelled' : other.Spelled own) :
    lexeme = other := by
  rcases spelled.exists_cons with ⟨c, tail, rfl, _⟩
  have read := first_of_spelled spelled (endsBefore_nil lexeme)
  have read' := first_of_spelled spelled' (endsBefore_nil other)
  exact congrArg Prod.fst (read.symm.trans read')

theorem spelled_keyword (word : Keyword) : (Lexeme.keyword word).Spelled word.text.toList := by
  rw [<- wordLexeme_keyword word]
  exact .word (isWord_keyword word)

/-- How the text of a token and the text behind it belong to the token. -/
structure IsWritten (lexeme : Lexeme) (own behind : List Char) : Prop where
  present : own ≠ []
  verbatim : (forall value, lexeme ≠ .string value) -> own = lexeme.text.toList
  quoted : forall value, lexeme = .string value ->
    exists quote source, IsQuote quote ∧ own = quote :: (source ++ [quote]) ∧
      Items quote source value.toList
  reserved : forall word, lexeme = .keyword word <-> own = word.text.toList
  wordEnds : (exists name, lexeme = .identifier name) ∨ (exists word, lexeme = .keyword word) ->
    forall c, c ∈ behind.head? -> isNamePart c = false
  numberEnds : forall digits, lexeme = .number digits ->
    (forall c, c ∈ behind.head? -> c.isDigit = false) ∧
      ('.' ∉ digits.toList -> forall d rest, behind = '.' :: d :: rest -> d.isDigit = false)

theorem Spelled.verbatim (spelled : lexeme.Spelled own)
    (notString : forall value, lexeme ≠ .string value) : own = lexeme.text.toList := by
  cases spelled with
  | string isQuote items => exact absurd rfl (notString _)
  | number present digits digits' => exact String.toList_ofList.symm
  | @word text word =>
      rw [wordLexeme]
      cases found : Keyword.ofText? text with
      | none => rfl
      | some keyword => exact congrArg String.toList (Keyword.text_of_ofText? found).symm
  | symbol mark => rfl

theorem Spelled.quoted {value : String} (spelled : (Lexeme.string value).Spelled own) :
    exists quote source, IsQuote quote ∧ own = quote :: (source ++ [quote]) ∧
      Items quote source value.toList := by
  generalize same : Lexeme.string value = lexeme at spelled
  cases spelled with
  | string isQuote items =>
      cases same
      exact ⟨_, _, isQuote, rfl, by rwa [String.toList_ofList]⟩
  | @word text word =>
      rcases wordLexeme_cases text with ⟨_, same'⟩ | same'
      · cases same.trans same'
      · cases same.trans same'
  | _ => cases same

theorem Spelled.isWritten (spelled : lexeme.Spelled own) (ends : lexeme.EndsBefore behind) :
    lexeme.IsWritten own behind where
  present := spelled.ne_nil
  verbatim := spelled.verbatim
  quoted := by
    rintro value rfl
    exact spelled.quoted
  reserved := by
    intro word
    constructor
    · rintro rfl
      exact spelled.verbatim fun _ => Lexeme.noConfusion
    · rintro rfl
      exact spelled.unique (spelled_keyword word)
  wordEnds := by
    rintro (⟨name, rfl⟩ | ⟨word, rfl⟩)
    · exact ends
    · exact ends
  numberEnds := by
    rintro digits rfl
    exact ⟨ends.1, fun whole => (fractionPart_eq_nil_iff behind).mp (ends.2 whole)⟩

end Lexeme

/-- Whether a text is white space. -/
def AreBlank (text : List Char) : Prop :=
  forall c, c ∈ text -> Text.isBlank c = true

/-- A text cut out around a token, up to the token behind it, by the positions of the two. -/
structure LiesBetween (position : Nat) (text : List Char) (token next : Token)
    (front own blanks behind : List Char) : Prop where
  cut : text = front ++ (own ++ (blanks ++ behind))
  begins : token.position = position + front.length
  continues : next.position = position + (front ++ (own ++ blanks)).length
  blank : AreBlank blanks
  written : token.lexeme.IsWritten own (blanks ++ behind)

theorem LiesBetween.later {position : Nat} (first : List Char)
    {text front own blanks behind : List Char} {token next : Token}
    (lies : LiesBetween (position + first.length) text token next front own blanks behind) :
    LiesBetween position (first ++ text) token next (first ++ front) own blanks behind where
  cut := by rw [lies.cut, List.append_assoc]
  begins := by rw [lies.begins, List.length_append, Nat.add_assoc]
  continues := by
    rw [lies.continues, List.append_assoc, Nat.add_assoc, <- List.length_append]
  blank := lies.blank
  written := lies.written

namespace Layout

variable {position : Nat} {text : List Char} {tokens : List Token}

theorem length_le (layout : Layout position text tokens) : tokens.length ≤ text.length + 1 := by
  induction layout with
  | finished => exact Nat.le_refl 1
  | blank blank rest ih => exact Nat.le_succ_of_le ih
  | refused visible first => exact Nat.succ_le_succ (Nat.zero_le _)
  | @token position own behind lexeme tokens spelled ends rest ih =>
      have present := List.length_pos_iff.mpr spelled.ne_nil
      rw [List.length_cons, List.length_append]
      omega

/-- Tokens stand within the text. -/
theorem bounds (layout : Layout position text tokens) : forall token, token ∈ tokens ->
    position ≤ token.position ∧ token.position ≤ position + text.length := by
  induction layout with
  | finished position =>
      intro token member
      cases List.mem_singleton.mp member
      exact ⟨Nat.le_refl _, Nat.le_refl _⟩
  | blank blank rest ih =>
      intro token member
      have within := ih token member
      rw [List.length_cons]
      omega
  | refused visible first =>
      intro token member
      cases List.mem_singleton.mp member
      exact ⟨Nat.le_refl _, Nat.le_add_right _ _⟩
  | token spelled ends rest ih =>
      intro token member
      rw [List.length_append]
      rcases List.mem_cons.mp member with rfl | later
      · exact ⟨Nat.le_refl _, Nat.le_add_right _ _⟩
      · have within := ih token later
        omega

/-- Every token stands behind the token in front of it. -/
theorem increasing (layout : Layout position text tokens) :
    (tokens.map Token.position).Pairwise (· < ·) := by
  induction layout with
  | finished => exact List.pairwise_singleton _ _
  | blank blank rest ih => exact ih
  | refused visible first => exact List.pairwise_singleton _ _
  | @token position own behind lexeme tokens spelled ends rest ih =>
      have present := List.length_pos_iff.mpr spelled.ne_nil
      refine List.pairwise_cons.mpr ⟨?_, ih⟩
      intro other member
      rcases List.mem_map.mp member with ⟨token, listed, rfl⟩
      have within := rest.bounds token listed
      change position < token.position
      omega

/-- The last token and no other ends the list; the end of the input stands behind the text. -/
theorem exists_last (layout : Layout position text tokens) :
    exists body last, tokens = body ++ [last] ∧ last.lexeme.isTerminal = true ∧
      (forall token, token ∈ body -> token.lexeme.isTerminal = false) ∧
      (last.lexeme = .endOfInput -> last.position = position + text.length) := by
  induction layout with
  | finished position => exact ⟨[], _, rfl, rfl, fun _ => nofun, fun _ => rfl⟩
  | blank blank rest ih =>
      rcases ih with ⟨body, last, shape, terminal, others, ending⟩
      refine ⟨body, last, shape, terminal, others, fun same => ?_⟩
      rw [ending same, List.length_cons, Nat.add_assoc, Nat.add_comm 1]
  | refused visible first => exact ⟨[], _, rfl, rfl, fun _ => nofun, nofun⟩
  | @token position own behind lexeme tokens spelled ends rest ih =>
      rcases ih with ⟨body, last, rfl, terminal, others, ending⟩
      refine ⟨⟨lexeme, position⟩ :: body, last, rfl, terminal, ?_, fun same => ?_⟩
      · exact List.forall_mem_cons.mpr ⟨spelled.isTerminal, others⟩
      · rw [ending same, List.length_append, Nat.add_assoc]

/-- A fault stands only where no token is spelled. -/
theorem not_spelled (layout : Layout position text tokens) {token : Token}
    (member : token ∈ tokens) (invalid : token.lexeme.isInvalid = true)
    {front own behind : List Char} {lexeme : Lexeme} (cut : text = front ++ (own ++ behind))
    (begins : token.position = position + front.length) (spelled : lexeme.Spelled own) :
    ¬ lexeme.EndsBefore behind := by
  induction layout generalizing front with
  | finished position =>
      cases List.mem_singleton.mp member
      cases invalid
  | blank _ rest ih =>
      have later := (rest.bounds token member).1
      cases front with
      | nil => exact absurd (begins ▸ later) (Nat.not_succ_le_self _)
      | cons c front =>
          refine ih member (List.cons.inj cut).2 ?_
          rw [begins, List.length_cons, Nat.add_assoc, Nat.add_comm 1]
  | @refused position more c text fault visible first =>
      cases List.mem_singleton.mp member
      have none : front = [] := List.eq_nil_of_length_eq_zero (Nat.left_eq_add.mp begins)
      intro ends
      rcases spelled.exists_cons with ⟨d, tail, rfl, _⟩
      rw [none, List.nil_append, List.cons_append] at cut
      rcases List.cons.inj cut with ⟨rfl, rfl⟩
      have proper := spelled.isTerminal
      rw [first_of_spelled spelled ends] at first
      cases first
      cases proper
  | @token position taken rest lexeme' tokens spelled' _ layout ih =>
      rcases List.mem_cons.mp member with rfl | listed
      · rw [Lexeme.isInvalid_of_isTerminal spelled'.isTerminal] at invalid
        cases invalid
      · have later := (layout.bounds token listed).1
        have reached : taken.length ≤ front.length := by omega
        rcases List.append_eq_append_iff.mp cut with ⟨front', rfl, cut'⟩ | ⟨shorter, rfl, cut'⟩
        · refine ih listed cut' ?_
          rw [begins, List.length_append, Nat.add_assoc]
        · have none : shorter = [] := by
            rw [List.length_append] at reached
            exact List.eq_nil_of_length_eq_zero (by omega)
          subst none
          rw [List.append_nil] at later
          have atStart : rest = [] ++ (own ++ behind) := cut'.symm
          refine ih listed atStart ?_
          rw [begins, List.append_nil, List.length_nil, Nat.add_zero]

/-- In front of the first token there is only white space. -/
theorem exists_front (layout : Layout position text tokens) : forall first, first ∈ tokens.head? ->
    exists blanks behind, text = blanks ++ behind ∧
      first.position = position + blanks.length ∧ AreBlank blanks := by
  induction layout with
  | finished position =>
      intro first member
      cases member
      exact ⟨[], [], rfl, rfl, List.forall_mem_nil _⟩
  | @blank position c text tokens blank rest ih =>
      intro first member
      rcases ih first member with ⟨blanks, behind, rfl, begins, all⟩
      refine ⟨c :: blanks, behind, rfl, ?_, List.forall_mem_cons.mpr ⟨blank, all⟩⟩
      rw [begins, List.length_cons, Nat.add_assoc, Nat.add_comm 1]
  | refused visible first =>
      intro token member
      cases member
      exact ⟨[], _, rfl, rfl, List.forall_mem_nil _⟩
  | token spelled ends rest ih =>
      intro first member
      cases member
      exact ⟨[], _, rfl, rfl, List.forall_mem_nil _⟩

/-- Between two tokens there is the spelling of the first one and then only white space. -/
theorem exists_between (layout : Layout position text tokens) :
    forall token next, [token, next] <:+: tokens ->
      exists front own blanks behind,
        LiesBetween position text token next front own blanks behind := by
  -- on the layout, since a pair of neighbours begins at its first token or lies behind it
  induction layout with
  | finished position =>
      intro token next neighbours
      exact absurd neighbours.length_le (Nat.not_succ_le_self 1)
  | @blank position c text tokens blank rest ih =>
      intro token next neighbours
      rcases ih token next neighbours with ⟨front, own, blanks, behind, lies⟩
      exact ⟨c :: front, own, blanks, behind, LiesBetween.later [c] lies⟩
  | refused visible first =>
      intro token next neighbours
      exact absurd neighbours.length_le (Nat.not_succ_le_self 1)
  | @token position own behind lexeme tokens spelled ends rest ih =>
      intro token next neighbours
      rcases List.infix_cons_iff.mp neighbours with ⟨others, shape⟩ | later
      · rcases List.cons.inj shape with ⟨rfl, rfl⟩
        rcases rest.exists_front next rfl with ⟨blanks, behind', rfl, begins, all⟩
        refine ⟨[], own, blanks, behind', rfl, rfl, ?_, all, spelled.isWritten ends⟩
        rw [begins, List.nil_append, List.length_append, Nat.add_assoc]
      · rcases ih token next later with ⟨front, own', blanks, behind', lies⟩
        exact ⟨own ++ front, own', blanks, behind', lies.later own⟩

end Layout

/--
Nothing of a text gets lost when its tokens are read.  Their positions increase strictly, the last
one alone is the end of the input or a fault, the end of the input stands behind the last character,
and a fault only where no token is spelled.  There is only white space in front of the first token
and between the text of a token and the next token, and the text of a token spells it as far as it
can.
-/
theorem tokenize_lossless (source : String) :
    (tokenize source).length ≤ source.length + 1 ∧
    ((tokenize source).map Token.position).Pairwise (· < ·) ∧
    (exists body last, tokenize source = body ++ [last] ∧ last.lexeme.isTerminal = true ∧
      (forall token, token ∈ body -> token.lexeme.isTerminal = false) ∧
      (last.lexeme = .endOfInput -> last.position = source.length)) ∧
    (forall token, token ∈ tokenize source -> token.lexeme.isInvalid = true ->
      forall (front own behind : List Char) (lexeme : Lexeme),
        source.toList = front ++ (own ++ behind) -> token.position = front.length ->
          lexeme.Spelled own -> ¬ lexeme.EndsBefore behind) ∧
    (forall first, first ∈ (tokenize source).head? ->
      exists blanks behind, source.toList = blanks ++ behind ∧ first.position = blanks.length ∧
        AreBlank blanks) ∧
    (forall token next, [token, next] <:+: tokenize source ->
      exists front own blanks behind, source.toList = front ++ (own ++ (blanks ++ behind)) ∧
        token.position = front.length ∧ next.position = (front ++ (own ++ blanks)).length ∧
        AreBlank blanks ∧ token.lexeme.IsWritten own (blanks ++ behind)) := by
  have layout : Layout 0 source.toList (tokenize source) := layout_tokensFrom 0 source.toList
  rw [<- String.length_toList]
  refine ⟨layout.length_le, layout.increasing, ?_, ?_, ?_, ?_⟩
  · rcases layout.exists_last with ⟨body, last, shape, terminal, others, ending⟩
    refine ⟨body, last, shape, terminal, others, fun same => ?_⟩
    rw [ending same, Nat.zero_add]
  · intro token member invalid front own behind lexeme cut begins spelled
    exact layout.not_spelled member invalid cut (begins.trans (Nat.zero_add _).symm) spelled
  · intro first member
    rcases layout.exists_front first member with ⟨blanks, behind, cut, begins, all⟩
    exact ⟨blanks, behind, cut, begins.trans (Nat.zero_add _), all⟩
  · intro token next neighbours
    rcases layout.exists_between token next neighbours with ⟨front, own, blanks, behind, lies⟩
    exact ⟨front, own, blanks, behind, lies.cut, lies.begins.trans (Nat.zero_add _),
      lies.continues.trans (Nat.zero_add _), lies.blank, lies.written⟩

end Script
end ContactSearch
