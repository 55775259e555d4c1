import ContactSearch.Contact.Criteria
import ContactSearch.Proofs.Script.Marks
import ContactSearch.Proofs.Script.Parsing
import ContactSearch.Proofs.Script.Quotation

namespace ContactSearch
namespace Contact

/-!
# What can be injected into the ownership script

The script of the insecure mode is meant to compare two fields with two texts.
It says that exactly when both texts are inert, that is, without quotation
marks and backslashes.

For inert texts the tokens of the script are known, so its derivation can be
written down.  For the converse only the string literals are looked at: those
of a tree are those of its tokens, so the first literal of the script has to be
the first text.  It is followed by template text that does not end with a
backslash, which is why the first text is inert.  The second text is followed
by nothing but its closing mark.
-/

open Script

/-- A text without quotation marks and backslashes. -/
def IsInert (text : String) : Prop :=
  '"' ∉ text.toList ∧ '\\' ∉ text.toList

/-- The tree that the ownership script is meant to have. -/
def ownershipTree (identity term : String) : Tree :=
  .and (.equality .equal (.member .this ownerField) (.literal (.string identity)))
    (.equality .equal (.member .this emailField) (.literal (.string term)))

/-! ## The tokens of the template -/

/-- A text that is read as one name when a blank follows. -/
def IsName (field : String) : Prop :=
  forall behind, lexemes (field.toList ++ ' ' :: behind) =
    .identifier field :: lexemes (' ' :: behind)

theorem isName_ownerField : IsName ownerField :=
  fun _ => lexemes_of_valid rfl rfl rfl

theorem isName_emailField : IsName emailField :=
  fun _ => lexemes_of_valid rfl rfl rfl

/-- The tokens in front of the literal that a field of the document is compared with. -/
def comparisonStart (field : String) : List Lexeme :=
  [.keyword .this, .symbol .dot, .identifier field, .symbol .equal]

theorem lexemes_comparison {field : String} (name : IsName field) (behind : List Char) :
    lexemes ("this.".toList ++ (field.toList ++ (" == \"".toList ++ behind))) =
      comparisonStart field ++ lexemes ('"' :: behind) := by
  have this (rest : List Char) :
      lexemes ("this.".toList ++ rest) = .keyword .this :: lexemes ('.' :: rest) :=
    lexemes_of_valid rfl rfl rfl
  have dot (rest : List Char) : lexemes ('.' :: rest) = .symbol .dot :: lexemes rest :=
    lexemes_of_valid rfl rfl rfl
  have equal : lexemes (" == \"".toList ++ behind) = .symbol .equal :: lexemes ('"' :: behind) := by
    apply Eq.trans (lexemes_of_blank rfl)
    apply Eq.trans (lexemes_of_valid rfl rfl rfl)
    exact congrArg (List.cons _) (lexemes_of_blank rfl)
  rw [this, dot]
  apply congrArg (fun lexemes => Lexeme.keyword .this :: .symbol .dot :: lexemes)
  apply Eq.trans (name ("== \"".toList ++ behind))
  exact congrArg (List.cons _) equal

/-- The script behind the first text, up to the literal that the second text begins. -/
def middle : List Char :=
  " && this.email == ".toList

theorem lexemes_middle (behind : List Char) :
    lexemes (middle ++ '"' :: behind) =
      .symbol .and :: comparisonStart emailField ++ lexemes ('"' :: behind) := by
  apply Eq.trans (lexemes_of_blank rfl)
  apply Eq.trans (lexemes_of_valid rfl rfl rfl)
  apply congrArg (List.cons _)
  apply Eq.trans (lexemes_of_blank rfl)
  exact lexemes_comparison isName_emailField behind

/-- The characters of the script: both texts stand between quotation marks. -/
theorem toList_ownershipScript (identity term : String) :
    (ownershipScript identity term).toList =
      "this.".toList ++ (ownerField.toList ++ (" == \"".toList ++
        (identity.toList ++ '"' :: (middle ++ '"' :: (term.toList ++ ['"']))))) := by
  simp only [ownershipScript, String.toList_append, List.append_assoc]
  rfl

theorem lexemes_ownershipScript (identity term : String) :
    lexemes (ownershipScript identity term).toList =
      comparisonStart ownerField ++
        lexemes ('"' :: (identity.toList ++ '"' :: (middle ++ '"' :: (term.toList ++ ['"'])))) := by
  rw [toList_ownershipScript]
  exact lexemes_comparison isName_ownerField _

/-! ## Inert texts -/

/-- The derivation of one comparison. -/
def comparison (field value : String) : Derivation (.chain .equality) :=
  .chain (.plain (.access .this (.member field .accessEnd)))
    (.chainMore (.equality .equal)
      (.plain (.access (.literal (.string value) (.string value) (.string value)) .accessEnd))
      .chainEnd)

/-- The derivation that the ownership script is meant to have. -/
def ownership (identity term : String) : Derivation .expression :=
  .expression
    (.chain
      (.chain (comparison ownerField identity)
        (.chainMore .and (comparison emailField term) .chainEnd))
      .chainEnd)

theorem tree_ownership (identity term : String) :
    (ownership identity term).tree = ownershipTree identity term :=
  rfl

theorem yield_ownership (identity term : String) :
    (ownership identity term).yield =
      comparisonStart ownerField ++ .string identity ::
        (.symbol .and :: comparisonStart emailField ++ [.string term]) :=
  rfl

theorem isQuote_double : IsQuote '"' :=
  Or.inl rfl

theorem lexemes_of_isInert {identity term : String} (identityInert : IsInert identity)
    (termInert : IsInert term) :
    lexemes (ownershipScript identity term).toList =
      (ownership identity term).yield ++ [.endOfInput] := by
  rw [lexemes_ownershipScript, lexemes_of_inert isQuote_double identityInert, lexemes_middle,
    lexemes_of_inert isQuote_double termInert, lexemes_nil, String.ofList_toList,
    String.ofList_toList, yield_ownership]
  rfl

theorem parse_of_isInert {identity term : String} (identityInert : IsInert identity)
    (termInert : IsInert term) :
    Tree.parse (ownershipScript identity term) = .ok (ownershipTree identity term) := by
  apply parse_eq_ok_iff.mpr
  refine ⟨ownership identity term, lexemes_of_isInert identityInert termInert,
    tree_ownership identity term, ?_, ?_⟩
  · exact (by decide : 1 ≤ maxDepth)
  · exact (by decide : 5 ≤ maxOperators)

/-! ## All other texts -/

theorem strings_of_parse {identity term : String}
    (parsed : Tree.parse (ownershipScript identity term) = .ok (ownershipTree identity term)) :
    (lexemes (ownershipScript identity term).toList).filterMap Lexeme.string? =
      [identity, term] := by
  rcases parse_eq_ok_iff.mp parsed with ⟨derivation, shape, same, _, _⟩
  rw [shape, List.filterMap_append, ← derivation.strings_tree, same]
  rfl

/-- What is read behind the first text does not end with a backslash. -/
theorem getLast?_of_readString_middle {behind value : List Char} {taken : Nat}
    (read : readString '"' (middle ++ '"' :: behind) = .ok (value, taken)) :
    value.getLast? ≠ some '\\' := by
  have inert : Inert '"' middle := ⟨by decide, by decide⟩
  rw [inert.items.read isQuote_double behind] at read
  cases read
  decide

theorem isInert_of_parse {identity term : String}
    (parsed : Tree.parse (ownershipScript identity term) = .ok (ownershipTree identity term)) :
    IsInert identity ∧ IsInert term := by
  have strings := strings_of_parse parsed
  rw [lexemes_ownershipScript, List.filterMap_append] at strings
  change (lexemes ('"' :: _)).filterMap Lexeme.string? = _ at strings
  have first : (lexemes ('"' :: (identity.toList ++ '"' ::
      (middle ++ '"' :: (term.toList ++ ['"']))))).filterMap Lexeme.string? =
        String.ofList identity.toList :: [term] := by
    rw [String.ofList_toList]
    exact strings
  have identityInert : IsInert identity :=
    inert_of_lexemes isQuote_double first getLast?_of_readString_middle
  refine ⟨identityInert, ?_⟩
  rw [lexemes_of_inert isQuote_double identityInert, lexemes_middle] at strings
  have second : (lexemes ('"' :: (term.toList ++ ['"']))).filterMap Lexeme.string? =
      String.ofList term.toList :: [] := by
    rw [String.ofList_toList]
    exact (List.cons.inj strings).2
  apply inert_of_lexemes isQuote_double second
  intro value taken read
  rw [readString] at read
  cases read

/--
The ownership script has the tree that it is meant to have exactly when neither text has a
quotation mark or a backslash.  Otherwise it is rejected, or says something else.
-/
theorem ownershipScript_read_as_intended (identity term : String) :
    (Tree.parse (ownershipScript identity term) = .ok (ownershipTree identity term) <->
      IsInert identity ∧ IsInert term) ∧
    (¬ (IsInert identity ∧ IsInert term) ->
      (exists fault, Tree.parse (ownershipScript identity term) = .error fault) ∨
      exists tree, Tree.parse (ownershipScript identity term) = .ok tree ∧
        tree ≠ ownershipTree identity term) := by
  have intended : Tree.parse (ownershipScript identity term) = .ok (ownershipTree identity term) <->
      IsInert identity ∧ IsInert term :=
    ⟨isInert_of_parse, fun inert => parse_of_isInert inert.1 inert.2⟩
  refine ⟨intended, ?_⟩
  intro notInert
  cases parsed : Tree.parse (ownershipScript identity term) with
  | error fault => exact Or.inl ⟨fault, rfl⟩
  | ok tree =>
      refine Or.inr ⟨tree, rfl, ?_⟩
      intro same
      exact notInert (intended.mp (parsed.trans (congrArg Except.ok same)))

end Contact
end ContactSearch
