import ContactSearch.Contact.Seed
import ContactSearch.Proofs.Contact.InsecureSearch
import ContactSearch.Proofs.Script.Layout
import ContactSearch.Proofs.Script.Splicing

namespace ContactSearch
namespace Contact

/-!
# What an injected expression does

A search term can close the literal that it is written into, go on with an
expression of its own, and open another literal for the closing mark of the
template.  The template then says that the identity is the owner and the e-mail
address is empty, or that the expression holds, or that the empty text does.

The tokens of the script are those of the template around those of the
expression, because blanks separate them.  So its derivation is known, and with
it the outcome: the expression decides on all documents but those that the
first alternative finds.  The template has seven operators of its own, which
leaves the expression with as many as the limit allows beyond them.
-/

open Script Store

/-- A term that ends its literal and goes on with an expression. -/
def payload (source : String) : String :=
  "\" || " ++ source ++ " || \""

/-! ## The script -/

/-- What the template and the term say in front of the expression. -/
def firstAlternative (identity : String) : Derivation Level.disjunction.operand :=
  .chain (comparison ownerField identity) (.chainMore .and (comparison emailField "") .chainEnd)

/-- What they say behind the expression. -/
def lastAlternative : Derivation Level.disjunction.operand :=
  .chain
    (.chain (.plain (.access (.literal (.string "") (.string "") (.string "")) .accessEnd)) .chainEnd)
    .chainEnd

theorem test_firstAlternative (identity : String) (document : Document) :
    (firstAlternative identity).tree.test document.toJson =
      .ok (isLooselySought identity "" document) :=
  test_ownershipTree identity "" document

theorem test_lastAlternative (document : Document) :
    lastAlternative.tree.test document.toJson = .ok false :=
  rfl

theorem toList_payload (source : String) :
    (payload source).toList ++ ['"'] =
      '"' :: (" || ".toList ++ (source.toList ++ ' ' :: "|| \"\"".toList)) := by
  simp only [payload, String.toList_append, List.append_assoc]
  rfl

theorem isInert_empty : Inert '"' [] :=
  ⟨List.not_mem_nil, List.not_mem_nil⟩

theorem lexemes_empty_literal (behind : List Char) :
    lexemes ('"' :: '"' :: behind) = .string "" :: lexemes behind :=
  lexemes_of_inert isQuote_double isInert_empty behind

theorem lexemes_or (behind : List Char) :
    lexemes ("||".toList ++ behind) = .symbol .or :: lexemes behind :=
  lexemes_of_valid rfl rfl rfl

/-- The tokens of the expression stand between those of the template. -/
theorem lexemes_injected {identity source : String} (inert : IsInert identity)
    {inner : Derivation .expression}
    (tokens : lexemes source.toList = inner.yield ++ [.endOfInput]) :
    lexemes (ownershipScript identity (payload source)).toList =
      (Derivation.between (firstAlternative identity) lastAlternative inner).yield ++
        [.endOfInput] := by
  have opening : lexemes (" || ".toList ++ (source.toList ++ ' ' :: "|| \"\"".toList)) =
      .symbol .or :: lexemes (source.toList ++ ' ' :: "|| \"\"".toList) := by
    apply Eq.trans (lexemes_of_blank rfl)
    apply Eq.trans (lexemes_or (' ' :: (source.toList ++ ' ' :: "|| \"\"".toList)))
    exact congrArg (List.cons _) (lexemes_of_blank rfl)
  have closing : lexemes "|| \"\"".toList = [.symbol .or, .string "", .endOfInput] := by
    apply Eq.trans (lexemes_or " \"\"".toList)
    apply congrArg (List.cons _)
    apply Eq.trans (lexemes_of_blank rfl)
    apply Eq.trans (lexemes_empty_literal [])
    exact congrArg (List.cons _) lexemes_nil
  rw [lexemes_ownershipScript, lexemes_of_inert isQuote_double inert, lexemes_middle,
    toList_payload, lexemes_empty_literal, opening, lexemes_append_of_blank tokens rfl, closing,
    Derivation.yield_between, String.ofList_toList]
  simp [firstAlternative, lastAlternative, comparison, comparisonStart, Derivation.yield,
    Continuation.yield, Sign.symbol, Equality.symbol]

theorem operatorCount_append (front behind : List Lexeme) :
    operatorCount (front ++ behind) = operatorCount front + operatorCount behind :=
  List.countP_append

/-- The tree of the script says what its three alternatives say. -/
theorem treeParse_injected {identity source : String} (inert : IsInert identity) {tree : Tree}
    (parsed : Tree.parse source = .ok tree)
    (few : operatorCount (lexemes source.toList) ≤ 249) :
    exists whole, Tree.parse (ownershipScript identity (payload source)) = .ok whole ∧
      forall document : Document, whole.test document.toJson =
        either (.ok (isLooselySought identity "" document)) (tree.test document.toJson) := by
  rcases parse_eq_ok_iff.mp parsed with ⟨inner, tokens, rfl, shallow, _⟩
  refine ⟨_, parse_eq_ok_iff.mpr
    ⟨Derivation.between (firstAlternative identity) lastAlternative inner,
      lexemes_injected inert tokens, rfl, ?_, ?_⟩, ?_⟩
  · have front : (firstAlternative identity).depth = 0 := rfl
    have back : lastAlternative.depth = 0 := rfl
    have limit : maxDepth = 200 := rfl
    rw [Derivation.depth_between, front, back]
    omega
  · have front : operatorCount (firstAlternative identity).yield = 5 := rfl
    have back : operatorCount (.symbol .or :: lastAlternative.yield) = 1 := rfl
    have sign : operatorCount [.symbol .or] = 1 := rfl
    have finish : operatorCount [.endOfInput] = 0 := rfl
    have limit : maxOperators = 256 := rfl
    rw [tokens, operatorCount_append, finish] at few
    rw [Derivation.yield_between, ← List.singleton_append, operatorCount_append,
      operatorCount_append, operatorCount_append, front, back, sign, limit]
    omega
  · intro document
    rw [Derivation.test_tree_between, test_firstAlternative, test_lastAlternative, either_false]

/-! ## The outcome for a document -/

/-- A script that asks an expression wherever the first alternative is false. -/
def Injects (identity : String) (expression whole : Expression) : Prop :=
  forall document : Document, whole.test document.toJson =
    either (.ok (isLooselySought identity "" document)) (expression.test document.toJson)

theorem parse_injected {identity source : String} (inert : IsInert identity)
    {expression : Expression} (parsed : Expression.parse source = .ok expression)
    (few : operatorCount (lexemes source.toList) ≤ 249) :
    exists whole, Expression.parse (ownershipScript identity (payload source)) = .ok whole ∧
      Injects identity expression whole := by
  have read := (Expression.parse_eq_ok_iff.mp parsed).2
  rcases treeParse_injected inert read few with ⟨whole, readWhole, splits⟩
  refine ⟨⟨_, whole⟩, Expression.parse_eq_ok_iff.mpr ⟨rfl, readWhole⟩, ?_⟩
  intro document
  rw [Expression.test_eq, Expression.test_eq, splits, mapError_either]
  rfl

namespace Injects

variable {identity : String} {expression whole : Expression} {document : Document}

theorem fails_iff (injects : Injects identity expression whole) {fault : Store.Fault} :
    Collection.testScript whole document = .error fault <->
      isLooselySought identity "" document = false ∧
        exists scriptFault, expression.test document.toJson = .error scriptFault ∧
          fault = .script scriptFault := by
  rw [testScript_eq, mapError_eq_error_iff, injects document]
  constructor
  · rintro ⟨scriptFault, fails, rfl⟩
    rcases either_eq_error_iff.mp fails with ⟨unsought, fails⟩
    exact ⟨unsought, scriptFault, fails, rfl⟩
  · rintro ⟨unsought, scriptFault, fails, rfl⟩
    exact ⟨scriptFault, either_eq_error_iff.mpr ⟨unsought, fails⟩, rfl⟩

theorem answers_iff (injects : Injects identity expression whole) :
    (exists passed, Collection.testScript whole document = .ok passed) <->
      isLooselySought identity "" document = true ∨
        exists passed, expression.test document.toJson = .ok passed := by
  simp only [testScript_eq, mapError_eq_ok_iff, injects document]
  cases isLooselySought identity "" document with
  | true => exact ⟨fun _ => Or.inl rfl, fun _ => ⟨true, rfl⟩⟩
  | false => exact ⟨Or.inr, fun answers => answers.resolve_left Bool.false_ne_true⟩

theorem passes_eq (injects : Injects identity expression whole) :
    Collection.passes (Collection.testScript whole) document =
      (isLooselySought identity "" document ||
        (expression.test document.toJson).toOption == some true) := by
  rw [Collection.passes, testScript_eq, injects document]
  cases isLooselySought identity "" document with
  | true => rfl
  | false =>
      rcases expression.test document.toJson with fault | passed
      · rfl
      · cases passed <;> rfl

end Injects

/-! ## The search -/

/--
An injected expression decides which documents an insecure search finds, except for those of the
identity with an empty e-mail address, which are found anyhow.  The search fails exactly if the
expression fails on another document, namely with what it fails with on the first of these.  An
expression that holds everywhere finds all documents, whomever they are shared with.
-/
theorem injected_expression_decides {catalog : Catalog} {database name : String}
    {collection : Collection} (running : catalog.running = true)
    (stored : Catalog.lookup (database, name) catalog.collections = some collection)
    {identity source : String} (identityInert : '"' ∉ identity.toList ∧ '\\' ∉ identity.toList)
    {expression : Expression} (parsed : Expression.parse source = .ok expression)
    (few : operatorCount (lexemes source.toList) ≤ 249) (order : MapOrder) {variant : Variant}
    (supported : variant.supports .insecure = true) :
    (forall fault,
      search order catalog database name
          ⟨.insecure, variant, identity, "\" || " ++ source ++ " || \""⟩ = .error fault <->
        exists before document after scriptFault,
          collection.documents = before ++ document :: after ∧
          (forall earlier, earlier ∈ before ->
            isLooselySought identity "" earlier = true ∨
              exists passed, expression.test earlier.toJson = .ok passed) ∧
          isLooselySought identity "" document = false ∧
          expression.test document.toJson = .error scriptFault ∧
          fault = .store (.script scriptFault)) ∧
    ((exists fault,
      search order catalog database name
          ⟨.insecure, variant, identity, "\" || " ++ source ++ " || \""⟩ = .error fault) <->
        exists document, document ∈ collection.documents ∧
          isLooselySought identity "" document = false ∧
          exists scriptFault, expression.test document.toJson = .error scriptFault) ∧
    (forall found,
      search order catalog database name
          ⟨.insecure, variant, identity, "\" || " ++ source ++ " || \""⟩ = .ok found ->
        found = collection.documents.filter fun document =>
          isLooselySought identity "" document ||
            (expression.test document.toJson).toOption == some true) ∧
    ((forall document, document ∈ collection.documents ->
        expression.test document.toJson = .ok true) ->
      search order catalog database name
          ⟨.insecure, variant, identity, "\" || " ++ source ++ " || \""⟩ =
        .ok collection.documents) := by
  have found : catalog.collection database name = .ok collection :=
    Catalog.collection_eq_ok_iff.mpr ⟨running, stored⟩
  rcases parse_injected identityInert parsed few with ⟨whole, readWhole, injects⟩
  have searched : search order catalog database name
      ⟨.insecure, variant, identity, "\" || " ++ source ++ " || \""⟩ =
        (Collection.select (Collection.testScript whole) collection.documents).mapError
          Fault.store :=
    search_insecure order found supported readWhole
  rw [searched]
  have first : forall fault,
      (Collection.select (Collection.testScript whole) collection.documents).mapError
          Fault.store = .error fault <->
        exists before document after scriptFault,
          collection.documents = before ++ document :: after ∧
          (forall earlier, earlier ∈ before ->
            isLooselySought identity "" earlier = true ∨
              exists passed, expression.test earlier.toJson = .ok passed) ∧
          isLooselySought identity "" document = false ∧
          expression.test document.toJson = .error scriptFault ∧
          fault = .store (.script scriptFault) := by
    intro fault
    simp only [mapError_eq_error_iff, Collection.select_eq_error_iff, injects.answers_iff,
      injects.fails_iff]
    constructor
    · rintro ⟨_, ⟨before, document, after, shape, answered, unsought, scriptFault, fails, rfl⟩, rfl⟩
      exact ⟨before, document, after, scriptFault, shape, answered, unsought, fails, rfl⟩
    · rintro ⟨before, document, after, scriptFault, shape, answered, unsought, fails, rfl⟩
      exact ⟨_, ⟨before, document, after, shape, answered, unsought, scriptFault, fails, rfl⟩, rfl⟩
  refine ⟨first, ?_, ?_, ?_⟩
  · constructor
    · rintro ⟨fault, fails⟩
      rcases (first fault).mp fails with
        ⟨before, document, after, scriptFault, shape, _, unsought, fails, _⟩
      refine ⟨document, ?_, unsought, scriptFault, fails⟩
      rw [shape]
      exact List.mem_append_right before List.mem_cons_self
    · rintro ⟨document, member, unsought, scriptFault, fails⟩
      cases selected : Collection.select (Collection.testScript whole) collection.documents with
      | error fault => exact ⟨.store fault, rfl⟩
      | ok kept =>
          -- a selection that succeeds has an answer for this document too
          rcases Collection.answered_of_select selected document member with ⟨passed, answer⟩
          have fault := injects.fails_iff.mpr ⟨unsought, scriptFault, fails, rfl⟩
          cases answer.symm.trans fault
  · intro kept succeeded
    have selected := mapError_eq_ok_iff.mp succeeded
    rw [(Collection.select_eq_ok_iff.mp selected).2]
    apply List.filter_congr
    intro document _
    exact injects.passes_eq
  · intro everywhere
    have settled : forall document, document ∈ collection.documents ->
        Collection.testScript whole document = .ok true := by
      intro document member
      rw [testScript_eq, injects document, everywhere document member]
      cases isLooselySought identity "" document <;> rfl
    rw [Collection.select_of_settled settled, List.filter_eq_self.mpr fun _ _ => rfl]
    rfl

/-- A store with the seeded contacts. -/
def seededStore : Catalog :=
  ⟨true, Directory.empty.set seedDatabase
    (Directory.empty.set seedCollection ⟨seedCollection, seedDocuments⟩)⟩

/-- The first seeded contact, as its owner would look for it. -/
def ownSearch : String :=
  ownershipScript "user1" "contact1@private.info"

theorem parse_ownSearch : Expression.parse ownSearch =
    .ok ⟨ownSearch, ownershipTree "user1" "contact1@private.info"⟩ := by
  apply Expression.parse_eq_ok_iff.mpr
  exact ⟨rfl, parse_of_isInert ⟨by decide, by decide⟩ ⟨by decide, by decide⟩⟩

theorem operatorCount_ownSearch : operatorCount (lexemes ownSearch.toList) = 5 := by
  rw [ownSearch, lexemes_of_isInert ⟨by decide, by decide⟩ ⟨by decide, by decide⟩]
  rfl

/-- The second user finds the contact of the first one. -/
theorem injected_expression_decides_ownSearch :
    (Catalog.lookup (seedDatabase, seedCollection) seededStore.collections =
        some ⟨seedCollection, seedDocuments⟩ ∧
      ('"' ∉ "user2".toList ∧ '\\' ∉ "user2".toList) ∧
      Expression.parse ownSearch =
        .ok ⟨ownSearch, ownershipTree "user1" "contact1@private.info"⟩ ∧
      operatorCount (lexemes ownSearch.toList) ≤ 249) ∧
    search .asWritten seededStore seedDatabase seedCollection
        ⟨.insecure, .builderMap, "user2", "\" || " ++ ownSearch ++ " || \""⟩ =
      .ok (seedDocuments.take 1) := by
  have stored : Catalog.lookup (seedDatabase, seedCollection) seededStore.collections =
      some ⟨seedCollection, seedDocuments⟩ := rfl
  have inert : '"' ∉ "user2".toList ∧ '\\' ∉ "user2".toList := by decide
  have few : operatorCount (lexemes ownSearch.toList) ≤ 249 := by
    rw [operatorCount_ownSearch]
    decide
  refine ⟨⟨stored, inert, parse_ownSearch, few⟩, ?_⟩
  rcases injected_expression_decides rfl stored inert parse_ownSearch few .asWritten
    (show Variant.builderMap.supports .insecure = true from rfl) with ⟨_, fails, selects, _⟩
  cases searched : search .asWritten seededStore seedDatabase seedCollection
      ⟨.insecure, .builderMap, "user2", "\" || " ++ ownSearch ++ " || \""⟩ with
  | error fault =>
      -- the comparison of two fields with two texts never fails
      rcases fails.mp ⟨fault, searched⟩ with ⟨document, _, _, scriptFault, refused⟩
      rw [Expression.test_eq, test_ownershipTree] at refused
      cases refused
  | ok found =>
      rw [selects found searched]
      apply congrArg Except.ok
      rw [seedDocuments, List.filter_cons_of_pos (by decide +kernel),
        List.filter_cons_of_neg (by decide +kernel), List.filter_cons_of_neg (by decide +kernel)]
      rfl

end Contact
end ContactSearch
