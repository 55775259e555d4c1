import ContactSearch.Proofs.Contact.Injection
import ContactSearch.Proofs.Contact.SecureSearch
import ContactSearch.Proofs.Script.Truth
import ContactSearch.Proofs.Store.Selection

namespace ContactSearch
namespace Contact

/-!
# What an insecure search finds

Whatever the variant, the predicate of an insecure search is the ownership
script.  For inert texts the script compares two fields of a document with the
two texts, and the comparison is a loose one: a number or a boolean can be
equal to a text.  The comparison always has an answer, so the search succeeds.

A document that holds the two texts themselves is found in both modes.  The
modes differ only on documents in which one of the two fields holds a number
or a boolean.
-/

open Script Store

/-! ## The predicate -/

theorem assembles_script (script : String) : Assembles [(scriptKey, .string script)] where
  present := List.cons_ne_nil _ _
  keys := by
    intro entry member
    rcases List.mem_singleton.mp member with rfl
    exact (by decide : scriptKey ≠ Json.carrierKey)
  texts := by
    intro entry member
    rcases List.mem_singleton.mp member with rfl
    exact ⟨script, rfl⟩
  distinct := (by decide : [scriptKey].Nodup)

/-- Every variant but the filter puts the same query together. -/
theorem assemble_script (order : MapOrder) {variant : Variant} (notFilter : variant ≠ .filter)
    (script : String) :
    assemble order [(scriptKey, .string script)] variant =
      .ok (Query.single scriptKey (.string script)) := by
  rcases (assembles_script script).assemble order notFilter with ⟨arrangement, same, put⟩
  cases List.perm_singleton.mp same
  exact put

/-- Every variant of the insecure mode builds the ownership script. -/
theorem predicate_insecure (order : MapOrder) {variant : Variant}
    (supported : variant.supports .insecure = true) (identity term : String) :
    predicate order .insecure variant identity term =
      .ok (.script (ownershipScript identity term)) := by
  have notFilter : variant ≠ .filter := by
    rintro rfl
    cases supported
  have put := assemble_script order notFilter (ownershipScript identity term)
  simp only [predicate, supported, if_true, insecurePredicate, if_neg notFilter, assembled, put]
  rfl

theorem mem_insecure_variants_iff (variant : Variant) :
    variant ∈ Mode.insecure.variants <-> variant ≠ .filter := by
  rw [Mode.variants, List.mem_filter]
  cases variant <;> simp [Variant.mem_all, Variant.supports]

/--
Whatever the two texts are, all ten variants of the insecure mode put one and the same query
together, also the one that goes through text.  Its predicate is the script that is written around
the two texts.  Only the filter is refused.
-/
theorem insecure_variants_build_one_script (identity term : String) :
    (Mode.insecure.variants.length = 10 ∧
      forall variant, variant ∈ Mode.insecure.variants <-> variant ≠ .filter) ∧
    ownershipScript identity term =
      "this.sharedWith == \"" ++ identity ++ "\" && this.email == \"" ++ term ++ "\"" ∧
    (forall order variant, variant ∈ Mode.insecure.variants ->
      assemble order [(scriptKey, .string (ownershipScript identity term))] variant =
        .ok (Query.single scriptKey (.string (ownershipScript identity term)))) ∧
    (forall order : MapOrder,
      Query.parse
          (Json.object
            (order.arrange [(scriptKey, .string (ownershipScript identity term))])).text =
        .ok (Query.single scriptKey (.string (ownershipScript identity term)))) ∧
    (forall order variant,
      predicate order .insecure variant identity term =
        if variant ∈ Mode.insecure.variants then .ok (.script (ownershipScript identity term))
        else .error (.unsupported .insecure variant)) := by
  refine ⟨⟨by decide, mem_insecure_variants_iff⟩, ?_, ?_, ?_, ?_⟩
  · apply String.toList_inj.mp
    simp only [ownershipScript, String.toList_append, List.append_assoc]
    rfl
  · intro order variant available
    exact assemble_script order ((mem_insecure_variants_iff variant).mp available) _
  · intro order
    exact assemble_script order (by decide : Variant.parse ≠ .filter) _
  · intro order variant
    by_cases available : variant ∈ Mode.insecure.variants
    · rw [if_pos available]
      have supported : variant.supports .insecure = true := (List.mem_filter.mp available).2
      exact predicate_insecure order supported identity term
    · have isFilter : variant = .filter :=
        Decidable.not_not.mp fun other =>
          available ((mem_insecure_variants_iff variant).mpr other)
      rw [if_neg available, isFilter]
      rfl

/-! ## The search -/

theorem find_script {source : String} {expression : Expression}
    (parsed : Expression.parse source = .ok expression) (collection : Collection) :
    collection.find (.script source) =
      Collection.select (Collection.testScript expression) collection.documents := by
  rw [Collection.find, parsed]

theorem testScript_eq (expression : Expression) (document : Document) :
    Collection.testScript expression document =
      (expression.test document.toJson).mapError Store.Fault.script := by
  rw [Collection.testScript]
  cases expression.test document.toJson <;> rfl

/-- An insecure search of a collection that is there tests its documents with the script. -/
theorem search_insecure (order : MapOrder) {catalog : Catalog} {database name : String}
    {collection : Collection} (found : catalog.collection database name = .ok collection)
    {variant : Variant} (supported : variant.supports .insecure = true) {identity term : String}
    {expression : Expression}
    (parsed : Expression.parse (ownershipScript identity term) = .ok expression) :
    search order catalog database name ⟨.insecure, variant, identity, term⟩ =
      (Collection.select (Collection.testScript expression) collection.documents).mapError
        Fault.store := by
  rw [search, predicate_insecure order supported, found]
  exact congrArg (Except.mapError Fault.store) (find_script parsed collection)

/-- The order of a map makes no difference to a search, in either mode. -/
theorem search_order (order order' : MapOrder) (catalog : Catalog) (database name : String)
    (request : Request) :
    search order catalog database name request = search order' catalog database name request := by
  rcases request with ⟨mode, variant, identity, term⟩
  cases mode with
  | secure => rw [search_secure, search_secure]
  | insecure =>
      have same : predicate order .insecure variant identity term =
          predicate order' .insecure variant identity term := by
        cases supported : variant.supports .insecure with
        | true => rw [predicate_insecure order supported, predicate_insecure order' supported]
        | false =>
            rw [predicate, predicate, supported]
            rfl
      rw [search, search, same]

/-! ## Loose equality with a text -/

/-- Whether both fields of a document are loosely equal to the two texts. -/
def isLooselySought (identity term : String) (document : Document) : Bool :=
  (valueOrUndefined (document.get? ownerField)).looseEquals (.string identity) &&
    (valueOrUndefined (document.get? emailField)).looseEquals (.string term)

theorem test_ownershipTree (identity term : String) (document : Document) :
    (ownershipTree identity term).test document.toJson =
      .ok (isLooselySought identity term document) := by
  rw [ownershipTree, Tree.test_and, Document.toJson, Tree.test_equal_member,
    Tree.test_equal_member]
  exact both_ok _ _

theorem looseEquals_same_text (text : String) :
    (Value.string text).looseEquals (.string text) = true :=
  beq_self_eq_true text

/-- What is neither a number nor a boolean is loosely equal to a text only if it is the text. -/
theorem looseEquals_text_of_kind {value : Json} (notNumber : value.kind ≠ "number")
    (notBoolean : value.kind ≠ "boolean") (text : String) :
    (Value.ofJson value).looseEquals (.string text) = (value.asString? == some text) := by
  cases value with
  | null => rfl
  | bool flag => exact absurd rfl notBoolean
  | integer number => exact absurd rfl notNumber
  | double number => exact absurd rfl notNumber
  | string other =>
      change (other == text) = (some other == some text)
      rw [Bool.eq_iff_iff, beq_iff_eq, beq_iff_eq, Option.some.injEq]
  | array items => rfl
  | object entries => rfl

theorem looseEquals_field_of_kind {document : Document} {field : String}
    (unconverted : forall value, document.get? field = some value ->
      value.kind ≠ "number" ∧ value.kind ≠ "boolean") (text : String) :
    (valueOrUndefined (document.get? field)).looseEquals (.string text) =
      (document.getString? field == some text) := by
  rw [Document.getString?]
  cases held : document.get? field with
  | none => rfl
  | some value =>
      have kinds := unconverted value held
      exact looseEquals_text_of_kind kinds.1 kinds.2 text

theorem looseEquals_field_of_text {document : Document} {field text : String}
    (held : document.getString? field = some text) :
    (valueOrUndefined (document.get? field)).looseEquals (.string text) = true := by
  rw [(document.getString?_eq_some_iff field text).mp held]
  exact looseEquals_same_text text

/-- What is sought is loosely sought as well. -/
theorem isLooselySought_of_isSought {identity term : String} {document : Document}
    (sought : isSought identity term document = true) :
    isLooselySought identity term document = true := by
  rw [isSought, Bool.and_eq_true_iff, beq_iff_eq, beq_iff_eq] at sought
  rw [isLooselySought, Bool.and_eq_true_iff]
  exact ⟨looseEquals_field_of_text sought.1, looseEquals_field_of_text sought.2⟩

theorem sublist_filter_isSought (identity term : String) (documents : List Document) :
    (documents.filter (isSought identity term)).Sublist
      (documents.filter (isLooselySought identity term)) := by
  have narrowed : documents.filter (isSought identity term) =
      (documents.filter (isLooselySought identity term)).filter (isSought identity term) := by
    rw [List.filter_filter]
    apply List.filter_congr
    intro document _
    rw [Bool.eq_iff_iff, Bool.and_eq_true_iff]
    constructor
    · intro sought
      exact ⟨sought, isLooselySought_of_isSought sought⟩
    · intro pair
      exact pair.1
  rw [narrowed]
  exact List.filter_sublist

/-! ## Inert texts -/

theorem search_insecure_of_isInert (order : MapOrder) {catalog : Catalog} {database name : String}
    {collection : Collection} (found : catalog.collection database name = .ok collection)
    {variant : Variant} (supported : variant.supports .insecure = true) {identity term : String}
    (identityInert : IsInert identity) (termInert : IsInert term) :
    search order catalog database name ⟨.insecure, variant, identity, term⟩ =
      .ok (collection.documents.filter (isLooselySought identity term)) := by
  have parsed : Expression.parse (ownershipScript identity term) =
      .ok ⟨ownershipScript identity term, ownershipTree identity term⟩ := by
    rw [Expression.parse, parse_of_isInert identityInert termInert]
  have settled : forall document, document ∈ collection.documents ->
      Collection.testScript ⟨ownershipScript identity term, ownershipTree identity term⟩ document =
        .ok (isLooselySought identity term document) := by
    intro document _
    rw [testScript_eq, Expression.test_eq, test_ownershipTree]
    rfl
  rw [search_insecure order found supported parsed, Collection.select_of_settled settled]
  rfl

/--
For two texts without quotation marks and backslashes, every insecure search succeeds and finds the
documents whose two fields are loosely equal to the texts.  It finds what a secure search finds if
neither field ever holds a number or a boolean, and otherwise at least that.
-/
theorem modes_agree_on_inert_texts {catalog : Catalog} {database name : String}
    {collection : Collection} (running : catalog.running = true)
    (stored : Catalog.lookup (database, name) catalog.collections = some collection)
    {identity term : String} (identityInert : '"' ∉ identity.toList ∧ '\\' ∉ identity.toList)
    (termInert : '"' ∉ term.toList ∧ '\\' ∉ term.toList) :
    (forall order (variant : Variant), variant.supports .insecure = true ->
      search order catalog database name ⟨.insecure, variant, identity, term⟩ =
        .ok (collection.documents.filter fun document =>
          (valueOrUndefined (document.get? "sharedWith")).looseEquals (.string identity) &&
            (valueOrUndefined (document.get? "email")).looseEquals (.string term))) ∧
    ((forall document, document ∈ collection.documents ->
        forall field, field = "sharedWith" ∨ field = "email" ->
          forall value, document.get? field = some value ->
            value.kind ≠ "number" ∧ value.kind ≠ "boolean") ->
      forall order order' (variant variant' : Variant), variant.supports .insecure = true ->
        search order catalog database name ⟨.insecure, variant, identity, term⟩ =
          search order' catalog database name ⟨.secure, variant', identity, term⟩) ∧
    (forall order order' (variant variant' : Variant), variant.supports .insecure = true ->
      exists insecure secure,
        search order catalog database name ⟨.insecure, variant, identity, term⟩ = .ok insecure ∧
        search order' catalog database name ⟨.secure, variant', identity, term⟩ = .ok secure ∧
        secure.Sublist insecure) := by
  have found : catalog.collection database name = .ok collection :=
    Catalog.collection_eq_ok_iff.mpr ⟨running, stored⟩
  have insecure (order : MapOrder) {variant : Variant}
      (supported : variant.supports .insecure = true) :=
    search_insecure_of_isInert order found supported identityInert termInert
  have secure (order : MapOrder) (variant : Variant) :
      search order catalog database name ⟨.secure, variant, identity, term⟩ =
        .ok (collection.documents.filter (isSought identity term)) := by
    rw [search_secure, found]
  refine ⟨?_, ?_, ?_⟩
  · intro order variant supported
    exact insecure order supported
  · intro unconverted order order' variant variant' supported
    rw [insecure order supported, secure order' variant']
    apply congrArg Except.ok
    apply List.filter_congr
    intro document member
    have kinds := unconverted document member
    rw [isLooselySought, isSought, looseEquals_field_of_kind (kinds ownerField (Or.inl rfl)),
      looseEquals_field_of_kind (kinds emailField (Or.inr rfl))]
  · intro order order' variant variant' supported
    exact ⟨_, _, insecure order supported, secure order' variant',
      sublist_filter_isSought identity term collection.documents⟩

/-- Contacts whose owner is seven as a text, seven as a number, and absent. -/
def sevens : Collection :=
  ⟨"contacts",
    [Document.ofEntries [("sharedWith", .string "7"), ("email", .string "a@b")],
      Document.ofEntries [("email", .string "a@b"), ("sharedWith", .integer 7)],
      Document.ofEntries [("email", .string "a@b")]]⟩

/-- A store that holds nothing else. -/
def storeOfSevens : Catalog :=
  ⟨true, Directory.empty.set "test" (Directory.empty.set "contacts" sevens)⟩

theorem modes_agree_on_inert_texts_sevens :
    (storeOfSevens.running = true ∧
      Catalog.lookup ("test", "contacts") storeOfSevens.collections = some sevens ∧
      ('"' ∉ "7".toList ∧ '\\' ∉ "7".toList) ∧ ('"' ∉ "a@b".toList ∧ '\\' ∉ "a@b".toList)) ∧
    search .reversed storeOfSevens "test" "contacts" ⟨.insecure, .parse, "7", "a@b"⟩ =
      .ok (sevens.documents.take 2) := by
  have running : storeOfSevens.running = true := rfl
  have stored : Catalog.lookup ("test", "contacts") storeOfSevens.collections = some sevens := rfl
  have owner : '"' ∉ "7".toList ∧ '\\' ∉ "7".toList := by decide
  have email : '"' ∉ "a@b".toList ∧ '\\' ∉ "a@b".toList := by decide
  have agree := modes_agree_on_inert_texts running stored owner email
  have kept : sevens.documents.filter (isLooselySought "7" "a@b") = sevens.documents.take 2 := by
    rw [sevens, List.filter_cons_of_pos (by decide +kernel),
      List.filter_cons_of_pos (by decide +kernel), List.filter_cons_of_neg (by decide +kernel)]
    rfl
  refine ⟨⟨running, stored, owner, email⟩, ?_⟩
  exact (agree.1 .reversed .parse rfl).trans (congrArg Except.ok kept)

end Contact
end ContactSearch
