import ContactSearch.Contact.Search
import ContactSearch.Proofs.Contact.Construction
import ContactSearch.Proofs.Store.Catalog

namespace ContactSearch
namespace Contact

/-!
# What a secure search finds

Whatever the variant, and in whatever order a map hands out its entries, the
predicate of a secure search consists of the same two clauses.  So all secure
searches find the documents whose two fields hold the two texts, in the order
of the collection, and they fail only if there is no collection to search.
-/

open Store

/-! ## The predicate -/

theorem assembles_secureEntries (identity term : String) :
    Assembles (secureEntries identity term) where
  present := List.cons_ne_nil _ _
  keys := by
    intro entry member
    rcases List.mem_cons.mp member with rfl | member
    · exact (by decide : ownerField ≠ Json.carrierKey)
    · rcases List.mem_singleton.mp member with rfl
      exact (by decide : emailField ≠ Json.carrierKey)
  texts := by
    intro entry member
    rcases List.mem_cons.mp member with rfl | member
    · exact ⟨identity, rfl⟩
    · rcases List.mem_singleton.mp member with rfl
      exact ⟨term, rfl⟩
  distinct := (by decide : [ownerField, emailField].Nodup)

theorem isPlain_secureEntries (identity term : String) :
    Query.IsPlain (secureEntries identity term) := by
  intro entry member
  rcases List.mem_cons.mp member with rfl | member
  · exact ⟨(by decide : Query.isOperator ownerField = false), rfl⟩
  · rcases List.mem_singleton.mp member with rfl
    exact ⟨(by decide : Query.isOperator emailField = false), rfl⟩

theorem securePredicate_eq (order : MapOrder) (variant : Variant) (identity term : String) :
    exists arrangement : List (String × Json),
      arrangement.Perm (secureEntries identity term) ∧
      securePredicate order variant identity term =
        .ok (.fields (arrangement.map Clause.ofEntry)) := by
  by_cases isFilter : variant = .filter
  · subst isFilter
    exact ⟨secureEntries identity term, List.Perm.refl _, rfl⟩
  · rcases (assembles_secureEntries identity term).assembled
      (isPlain_secureEntries identity term) order isFilter with ⟨arrangement, same, put⟩
    refine ⟨arrangement, same, ?_⟩
    rw [securePredicate, if_neg isFilter, put]

/-- Two clauses on different fields pass the count. -/
theorem ensureClauseCount_secure {arrangement : List (String × Json)} {identity term : String}
    (same : arrangement.Perm (secureEntries identity term)) :
    Predicate.ensureClauseCount secureClauses (.fields (arrangement.map Clause.ofEntry)) =
      .ok () := by
  have length : (arrangement.map Clause.ofEntry).length = secureClauses := by
    rw [List.length_map, same.length_eq]
    rfl
  have fields : (arrangement.map Clause.ofEntry).map Clause.field = arrangement.map Prod.fst :=
    List.map_map
  rw [← length]
  apply Predicate.ensureClauseCount_of_nodup
  rw [fields]
  exact ((assembles_secureEntries identity term).of_perm same).distinct

/-- Whether both fields of a document hold the two texts. -/
def isSought (identity term : String) (document : Document) : Bool :=
  document.getString? ownerField == some identity && document.getString? emailField == some term

theorem matches_ofEntry (field text : String) (document : Document) :
    (Clause.ofEntry (field, .string text)).matches document =
      (document.getString? field == some text) := by
  rw [Bool.eq_iff_iff, beq_iff_eq, document.getString?_eq_some_iff]
  exact Clause.matches_string_iff field text document

theorem matchesAll_secure {arrangement : List (String × Json)} {identity term : String}
    (same : arrangement.Perm (secureEntries identity term)) :
    Predicate.matchesAll (arrangement.map Clause.ofEntry) = isSought identity term := by
  funext document
  rw [Predicate.matchesAll_of_perm (same.map Clause.ofEntry)]
  simp only [secureEntries, List.map_cons, List.map_nil, Predicate.matchesAll, List.all_cons,
    List.all_nil, Bool.and_true, matches_ofEntry, isSought]

theorem predicate_secure (order : MapOrder) (variant : Variant) (identity term : String) :
    exists clauses : List Clause,
      predicate order .secure variant identity term = .ok (.fields clauses) ∧
      Predicate.matchesAll clauses = isSought identity term := by
  rcases securePredicate_eq order variant identity term with ⟨arrangement, same, built⟩
  have supported : variant.supports .secure = true := by cases variant <;> rfl
  refine ⟨arrangement.map Clause.ofEntry, ?_, matchesAll_secure same⟩
  simp only [predicate, supported, if_true, built, ensureClauseCount_secure same]

/-! ## The search -/

/-- A secure search keeps the sought documents of the collection. -/
theorem search_secure (order : MapOrder) (catalog : Catalog) (database name : String)
    (variant : Variant) (identity term : String) :
    search order catalog database name ⟨.secure, variant, identity, term⟩ =
      match catalog.collection database name with
      | .error fault => .error (.store fault)
      | .ok collection => .ok (collection.documents.filter (isSought identity term)) := by
  rcases predicate_secure order variant identity term with ⟨clauses, built, meaning⟩
  rw [search, built]
  cases catalog.collection database name with
  | error fault => rfl
  | ok collection =>
      exact congrArg (fun test => Except.ok (collection.documents.filter test)) meaning

/--
A secure search succeeds exactly when the store is running and has the collection, and finds the
documents whose two fields are the two texts.  It fails for no other reason, its clauses are
always counted in full, and neither the variant nor the order of a map makes a difference.
-/
theorem secure_search_finds_exactly (catalog : Catalog) (database name identity term : String) :
    (forall order variant documents,
      search order catalog database name ⟨.secure, variant, identity, term⟩ = .ok documents <->
        catalog.running = true ∧ exists collection,
          Catalog.lookup (database, name) catalog.collections = some collection ∧
          documents = collection.documents.filter fun document =>
            document.getString? ownerField == some identity &&
              document.getString? emailField == some term) ∧
    (forall order variant fault,
      search order catalog database name ⟨.secure, variant, identity, term⟩ = .error fault ->
        fault = .store .notRunning ∨ fault = .store (.collectionNotFound database name)) ∧
    (forall order variant, exists predicate,
      securePredicate order variant identity term = .ok predicate ∧
        predicate.ensureClauseCount 2 = .ok ()) ∧
    (forall entries, entries.Perm (secureEntries identity term) ->
      exists order : MapOrder, order.arrange (secureEntries identity term) = entries) ∧
    (forall order order' variant variant',
      search order catalog database name ⟨.secure, variant, identity, term⟩ =
        search order' catalog database name ⟨.secure, variant', identity, term⟩) := by
  refine ⟨?_, ?_, ?_, ?_, ?_⟩
  · intro order variant documents
    rw [search_secure]
    constructor
    · intro succeeded
      cases found : catalog.collection database name with
      | error fault =>
          rw [found] at succeeded
          cases succeeded
      | ok collection =>
          rw [found] at succeeded
          cases succeeded
          rcases Catalog.collection_eq_ok_iff.mp found with ⟨running, stored⟩
          exact ⟨running, collection, stored, rfl⟩
    · rintro ⟨running, collection, stored, rfl⟩
      rw [Catalog.collection_eq_ok_iff.mpr ⟨running, stored⟩]
      rfl
  · intro order variant fault refused
    rw [search_secure] at refused
    cases found : catalog.collection database name with
    | ok collection =>
        rw [found] at refused
        cases refused
    | error storeFault =>
        rw [found] at refused
        cases refused
        rcases Catalog.collection_eq_error found with rfl | rfl
        · exact Or.inl rfl
        · exact Or.inr rfl
  · intro order variant
    rcases securePredicate_eq order variant identity term with ⟨arrangement, same, built⟩
    exact ⟨_, built, ensureClauseCount_secure same⟩
  · intro entries shuffled
    exact MapOrder.exists_arrange_eq shuffled
  · intro order order' variant variant'
    rw [search_secure, search_secure]

/-- Contacts with one address, of two users and of none; once the address is within an array. -/
def neighbours : Collection :=
  ⟨"contacts",
    [Document.ofEntries [("sharedWith", .string "u1"), ("email", .string "a@b")],
      Document.ofEntries [("email", .string "a@b"), ("sharedWith", .string "u2")],
      Document.ofEntries [("email", .array [.string "a@b"]), ("sharedWith", .string "u1")],
      Document.ofEntries [("email", .string "a@b")],
      Document.ofEntries [("phone", .string "a@b"), ("email", .string "a@b"),
        ("sharedWith", .string "u1")]]⟩

/-- A store that holds nothing else. -/
def storeOfNeighbours : Catalog :=
  ⟨true, Directory.empty.set "test" (Directory.empty.set "contacts" neighbours)⟩

/-- The first and the last contact are found while the store runs, and nothing is afterwards. -/
theorem secure_search_finds_exactly_neighbours :
    search .reversed storeOfNeighbours "test" "contacts" ⟨.secure, .parse, "u1", "a@b"⟩ =
        .ok [Document.ofEntries [("sharedWith", .string "u1"), ("email", .string "a@b")],
          Document.ofEntries [("phone", .string "a@b"), ("email", .string "a@b"),
            ("sharedWith", .string "u1")]] ∧
      search .reversed storeOfNeighbours "test" "others" ⟨.secure, .parse, "u1", "a@b"⟩ =
        .error (.store (.collectionNotFound "test" "others")) ∧
      forall documents, search .reversed storeOfNeighbours.stop "test" "contacts"
        ⟨.secure, .parse, "u1", "a@b"⟩ ≠ .ok documents := by
  have found_iff (catalog : Catalog) :=
    (secure_search_finds_exactly catalog "test" "contacts" "u1" "a@b").1 .reversed .parse
  refine ⟨?_, ?_, ?_⟩
  · -- three contacts miss one of the texts, each in another way
    exact (found_iff storeOfNeighbours _).mpr ⟨rfl, neighbours, rfl, rfl⟩
  · rw [search_secure]
    rfl
  · intro documents found
    rcases (found_iff storeOfNeighbours.stop documents).mp found with ⟨running, _⟩
    cases running

end Contact
end ContactSearch
