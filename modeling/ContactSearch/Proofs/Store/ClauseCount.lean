import ContactSearch.Proofs.Outcome
import ContactSearch.Proofs.Store.Construction
import ContactSearch.Store.Filter

namespace ContactSearch
namespace Store

/-!
# Repeated fields and the clause count

A query and a filter over the same criteria lose different things when a field
is repeated.  In a query the last value of the field overwrites the earlier
ones, so there are as many clauses as different fields.  A filter keeps a clause
for every criterion, and only the number of different fields is too small.
Either way the clause count of the predicate is refused, and it is accepted if
no field is repeated.  Then both predicates mean the criteria themselves.
-/

/-- A document meets criteria if each field that they list has a value equal to the listed one. -/
def Document.Meets (document : Document) (entries : List (String × Json)) : Prop :=
  forall entry, entry ∈ entries ->
    exists value, document.get? entry.1 = some value ∧ value.equals entry.2 = true

theorem Predicate.matchesAll_ofEntries_iff (entries : List (String × Json))
    (document : Document) :
    matchesAll (entries.map Clause.ofEntry) document = true <-> document.Meets entries := by
  rw [matchesAll, List.all_map, List.all_eq_true]
  exact forall₂_congr fun entry _ => (Clause.ofEntry entry).matches_iff document

instance (document : Document) (entries : List (String × Json)) :
    Decidable (document.Meets entries) :=
  decidable_of_iff _ (Predicate.matchesAll_ofEntries_iff entries document)

/-- The clauses of criteria select the documents that meet them. -/
theorem Collection.find_ofEntries (collection : Collection) (entries : List (String × Json)) :
    collection.find (.fields (entries.map Clause.ofEntry)) =
      .ok (collection.documents.filter fun document => document.Meets entries) :=
  find_fields_of_iff (Predicate.matchesAll_ofEntries_iff entries) collection

/-! ## The filter of criteria -/

/-- The conjunction of a comparison for each criterion. -/
def Filter.ofEntries (entries : List (String × Json)) : Filter :=
  .and (entries.map fun entry => .eq entry.1 entry.2)

theorem Filter.lower_ofEntries (entries : List (String × Json)) :
    (Filter.ofEntries entries).lower = .fields (entries.map Clause.ofEntry) := by
  rw [lower, ofEntries, clauses]
  congr 1
  induction entries with
  | nil => rfl
  | cons entry entries ih =>
      rw [List.map_cons, clausesOfAll, clauses, ih]
      rfl

/-! ## Counting -/

/-- The fields that criteria list, each once. -/
def listedFields (entries : List (String × Json)) : List String :=
  (entries.map Prod.fst).eraseDups

/-- Merging criteria loses no field. -/
theorem listedFields_mergeEntries (entries : List (String × Json)) :
    listedFields (Json.mergeEntries entries) = listedFields entries := by
  have nodup := Json.nodup_keys_mergeEntries entries
  rw [listedFields, Predicate.eraseDups_of_nodup nodup, Json.keys_mergeEntries, listedFields]

theorem length_mergeEntries (entries : List (String × Json)) :
    (Json.mergeEntries entries).length = (listedFields entries).length := by
  rw [listedFields, <- Json.keys_mergeEntries, List.length_map]

/-- A repeated field makes the different fields fewer than the criteria. -/
theorem length_listedFields_eq_iff {entries : List (String × Json)} :
    (listedFields entries).length = entries.length <-> (entries.map Prod.fst).Nodup := by
  rw [<- length_mergeEntries, Json.length_mergeEntries_eq_iff]

theorem length_listedFields_lt {entries : List (String × Json)}
    (repeated : ¬(entries.map Prod.fst).Nodup) :
    (listedFields entries).length < entries.length := by
  have fewer := (Json.mergeEntries_subperm entries).length_le
  rw [length_mergeEntries] at fewer
  exact Nat.lt_of_le_of_ne fewer (mt length_listedFields_eq_iff.mp repeated)

namespace Predicate

theorem distinctFields_ofEntries (entries : List (String × Json)) :
    distinctFields (entries.map Clause.ofEntry) = (listedFields entries).length := by
  rw [distinctFields, List.map_map]
  rfl

/-- The count refuses clauses of criteria only because a field is repeated. -/
theorem ensureClauseCount_ofEntries (entries : List (String × Json)) :
    ensureClauseCount entries.length (.fields (entries.map Clause.ofEntry)) =
      if (entries.map Prod.fst).Nodup then .ok ()
      else .error (.wrongClauses entries.length entries.length
        (listedFields entries).length) := by
  rw [ensureClauseCount, distinctFields_ofEntries, List.length_map]
  simp only [length_listedFields_eq_iff, true_and]

/-- Merged criteria have different fields, but there are too few of them. -/
theorem ensureClauseCount_merged (entries : List (String × Json)) :
    ensureClauseCount entries.length
        (.fields ((Json.mergeEntries entries).map Clause.ofEntry)) =
      if (entries.map Prod.fst).Nodup then .ok ()
      else .error (.wrongClauses entries.length (listedFields entries).length
        (listedFields entries).length) := by
  rw [ensureClauseCount, distinctFields_ofEntries, List.length_map, length_mergeEntries,
    listedFields_mergeEntries]
  simp only [length_listedFields_eq_iff, and_self]

end Predicate

/--
Overwritten criteria are always detected.  Calls that pass criteria without operators construct a
query with a predicate.  The clause count accepts as many clauses as there are criteria, for this
predicate as for the filter of the criteria, exactly if no field is repeated.  Then both find the
documents that meet the criteria.  Otherwise both are refused, the one for too few clauses and the
other for too few different fields.
-/
theorem overwritten_criteria_detected {entries : List (String × Json)} {query : Query}
    (constructed : query.Constructed entries) (plain : Query.IsPlain entries) :
    let filter := (Filter.ofEntries entries).lower
    let expected := entries.length
    let distinct := (listedFields entries).length
    exists predicate, query.lower = .ok predicate ∧
      (predicate.ensureClauseCount expected = .ok () <-> (entries.map Prod.fst).Nodup) ∧
      (filter.ensureClauseCount expected = .ok () <-> (entries.map Prod.fst).Nodup) ∧
      ((entries.map Prod.fst).Nodup -> forall collection : Collection,
        collection.find predicate =
            .ok (collection.documents.filter fun document => document.Meets entries) ∧
          collection.find filter =
            .ok (collection.documents.filter fun document => document.Meets entries)) ∧
      (¬(entries.map Prod.fst).Nodup -> distinct < expected ∧
        predicate.ensureClauseCount expected =
            .error (.wrongClauses expected distinct distinct) ∧
          filter.ensureClauseCount expected =
            .error (.wrongClauses expected expected distinct)) := by
  intro filter expected distinct
  cases constructed.eq_ofEntries
  have lowered : filter = .fields (entries.map Clause.ofEntry) := Filter.lower_ofEntries entries
  have ofFilter := Predicate.ensureClauseCount_ofEntries entries
  have ofQuery := Predicate.ensureClauseCount_merged entries
  rw [lowered]
  refine ⟨_, Query.lower_ofEntries_merged plain, ?_, ?_, ?_, ?_⟩
  · rw [ofQuery]
    exact check_eq_ok_iff
  · rw [ofFilter]
    exact check_eq_ok_iff
  · intro nodup collection
    rw [Json.mergeEntries_of_nodup nodup, and_self]
    exact collection.find_ofEntries entries
  · intro repeated
    rw [if_neg repeated] at ofQuery ofFilter
    exact ⟨length_listedFields_lt repeated, ofQuery, ofFilter⟩

/-- Two criteria on different fields. -/
def differentCriteria : List (String × Json) :=
  [("name", .string "Ada"), ("age", .integer 36)]

/-- The same criteria, the first of which is overwritten. -/
def repeatedCriteria : List (String × Json) :=
  differentCriteria ++ [("name", .string "Bob")]

theorem overwritten_criteria_detected_name :
    let different := (Query.Builder.startWith "name" (.string "Ada")).add "age" (.integer 36)
    let repeated := different.get.append "name" (.string "Bob")
    Query.Constructed differentCriteria different.get ∧ Query.IsPlain differentCriteria ∧
      Query.Constructed repeatedCriteria repeated ∧ Query.IsPlain repeatedCriteria ∧
      (exists predicate, different.get.lower = .ok predicate ∧
        predicate.ensureClauseCount 2 = .ok () ∧
        (Collection.mk "people" [.empty, .ofEntries differentCriteria]).find predicate =
          .ok [.ofEntries differentCriteria]) ∧
      (exists predicate, repeated.lower = .ok predicate ∧
        predicate.ensureClauseCount 3 = .error (.wrongClauses 3 2 2)) ∧
      (Filter.ofEntries repeatedCriteria).lower.ensureClauseCount 3 =
        .error (.wrongClauses 3 3 2) := by
  intro different repeated
  have constructed : Query.Constructed differentCriteria different.get :=
    .get (.add (.startWith "name" (.string "Ada")) "age" (.integer 36))
  have constructed' : Query.Constructed repeatedCriteria repeated :=
    constructed.append "name" (.string "Bob")
  have plain : Query.IsPlain differentCriteria := by
    rw [Query.IsPlain]
    decide +kernel
  have plain' : Query.IsPlain repeatedCriteria := by
    rw [Query.IsPlain]
    decide +kernel
  have count : (listedFields repeatedCriteria).length = 2 := by decide +kernel
  rcases overwritten_criteria_detected constructed plain with
    ⟨predicate, lowered, accepted, _, found, _⟩
  rcases overwritten_criteria_detected constructed' plain' with
    ⟨predicate', lowered', _, _, _, refused⟩
  have nodup : (differentCriteria.map Prod.fst).Nodup := by decide +kernel
  rcases refused (by decide +kernel) with ⟨_, refusedQuery, refusedFilter⟩
  rw [count] at refusedQuery refusedFilter
  have selected := (found nodup ⟨"people", [.empty, .ofEntries differentCriteria]⟩).1
  exact ⟨constructed, plain, constructed', plain',
    ⟨predicate, lowered, accepted.mpr nodup, selected⟩,
    ⟨predicate', lowered', refusedQuery⟩, refusedFilter⟩

end Store
end ContactSearch
