import ContactSearch.Proofs.Json.Entries
import ContactSearch.Proofs.Json.Quoting
import ContactSearch.Proofs.Outcome
import ContactSearch.Store.Collection
import ContactSearch.Store.Query

namespace ContactSearch

/-!
# Queries over plain criteria

Criteria are plain when neither their keys nor their values look like
operators.  A query over plain criteria on different fields has one clause for
each of them, in the same order, and the clause count confirms this.

A clause with a text as its value holds exactly for the documents whose field
is that text.  The conjunction does not depend on the order of its clauses.
-/

namespace Json

theorem lookup_of_not_mem {key : String} {entries : List (String × Json)}
    (absent : key ∉ entries.map Prod.fst) : lookup key entries = none := by
  induction entries with
  | nil => rfl
  | cons entry entries ih =>
      rcases entry with ⟨name, value⟩
      have different : name ≠ key := fun same => absent (same ▸ List.mem_cons_self)
      rw [lookup, if_neg different]
      exact ih fun member => absent (List.mem_cons_of_mem name member)

/-- Only a text equals a text. -/
theorem equals_string_iff (value : Json) (text : String) :
    value.equals (.string text) = true <-> value = .string text := by
  cases value with
  | string other =>
      rw [equals, beq_iff_eq, Json.string.injEq]
  | _ => simp [equals]

end Json

namespace Store

/-! ## Clauses -/

/-- The clause that compares a field with a value. -/
def Clause.ofEntry (entry : String × Json) : Clause :=
  ⟨entry.1, entry.2⟩

theorem Clause.matches_iff (clause : Clause) (document : Document) :
    clause.matches document = true <->
      exists value, document.get? clause.field = some value ∧
        value.equals clause.value = true := by
  rw [Clause.matches]
  cases document.get? clause.field with
  | none =>
      constructor
      · intro impossible
        cases impossible
      · rintro ⟨value, impossible, _⟩
        cases impossible
  | some value =>
      constructor
      · intro equal
        exact ⟨value, rfl, equal⟩
      · rintro ⟨other, same, equal⟩
        cases same
        exact equal

theorem Clause.matches_string_iff (field text : String) (document : Document) :
    Clause.matches ⟨field, .string text⟩ document = true <->
      document.get? field = some (.string text) := by
  simp only [Clause.matches_iff, Json.equals_string_iff, exists_eq_right]

theorem Document.getString?_eq_some_iff (document : Document) (field text : String) :
    document.getString? field = some text <-> document.get? field = some (.string text) := by
  rw [Document.getString?]
  cases document.get? field with
  | none => exact ⟨nofun, nofun⟩
  | some value =>
      rw [Option.bind_some, Option.some.injEq]
      cases value with
      | string other => rw [Json.asString?, Option.some.injEq, Json.string.injEq]
      | _ => exact ⟨nofun, nofun⟩

namespace Predicate

theorem matchesAll_of_perm {clauses others : List Clause} (same : clauses.Perm others)
    (document : Document) : matchesAll clauses document = matchesAll others document :=
  same.all_eq

theorem eraseDups_of_nodup {names : List String} (distinct : names.Nodup) :
    names.eraseDups = names := by
  induction names with
  | nil => rfl
  | cons name names ih =>
      have unchanged : names.filter (fun other => !other == name) = names := by
        apply List.filter_eq_self.mpr
        intro other member
        have different : other ≠ name := fun same =>
          (List.nodup_cons.mp distinct).1 (same ▸ member)
        simpa using different
      rw [List.eraseDups_cons, unchanged, ih (List.nodup_cons.mp distinct).2]

/-- Clauses on different fields are as many as there are. -/
theorem ensureClauseCount_of_nodup {clauses : List Clause}
    (distinct : (clauses.map Clause.field).Nodup) :
    ensureClauseCount clauses.length (.fields clauses) = .ok () := by
  rw [ensureClauseCount, distinctFields, eraseDups_of_nodup distinct, List.length_map]
  exact if_pos ⟨rfl, rfl⟩

end Predicate

/-- Clauses find the documents of which what they say together is true. -/
theorem Collection.find_fields_of_iff {clauses : List Clause} {holds : Document -> Prop}
    [DecidablePred holds]
    (said : forall document, Predicate.matchesAll clauses document = true <-> holds document)
    (collection : Collection) :
    collection.find (.fields clauses) =
      .ok (collection.documents.filter fun document => holds document) := by
  rw [find]
  congr 2
  funext document
  rw [Bool.eq_iff_iff, said, decide_eq_true_iff]

/-! ## Queries -/

namespace Query

/-- Criteria whose keys and values do not look like operators. -/
def IsPlain (entries : List (String × Json)) : Prop :=
  forall entry, entry ∈ entries -> isOperator entry.1 = false ∧ isOperatorValue entry.2 = false

theorem IsPlain.not_mem {entries : List (String × Json)} (plain : IsPlain entries) {key : String}
    (operator : isOperator key = true) : key ∉ entries.map Prod.fst := by
  intro member
  rcases List.mem_map.mp member with ⟨entry, listed, rfl⟩
  rw [(plain entry listed).1] at operator
  cases operator

theorem clauses_eq_mapM (entries : List (String × Json)) :
    clauses entries = entries.mapM fun entry => clause entry.1 entry.2 := by
  induction entries with
  | nil => rfl
  | cons entry entries ih =>
      rw [clauses, List.mapM_cons, ih]

theorem clauses_of_isPlain {entries : List (String × Json)} (plain : IsPlain entries) :
    clauses entries = .ok (entries.map Clause.ofEntry) := by
  rw [clauses_eq_mapM]
  apply mapM_of_answered
  intro entry member
  rcases plain entry member with ⟨plainKey, plainValue⟩
  rw [clause, plainKey, plainValue]
  rfl

/-- A query whose criteria are plain comes down to their clauses. -/
theorem lower_of_isPlain {query : Query} (plain : IsPlain query.criteria.entries) :
    query.lower = .ok (.fields (query.criteria.entries.map Clause.ofEntry)) := by
  have absent : query.get? scriptKey = none := by
    rw [get?, Fields.get?]
    exact Json.lookup_of_not_mem (plain.not_mem rfl)
  rw [lower, absent, clauses_of_isPlain plain]
  rfl

theorem entries_ofEntries {entries : List (String × Json)}
    (distinct : (entries.map Prod.fst).Nodup) :
    (ofEntries entries).criteria.entries = entries := by
  apply Eq.trans (Fields.entries_ofEntries entries)
  exact Json.mergeEntries_of_nodup distinct

/-- The clauses of a query are those of its merged criteria. -/
theorem lower_ofEntries_merged {entries : List (String × Json)} (plain : IsPlain entries) :
    (ofEntries entries).lower =
      .ok (.fields ((Json.mergeEntries entries).map Clause.ofEntry)) := by
  have held : (ofEntries entries).criteria.entries = Json.mergeEntries entries :=
    Fields.entries_ofEntries entries
  have merged : IsPlain (Json.mergeEntries entries) := fun entry member =>
    plain entry (Json.mem_of_mem_mergeEntries member)
  rw [<- held] at merged
  rw [lower_of_isPlain merged, held]

theorem lower_ofEntries {entries : List (String × Json)} (plain : IsPlain entries)
    (distinct : (entries.map Prod.fst).Nodup) :
    (ofEntries entries).lower = .ok (.fields (entries.map Clause.ofEntry)) := by
  rw [lower_ofEntries_merged plain, Json.mergeEntries_of_nodup distinct]

/-- The compact text of criteria with texts as values spells the query over them. -/
theorem parse_text {entries : List (String × Json)}
    (keys : forall entry, entry ∈ entries -> entry.1 ≠ Json.carrierKey)
    (texts : forall entry, entry ∈ entries -> exists text, entry.2 = .string text)
    (distinct : (entries.map Prod.fst).Nodup) :
    parse (Json.object entries).text = .ok (ofEntries entries) := by
  have plain : Json.announcesText entries = false := by
    cases entries with
    | nil => rfl
    | cons entry entries =>
        have other := keys entry List.mem_cons_self
        simpa [Json.announcesText] using other
  have reads (carried : List Char -> Option Json) (entry : String × Json)
      (member : entry ∈ entries) : Json.ReadsBack (Json.readValue? carried 126) entry.2 := by
    rcases texts entry member with ⟨text, same⟩
    rw [same]
    exact Json.readsBack_string carried 126 text
  have read : Json.ofText? Json.nestingLimit (Json.object entries).compact =
      some (.object entries) := by
    rw [Json.nestingLimit, Json.ofText?_object plain reads, Json.mergeEntries_of_nodup distinct]
  rw [parse, Json.text, String.toList_ofList, read]

end Query
end Store
end ContactSearch
