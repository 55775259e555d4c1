import ContactSearch.Proofs.Json.Carried
import ContactSearch.Proofs.Store.Queries

namespace ContactSearch
namespace Store
namespace Query

/-!
# Queries constructed from text

A query can be filled with entries or read from the text of an object with the
same entries.  Both ways merge repeated keys in the same manner, so the order
of the keys is kept as well.

There is one exception.  The reader of text replaces an object whose first key
announces a carried text, at whatever depth it stands, while filling a query
with entries does not look at them.  A query with such an object cannot be read
from any text.
-/

theorem ext_entries {first second : Query}
    (same : first.criteria.entries = second.criteria.entries) : first = second := by
  rcases first with ⟨⟨entries, distinct⟩⟩
  rcases second with ⟨⟨entries', distinct'⟩⟩
  cases same
  rfl

theorem entries_ofEntries_eq_merge (entries : List (String × Json)) :
    (ofEntries entries).criteria.entries = Json.mergeEntries entries :=
  Fields.entries_ofEntries entries

/-- Filling a query with merged entries is filling it with the entries. -/
theorem ofEntries_mergeEntries (entries : List (String × Json)) :
    ofEntries (Json.mergeEntries entries) = ofEntries entries := by
  apply ext_entries
  rw [entries_ofEntries (Json.nodup_keys_mergeEntries entries), entries_ofEntries_eq_merge]

theorem ofEntries_criteria (query : Query) : ofEntries query.criteria.entries = query :=
  ext_entries (entries_ofEntries query.criteria.distinct)

theorem parse_text_of_legible {entries : List (String × Json)}
    (shallow : (Json.object entries).nesting ≤ Json.nestingLimit)
    (plain : Json.announcesText entries = false)
    (legible : Json.AreLegible (Json.partsOfEntries entries)) :
    parse (Json.object entries).text = .ok (ofEntries entries) := by
  have reads (carried : List Char -> Option Json) :=
    Json.readsBack_entries carried entries legible (Nat.le_of_succ_le_succ shallow)
  have read : Json.ofText? Json.nestingLimit (Json.object entries).compact =
      some (.object (Json.mergeEntries entries)) := Json.ofText?_object plain reads
  rw [parse, Json.text, String.toList_ofList, read]
  exact congrArg Except.ok (ofEntries_mergeEntries entries)

/-- What is read from a text has no object that announces a carried text. -/
theorem isSilent_of_parse {text : String} {query : Query} (parsed : parse text = .ok query) :
    (Json.object query.criteria.entries).IsSilent := by
  rw [parse] at parsed
  split at parsed
  · cases parsed
  · next entries read =>
      cases parsed
      rw [entries_ofEntries_eq_merge]
      exact (Json.isSilent_of_ofText? read).mergeEntries
  · cases parsed

/--
Entries that nest at most 127 levels, whose integers have 64 bits, whose objects have distinct
keys and whose doubles are read back, are read from their compact text as the query filled with
them, unless the first key of an object among them announces a carried text.  A query with such
entries is read back from its own text exactly if none does.
-/
theorem constructed_from_text_iff_silent {entries : List (String × Json)}
    (shallow : (Json.object entries).nesting ≤ 127)
    (proper : forall part, part ∈ Json.partsOfEntries entries -> part.isProper = true)
    (exact : forall part, part ∈ Json.partsOfEntries entries -> part.isExact = true) :
    ((Json.object entries).IsSilent ->
      parse (Json.object entries).text = .ok (ofEntries entries) ∧
      (parse (Json.object entries).text).map lower = .ok (ofEntries entries).lower) ∧
    (forall query : Query, query.criteria.entries = entries ->
      (parse query.text = .ok query <-> (Json.object entries).IsSilent)) := by
  have read (silent : (Json.object entries).IsSilent) :
      parse (Json.object entries).text = .ok (ofEntries entries) := by
    apply parse_text_of_legible shallow (silent _ (Json.self_mem_parts _))
    exact ⟨proper, exact, fun part member => silent part (List.mem_cons_of_mem _ member)⟩
  refine ⟨fun silent => ⟨read silent, by rw [read silent, Except.map]⟩, ?_⟩
  rintro query rfl
  constructor
  · exact fun parsed => isSilent_of_parse parsed
  · intro silent
    rw [text, read silent, ofEntries_criteria]

/-- One half. -/
def half : Finite :=
  ⟨false, 2 ^ 1073, by decide +kernel⟩

/-- A repeated key, the largest and the least integer, and values within values. -/
def mixedEntries : List (String × Json) :=
  [("n", .integer (2 ^ 64 - 1)), ("x", .double half), ("n", .integer (-2 ^ 63)),
    ("", .array [.null, .array [], .object [("a\"\n", .string "\\\x01"),
      (Json.carrierKey, .bool true)]])]

theorem constructed_from_text_mixed :
    (Json.object mixedEntries).nesting ≤ 127 ∧
      (forall part, part ∈ Json.partsOfEntries mixedEntries -> part.isProper = true) ∧
      (forall part, part ∈ Json.partsOfEntries mixedEntries -> part.isExact = true) ∧
      parse (Json.object mixedEntries).text = .ok (ofEntries mixedEntries) ∧
      parse (ofEntries mixedEntries).text = .ok (ofEntries mixedEntries) := by
  have shallow : (Json.object mixedEntries).nesting ≤ 127 := by decide +kernel
  have proper : forall part, part ∈ Json.partsOfEntries mixedEntries -> part.isProper = true := by
    decide +kernel
  have exact : forall part, part ∈ Json.partsOfEntries mixedEntries -> part.isExact = true := by
    decide +kernel
  have silent : (Json.object mixedEntries).IsSilent := by
    rw [Json.IsSilent]
    decide +kernel
  have filled := (constructed_from_text_iff_silent shallow proper exact).1 silent
  have merged : (Json.object (ofEntries mixedEntries).criteria.entries).IsSilent :=
    isSilent_of_parse filled.1
  -- the entries of the query itself are fewer, since one key is repeated
  have back := (constructed_from_text_iff_silent (by decide +kernel) (by decide +kernel)
    (by decide +kernel)).2 (ofEntries mixedEntries) rfl
  exact ⟨shallow, proper, exact, filled.1, back.mpr merged⟩

/-- A query with the announcing key in front. -/
def announcingEntries : List (String × Json) :=
  [(Json.carrierKey, .string "\x7b\x7d")]

/-- It is not read back: its text is read as the query without criteria. -/
theorem announcing_query_not_read_back :
    (ofEntries announcingEntries).size = 1 ∧
      (parse (Json.object announcingEntries).text).map Query.size = .ok 0 ∧
      (parse (ofEntries announcingEntries).text).map Query.size = .ok 0 ∧
      parse (Json.object announcingEntries).text ≠ .ok (ofEntries announcingEntries) := by
  have filled : (ofEntries announcingEntries).size = 1 := by decide +kernel
  have read : (parse (Json.object announcingEntries).text).map Query.size = .ok 0 := by
    decide +kernel
  refine ⟨filled, read, by decide +kernel, fun same => ?_⟩
  rw [same, Except.map, filled] at read
  cases read

end Query
end Store
end ContactSearch
