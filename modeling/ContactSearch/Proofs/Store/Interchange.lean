import ContactSearch.Proofs.Store.Construction
import ContactSearch.Store.Document

namespace ContactSearch

/-!
# Calls that construct a container

Queries and documents are filled by calls.  Whatever the calls are, and however
the entries are divided among them, the container holds what all of the entries
in turn leave behind: every key in its first place with its last value.  Hence
two sequences of calls that pass the same entries cannot be told apart
afterwards, neither by the container nor by anything that is computed from it.

Between two calls there is one thing to be seen.  The call that answers with the
replaced value shows the last value that was passed under its key before.
-/

theorem Fields.ofEntries_concat (entries : List (String × Json)) (key : String) (value : Json) :
    ofEntries (entries ++ [(key, value)]) = (ofEntries entries).set key value :=
  List.foldl_append

namespace Store

namespace Query

variable {entries : List (String × Json)} {query : Query}

theorem Constructed.entries_eq (constructed : query.Constructed entries) :
    query.criteria.entries = Json.latestEntries entries := by
  rw [constructed.eq_ofEntries, entries_ofEntries_eq_merge, Json.mergeEntries_eq_latestEntries]

/-- The replaced value is the last one that was passed under the key. -/
theorem Constructed.replaced_eq (constructed : query.Constructed entries) (key : String)
    (value : Json) : (query.put key value).1 = Json.latest? key entries := by
  rw [Query.put, Fields.get?, constructed.eq_ofEntries, entries_ofEntries_eq_merge,
    Json.lookup_mergeEntries]

end Query

namespace Document

variable {entries : List (String × Json)} {document : Document}

/-- The documents that calls construct from the entries that they pass, in order. -/
inductive Constructed : List (String × Json) -> Document -> Prop where
  | empty : Constructed [] .empty
  | ofEntries (entries : List (String × Json)) : Constructed entries (.ofEntries entries)
  | append {entries : List (String × Json)} {document : Document}
      (earlier : Constructed entries document) (key : String) (value : Json) :
      Constructed (entries ++ [(key, value)]) (document.append key value)

theorem append_ofEntries (entries : List (String × Json)) (key : String) (value : Json) :
    (ofEntries entries).append key value = ofEntries (entries ++ [(key, value)]) :=
  congrArg Document.mk (Fields.ofEntries_concat entries key value).symm

theorem Constructed.eq_ofEntries (constructed : document.Constructed entries) :
    document = .ofEntries entries := by
  induction constructed with
  | empty => rfl
  | ofEntries entries => rfl
  | append earlier key value ih => rw [ih, append_ofEntries]

theorem Constructed.entries_eq (constructed : document.Constructed entries) :
    document.fields.entries = Json.latestEntries entries := by
  rw [constructed.eq_ofEntries, Document.ofEntries, Fields.entries_ofEntries,
    Json.mergeEntries_eq_latestEntries]

end Document

/--
Only the entries that calls pass, in their order, matter for what they construct.  The container has
each key once, in the order of the first occurrences, with the value of the last occurrence, and a
further call that replaces a value answers with the last one under its key.  Queries that are
constructed from the same entries are the same, with the same text and the same predicate or
refusal, and so are documents, with the same text.
-/
theorem construction_calls_interchangeable (entries : List (String × Json)) :
    (forall query : Query, query.Constructed entries ->
      query.criteria.entries = Json.latestEntries entries ∧
      (forall (key : String) (value : Json),
        (query.put key value).1 = Json.latest? key entries) ∧
      forall other : Query, other.Constructed entries ->
        query = other ∧ query.text = other.text ∧ query.lower = other.lower) ∧
    (forall document : Document, document.Constructed entries ->
      document.fields.entries = Json.latestEntries entries ∧
      forall other : Document, other.Constructed entries ->
        document = other ∧ document.text = other.text) := by
  constructor
  · intro query constructed
    refine ⟨constructed.entries_eq, constructed.replaced_eq, ?_⟩
    intro other constructed'
    have same : query = other := constructed.eq_ofEntries.trans constructed'.eq_ofEntries.symm
    exact ⟨same, congrArg Query.text same, congrArg Query.lower same⟩
  · intro document constructed
    refine ⟨constructed.entries_eq, ?_⟩
    intro other constructed'
    have same : document = other := constructed.eq_ofEntries.trans constructed'.eq_ofEntries.symm
    exact ⟨same, congrArg Document.text same⟩

/-- Entries that repeat a key, next to each other and apart. -/
def repeatingEntries : List (String × Json) :=
  [("a", .integer 1), ("b", .null), ("a", .integer 2), ("c", .string "x"), ("c", .string "y")]

theorem construction_calls_interchangeable_repeating :
    let inBulk := (Query.Builder.startFrom (repeatingEntries.take 2)).get.putAll
      (repeatingEntries.drop 2)
    let inTurn := ((Query.single "a" (.integer 1)).put "b" .null).2.putAll
      [("a", .integer 2), ("c", .string "x")] |>.append "c" (.string "y")
    let document := Document.ofEntries (repeatingEntries.take 4) |>.append "c" (.string "y")
    inBulk.Constructed repeatingEntries ∧ inTurn.Constructed repeatingEntries ∧
      document.Constructed repeatingEntries ∧
      inBulk.criteria.entries = [("a", .integer 2), ("b", .null), ("c", .string "y")] ∧
      (inTurn.put "a" .null).1 = some (.integer 2) ∧
      inBulk = inTurn ∧ inBulk.text = inTurn.text ∧ inBulk.lower = inTurn.lower ∧
      document.fields.entries = [("a", .integer 2), ("b", .null), ("c", .string "y")] := by
  intro inBulk inTurn document
  have constructed : inBulk.Constructed repeatingEntries :=
    (Query.Constructed.get (.startFrom (repeatingEntries.take 2))).putAll
      (repeatingEntries.drop 2)
  have constructed' : inTurn.Constructed repeatingEntries :=
    (((Query.Constructed.single "a" (.integer 1)).put "b" .null).putAll
      [("a", .integer 2), ("c", .string "x")]).append "c" (.string "y")
  have constructed'' : document.Constructed repeatingEntries :=
    (Document.Constructed.ofEntries (repeatingEntries.take 4)).append "c" (.string "y")
  have left : Json.latestEntries repeatingEntries =
      [("a", .integer 2), ("b", .null), ("c", .string "y")] := by
    simp [Json.latestEntries, Json.latest?, repeatingEntries, Json.lookup, List.eraseDups_cons]
  have last : Json.latest? "a" repeatingEntries = some (.integer 2) := by
    simp [Json.latest?, repeatingEntries, Json.lookup]
  rcases (construction_calls_interchangeable repeatingEntries).1 inBulk constructed with
    ⟨held, _, unique⟩
  rcases unique inTurn constructed' with ⟨same, text, lowered⟩
  have replaced :=
    ((construction_calls_interchangeable repeatingEntries).1 inTurn constructed').2.1 "a" .null
  have fields :=
    ((construction_calls_interchangeable repeatingEntries).2 document constructed'').1
  exact ⟨constructed, constructed', constructed'', held.trans left, replaced.trans last, same, text,
    lowered, fields.trans left⟩

end Store
end ContactSearch
