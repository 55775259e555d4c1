import ContactSearch.Proofs.Store.TextConstruction

namespace ContactSearch
namespace Store
namespace Query

/-!
# Queries under construction

A query is constructed by calls, each of which passes one criterion or several.
The calls may go to the query itself or to a builder, and the first one may
start from a text that the criteria were written to.  What counts is the
sequence of all criteria that were passed.  It does not matter where one call
ends and the next one begins: the query is the one that is filled with all of
the criteria at once.
-/

theorem putAll_ofEntries (entries more : List (String × Json)) :
    (ofEntries entries).putAll more = ofEntries (entries ++ more) :=
  congrArg Query.mk List.foldl_append.symm

theorem append_ofEntries (entries : List (String × Json)) (key : String) (value : Json) :
    (ofEntries entries).append key value = ofEntries (entries ++ [(key, value)]) :=
  putAll_ofEntries entries [(key, value)]

/-- The builders that calls construct from the criteria that they pass, in order. -/
inductive Builder.Constructed : List (String × Json) -> Builder -> Prop where
  | start : Constructed [] .start
  | startWith (key : String) (value : Json) : Constructed [(key, value)] (.startWith key value)
  | startFrom (entries : List (String × Json)) : Constructed entries (.startFrom entries)
  | add {entries : List (String × Json)} {builder : Builder} (earlier : Constructed entries builder)
      (key : String) (value : Json) :
      Constructed (entries ++ [(key, value)]) (builder.add key value)
  | append {entries : List (String × Json)} {builder : Builder}
      (earlier : Constructed entries builder) (key : String) (value : Json) :
      Constructed (entries ++ [(key, value)]) (builder.append key value)

/-- The queries that calls construct from the criteria that they pass, in order. -/
inductive Constructed : List (String × Json) -> Query -> Prop where
  | empty : Constructed [] .empty
  | single (key : String) (value : Json) : Constructed [(key, value)] (.single key value)
  | ofEntries (entries : List (String × Json)) : Constructed entries (.ofEntries entries)
  | parse {entries : List (String × Json)} {query : Query}
      (shallow : (Json.object entries).nesting ≤ Json.nestingLimit)
      (plain : Json.announcesText entries = false)
      (legible : Json.AreLegible (Json.partsOfEntries entries))
      (read : Query.parse (Json.object entries).text = .ok query) : Constructed entries query
  | get {entries : List (String × Json)} {builder : Builder}
      (built : Builder.Constructed entries builder) : Constructed entries builder.get
  | put {entries : List (String × Json)} {query : Query} (earlier : Constructed entries query)
      (key : String) (value : Json) :
      Constructed (entries ++ [(key, value)]) (query.put key value).2
  | append {entries : List (String × Json)} {query : Query} (earlier : Constructed entries query)
      (key : String) (value : Json) :
      Constructed (entries ++ [(key, value)]) (query.append key value)
  | putAll {entries : List (String × Json)} {query : Query} (earlier : Constructed entries query)
      (more : List (String × Json)) : Constructed (entries ++ more) (query.putAll more)

/-- A builder holds the query that is filled with its criteria at once. -/
theorem Builder.Constructed.query_eq {entries : List (String × Json)} {builder : Builder}
    (constructed : builder.Constructed entries) : builder.query = ofEntries entries := by
  induction constructed with
  | start => rfl
  | startWith key value => rfl
  | startFrom entries => rfl
  | add earlier key value ih => rw [Builder.add, ih, append_ofEntries]
  | append earlier key value ih => rw [Builder.append, Builder.add, ih, append_ofEntries]

theorem Constructed.eq_ofEntries {entries : List (String × Json)} {query : Query}
    (constructed : query.Constructed entries) : query = .ofEntries entries := by
  induction constructed with
  | empty => rfl
  | single key value => rfl
  | ofEntries entries => rfl
  | parse shallow plain legible read =>
      exact Except.ok.inj (read.symm.trans (parse_text_of_legible shallow plain legible))
  | get built => exact built.query_eq
  | put earlier key value ih => exact ih ▸ append_ofEntries _ key value
  | append earlier key value ih => rw [ih, append_ofEntries]
  | putAll earlier more ih => rw [ih, putAll_ofEntries]

end Query
end Store
end ContactSearch
