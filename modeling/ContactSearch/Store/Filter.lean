import ContactSearch.Store.Predicate

namespace ContactSearch
namespace Store

/-!
# Filters

A filter is a typed criterion: a field compared with a value, or a conjunction
of filters.  Every criterion is a value of its own, so none can overwrite
another, and nothing in a name or a value can change the shape of the filter.
Flattening lists the comparisons from left to right.
-/

/-- A field comparison or a conjunction. -/
inductive Filter where
  | eq (field : String) (value : Json)
  | and (filters : List Filter)

namespace Filter

mutual

/-- The comparisons of a filter from left to right. -/
def clauses : Filter -> List Clause
  | .eq field value => [⟨field, value⟩]
  | .and filters => clausesOfAll filters

/-- The comparisons of several filters from left to right. -/
def clausesOfAll : List Filter -> List Clause
  | [] => []
  | filter :: filters => clauses filter ++ clausesOfAll filters

end

/-- The predicate of a filter. -/
def lower (filter : Filter) : Predicate :=
  .fields filter.clauses

end Filter
end Store
end ContactSearch
