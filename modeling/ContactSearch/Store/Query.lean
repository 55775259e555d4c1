import ContactSearch.Json.Reading
import ContactSearch.Store.Predicate

namespace ContactSearch
namespace Store

/-!
# Query documents

A query document is an ordered set of criteria: field names with literal
values, or the single key `$where` with a script.  It can be filled one
criterion at a time, in bulk, from text, or through a builder; what counts is
only the sequence of criteria that were given.

Lowering turns a query document into a predicate.  Keys and values that look
like operators are refused, never interpreted.
-/

/-- The key under which a query holds a script. -/
def scriptKey : String := "$where"

/-- A container of criteria. -/
structure Query where
  criteria : Fields

namespace Query

def empty : Query :=
  ⟨Fields.empty⟩

/-- Insert a criterion; the answer is the value it replaced. -/
def put (query : Query) (key : String) (value : Json) : Option Json × Query :=
  (query.criteria.get? key, ⟨query.criteria.set key value⟩)

/-- The query with one more criterion. -/
def append (query : Query) (key : String) (value : Json) : Query :=
  (query.put key value).2

/-- The query with all the given criteria merged in; later values win. -/
def putAll (query : Query) (entries : List (String × Json)) : Query :=
  ⟨query.criteria.setAll entries⟩

/-- The query with a single criterion. -/
def single (key : String) (value : Json) : Query :=
  empty.append key value

/-- The query with the given criteria. -/
def ofEntries (entries : List (String × Json)) : Query :=
  empty.putAll entries

/-- The query that a text spells. -/
def parse (text : String) : Except Fault Query :=
  match Json.ofText? Json.nestingLimit text.toList with
  | none => .error .unreadableText
  | some (.object entries) => .ok (ofEntries entries)
  | some other => .error (.invalidQuery (.notAnObject other.kind))

def get? (query : Query) (key : String) : Option Json :=
  query.criteria.get? key

def size (query : Query) : Nat :=
  query.criteria.size

def isEmpty (query : Query) : Bool :=
  query.criteria.isEmpty

/-- The compact text of a query. -/
def text (query : Query) : String :=
  (Json.object query.criteria.entries).text

/-- Whether a key is spelled like an operator. -/
def isOperator (key : String) : Bool :=
  key.toList.head? == some '$'

/-- Whether a value is an object that spells an operator expression. -/
def isOperatorValue : Json -> Bool
  | .object entries => entries.any fun entry => isOperator entry.1
  | _ => false

/-- The clause of a criterion. -/
def clause (key : String) (value : Json) : Except QueryFault Clause :=
  if isOperator key then .error (.unsupportedOperator key)
  else if isOperatorValue value then .error (.operatorValue key)
  else .ok ⟨key, value⟩

/-- The clauses of criteria in their order; the first refused criterion counts. -/
def clauses : List (String × Json) -> Except QueryFault (List Clause)
  | [] => .ok []
  | (key, value) :: rest => do
      let first ← clause key value
      let others ← clauses rest
      return first :: others

/-- The predicate of a query. -/
def lower (query : Query) : Except QueryFault Predicate :=
  match query.get? scriptKey with
  | some (.string source) =>
      if 1 < query.size then .error .scriptWithFields else .ok (.script source)
  | some other => .error (.scriptNotText other.kind)
  | none => (clauses query.criteria.entries).map Predicate.fields

/-- A query under construction. -/
structure Builder where
  query : Query

namespace Builder

def start : Builder :=
  ⟨Query.empty⟩

/-- Start with a single criterion. -/
def startWith (key : String) (value : Json) : Builder :=
  ⟨Query.single key value⟩

/-- Start with the given criteria. -/
def startFrom (entries : List (String × Json)) : Builder :=
  ⟨Query.ofEntries entries⟩

/-- Add a criterion. -/
def add (builder : Builder) (key : String) (value : Json) : Builder :=
  ⟨builder.query.append key value⟩

/-- Another name for adding a criterion. -/
def append (builder : Builder) (key : String) (value : Json) : Builder :=
  builder.add key value

/-- The finished query. -/
def get (builder : Builder) : Query :=
  builder.query

end Builder
end Query
end Store
end ContactSearch
