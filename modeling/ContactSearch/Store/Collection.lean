import ContactSearch.Store.Predicate
import ContactSearch.Text.Quoted

namespace ContactSearch
namespace Store

/-!
# Collections

A collection is a named list of documents in the order of their insertion.  A
query returns the matching documents in that order.  A script that cannot be
read fails the query before any document is examined; one that fails on a
document fails the query at the first such document.
-/

/-- A named list of documents. -/
structure Collection where
  name : String
  documents : List Document

namespace Collection

/-- A collection without documents. -/
def named (name : String) : Collection :=
  ⟨name, []⟩

def size (collection : Collection) : Nat :=
  collection.documents.length

def isEmpty (collection : Collection) : Bool :=
  collection.documents.isEmpty

/-- The collection with more documents at its end. -/
def withDocuments (collection : Collection) (documents : List Document) : Collection :=
  { collection with documents := collection.documents ++ documents }

/-- The documents that pass a test, unless the test fails on one of them. -/
def select (test : Document -> Except ε Bool) : List Document -> Except ε (List Document)
  | [] => .ok []
  | document :: rest => do
      let passed ← test document
      let selected ← select test rest
      return if passed then document :: selected else selected

/-- Whether a script that has been read holds for a document. -/
def testScript (expression : Script.Expression) (document : Document) : Except Fault Bool :=
  match expression.test document.toJson with
  | .ok passed => .ok passed
  | .error fault => .error (.script fault)

/-- The matching documents in insertion order. -/
def find (collection : Collection) : Predicate -> Except Fault (List Document)
  | .fields clauses => .ok (collection.documents.filter (Predicate.matchesAll clauses))
  | .script source =>
      match Script.Expression.parse source with
      | .error fault => .error (.script fault)
      | .ok expression => select (testScript expression) collection.documents

/-- The number of matching documents. -/
def count (collection : Collection) (predicate : Predicate) : Except Fault Nat :=
  (collection.find predicate).map List.length

/-- The name of the script engine in diagnostics. -/
def engineName : String := "whereexpr"

/-- A collection in diagnostics: its name, its size and its script engine. -/
def diagnostic (collection : Collection) : List Char :=
  "Collection \x7b name: ".toList ++ Text.quoted collection.name ++
    ", documents: ".toList ++ Decimal.digits collection.size ++
    ", engine: ".toList ++ Text.quoted engineName ++ " \x7d".toList

end Collection
end Store
end ContactSearch
