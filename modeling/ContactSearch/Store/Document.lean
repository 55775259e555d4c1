import ContactSearch.Json.Writing

namespace ContactSearch
namespace Store

/-!
# Stored documents

A document is an ordered set of fields without an identifier.  Appending a
field that is present replaces its value and keeps its place.
-/

/-- A stored document. -/
structure Document where
  fields : Fields

namespace Document

def empty : Document :=
  ⟨Fields.empty⟩

/-- The document with the given fields; a repeated name keeps its last value. -/
def ofEntries (entries : List (String × Json)) : Document :=
  ⟨Fields.ofEntries entries⟩

/-- The document with one more field. -/
def append (document : Document) (key : String) (value : Json) : Document :=
  ⟨document.fields.set key value⟩

/-- The value of a field. -/
def get? (document : Document) (key : String) : Option Json :=
  document.fields.get? key

/-- The text of a field that holds a string. -/
def getString? (document : Document) (key : String) : Option String :=
  (document.get? key).bind Json.asString?

/-- The field names in their order. -/
def keys (document : Document) : List String :=
  document.fields.keys

def size (document : Document) : Nat :=
  document.fields.size

def isEmpty (document : Document) : Bool :=
  document.fields.isEmpty

/-- The document as a value, as scripts see it. -/
def toJson (document : Document) : Json :=
  .object document.fields.entries

/-- The compact text of a document. -/
def text (document : Document) : String :=
  document.toJson.text

/-- Equality of documents, whatever the order of their fields. -/
def equals (left right : Document) : Bool :=
  left.toJson.equals right.toJson

end Document
end Store
end ContactSearch
