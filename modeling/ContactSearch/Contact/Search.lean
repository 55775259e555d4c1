import ContactSearch.Contact.Criteria
import ContactSearch.Store.Catalog

namespace ContactSearch
namespace Contact

/-!
# Searching contacts

A search builds its predicate before it looks at the store, so a variant that
is not available is refused even when the store has been stopped.
-/

/-- What a search looks for, and how. -/
structure Request where
  mode : Mode
  variant : Variant
  identity : String
  term : String

/-- The contacts of a collection that a request asks for. -/
def search (order : MapOrder) (catalog : Store.Catalog) (database collection : String)
    (request : Request) : Except Fault (List Store.Document) :=
  match predicate order request.mode request.variant request.identity request.term with
  | .error fault => .error fault
  | .ok predicate =>
      match catalog.collection database collection with
      | .error fault => .error (.store fault)
      | .ok found => (found.find predicate).mapError Fault.store

end Contact
end ContactSearch
