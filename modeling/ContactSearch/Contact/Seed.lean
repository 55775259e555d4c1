import ContactSearch.Store.Catalog

namespace ContactSearch
namespace Contact

/-!
# Seed data

Three contacts, one shared with each of three users.  Seeding drops what is in
the collection, so seeding twice leaves the same three documents.
-/

/-- The database of the seeded contacts. -/
def seedDatabase : String := "test"

/-- The collection of the seeded contacts. -/
def seedCollection : String := "contacts"

/-- A contact document. -/
def contact (email address phone sharedWith : String) : Store.Document :=
  (((Store.Document.empty.append "email" (.string email)).append
    "address" (.string address)).append
    "phone" (.string phone)).append
    "sharedWith" (.string sharedWith)

/-- The seeded contacts. -/
def seedDocuments : List Store.Document :=
  [contact "contact1@private.info" "123 Fake St" "111-111-1111" "user1",
    contact "contact2@private.info" "456 Fake St" "222-222-2222" "user2",
    contact "contact3@private.info" "789 Fake St" "333-333-3333" "user3"]

/-- Put the seeded contacts, and nothing else, into a collection. -/
def seed (catalog : Store.Catalog) (database collection : String) :
    Except Store.Fault (Nat × Store.Catalog) := do
  let (_, dropped) ← catalog.dropCollection database collection
  let (_, created) ← dropped.createCollection database collection
  created.insertMany database collection seedDocuments

end Contact
end ContactSearch
