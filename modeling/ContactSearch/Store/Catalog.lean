import ContactSearch.Store.Collection
import ContactSearch.Store.Directory

namespace ContactSearch
namespace Store

/-!
# The catalog of a store

A running store holds databases, and a database holds collections.  Databases
need not be created: one comes with its first collection, and it stays when
its last collection is dropped.  Stopping a store discards everything; from
then on every operation is refused, and stopping again does nothing.

A collection that was handed out is a value of its own, so later writes do not
change it.
-/

/-- The collections of a store by database and name, and whether it is running. -/
structure Catalog where
  running : Bool
  collections : Directory (Directory Collection)

namespace Catalog

/-- A store that has just been started. -/
def start : Catalog :=
  ⟨true, .empty⟩

/-- Stop a store and discard its data. -/
def stop (catalog : Catalog) : Catalog :=
  if catalog.running then ⟨false, .empty⟩ else catalog

/-- Refuse to go on with a stopped store. -/
def ensureRunning (catalog : Catalog) : Except Fault Unit :=
  if catalog.running then .ok () else .error .notRunning

/-- The collection stored under a database and a name. -/
def lookup (key : String × String) (collections : Directory (Directory Collection)) :
    Option Collection :=
  (collections.get? key.1).bind fun held => held.get? key.2

/-- The collections of a database; a database that was never used has none. -/
def heldBy (catalog : Catalog) (database : String) : Directory Collection :=
  (catalog.collections.get? database).getD .empty

/-- The catalog with the collections of a database replaced. -/
def withDatabase (catalog : Catalog) (database : String) (held : Directory Collection) :
    Catalog :=
  { catalog with collections := catalog.collections.set database held }

/-- The collection of a database, as it is now. -/
def collection (catalog : Catalog) (database name : String) : Except Fault Collection := do
  catalog.ensureRunning
  match lookup (database, name) catalog.collections with
  | some collection => return collection
  | none => .error (.collectionNotFound database name)

/-- The collection names of a database in the order of their code points. -/
def collectionNames (catalog : Catalog) (database : String) : Except Fault (List String) := do
  catalog.ensureRunning
  let names := (catalog.heldBy database).names
  return names.mergeSort (fun first second => decide (first ≤ second))

/-- Create an empty collection, unless there is one; the answer is what is there then. -/
def createCollection (catalog : Catalog) (database name : String) :
    Except Fault (Collection × Catalog) := do
  catalog.ensureRunning
  let held := catalog.heldBy database
  match held.get? name with
  | some collection => return (collection, catalog)
  | none =>
      let created := Collection.named name
      return (created, catalog.withDatabase database (held.set name created))

/-- Drop a collection; the answer is whether there was one. -/
def dropCollection (catalog : Catalog) (database name : String) :
    Except Fault (Bool × Catalog) := do
  catalog.ensureRunning
  match catalog.collections.get? database with
  | none => return (false, catalog)
  | some held =>
      return ((held.get? name).isSome, catalog.withDatabase database (held.remove name))

/-- Append documents to a collection; the answer is their number. -/
def insertMany (catalog : Catalog) (database name : String) (documents : List Document) :
    Except Fault (Nat × Catalog) := do
  catalog.ensureRunning
  let held := catalog.heldBy database
  match held.get? name with
  | none => .error (.collectionNotFound database name)
  | some collection =>
      let grown := collection.withDocuments documents
      return (documents.length, catalog.withDatabase database (held.set name grown))

end Catalog
end Store
end ContactSearch
