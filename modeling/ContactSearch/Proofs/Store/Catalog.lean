import ContactSearch.Store.Catalog

namespace ContactSearch
namespace Store

/-!
# Reading a catalog

A collection is found exactly in a running store that has it.  Otherwise the
refusal says which of the two is missing.

A database can be looked at in two ways: as the collections it holds, or one
collection at a time.  Replacing what it holds leaves the other databases as
they are.
-/

namespace Catalog

theorem ensureRunning_of_running {catalog : Catalog} (running : catalog.running = true) :
    catalog.ensureRunning = .ok () :=
  if_pos running

theorem ensureRunning_of_stopped {catalog : Catalog} (stopped : catalog.running = false) :
    catalog.ensureRunning = .error .notRunning := by
  rw [ensureRunning, stopped]
  rfl

theorem collection_eq (catalog : Catalog) (database name : String) :
    catalog.collection database name =
      if catalog.running = true then
        match lookup (database, name) catalog.collections with
        | some collection => .ok collection
        | none => .error (.collectionNotFound database name)
      else
        .error .notRunning := by
  rw [Catalog.collection, ensureRunning]
  cases catalog.running with
  | false => rfl
  | true => rfl

theorem collection_eq_ok_iff {catalog : Catalog} {database name : String}
    {collection : Collection} :
    catalog.collection database name = .ok collection <->
      catalog.running = true ∧ lookup (database, name) catalog.collections = some collection := by
  rw [collection_eq]
  cases catalog.running with
  | false => exact ⟨nofun, fun found => nomatch found.1⟩
  | true =>
      cases lookup (database, name) catalog.collections with
      | none => exact ⟨nofun, fun found => nomatch found.2⟩
      | some other => simp

theorem collection_eq_error {catalog : Catalog} {database name : String} {fault : Fault}
    (refused : catalog.collection database name = .error fault) :
    fault = .notRunning ∨ fault = .collectionNotFound database name := by
  rw [collection_eq] at refused
  split at refused
  · split at refused
    · cases refused
    · cases refused
      exact Or.inr rfl
  · cases refused
    exact Or.inl rfl

/-! ## Databases -/

theorem lookup_eq (catalog : Catalog) (key : String × String) :
    lookup key catalog.collections = (catalog.heldBy key.1).get? key.2 := by
  rw [lookup, heldBy]
  cases catalog.collections.get? key.1 with
  | none => rfl
  | some held => rfl

theorem lookup_withDatabase (catalog : Catalog) (database : String) (held : Directory Collection)
    (key : String × String) :
    lookup key (catalog.withDatabase database held).collections =
      if database = key.1 then held.get? key.2 else lookup key catalog.collections := by
  rw [lookup, withDatabase, Directory.get?_set]
  by_cases same : database = key.1
  · rw [if_pos same, if_pos same]
    rfl
  · rw [if_neg same, if_neg same]
    rfl

/--
If the collections of a database change under one name only, what is found changes under that
key only.
-/
theorem lookup_withDatabase_of_changed {catalog : Catalog} {key : String × String}
    {held : Directory Collection} {value : Option Collection}
    (changed : forall name, held.get? name =
      if key.2 = name then value else (catalog.heldBy key.1).get? name)
    (other : String × String) :
    lookup other (catalog.withDatabase key.1 held).collections =
      if key = other then value else lookup other catalog.collections := by
  rw [lookup_withDatabase, changed]
  by_cases sameDatabase : key.1 = other.1
  · rw [if_pos sameDatabase]
    by_cases sameName : key.2 = other.2
    · rw [if_pos sameName, if_pos (Prod.ext sameDatabase sameName)]
    · rw [if_neg sameName, if_neg fun same => sameName (congrArg Prod.snd same), lookup_eq,
        sameDatabase]
  · rw [if_neg sameDatabase, if_neg fun same => sameDatabase (congrArg Prod.fst same)]

theorem lookup_set (catalog : Catalog) (key other : String × String) (collection : Collection) :
    lookup other (catalog.withDatabase key.1
        ((catalog.heldBy key.1).set key.2 collection)).collections =
      if key = other then some collection else lookup other catalog.collections :=
  lookup_withDatabase_of_changed
    (fun name => (catalog.heldBy key.1).get?_set key.2 name collection) other

theorem lookup_remove (catalog : Catalog) (key other : String × String) :
    lookup other (catalog.withDatabase key.1
        ((catalog.heldBy key.1).remove key.2)).collections =
      if key = other then none else lookup other catalog.collections :=
  lookup_withDatabase_of_changed (fun name => (catalog.heldBy key.1).get?_remove key.2 name) other

end Catalog
end Store
end ContactSearch
