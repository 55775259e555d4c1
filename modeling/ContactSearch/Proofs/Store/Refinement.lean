import ContactSearch.Proofs.Store.Catalog
import ContactSearch.Proofs.Store.Reference

namespace ContactSearch
namespace Store
namespace Catalog

/-!
# A store answers as its reference does

The reference describes a store if both are running or both are not, and if
the store holds, in its two levels, exactly the collections of the map.  An
operation is answered alike by the two and leaves them as alike as they were,
so whole runs are answered alike.

A store that has been stopped refuses everything but to be stopped again.
Collections that were obtained before are not affected by what happens later.
-/

/-- The answer that an outcome amounts to; a refused operation leaves the store as it is. -/
def settle {α : Type} (catalog : Catalog) (answer : α -> Answer) :
    Except Fault (α × Catalog) -> Answer × Catalog
  | .ok (value, next) => (answer value, next)
  | .error fault => (.refused fault, catalog)

def perform (catalog : Catalog) : Operation -> Answer × Catalog
  | .create database name => catalog.settle .collection (catalog.createCollection database name)
  | .drop database name => catalog.settle .existed (catalog.dropCollection database name)
  | .insert database name documents =>
      catalog.settle .count (catalog.insertMany database name documents)
  | .seed database name => catalog.settle .count (Contact.seed catalog database name)
  | .collection database name =>
      (.ofOutcome .collection (catalog.collection database name), catalog)
  | .names database => (.ofOutcome .names (catalog.collectionNames database), catalog)
  | .find database name predicate =>
      (.ofOutcome .documents
        ((catalog.collection database name).bind fun collection => collection.find predicate),
        catalog)
  | .stop => (.stopped, catalog.stop)

/-! ## Stopped stores -/

theorem running_stop (catalog : Catalog) : catalog.stop.running = false := by
  rw [stop]
  cases running : catalog.running with
  | false => exact running
  | true => rfl

theorem perform_of_stopped {catalog : Catalog} (stopped : catalog.running = false)
    (operation : Operation) :
    catalog.perform operation =
      match operation with
      | .stop => (.stopped, catalog)
      | _ => (.refused .notRunning, catalog) := by
  have refused := ensureRunning_of_stopped stopped
  cases operation with
  | create database name => rw [perform, createCollection, refused]; rfl
  | drop database name => rw [perform, dropCollection, refused]; rfl
  | insert database name documents => rw [perform, insertMany, refused]; rfl
  | seed database name => rw [perform, Contact.seed, dropCollection, refused]; rfl
  | collection database name => rw [perform, collection, refused]; rfl
  | names database => rw [perform, collectionNames, refused]; rfl
  | find database name predicate => rw [perform, collection, refused]; rfl
  | stop => rw [perform, stop, stopped]; rfl

/-! ## The reference describes the store -/

/--
A reference describes a store.  A stopped store that is stopped again keeps what it has, which
must therefore be nothing.
-/
structure Represents (catalog : Catalog) (reference : Reference) : Prop where
  running : catalog.running = reference.running
  stored : forall key, lookup key catalog.collections =
    (reference.contents.lookup key).map (Collection.mk key.2)
  discarded : reference.running = false -> reference.contents = ∅

namespace Represents

variable {catalog : Catalog} {contents : Contents}

theorem of_running (running : catalog.running = true)
    (stored : forall key, lookup key catalog.collections =
      (contents.lookup key).map (Collection.mk key.2)) :
    catalog.Represents ⟨true, contents⟩ :=
  ⟨running, stored, fun stopped => absurd stopped.symm Bool.false_ne_true⟩

theorem of_start : start.Represents Reference.start :=
  of_running rfl fun _ => rfl

theorem of_stop {reference : Reference} (represents : catalog.Represents reference) :
    catalog.stop.Represents ⟨false, ∅⟩ := by
  refine ⟨catalog.running_stop, ?_, fun _ => rfl⟩
  intro key
  rw [stop]
  cases running : catalog.running with
  | true => rfl
  | false =>
      have empty := represents.discarded (represents.running.symm.trans running)
      rw [if_neg Bool.false_ne_true, represents.stored, empty]

theorem set (represents : catalog.Represents ⟨true, contents⟩) (database name : String)
    (documents : List Document) :
    (catalog.withDatabase database ((catalog.heldBy database).set name ⟨name, documents⟩)).Represents
      ⟨true, contents.insert (database, name) documents⟩ := by
  refine of_running represents.running ?_
  intro key
  rw [lookup_set catalog (database, name) key]
  by_cases same : (database, name) = key
  · subst same
    rw [if_pos rfl, Finmap.lookup_insert]
    rfl
  · rw [if_neg same, Finmap.lookup_insert_of_ne contents (Ne.symm same), represents.stored]

theorem remove (represents : catalog.Represents ⟨true, contents⟩) (database name : String) :
    (catalog.withDatabase database ((catalog.heldBy database).remove name)).Represents
      ⟨true, contents.erase (database, name)⟩ := by
  refine of_running represents.running ?_
  intro key
  rw [lookup_remove catalog (database, name) key]
  by_cases same : (database, name) = key
  · subst same
    rw [if_pos rfl, Finmap.lookup_erase]
    rfl
  · rw [if_neg same, Finmap.lookup_erase_ne (Ne.symm same), represents.stored]

theorem get?_heldBy (represents : catalog.Represents ⟨true, contents⟩) (database name : String) :
    (catalog.heldBy database).get? name =
      (contents.lookup (database, name)).map (Collection.mk name) :=
  (catalog.lookup_eq (database, name)).symm.trans (represents.stored (database, name))

/-! ## Operations on a running store -/

theorem createCollection_eq (represents : catalog.Represents ⟨true, contents⟩)
    (database name : String) :
    catalog.createCollection database name = .ok
      (match contents.lookup (database, name) with
      | some documents => (⟨name, documents⟩, catalog)
      | none => (⟨name, []⟩,
          catalog.withDatabase database ((catalog.heldBy database).set name ⟨name, []⟩))) := by
  rw [createCollection, ensureRunning_of_running represents.running]
  simp only [represents.get?_heldBy]
  cases contents.lookup (database, name) with
  | none => rfl
  | some documents => rfl

theorem insertMany_eq (represents : catalog.Represents ⟨true, contents⟩)
    (database name : String) (documents : List Document) :
    catalog.insertMany database name documents =
      match contents.lookup (database, name) with
      | some earlier => .ok (documents.length, catalog.withDatabase database
          ((catalog.heldBy database).set name ⟨name, earlier ++ documents⟩))
      | none => .error (.collectionNotFound database name) := by
  rw [insertMany, ensureRunning_of_running represents.running]
  simp only [represents.get?_heldBy]
  cases contents.lookup (database, name) with
  | none => rfl
  | some earlier => rfl

theorem collection_eq (represents : catalog.Represents ⟨true, contents⟩)
    (database name : String) :
    catalog.collection database name =
      match contents.lookup (database, name) with
      | some documents => .ok ⟨name, documents⟩
      | none => .error (.collectionNotFound database name) := by
  rw [Catalog.collection_eq, if_pos represents.running, represents.stored]
  cases contents.lookup (database, name) with
  | none => rfl
  | some documents => rfl

/-- Dropping tells whether the collection was there, and it is gone afterwards in any case. -/
theorem dropCollection_eq (represents : catalog.Represents ⟨true, contents⟩)
    (database name : String) :
    exists dropped,
      catalog.dropCollection database name = .ok (decide ((database, name) ∈ contents), dropped) ∧
        dropped.Represents ⟨true, contents.erase (database, name)⟩ := by
  have found := represents.get?_heldBy database name
  have member : ((catalog.heldBy database).get? name).isSome =
      decide ((database, name) ∈ contents) := by
    rw [found, Option.isSome_map, Bool.eq_iff_iff, decide_eq_true_iff]
    exact Finmap.lookup_isSome
  rw [dropCollection, ensureRunning_of_running represents.running]
  cases held : catalog.collections.get? database with
  | none =>
      rw [heldBy, held] at found member
      have absent : contents.lookup (database, name) = none :=
        Option.map_eq_none_iff.mp found.symm
      refine ⟨catalog, congrArg (fun existed => Except.ok (existed, catalog)) member, ?_⟩
      apply of_running represents.running
      intro key
      rw [represents.stored]
      by_cases same : key = (database, name)
      · rw [same, absent, Finmap.lookup_erase]
      · rw [Finmap.lookup_erase_ne same]
  | some collections =>
      have removed := represents.remove database name
      rw [heldBy, held] at member removed
      exact ⟨_, congrArg (fun existed => Except.ok (existed, _)) member, removed⟩

theorem collectionNames_eq (represents : catalog.Represents ⟨true, contents⟩)
    (database : String) :
    catalog.collectionNames database = .ok (contents.namesIn database) := by
  rw [collectionNames, ensureRunning_of_running represents.running]
  have increasing := contents.pairwise_namesIn database
  have sameNames : ((catalog.heldBy database).names).Perm (contents.namesIn database) := by
    apply (List.perm_ext_iff_of_nodup (catalog.heldBy database).distinct increasing.nodup).mpr
    intro name
    rw [Contents.mem_namesIn_iff, ← Finmap.lookup_isSome]
    rw [← Option.isSome_map, ← represents.get?_heldBy]
    exact Directory.mem_names_iff
  have sorted : ((catalog.heldBy database).names.mergeSort
      fun first second => decide (first ≤ second)).Pairwise (· ≤ ·) := by
    apply (List.pairwise_mergeSort _ _ _).imp
    · intro first second ordered
      exact of_decide_eq_true ordered
    · intro first second third
      simpa using le_trans
    · intro first second
      simpa using le_total first second
  apply congrArg Except.ok
  exact ((List.mergeSort_perm _ _).trans sameNames).eq_of_pairwise'
    sorted (increasing.imp le_of_lt)

/-- Seeding drops, creates and fills, whatever was there. -/
theorem seed_eq (represents : catalog.Represents ⟨true, contents⟩) (database name : String) :
    exists seeded,
      Contact.seed catalog database name = .ok (3, seeded) ∧
        seeded.Represents ⟨true, contents.insert (database, name) Contact.seedDocuments⟩ := by
  rcases represents.dropCollection_eq database name with ⟨dropped, drops, isDropped⟩
  have created := isDropped.set database name []
  have filled := created.set database name Contact.seedDocuments
  have overwritten : ((contents.erase (database, name)).insert (database, name) []).insert
      (database, name) Contact.seedDocuments =
        contents.insert (database, name) Contact.seedDocuments := by
    rw [Finmap.insert_insert]
    apply Finmap.ext_lookup
    intro key
    by_cases same : key = (database, name)
    · rw [same, Finmap.lookup_insert, Finmap.lookup_insert]
    · rw [Finmap.lookup_insert_of_ne _ same, Finmap.lookup_insert_of_ne _ same,
        Finmap.lookup_erase_ne same]
  rw [overwritten] at filled
  refine ⟨_, ?_, filled⟩
  have creates := isDropped.createCollection_eq database name
  rw [Finmap.lookup_erase] at creates
  have inserts := created.insertMany_eq database name Contact.seedDocuments
  rw [Finmap.lookup_insert] at inserts
  rw [Contact.seed, drops]
  change (dropped.createCollection database name >>= fun created =>
    created.2.insertMany database name Contact.seedDocuments) = _
  rw [creates]
  exact inserts

end Represents

/-! ## Runs -/

/-- The reference of a store expects its answer, and it is the reference of the store afterwards. -/
theorem Represents.perform {catalog : Catalog} {reference : Reference}
    (represents : catalog.Represents reference) (operation : Operation) :
    (catalog.perform operation).1 = (reference.perform operation).1 ∧
      (catalog.perform operation).2.Represents (reference.perform operation).2 := by
  rcases reference with ⟨running, contents⟩
  cases running with
  | false =>
      have refused := perform_of_stopped represents.running operation
      cases operation with
      | stop => exact ⟨rfl, represents.of_stop⟩
      | _ =>
          rw [refused]
          exact ⟨rfl, represents⟩
  | true =>
      cases operation with
      | create database name =>
          rw [Catalog.perform, represents.createCollection_eq, Reference.perform]
          cases contents.lookup (database, name) with
          | none => exact ⟨rfl, represents.set database name []⟩
          | some documents => exact ⟨rfl, represents⟩
      | drop database name =>
          rcases represents.dropCollection_eq database name with ⟨dropped, drops, isDropped⟩
          rw [Catalog.perform, drops]
          exact ⟨rfl, isDropped⟩
      | insert database name documents =>
          rw [Catalog.perform, represents.insertMany_eq, Reference.perform]
          cases contents.lookup (database, name) with
          | none => exact ⟨rfl, represents⟩
          | some earlier => exact ⟨rfl, represents.set database name (earlier ++ documents)⟩
      | seed database name =>
          rcases represents.seed_eq database name with ⟨seeded, seeds, isSeeded⟩
          rw [Catalog.perform, seeds]
          exact ⟨rfl, isSeeded⟩
      | collection database name =>
          rw [Catalog.perform, represents.collection_eq, Reference.perform]
          cases contents.lookup (database, name) with
          | none => exact ⟨rfl, represents⟩
          | some documents => exact ⟨rfl, represents⟩
      | names database =>
          rw [Catalog.perform, represents.collectionNames_eq]
          exact ⟨rfl, represents⟩
      | find database name predicate =>
          rw [Catalog.perform, represents.collection_eq, Reference.perform]
          cases contents.lookup (database, name) with
          | none => exact ⟨rfl, represents⟩
          | some documents => exact ⟨rfl, represents⟩
      | stop => exact ⟨rfl, represents.of_stop⟩

theorem running_act_of_stopped {session : Session Catalog}
    (stopped : session.store.running = false) (action : Action) :
    (session.act perform action).2.store.running = false := by
  cases action with
  | ask operation =>
      rw [Session.act, perform_of_stopped stopped]
      cases operation <;> exact stopped
  | reread index =>
      rw [Session.act]
      split <;> exact stopped
  | query index predicate =>
      rw [Session.act]
      split <;> exact stopped

theorem running_after_of_stopped {session : Session Catalog}
    (stopped : session.store.running = false) (actions : List Action) :
    (session.after perform actions).store.running = false := by
  induction actions generalizing session with
  | nil => exact stopped
  | cons action rest ih => exact ih (running_act_of_stopped stopped action)

/--
Every run is answered as the reference expects.  After a stop, whatever happens next, every
operation but another stop is refused.  A collection that was obtained stays what it was, whatever
happens next.
-/
theorem store_refines_reference :
    (forall actions,
      (Session.start start).answers perform actions =
        (Session.start Reference.start).answers Reference.perform actions) ∧
    (forall (session : Session Catalog) actions operation, operation ≠ .stop ->
      (((session.act perform (.ask .stop)).2.after perform actions).act perform
        (.ask operation)).1 = .refused .notRunning) ∧
    forall (session : Session Catalog) index collection,
      session.obtained[index]? = some collection -> forall actions,
        ((session.after perform actions).act perform (.reread index)).1 = .collection collection ∧
        forall predicate,
          ((session.after perform actions).act perform (.query index predicate)).1 =
            .ofOutcome .documents (collection.find predicate) := by
  refine ⟨?_, ?_, ?_⟩
  · intro actions
    exact Session.answers_eq_of_simulates
      (fun represents operation => represents.perform operation) Represents.of_start [] actions
  · intro session actions operation different
    have stopsHere : (session.act perform (.ask .stop)).2.store.running = false :=
      session.store.running_stop
    have stopped := running_after_of_stopped stopsHere actions
    rw [Session.act, perform_of_stopped stopped]
    cases operation with
    | stop => exact absurd rfl different
    | _ => rfl
  · intro session index collection held actions
    have stillHeld := Session.obtained_after perform held actions
    constructor
    · rw [Session.act, stillHeld]
    · intro predicate
      rw [Session.act, stillHeld]

end Catalog
end Store
end ContactSearch
