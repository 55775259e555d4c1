import ContactSearch.Proofs.Outcome
import ContactSearch.Store.Collection

namespace ContactSearch
namespace Store
namespace Collection

/-!
# Selecting documents by a test that may fail

A selection is settled document by document, from the front.  It succeeds
exactly when the test has an answer for every document, and then it keeps
those that pass.  It fails exactly with what the first document without an
answer fails with; the documents behind that one make no difference.

Every predicate is run in this way once it is ready.  Only a script can fail to
be, and whether it does has nothing to do with the documents.
-/

variable {ε : Type} {test : Document -> Except ε Bool} {documents : List Document}

/-- Whether a document passes a test; a test without an answer is not passed. -/
def passes (test : Document -> Except ε Bool) (document : Document) : Bool :=
  match test document with
  | .ok passed => passed
  | .error _ => false

/-- The documents whose answers are positive; there is an answer for each. -/
def keptBy (documents : List Document) (answers : List Bool) : List Document :=
  ((documents.zip answers).filter Prod.snd).map Prod.fst

theorem keptBy_cons (document : Document) (passed : Bool) (answers : List Bool) :
    keptBy (document :: documents) (passed :: answers) =
      if passed then document :: keptBy documents answers else keptBy documents answers := by
  cases passed <;> rfl

theorem keptBy_map (kept : Document -> Bool) (documents : List Document) :
    keptBy documents (documents.map kept) = documents.filter kept := by
  induction documents with
  | nil => rfl
  | cons document documents ih => rw [List.map_cons, keptBy_cons, List.filter_cons, ih]

/-- Tests come first, one for each document, and what they keep is read off the answers. -/
theorem select_eq_mapM (test : Document -> Except ε Bool) (documents : List Document) :
    select test documents = (documents.mapM test).map (keptBy documents) := by
  induction documents with
  | nil => rfl
  | cons document documents ih =>
      rw [select, List.mapM_cons, ih]
      cases test document with
      | error fault => rfl
      | ok passed =>
          cases documents.mapM test with
          | error fault => rfl
          | ok answers => exact congrArg Except.ok (keptBy_cons document passed answers).symm

theorem select_of_settled {kept : Document -> Bool}
    (settled : forall document, document ∈ documents -> test document = .ok (kept document)) :
    select test documents = .ok (documents.filter kept) := by
  rw [select_eq_mapM, mapM_of_answered settled, Except.map, keptBy_map]

/-- A selection fails with the fault of the first document that has no answer. -/
theorem select_eq_error_iff {fault : ε} :
    select test documents = .error fault <->
      exists before document after, documents = before ++ document :: after ∧
        (forall earlier, earlier ∈ before -> exists passed, test earlier = .ok passed) ∧
        test document = .error fault := by
  rw [select_eq_mapM, map_eq_error_iff, mapM_eq_error_iff]

theorem answered_of_select {found : List Document}
    (succeeded : select test documents = .ok found) :
    forall document, document ∈ documents -> exists passed, test document = .ok passed := by
  rw [select_eq_mapM] at succeeded
  rcases map_eq_ok_iff.mp succeeded with ⟨answers, tested, _⟩
  exact answered_of_mapM tested

/-- A selection succeeds when every document has an answer. -/
theorem select_eq_ok_iff {found : List Document} :
    select test documents = .ok found <->
      (forall document, document ∈ documents -> exists passed, test document = .ok passed) ∧
        found = documents.filter (passes test) := by
  have kept (answered : forall document, document ∈ documents ->
      exists passed, test document = .ok passed) :
      select test documents = .ok (documents.filter (passes test)) := by
    apply select_of_settled
    intro document member
    rcases answered document member with ⟨passed, answer⟩
    rw [passes, answer]
  constructor
  · intro succeeded
    have answered := answered_of_select succeeded
    refine ⟨answered, ?_⟩
    exact Except.ok.inj (succeeded.symm.trans (kept answered))
  · rintro ⟨answered, rfl⟩
    exact kept answered

theorem exists_select_iff :
    (exists found, select test documents = .ok found) <->
      forall document, document ∈ documents -> exists passed, test document = .ok passed := by
  constructor
  · rintro ⟨found, succeeded⟩
    exact answered_of_select succeeded
  · intro answered
    exact ⟨_, select_eq_ok_iff.mpr ⟨answered, rfl⟩⟩

end Collection

/-! ## Predicates as tests -/

/-- The test of single documents that a predicate amounts to, once it is ready. -/
def Predicate.prepare : Predicate -> Except Fault (Document -> Except Fault Bool)
  | .fields clauses => .ok fun document => .ok (matchesAll clauses document)
  | .script source =>
      ((Script.Expression.parse source).mapError .script).map Collection.testScript

theorem Predicate.prepare_eq_error_iff {predicate : Predicate} {fault : Fault} :
    predicate.prepare = .error fault <->
      exists source cause, predicate = .script source ∧
        Script.Expression.parse source = .error cause ∧ fault = .script cause := by
  cases predicate with
  | fields clauses => exact ⟨nofun, nofun⟩
  | script source =>
      rw [prepare, map_eq_error_iff, mapError_eq_error_iff]
      constructor
      · rintro ⟨cause, parsed, rfl⟩
        exact ⟨source, cause, rfl, parsed, rfl⟩
      · rintro ⟨_, cause, same, parsed, rfl⟩
        cases same
        exact ⟨cause, parsed, rfl⟩

theorem Collection.find_eq_select (collection : Collection) (predicate : Predicate) :
    collection.find predicate =
      predicate.prepare >>= fun test => select test collection.documents := by
  cases predicate with
  | fields clauses => exact (select_of_settled fun _ _ => rfl).symm
  | script source =>
      rw [find, Predicate.prepare]
      cases Script.Expression.parse source <;> rfl

theorem Collection.find_of_unready {predicate : Predicate} {fault : Fault}
    (unready : predicate.prepare = .error fault) (collection : Collection) :
    collection.find predicate = .error fault := by
  rw [find_eq_select, unready]
  rfl

theorem Collection.find_of_ready {predicate : Predicate} {test : Document -> Except Fault Bool}
    (ready : predicate.prepare = .ok test) (collection : Collection) :
    collection.find predicate = select test collection.documents := by
  rw [find_eq_select, ready]
  rfl

end Store
end ContactSearch
