import Mathlib.Control.Monad.Basic
import ContactSearch.Proofs.Store.Selection

namespace ContactSearch
namespace Store

/-!
# Finding and inserting

To find documents a predicate is first made ready, which only a script can fail
to be, and the outcome does not depend on any document.  What results is a test
of single documents.  From there on clauses and scripts are treated alike: the
documents are tested one by one, and the first one without an answer settles the
outcome.

Documents that are inserted later stand behind those that are there.  So finding
in the grown collection is finding in the old one, and then in the new documents
alone; if the former fails, the latter is not reached.  It makes no difference
how the documents were divided into batches.
-/

namespace Collection

/-! ## Selecting among more documents -/

section Selecting

variable {ε : Type} {test : Document -> Except ε Bool}

/-- Documents behind others are selected after these. -/
theorem select_append (front behind : List Document) :
    select test (front ++ behind) = (do
      let earlier ← select test front
      let later ← select test behind
      return earlier ++ later) := by
  induction front with
  | nil =>
      rw [List.nil_append, select]
      cases select test behind <;> rfl
  | cons document front ih =>
      rw [List.cons_append, select, select, ih, bind_assoc]
      congr 1
      funext passed
      cases passed <;> simp

theorem select_flatten (batches : List (List Document)) :
    select test batches.flatten = (batches.mapM (select test)).map List.flatten := by
  induction batches with
  | nil => rfl
  | cons batch batches ih =>
      rw [List.flatten_cons, select_append, ih, List.mapM_cons]
      cases select test batch with
      | error fault => rfl
      | ok earlier => cases batches.mapM (select test) <;> rfl

/-- What has been selected is selected again. -/
theorem select_of_select {documents found : List Document}
    (succeeded : select test documents = .ok found) : select test found = .ok found := by
  rcases select_eq_ok_iff.mp succeeded with ⟨answered, rfl⟩
  apply select_eq_ok_iff.mpr
  constructor
  · intro document member
    exact answered document (List.mem_filter.mp member).1
  · exact (List.filter_eq_self.mpr fun document member => (List.mem_filter.mp member).2).symm

end Selecting

/-! ## Finding -/

theorem find_withDocuments (collection : Collection) (predicate : Predicate)
    (more : List Document) (name : String) :
    (collection.withDocuments more).find predicate = (do
      let earlier ← collection.find predicate
      let later ← (Collection.mk name more).find predicate
      return earlier ++ later) := by
  simp only [find_eq_select, withDocuments, select_append]
  cases predicate.prepare <;> rfl

/-- The collection that is built by inserting batches in turn. -/
def ofBatches (name : String) (batches : List (List Document)) : Collection :=
  batches.foldl withDocuments (named name)

theorem documents_ofBatches (name : String) (batches : List (List Document)) :
    (ofBatches name batches).documents = batches.flatten := by
  have grown (collection : Collection) : (batches.foldl withDocuments collection).documents =
      collection.documents ++ batches.flatten := by
    induction batches generalizing collection with
    | nil => exact (List.append_nil collection.documents).symm
    | cons batch batches ih =>
        rw [List.foldl_cons, ih, withDocuments, List.flatten_cons, List.append_assoc]
  exact grown (named name)

end Collection

/--
Finding is compatible with inserting.  A predicate that is not ready is a script that cannot be
read, and fails alike on every collection.  Any other predicate is a test of single documents.  In a
collection that was built in batches it succeeds exactly if there is an answer for every document,
and what is found are the documents that pass, in the order of their insertion, as it is when each
batch is searched alone.  Finding among them again finds the same.  Otherwise it fails as the first
document without an answer does.  With more documents inserted, finding is finding first among the
earlier documents and then among the later ones alone, so a failure stays what it is.
-/
theorem find_compatible_with_insertion (predicate : Predicate) :
    (forall fault, predicate.prepare = .error fault <->
      exists source cause, predicate = .script source ∧
        Script.Expression.parse source = .error cause ∧ fault = .script cause) ∧
    (forall fault, predicate.prepare = .error fault ->
      forall collection : Collection, collection.find predicate = .error fault) ∧
    (forall test, predicate.prepare = .ok test ->
      forall (name : String) (batches : List (List Document)),
        let collection := Collection.ofBatches name batches
        ((exists found, collection.find predicate = .ok found) <->
          forall document, document ∈ batches.flatten ->
            exists passed, test document = .ok passed) ∧
        (forall found, collection.find predicate = .ok found ->
          found = batches.flatten.filter (Collection.passes test) ∧
            forall other, (Collection.mk other found).find predicate = .ok found) ∧
        (forall fault, collection.find predicate = .error fault <->
          exists before document after, batches.flatten = before ++ document :: after ∧
            (forall earlier, earlier ∈ before -> exists passed, test earlier = .ok passed) ∧
            test document = .error fault) ∧
        collection.find predicate =
          (batches.mapM fun batch => (Collection.mk name batch).find predicate).map
            List.flatten) ∧
    (forall (collection : Collection) (more : List Document) (other : String),
      (collection.withDocuments more).find predicate = (do
        let earlier ← collection.find predicate
        let later ← (Collection.mk other more).find predicate
        return earlier ++ later) ∧
      forall fault, collection.find predicate = .error fault ->
        (collection.withDocuments more).find predicate = .error fault) := by
  refine ⟨fun _ => Predicate.prepare_eq_error_iff, fun _ => Collection.find_of_unready, ?_, ?_⟩
  · intro test ready name batches collection
    have inserted : collection.documents = batches.flatten :=
      Collection.documents_ofBatches name batches
    simp only [Collection.find_of_ready ready, inserted]
    refine ⟨Collection.exists_select_iff, ?_, fun _ => Collection.select_eq_error_iff,
      Collection.select_flatten batches⟩
    intro found succeeded
    exact ⟨(Collection.select_eq_ok_iff.mp succeeded).2,
      fun _ => Collection.select_of_select succeeded⟩
  · intro collection more other
    have grown := collection.find_withDocuments predicate more other
    refine ⟨grown, fun fault fails => ?_⟩
    rw [grown, fails]
    rfl

/-- A script that needs one object in another. -/
def nestedSource : String :=
  "this.a.b == \"x\""

/-- What it is read as. -/
def nestedExpression : Script.Expression :=
  ⟨nestedSource, .equality .equal (.member (.member .this "a") "b") (.literal (.string "x"))⟩

/-- A script that ends where a name is expected. -/
def endedSource : String := "this."

theorem find_compatible_with_insertion_nested :
    let ended : Fault := .script (.malformed (.unexpectedEnd .afterDot 5))
    let passing := Document.ofEntries [("a", .object [("b", .string "x")])]
    let other := Document.ofEntries [("a", .object [])]
    let missing : Fault := .script (.failed (.unreadable "b" "undefined"))
    let test := Collection.testScript nestedExpression
    (Predicate.script endedSource).prepare = .error ended ∧
      (Collection.named "none").find (.script endedSource) = .error ended ∧
      (Predicate.script nestedSource).prepare = .ok test ∧
      (Collection.ofBatches "all" [[passing, other], [], [passing]]).find (.script nestedSource) =
        .ok [passing, passing] ∧
      (Collection.mk "found" [passing, passing]).find (.script nestedSource) =
        .ok [passing, passing] ∧
      (Collection.ofBatches "all" [[passing], [.empty]]).find (.script nestedSource) =
        .error missing ∧
      ((Collection.ofBatches "all" [[passing], [.empty]]).withDocuments [passing]).find
        (.script nestedSource) = .error missing := by
  intro ended passing other missing test
  have unready : (Predicate.script endedSource).prepare = .error ended := by
    have refused : Script.Tree.parse endedSource = .error (.unexpectedEnd .afterDot 5) := by
      decide +kernel
    rw [Predicate.prepare, Script.Expression.parse, refused]
    rfl
  have ready : (Predicate.script nestedSource).prepare = .ok test := by
    have read : Script.Tree.parse nestedSource = .ok nestedExpression.tree := by decide +kernel
    rw [Predicate.prepare, Script.Expression.parse, read]
    rfl
  have alike := (find_compatible_with_insertion (.script endedSource)).2.1 ended unready
  rcases find_compatible_with_insertion (.script nestedSource) with ⟨_, _, prepared, grown⟩
  rcases prepared test ready "all" [[passing, other], [], [passing]] with ⟨answers, kept, _⟩
  have answered : forall document, document ∈ [passing, other, passing] ->
      exists passed, test document = .ok passed := by
    have positive : exists passed, test passing = .ok passed := ⟨true, rfl⟩
    have negative : exists passed, test other = .ok passed := ⟨false, rfl⟩
    exact List.forall_mem_cons.mpr ⟨positive,
      List.forall_mem_cons.mpr ⟨negative, List.forall_mem_singleton.mpr positive⟩⟩
  rcases answers.mpr answered with ⟨found, succeeded⟩
  rcases kept found succeeded with ⟨rfl, again⟩
  rcases prepared test ready "all" [[passing], [.empty]] with ⟨_, _, fails, _⟩
  have failed := (fails missing).mpr ⟨[passing], .empty, [], rfl,
    List.forall_mem_singleton.mpr ⟨true, rfl⟩, rfl⟩
  exact ⟨unready, alike (.named "none"), ready, succeeded, again "found", failed,
    (grown _ [passing] "later").2 missing failed⟩

end Store
end ContactSearch
