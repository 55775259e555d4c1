import Mathlib.Data.Finmap
import Mathlib.Data.Finset.Sort
import Mathlib.Data.String.Basic
import ContactSearch.Contact.Seed

namespace ContactSearch
namespace Store

/-!
# What a store is expected to answer

The reference for a store is a flag and a finite map.  The flag tells whether
the store is running, and the map has the documents of each collection under
its database and its name.  There are no databases apart from that, no order
of entries and no sharing.

Whoever uses a store also keeps the collections that were obtained from it.
They can be looked into at any time, also when the store has been stopped.
-/

/-- What a store can be asked to do. -/
inductive Operation where
  | create (database name : String)
  | drop (database name : String)
  | insert (database name : String) (documents : List Document)
  | seed (database name : String)
  | collection (database name : String)
  | names (database : String)
  | find (database name : String) (predicate : Predicate)
  | stop

inductive Answer where
  | collection (obtained : Collection)
  | existed (found : Bool)
  | count (inserted : Nat)
  | names (names : List String)
  | documents (documents : List Document)
  | stopped
  | refused (fault : Fault)
  | nothing

namespace Answer

/-- The answer that an outcome amounts to. -/
def ofOutcome {α : Type} (answer : α -> Answer) : Except Fault α -> Answer
  | .ok value => answer value
  | .error fault => .refused fault

/-- The collection that an answer hands out, if it does. -/
def obtained : Answer -> List Collection
  | .collection obtained => [obtained]
  | _ => []

end Answer

/-! ## The reference -/

abbrev Contents := Finmap fun _ : String × String => List Document

/-- The names in a database, each once and in increasing order. -/
def Contents.namesIn (contents : Contents) (database : String) : List String :=
  ((contents.keys.filter fun key => key.1 = database).image Prod.snd).sort

/-- A store as it is expected to be. -/
structure Reference where
  running : Bool
  contents : Contents

namespace Reference

def start : Reference :=
  ⟨true, ∅⟩

/-- What is expected of an operation, and the store afterwards. -/
def perform : Reference -> Operation -> Answer × Reference
  | _, .stop => (.stopped, ⟨false, ∅⟩)
  | ⟨false, contents⟩, _ => (.refused .notRunning, ⟨false, contents⟩)
  | ⟨true, contents⟩, .create database name =>
      match contents.lookup (database, name) with
      | some documents => (.collection ⟨name, documents⟩, ⟨true, contents⟩)
      | none => (.collection ⟨name, []⟩, ⟨true, contents.insert (database, name) []⟩)
  | ⟨true, contents⟩, .drop database name =>
      (.existed ((database, name) ∈ contents), ⟨true, contents.erase (database, name)⟩)
  | ⟨true, contents⟩, .insert database name documents =>
      match contents.lookup (database, name) with
      | some earlier =>
          (.count documents.length,
            ⟨true, contents.insert (database, name) (earlier ++ documents)⟩)
      | none => (.refused (.collectionNotFound database name), ⟨true, contents⟩)
  | ⟨true, contents⟩, .seed database name =>
      (.count 3, ⟨true, contents.insert (database, name) Contact.seedDocuments⟩)
  | ⟨true, contents⟩, .collection database name =>
      match contents.lookup (database, name) with
      | some documents => (.collection ⟨name, documents⟩, ⟨true, contents⟩)
      | none => (.refused (.collectionNotFound database name), ⟨true, contents⟩)
  | ⟨true, contents⟩, .names database => (.names (contents.namesIn database), ⟨true, contents⟩)
  | ⟨true, contents⟩, .find database name predicate =>
      match contents.lookup (database, name) with
      | some documents =>
          (.ofOutcome .documents (Collection.find ⟨name, documents⟩ predicate), ⟨true, contents⟩)
      | none => (.refused (.collectionNotFound database name), ⟨true, contents⟩)

end Reference

theorem Contents.pairwise_namesIn (contents : Contents) (database : String) :
    (contents.namesIn database).Pairwise (· < ·) :=
  (Finset.sortedLT_sort _).pairwise

theorem Contents.mem_namesIn_iff {contents : Contents} {database name : String} :
    name ∈ contents.namesIn database <-> (database, name) ∈ contents := by
  simp only [namesIn, Finset.mem_sort, Finset.mem_image, Finset.mem_filter, Finmap.mem_keys]
  constructor
  · rintro ⟨⟨_, _⟩, ⟨member, rfl⟩, rfl⟩
    exact member
  · intro member
    exact ⟨(database, name), ⟨member, rfl⟩, rfl⟩

/-! ## Use of a store -/

/-- What can be done with a store and the collections that were obtained from it. -/
inductive Action where
  | ask (operation : Operation)
  | reread (index : Nat)
  | query (index : Nat) (predicate : Predicate)

/-- A store in use, with the collections that were obtained so far. -/
structure Session (σ : Type) where
  store : σ
  obtained : List Collection

namespace Session

variable {σ τ : Type} (perform : σ -> Operation -> Answer × σ)

def start (store : σ) : Session σ :=
  ⟨store, []⟩

/-- What an action is answered, and the session afterwards. -/
def act (session : Session σ) : Action -> Answer × Session σ
  | .ask operation =>
      let (answer, store) := perform session.store operation
      (answer, ⟨store, session.obtained ++ answer.obtained⟩)
  | .reread index =>
      match session.obtained[index]? with
      | some collection => (.collection collection, session)
      | none => (.nothing, session)
  | .query index predicate =>
      match session.obtained[index]? with
      | some collection => (.ofOutcome .documents (collection.find predicate), session)
      | none => (.nothing, session)

def answers (session : Session σ) : List Action -> List Answer
  | [] => []
  | action :: rest => (session.act perform action).1 :: (session.act perform action).2.answers rest

def after (session : Session σ) (actions : List Action) : Session σ :=
  actions.foldl (fun current action => (current.act perform action).2) session

/-- Stores that answer alike, and stay alike, answer alike in every session. -/
theorem answers_eq_of_simulates {perform : σ -> Operation -> Answer × σ}
    {other : τ -> Operation -> Answer × τ} {Alike : σ -> τ -> Prop}
    (simulates : forall {store reference}, Alike store reference -> forall operation,
      (perform store operation).1 = (other reference operation).1 ∧
        Alike (perform store operation).2 (other reference operation).2)
    {store : σ} {reference : τ} (alike : Alike store reference) (obtained : List Collection)
    (actions : List Action) :
    (Session.mk store obtained).answers perform actions =
      (Session.mk reference obtained).answers other actions := by
  induction actions generalizing store reference obtained with
  | nil => rfl
  | cons action rest ih =>
      cases action with
      | ask operation =>
          rcases simulates alike operation with ⟨same, stillAlike⟩
          simp only [answers, act]
          rw [same, ih stillAlike]
      | reread index =>
          simp only [answers, act]
          cases obtained[index]? with
          | none => exact congrArg _ (ih alike obtained)
          | some collection => exact congrArg _ (ih alike obtained)
      | query index predicate =>
          simp only [answers, act]
          cases obtained[index]? with
          | none => exact congrArg _ (ih alike obtained)
          | some collection => exact congrArg _ (ih alike obtained)

theorem prefix_obtained_act (session : Session σ) (action : Action) :
    session.obtained <+: (session.act perform action).2.obtained := by
  cases action with
  | ask operation => exact List.prefix_append _ _
  | reread index =>
      rw [act]
      split <;> exact List.prefix_rfl
  | query index predicate =>
      rw [act]
      split <;> exact List.prefix_rfl

theorem prefix_obtained_after (session : Session σ) (actions : List Action) :
    session.obtained <+: (session.after perform actions).obtained := by
  induction actions generalizing session with
  | nil => exact List.prefix_rfl
  | cons action rest ih =>
      exact (session.prefix_obtained_act perform action).trans (ih (session.act perform action).2)

/-- A collection that was obtained is still there, as it was, after anything else. -/
theorem obtained_after {session : Session σ} {index : Nat} {collection : Collection}
    (held : session.obtained[index]? = some collection) (actions : List Action) :
    (session.after perform actions).obtained[index]? = some collection := by
  rcases session.prefix_obtained_after perform actions with ⟨later, grown⟩
  rw [← grown]
  exact List.getElem?_append_left (List.getElem?_eq_some_iff.mp held).1 ▸ held

end Session
end Store
end ContactSearch
