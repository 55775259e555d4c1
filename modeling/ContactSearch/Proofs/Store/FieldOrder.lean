import Mathlib.Data.List.Forall2
import ContactSearch.Proofs.Script.Reordering
import ContactSearch.Proofs.Store.Selection

namespace ContactSearch
namespace Store

/-!
# Queries do not see the order of fields

Documents are reordered when the keys of their objects are, at any depth; the
order of the fields themselves is the outermost case.  A clause and a script
give the same answer on a reordered document.  A selection settles its
documents one by one, so two collections of documents that correspond in this
way, place by place, have the same places selected, or are refused with the
fault of the same place.  What is returned is not the same: it has the order
of fields of the collection that it comes from.
-/

/-- The documents that differ only in the order of keys, at any depth. -/
def Document.Reordered (left right : Document) : Prop :=
  left.toJson.Reordered right.toJson

/-- What is found at some places of a list; the places rise and lie within the list. -/
structure SelectedAt (places : List Nat) (documents found : List Document) : Prop where
  rising : places.Sublist (List.range documents.length)
  found_eq : found = places.filterMap fun place => documents[place]?

/-- What is found at the same places of two lists. -/
def SameSelection (left right found found' : List Document) : Prop :=
  exists places, SelectedAt places left found ∧ SelectedAt places right found'

namespace SelectedAt

variable {places : List Nat} {document : Document} {documents found : List Document}

theorem nothing : SelectedAt [] [] [] :=
  ⟨.slnil, rfl⟩

/-- Another document in front moves the places by one. -/
theorem filterMap_succ (places : List Nat) (document : Document) (documents : List Document) :
    (places.map Nat.succ).filterMap (fun place => (document :: documents)[place]?) =
      places.filterMap fun place => documents[place]? := by
  rw [List.filterMap_map]
  rfl

theorem skipped (selected : SelectedAt places documents found) (document : Document) :
    SelectedAt (places.map Nat.succ) (document :: documents) found := by
  constructor
  · rw [List.length_cons, List.range_succ_eq_map]
    exact (selected.rising.map Nat.succ).cons 0
  · rw [filterMap_succ]
    exact selected.found_eq

theorem kept (selected : SelectedAt places documents found) (document : Document) :
    SelectedAt (0 :: places.map Nat.succ) (document :: documents) (document :: found) := by
  constructor
  · rw [List.length_cons, List.range_succ_eq_map]
    exact (selected.rising.map Nat.succ).cons_cons 0
  · rw [List.filterMap_cons, filterMap_succ, <- selected.found_eq]
    rfl

end SelectedAt

/-- Two lists of documents on which a test answers alike have the same places selected. -/
theorem Collection.select_corresponds {ε : Type} {test : Document -> Except ε Bool}
    {left right : List Document}
    (alike : List.Forall₂ (fun first second => test first = test second) left right) :
    Corresponds Eq (SameSelection left right) (select test left) (select test right) := by
  induction alike with
  | nil => exact .result ⟨[], .nothing, .nothing⟩
  | @cons first second left right same _ ih =>
      rw [select, select, same]
      refine (Corresponds.refl (test second)).bind fun passed _ answered => ?_
      cases answered
      refine ih.bind fun found found' => ?_
      rintro ⟨places, lefts, rights⟩
      cases passed with
      | true => exact .result ⟨_, lefts.kept first, rights.kept second⟩
      | false => exact .result ⟨_, lefts.skipped first, rights.skipped second⟩

section Answers

variable {document document' : Document} (reordered : document.Reordered document')
include reordered

theorem Clause.matches_eq_of_reordered {clause clause' : Clause}
    (field : clause.field = clause'.field) (value : clause.value.Reordered clause'.value) :
    clause.matches document = clause'.matches document' := by
  rw [Clause.matches, Clause.matches, field]
  have held : Option.Rel Json.Reordered (document.get? clause'.field)
      (document'.get? clause'.field) := Json.Reordered.values reordered clause'.field
  generalize document.get? clause'.field = left at held ⊢
  generalize document'.get? clause'.field = right at held ⊢
  cases held with
  | none => rfl
  | some same => exact same.equals_eq value

theorem Predicate.matchesAll_eq_of_reordered (clauses : List Clause) :
    matchesAll clauses document = matchesAll clauses document' := by
  rw [matchesAll, matchesAll]
  congr 1
  funext clause
  exact Clause.matches_eq_of_reordered reordered rfl (.refl _)

theorem Collection.testScript_eq_of_reordered (expression : Script.Expression) :
    testScript expression document = testScript expression document' := by
  rw [testScript, testScript, Script.Expression.test_eq_of_reordered reordered]

theorem Predicate.answer_eq_of_reordered {predicate : Predicate}
    {test : Document -> Except Fault Bool} (ready : predicate.prepare = .ok test) :
    test document = test document' := by
  cases predicate with
  | fields clauses =>
      cases ready
      exact congrArg Except.ok (matchesAll_eq_of_reordered reordered clauses)
  | script source =>
      rcases map_eq_ok_iff.mp ready with ⟨expression, _, rfl⟩
      exact Collection.testScript_eq_of_reordered reordered expression

end Answers

theorem Collection.find_corresponds {left right : Collection}
    (reordered : List.Forall₂ Document.Reordered left.documents right.documents)
    (predicate : Predicate) :
    Corresponds Eq (SameSelection left.documents right.documents)
      (left.find predicate) (right.find predicate) := by
  cases ready : predicate.prepare with
  | error fault =>
      rw [find_of_unready ready, find_of_unready ready]
      exact .fault rfl
  | ok test =>
      rw [find_of_ready ready, find_of_ready ready]
      exact select_corresponds (reordered.imp fun _ _ same =>
        Predicate.answer_eq_of_reordered same ready)

/--
The order of keys, at any depth, never affects a query.  An expression on a reordered document fails
alike or has a reordered value, and its test gives the same answer.  A clause with a reordered value
gives the same answer on a reordered document.  In collections whose documents are reordered, each
in its place, a predicate fails alike or selects the same places.
-/
theorem field_order_irrelevant :
    (forall (expression : Script.Expression) (document document' : Json),
      document.Reordered document' ->
        Corresponds Eq Script.Value.Reordered (expression.evaluate document)
          (expression.evaluate document') ∧
        expression.test document = expression.test document') ∧
    (forall (clause clause' : Clause) (document document' : Document),
      clause.field = clause'.field -> clause.value.Reordered clause'.value ->
        document.Reordered document' -> clause.matches document = clause'.matches document') ∧
    (forall (predicate : Predicate) (left right : Collection),
      List.Forall₂ Document.Reordered left.documents right.documents ->
        Corresponds Eq (SameSelection left.documents right.documents)
          (left.find predicate) (right.find predicate)) := by
  refine ⟨?_, ?_, ?_⟩
  · intro expression document document' reordered
    exact ⟨expression.evaluate_corresponds reordered, expression.test_eq_of_reordered reordered⟩
  · intro clause clause' document document' field value reordered
    exact Clause.matches_eq_of_reordered reordered field value
  · intro predicate left right reordered
    exact Collection.find_corresponds reordered predicate

/-- The entries of an object. -/
def placeEntries : List (String × Json) :=
  [("city", .string "Porto"), ("zip", .integer 4000)]

/-- A document of two fields, one of them an object. -/
def asEntered : Document :=
  ⟨⟨[("place", .object placeEntries), ("active", .bool true)], by decide⟩⟩

/-- The same document with both levels turned round. -/
def turnedRound : Document :=
  ⟨⟨[("active", .bool true), ("place", .object placeEntries.reverse)], by decide⟩⟩

theorem field_order_irrelevant_turnedRound :
    let expression : Script.Expression := ⟨"this.place", .member .this "place"⟩
    let clause : Clause := ⟨"place", .object placeEntries⟩
    let clause' : Clause := ⟨"place", .object placeEntries.reverse⟩
    let left : Collection := ⟨"left", [.empty, asEntered]⟩
    let right : Collection := ⟨"right", [.empty, turnedRound]⟩
    asEntered.Reordered turnedRound ∧
    Corresponds Eq Script.Value.Reordered (expression.evaluate asEntered.toJson)
      (expression.evaluate turnedRound.toJson) ∧
    expression.test turnedRound.toJson = .ok true ∧
    clause.matches asEntered = clause'.matches turnedRound ∧
    Corresponds Eq (SameSelection left.documents right.documents)
      (left.find (.fields [clause])) (right.find (.fields [clause])) := by
  intro expression clause clause' left right
  have place : Json.Reordered (.object placeEntries) (.object placeEntries.reverse) :=
    .entries (by decide) (.swap _ _ _)
  have fields : Json.Reordered asEntered.toJson
      (.object [("active", .bool true), ("place", .object placeEntries)]) :=
    .entries (by decide) (.swap _ _ _)
  have reordered : asEntered.Reordered turnedRound :=
    fields.trans (place.entry [("active", .bool true)] [] "place")
  have documents : List.Forall₂ Document.Reordered left.documents right.documents :=
    .cons (.refl _) (.cons reordered .nil)
  rcases field_order_irrelevant.1 expression asEntered.toJson turnedRound.toJson reordered with
    ⟨values, answers⟩
  have matched := field_order_irrelevant.2.1 clause clause' asEntered turnedRound rfl place
    reordered
  have found := field_order_irrelevant.2.2 (.fields [clause]) left right documents
  exact ⟨reordered, values, answers.symm.trans rfl, matched, found⟩

end Store
end ContactSearch
