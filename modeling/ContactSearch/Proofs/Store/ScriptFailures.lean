import ContactSearch.Proofs.Outcome
import ContactSearch.Proofs.Script.Bounds
import ContactSearch.Proofs.Store.Selection

namespace ContactSearch

/-!
# When scripts fail

A script that has been read is not malformed any more, so what is left are the
faults of evaluation.  A name is reported as undefined only if it occurs in the
tree and does not refer to the document.  The other faults come from accesses:
a property is read of what has none, or the key is of a wrong type.

Trees that access nothing but the fields of the document itself have neither.
The document is an object, and every field of an object can be read, whether it
is there or not.  So they have a value on every document, and a search by one of
them never fails.
-/

namespace Script

/-! ## Faults of evaluation -/

theorem readProperty_ne_undefinedName {target : Value} {property name : String} :
    readProperty target property ≠ .error (.undefinedName name) := by
  intro fails
  cases target with
  | array items =>
      rw [readProperty] at fails
      split at fails <;> cases fails
  | string text =>
      rw [readProperty] at fails
      split at fails <;> cases fails
  | _ => cases fails

theorem keyProperty_ne_undefinedName {key : Value} {name : String} :
    keyProperty key ≠ .error (.undefinedName name) := by
  intro fails
  cases key with
  | number value =>
      rw [keyProperty] at fails
      split at fails <;> cases fails
  | _ => cases fails

namespace Tree

variable {document : Json}

theorem mem_nodes_left {root node : Tree} {left right : List Tree} (member : node ∈ left) :
    node ∈ root :: (left ++ right) :=
  List.mem_cons_of_mem root (List.mem_append_left right member)

theorem mem_nodes_right {root node : Tree} {left right : List Tree} (member : node ∈ right) :
    node ∈ root :: (left ++ right) :=
  List.mem_cons_of_mem root (List.mem_append_right left member)

/-- A name without a value occurs in the tree and does not refer to the document. -/
theorem mem_nodes_of_undefinedName {tree : Tree} {name : String}
    (fails : tree.evaluate document = .error (.undefinedName name)) :
    name ≠ documentAlias ∧ .identifier name ∈ tree.nodes := by
  induction tree with
  | literal value => cases fails
  | this => cases fails
  | identifier other =>
      rw [evaluate] at fails
      split at fails
      · cases fails
      · next different =>
          cases fails
          exact ⟨different, List.mem_singleton_self _⟩
  | member object property ih =>
      rcases bind_eq_error_iff.mp fails with inObject | ⟨target, _, reading⟩
      · exact (ih inObject).imp_right (List.mem_cons_of_mem _)
      · exact absurd reading readProperty_ne_undefinedName
  | index object key ih ih' =>
      rcases bind_eq_error_iff.mp fails with inObject | ⟨target, _, later⟩
      · exact (ih inObject).imp_right mem_nodes_left
      rcases bind_eq_error_iff.mp later with inKey | ⟨value, _, later⟩
      · exact (ih' inKey).imp_right mem_nodes_right
      rcases bind_eq_error_iff.mp later with converting | ⟨property, _, reading⟩
      · exact absurd converting keyProperty_ne_undefinedName
      · exact absurd reading readProperty_ne_undefinedName
  | not operand ih =>
      rcases bind_eq_error_iff.mp fails with inOperand | ⟨value, _, impossible⟩
      · exact (ih inOperand).imp_right (List.mem_cons_of_mem _)
      · cases impossible
  | equality operator left right ih ih' =>
      rcases bind_eq_error_iff.mp fails with inLeft | ⟨value, _, later⟩
      · exact (ih inLeft).imp_right mem_nodes_left
      rcases bind_eq_error_iff.mp later with inRight | ⟨other, _, impossible⟩
      · exact (ih' inRight).imp_right mem_nodes_right
      · cases impossible
  | and left right ih ih' =>
      rcases bind_eq_error_iff.mp fails with inLeft | ⟨value, _, later⟩
      · exact (ih inLeft).imp_right mem_nodes_left
      · split at later
        · exact (ih' later).imp_right mem_nodes_right
        · cases later
  | or left right ih ih' =>
      rcases bind_eq_error_iff.mp fails with inLeft | ⟨value, _, later⟩
      · exact (ih inLeft).imp_right mem_nodes_left
      · split at later
        · cases later
        · exact (ih' later).imp_right mem_nodes_right

/-! ## Trees without faults -/

/-- Whether a tree is a name of the document. -/
def isDocument : Tree -> Bool
  | .this => true
  | .identifier name => name == documentAlias
  | _ => false

/-- Whether a tree accesses nothing but fields of the document, by fixed names. -/
def isFlat : Tree -> Bool
  | .literal _ => true
  | .this => true
  | .identifier name => name == documentAlias
  | .member object _ => object.isDocument
  | .index object (.literal (.string _)) => object.isDocument
  | .index _ _ => false
  | .not operand => operand.isFlat
  | .equality _ left right => left.isFlat && right.isFlat
  | .and left right => left.isFlat && right.isFlat
  | .or left right => left.isFlat && right.isFlat

theorem evaluate_of_isDocument {tree : Tree} (names : tree.isDocument = true) :
    tree.evaluate document = .ok (.ofJson document) := by
  cases tree with
  | this => rfl
  | identifier name => exact if_pos (beq_iff_eq.mp names)
  | _ => cases names

variable {entries : List (String × Json)}

/-- A field of the document is read, or undefined. -/
theorem evaluate_member_of_isDocument {object : Tree} (names : object.isDocument = true)
    (property : String) :
    (member object property).evaluate (.object entries) =
      .ok (valueOrUndefined (Json.lookup property entries)) := by
  rw [evaluate, evaluate_of_isDocument names]
  rfl

theorem evaluate_index_of_isDocument {object : Tree} (names : object.isDocument = true)
    (property : String) :
    (index object (.literal (.string property))).evaluate (.object entries) =
      .ok (valueOrUndefined (Json.lookup property entries)) := by
  rw [evaluate, evaluate_of_isDocument names]
  rfl

/-- What joins flat trees has a value if they have, whichever of them are evaluated. -/
theorem exists_value_of_isFlat {tree : Tree} (flat : tree.isFlat = true) :
    exists value, tree.evaluate (.object entries) = .ok value := by
  induction tree with
  | literal value => exact ⟨value.toValue, rfl⟩
  | this => exact ⟨_, rfl⟩
  | identifier name => exact ⟨_, if_pos (beq_iff_eq.mp flat)⟩
  | member object property ih => exact ⟨_, evaluate_member_of_isDocument flat property⟩
  | index object key ih ih' =>
      cases key with
      | literal value =>
          cases value with
          | string property => exact ⟨_, evaluate_index_of_isDocument flat property⟩
          | _ => cases flat
      | _ => cases flat
  | not operand ih =>
      rcases ih flat with ⟨value, evaluated⟩
      rw [evaluate, evaluated]
      exact ⟨_, rfl⟩
  | equality operator left right ih ih' =>
      rcases Bool.and_eq_true_iff.mp flat with ⟨flatLeft, flatRight⟩
      rcases ih flatLeft with ⟨value, evaluated⟩
      rcases ih' flatRight with ⟨other, evaluated'⟩
      rw [evaluate, evaluated, evaluated']
      exact ⟨_, rfl⟩
  | and left right ih ih' =>
      rcases Bool.and_eq_true_iff.mp flat with ⟨flatLeft, flatRight⟩
      rcases ih flatLeft with ⟨value, evaluated⟩
      rw [evaluate, evaluated]
      cases decided : value.isTruthy with
      | true => exact (ih' flatRight).imp fun other evaluated' => (if_pos decided).trans evaluated'
      | false => exact ⟨value, if_neg (Bool.not_eq_true _ ▸ decided)⟩
  | or left right ih ih' =>
      rcases Bool.and_eq_true_iff.mp flat with ⟨flatLeft, flatRight⟩
      rcases ih flatLeft with ⟨value, evaluated⟩
      rw [evaluate, evaluated]
      cases decided : value.isTruthy with
      | true => exact ⟨value, if_pos decided⟩
      | false =>
          exact (ih' flatRight).imp fun other evaluated' =>
            (if_neg (Bool.not_eq_true _ ▸ decided)).trans evaluated'

end Tree

namespace Expression

variable {expression : Expression} {document : Json}

theorem evaluate_eq_error_iff {fault : ScriptFault} :
    expression.evaluate document = .error fault <->
      exists cause, expression.tree.evaluate document = .error cause ∧ fault = .failed cause := by
  have wrapped : expression.evaluate document =
      (expression.tree.evaluate document).mapError .failed := by
    rw [evaluate]
    cases expression.tree.evaluate document <;> rfl
  rw [wrapped, mapError_eq_error_iff]

/-- A test fails as the evaluation does. -/
theorem test_eq_error_iff {fault : ScriptFault} :
    expression.test document = .error fault <-> expression.evaluate document = .error fault := by
  rw [test, map_eq_error_iff]

theorem exists_value_of_isFlat (flat : expression.tree.isFlat = true)
    (entries : List (String × Json)) :
    exists value, expression.evaluate (.object entries) = .ok value := by
  have evaluated : exists value, expression.tree.evaluate (.object entries) = .ok value :=
    Tree.exists_value_of_isFlat flat
  rcases evaluated with ⟨value, same⟩
  exact ⟨value, by rw [evaluate, same]⟩

theorem exists_passed_of_isFlat (flat : expression.tree.isFlat = true)
    (entries : List (String × Json)) :
    exists passed, expression.test (.object entries) = .ok passed := by
  rcases exists_value_of_isFlat flat entries with ⟨value, evaluated⟩
  rw [test, evaluated]
  exact ⟨value.isTruthy, rfl⟩

end Expression
end Script

namespace Store

open Script

/-- A search by a flat script settles every document. -/
theorem Collection.find_script_of_isFlat {source : String} {expression : Expression}
    (parsed : Expression.parse source = .ok expression) (flat : expression.tree.isFlat = true)
    (collection : Collection) :
    collection.find (.script source) =
      .ok (collection.documents.filter (passes (testScript expression))) := by
  rw [find, parsed]
  apply select_eq_ok_iff.mpr
  refine ⟨fun document _ => ?_, rfl⟩
  rcases Expression.exists_passed_of_isFlat flat document.fields.entries with ⟨passed, answer⟩
  exact ⟨passed, by rw [testScript, Document.toJson, answer]⟩

/--
Evaluation and test of an expression never report malformed text.  A name that they report as
undefined is not the one that refers to the document, and occurs in the tree.  A flat expression has
a value on every object, and a search by a script that is read as a flat expression succeeds on
every collection.
-/
theorem script_fault_causes :
    (forall (expression : Expression) (document : Json) (fault : ScriptFault),
      expression.evaluate document = .error fault ∨ expression.test document = .error fault ->
        exists cause, fault = .failed cause ∧
          forall name, cause = .undefinedName name ->
            name ≠ documentAlias ∧ Tree.identifier name ∈ expression.tree.nodes) ∧
    (forall expression : Expression, expression.tree.isFlat = true ->
      forall entries : List (String × Json),
        (exists value, expression.evaluate (.object entries) = .ok value) ∧
        exists passed, expression.test (.object entries) = .ok passed) ∧
    (forall (source : String) (expression : Expression),
      Expression.parse source = .ok expression -> expression.tree.isFlat = true ->
        forall collection : Collection, collection.find (.script source) =
          .ok (collection.documents.filter
            (Collection.passes (Collection.testScript expression)))) := by
  refine ⟨?_, ?_, ?_⟩
  · intro expression document fault fails
    have evaluation : expression.evaluate document = .error fault :=
      fails.elim id Expression.test_eq_error_iff.mp
    rcases Expression.evaluate_eq_error_iff.mp evaluation with ⟨cause, failed, rfl⟩
    refine ⟨cause, rfl, ?_⟩
    rintro name rfl
    exact Tree.mem_nodes_of_undefinedName failed
  · intro expression flat entries
    exact ⟨Expression.exists_value_of_isFlat flat entries,
      Expression.exists_passed_of_isFlat flat entries⟩
  · intro source expression parsed flat collection
    exact Collection.find_script_of_isFlat parsed flat collection

/-- A script that joins flat accesses of each kind. -/
def flatSource : String :=
  "!this.a || obj[\"b\"] === \"x\" && this != null"

/-- What it is read as. -/
def flatExpression : Expression :=
  ⟨flatSource, .or (.not (.member .this "a"))
    (.and (.equality .strictEqual (.index (.identifier "obj") (.literal (.string "b")))
        (.literal (.string "x")))
      (.equality .notEqual .this (.literal .null)))⟩

/-- A comparison with a name that has no value. -/
def unboundExpression : Expression :=
  ⟨"this.a == owner", .equality .equal (.member .this "a") (.identifier "owner")⟩

theorem script_fault_causes_flatSource :
    unboundExpression.test (.object []) = .error (.failed (.undefinedName "owner")) ∧
      "owner" ≠ documentAlias ∧ Tree.identifier "owner" ∈ unboundExpression.tree.nodes ∧
      flatExpression.tree.isFlat = true ∧
      (exists value, flatExpression.evaluate (.object [("a", .bool true)]) = .ok value) ∧
      Expression.parse flatSource = .ok flatExpression ∧
      (Collection.mk "all" [.empty, .ofEntries [("a", .bool true)]]).find (.script flatSource) =
        .ok [.empty] := by
  have failed : unboundExpression.test (.object []) =
      .error (.failed (.undefinedName "owner")) := by decide +kernel
  rcases script_fault_causes.1 unboundExpression (.object []) _ (Or.inr failed) with
    ⟨cause, same, named⟩
  cases same
  have flat : flatExpression.tree.isFlat = true := by decide
  have read : Tree.parse flatSource = .ok flatExpression.tree := by decide +kernel
  have parsed : Expression.parse flatSource = .ok flatExpression := by
    rw [Expression.parse, read]
    rfl
  have evaluated := (script_fault_causes.2.1 flatExpression flat [("a", .bool true)]).1
  have found := script_fault_causes.2.2 flatSource flatExpression parsed flat
    ⟨"all", [.empty, .ofEntries [("a", .bool true)]]⟩
  exact ⟨failed, (named "owner" rfl).1, (named "owner" rfl).2, flat, evaluated, parsed, found⟩

end Store
end ContactSearch
