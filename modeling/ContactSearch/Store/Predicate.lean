import ContactSearch.Store.Document
import ContactSearch.Store.Fault

namespace ContactSearch
namespace Store

/-!
# Predicates

What a query comes down to: a script, or a conjunction of clauses that each
compare one field with a literal value.  No clause at all holds for every
document.

Containers in which a key stands once lose a clause silently when a field is
given twice.  The clause count makes that loss visible.
-/

/-- One comparison of a field with a literal value. -/
structure Clause where
  field : String
  value : Json

/-- Whether a document's field holds a value equal to the clause's. -/
def Clause.matches (clause : Clause) (document : Document) : Bool :=
  match document.get? clause.field with
  | some value => value.equals clause.value
  | none => false

/-- A query that is ready to run. -/
inductive Predicate where
  | script (source : String)
  | fields (clauses : List Clause)

namespace Predicate

/-- Whether the predicate is a script. -/
def isScript : Predicate -> Bool
  | .script _ => true
  | .fields _ => false

/-- The number of different fields among clauses. -/
def distinctFields (clauses : List Clause) : Nat :=
  (clauses.map Clause.field).eraseDups.length

/-- Check that a predicate has exactly the expected number of clauses, on different fields. -/
def ensureClauseCount (expected : Nat) : Predicate -> Except QueryFault Unit
  | .script _ => .error .scriptNotExpected
  | .fields clauses =>
      let distinct := distinctFields clauses
      if clauses.length = expected ∧ distinct = expected then .ok ()
      else .error (.wrongClauses expected clauses.length distinct)

/-- Whether all clauses hold for a document. -/
def matchesAll (clauses : List Clause) (document : Document) : Bool :=
  clauses.all fun clause => clause.matches document

end Predicate
end Store
end ContactSearch
