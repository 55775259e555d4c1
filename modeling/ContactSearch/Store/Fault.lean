import ContactSearch.Script.Evaluation

namespace ContactSearch
namespace Store

/-!
# Why the store refuses

Scripts fail with their own faults.  Queries are refused with a reason, and
the store itself knows two obstacles: it may have been stopped, and a
collection may not exist.
-/

/-- Why a query has no predicate, or not the expected one. -/
inductive QueryFault where
  | notAnObject (kind : String)
  | scriptNotText (kind : String)
  | scriptWithFields
  | unsupportedOperator (field : String)
  | operatorValue (field : String)
  | scriptNotExpected
  | wrongClauses (expected found distinct : Nat)
  deriving DecidableEq

/-- Why an operation of the store fails. -/
inductive Fault where
  | script (fault : Script.ScriptFault)
  | invalidQuery (fault : QueryFault)
  | unreadableText
  | collectionNotFound (database collection : String)
  | notRunning
  deriving DecidableEq

/-- The wording of a refused query. -/
def QueryFault.message : QueryFault -> String
  | .notAnObject kind => "query text must be a JSON object, found " ++ kind
  | .scriptNotText kind => "$where expects a string, found " ++ kind
  | .scriptWithFields => "$where cannot be combined with field criteria"
  | .unsupportedOperator field => "unsupported top-level operator " ++ field
  | .operatorValue field => "operator expressions are not supported for field " ++ field
  | .scriptNotExpected => "expected a structured predicate, found $where"
  | .wrongClauses expected found distinct =>
      "expected " ++ Decimal.natText expected ++ " distinct field clauses, found " ++
        Decimal.natText found ++ " (" ++ Decimal.natText distinct ++ " distinct)"

/-- The wording of a failed operation. -/
def Fault.message : Fault -> String
  | .script fault => "$where evaluation failed: " ++ fault.message
  | .invalidQuery fault => "Invalid query: " ++ fault.message
  | .unreadableText => "Serialization error"
  | .collectionNotFound database collection =>
      "Collection not found: " ++ database ++ "." ++ collection
  | .notRunning => "Store is not running"

/-- Whether a script is what failed. -/
def Fault.isScript : Fault -> Bool
  | .script _ => true
  | _ => false

end Store
end ContactSearch
