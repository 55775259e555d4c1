import ContactSearch.Script.Reading
import ContactSearch.Script.Value

namespace ContactSearch
namespace Script

/-!
# Evaluating expressions

An expression is evaluated on one document value, to which `this` and the name
`obj` refer; no other name has a value.  The right operand of `&&` and `||` is
evaluated only when the left one does not decide.  Evaluation never changes
the document.
-/

/-- Why an expression has no value on a document. -/
inductive EvaluationFault where
  | undefinedName (name : String)
  | unreadable (property typeName : String)
  | badKey (typeName : String)
  deriving DecidableEq

/-- Why a script fails: it is no expression, or it has no value. -/
inductive ScriptFault where
  | malformed (fault : SyntaxFault)
  | failed (fault : EvaluationFault)
  deriving DecidableEq

/-- The wording of a failed script. -/
def ScriptFault.message : ScriptFault -> String
  | .malformed fault => "Parse error: " ++ fault.message
  | .failed (.undefinedName name) => "Reference error: " ++ name ++ " is not defined"
  | .failed (.unreadable property typeName) =>
      "Type error: cannot read property '" ++ property ++ "' of " ++ typeName
  | .failed (.badKey typeName) => "Type error: cannot index with a " ++ typeName ++ " key"

/-- The name that refers to the document, besides `this`. -/
def documentAlias : String := "obj"

/-- The property that tells how long an array or a string is. -/
def lengthProperty : String := "length"

/-- The position that a property name spells: digits, perhaps after a plus sign, within 64 bits. -/
def position? (property : String) : Option Nat :=
  let digits := match property.toList with
    | '+' :: rest => rest
    | cs => cs
  match Decimal.read? digits with
  | some position => if position < 2 ^ 64 then some position else none
  | none => none

/-- The value of an optional document value; what is absent is undefined. -/
def valueOrUndefined : Option Json -> Value
  | some json => Value.ofJson json
  | none => .undefined

/-- Read a property of a value. -/
def readProperty (target : Value) (property : String) : Except EvaluationFault Value :=
  match target with
  | .undefined => .error (.unreadable property "undefined")
  | .null => .error (.unreadable property "null")
  | .object entries => .ok (valueOrUndefined (Json.lookup property entries))
  | .array items =>
      if property = lengthProperty then
        .ok (.number (Double.ofNat items.length))
      else
        .ok (valueOrUndefined ((position? property).bind fun position => items[position]?))
  | .string text =>
      if property = lengthProperty then .ok (.number (Double.ofNat text.length))
      else .ok .undefined
  | .boolean _ => .ok .undefined
  | .number _ => .ok .undefined

/-- The property name of a key: a string, or a whole number that is not negative. -/
def keyProperty (key : Value) : Except EvaluationFault String :=
  match key with
  | .string text => .ok text
  | .number value =>
      if value.isIndex then .ok (String.ofList value.plainText)
      else .error (.badKey key.typeName)
  | _ => .error (.badKey key.typeName)

/-- The value of a literal. -/
def Literal.toValue : Literal -> Value
  | .string value => .string value
  | .number value => .number value
  | .boolean value => .boolean value
  | .null => .null
  | .undefined => .undefined

/-- Whether an equality operator holds between two values. -/
def Equality.holds : Equality -> Value -> Value -> Bool
  | .equal, left, right => left.looseEquals right
  | .notEqual, left, right => !left.looseEquals right
  | .strictEqual, left, right => left.strictEquals right
  | .strictNotEqual, left, right => !left.strictEquals right

/-- The value of an expression on a document value. -/
def Tree.evaluate (document : Json) : Tree -> Except EvaluationFault Value
  | .literal value => .ok value.toValue
  | .this => .ok (Value.ofJson document)
  | .identifier name =>
      if name = documentAlias then .ok (Value.ofJson document) else .error (.undefinedName name)
  | .member object property => do
      let target ← evaluate document object
      readProperty target property
  | .index object key => do
      let target ← evaluate document object
      let keyValue ← evaluate document key
      let property ← keyProperty keyValue
      readProperty target property
  | .not operand => do
      let value ← evaluate document operand
      return .boolean (!value.isTruthy)
  | .equality operator left right => do
      let leftValue ← evaluate document left
      let rightValue ← evaluate document right
      return .boolean (operator.holds leftValue rightValue)
  | .and left right => do
      let value ← evaluate document left
      if value.isTruthy then evaluate document right else return value
  | .or left right => do
      let value ← evaluate document left
      if value.isTruthy then return value else evaluate document right

/-- A script that has been read. -/
structure Expression where
  source : String
  tree : Tree

namespace Expression

/-- Read a script. -/
def parse (source : String) : Except ScriptFault Expression :=
  match Tree.parse source with
  | .ok tree => .ok ⟨source, tree⟩
  | .error fault => .error (.malformed fault)

/-- The value on a document value. -/
def evaluate (expression : Expression) (document : Json) : Except ScriptFault Value :=
  match expression.tree.evaluate document with
  | .ok value => .ok value
  | .error fault => .error (.failed fault)

/-- Whether the value on a document value counts as true. -/
def test (expression : Expression) (document : Json) : Except ScriptFault Bool :=
  (expression.evaluate document).map Value.isTruthy

end Expression
end Script
end ContactSearch
