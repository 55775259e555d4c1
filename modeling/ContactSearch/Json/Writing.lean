import ContactSearch.Json.Basic
import ContactSearch.Json.Quoted
import ContactSearch.Number.Layout

namespace ContactSearch
namespace Json

/-!
# Writing document text

Two layouts: the compact one without any blank, in which documents and
responses are written, and the indented one of the command line, with two
spaces for each level.  Both keep the stored key order.
-/

/-- The text of an integer. -/
def integerText (value : Int) : List Char :=
  if value < 0 then '-' :: Decimal.digits value.natAbs else Decimal.digits value.natAbs

mutual

/-- Compact text. -/
def compact : Json -> List Char
  | .null => ['n', 'u', 'l', 'l']
  | .bool true => ['t', 'r', 'u', 'e']
  | .bool false => ['f', 'a', 'l', 's', 'e']
  | .integer value => integerText value
  | .double value => value.documentText
  | .string text => quoted text
  | .array items => '[' :: compactItems items ++ [']']
  | .object entries => '{' :: compactEntries entries ++ ['}']

/-- The items of an array with commas between them. -/
def compactItems : List Json -> List Char
  | [] => []
  | [item] => compact item
  | item :: items => compact item ++ ',' :: compactItems items

/-- The entries of an object with commas between them. -/
def compactEntries : List (String × Json) -> List Char
  | [] => []
  | [(key, value)] => quoted key ++ ':' :: compact value
  | (key, value) :: entries => quoted key ++ ':' :: compact value ++ ',' :: compactEntries entries

end

/-- The compact text as a string. -/
def text (value : Json) : String :=
  String.ofList value.compact

/-- A new line at a level of nesting. -/
def newLine (level : Nat) : List Char :=
  '\n' :: List.replicate (2 * level) ' '

mutual

/-- Indented text of a value that stands at a level of nesting. -/
def indented (level : Nat) : Json -> List Char
  | .array [] => ['[', ']']
  | .array items => '[' :: indentedItems (level + 1) items ++ newLine level ++ [']']
  | .object [] => ['{', '}']
  | .object entries => '{' :: indentedEntries (level + 1) entries ++ newLine level ++ ['}']
  | .null => ['n', 'u', 'l', 'l']
  | .bool true => ['t', 'r', 'u', 'e']
  | .bool false => ['f', 'a', 'l', 's', 'e']
  | .integer value => integerText value
  | .double value => value.documentText
  | .string text => quoted text

/-- The items of an array, each on a line of its own. -/
def indentedItems (level : Nat) : List Json -> List Char
  | [] => []
  | [item] => newLine level ++ indented level item
  | item :: items => newLine level ++ indented level item ++ ',' :: indentedItems level items

/-- The entries of an object, each on a line of its own. -/
def indentedEntries (level : Nat) : List (String × Json) -> List Char
  | [] => []
  | [(key, value)] => newLine level ++ quoted key ++ ':' :: ' ' :: indented level value
  | (key, value) :: entries =>
      newLine level ++ quoted key ++ ':' :: ' ' :: indented level value ++
        ',' :: indentedEntries level entries

end

/-- The indented text as a string. -/
def indentedText (value : Json) : String :=
  String.ofList (indented 0 value)

end Json
end ContactSearch
