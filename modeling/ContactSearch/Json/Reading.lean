import ContactSearch.Json.Basic
import ContactSearch.Json.Numeral
import ContactSearch.Json.Quoted

namespace ContactSearch
namespace Json

/-!
# Reading document text

A reader takes one value off the front of a text and returns the rest.  The
reader for values at one more level of nesting is built from the reader for
the level below, so the nesting limit is also what makes reading end.  The
loops over items end because every item takes at least one character.

A repeated key in an object keeps its first place and takes its last value.

An object can also carry the text of another value.  Then it has a single
entry under a reserved key, and the carried text is read in its place, with a
nesting limit of its own.  A carried text is shorter than the text that carries
it, so the length of the whole text bounds how often this can happen.
-/

/-- A reader of one value from the front of a text. -/
abbrev Reader := List Char -> Option (Json × List Char)

/-- The four blank characters of document text. -/
def isBlank (c : Char) : Bool :=
  c == ' ' || c == '\n' || c == '\t' || c == '\r'

/-- A text without the blanks at its front. -/
def skipBlanks (cs : List Char) : List Char :=
  cs.dropWhile isBlank

/-- Remove a literal word from the front of a text. -/
def afterWord? : List Char -> List Char -> Option (List Char)
  | [], cs => some cs
  | _ :: _, [] => none
  | expected :: word, c :: cs => if c = expected then afterWord? word cs else none

/-- The rest of an array after an item: further items up to the closing bracket. -/
def readItems? (item : Reader) : Nat -> List Char -> Option (List Json × List Char)
  | 0, _ => none
  | fuel + 1, cs => do
      let (value, afterValue) ← item (skipBlanks cs)
      match skipBlanks afterValue with
      | ']' :: rest => return ([value], rest)
      | ',' :: rest =>
          let (values, after) ← readItems? item fuel rest
          return (value :: values, after)
      | _ => none

/-- The rest of an object after its opening brace: entries up to the closing one. -/
def readEntries? (item : Reader) : Nat -> List Char -> Option (List (String × Json) × List Char)
  | 0, _ => none
  | fuel + 1, cs => do
      match skipBlanks cs with
      | '"' :: quotedKey =>
          let (key, afterKey) ← readQuoted? quotedKey
          match skipBlanks afterKey with
          | ':' :: beforeValue =>
              let (value, afterValue) ← item (skipBlanks beforeValue)
              match skipBlanks afterValue with
              | '}' :: rest => return ([(String.ofList key, value)], rest)
              | ',' :: rest =>
                  let (entries, after) ← readEntries? item fuel rest
                  return ((String.ofList key, value) :: entries, after)
              | _ => none
          | _ => none
      | _ => none

/-- An array after its opening bracket. -/
def readArray? (item : Reader) (cs : List Char) : Option (Json × List Char) :=
  match skipBlanks cs with
  | ']' :: rest => some (.array [], rest)
  | rest => (readItems? item rest.length rest).map fun (items, after) => (.array items, after)

/-- The first key of an object that carries a text. -/
def carrierKey : String := "$serde_json::private::RawValue"

/-- What follows the colon when the first key of an object announces a carried text. -/
def afterCarrierKey? : List Char -> Option (List Char)
  | '"' :: quotedKey => do
      let (key, afterKey) ← readQuoted? quotedKey
      match skipBlanks afterKey with
      | ':' :: rest => if String.ofList key = carrierKey then some rest else none
      | _ => none
  | _ => none

/-- The value of a carried text, up to the closing brace of the object that carries it. -/
def readCarried? (carried : List Char -> Option Json) (cs : List Char) :
    Option (Json × List Char) :=
  match skipBlanks cs with
  | '"' :: quotedText => do
      let (text, afterText) ← readQuoted? quotedText
      match skipBlanks afterText with
      | '}' :: rest => (carried text).map fun value => (value, rest)
      | _ => none
  | _ => none

/-- An object after its opening brace. -/
def readObject? (carried : List Char -> Option Json) (item : Reader) (cs : List Char) :
    Option (Json × List Char) :=
  match skipBlanks cs with
  | '}' :: rest => some (.object [], rest)
  | rest =>
      match afterCarrierKey? rest with
      | some announced => readCarried? carried announced
      | none =>
          (readEntries? item rest.length rest).map fun (entries, after) =>
            (.object (mergeEntries entries), after)

/-- A value whose nested values are read by the given reader, if nesting is still allowed. -/
def readWith (carried : List Char -> Option Json) (nested : Option Reader) : Reader
  | '[' :: rest => nested.bind fun item => readArray? item rest
  | '{' :: rest => nested.bind fun item => readObject? carried item rest
  | '"' :: rest => (readQuoted? rest).map fun (text, after) => (.string (String.ofList text), after)
  | 'n' :: rest => (afterWord? ['u', 'l', 'l'] rest).map fun after => (.null, after)
  | 't' :: rest => (afterWord? ['r', 'u', 'e'] rest).map fun after => (.bool true, after)
  | 'f' :: rest => (afterWord? ['a', 'l', 's', 'e'] rest).map fun after => (.bool false, after)
  | cs => readNumber? cs

/-- A value that nests at most the given number of levels. -/
def readValue? (carried : List Char -> Option Json) : Nat -> Reader
  | 0 => readWith carried none
  | levels + 1 => readWith carried (some (readValue? carried levels))

/-- The value of a whole text, blanks around it allowed. -/
def readWhole? (carried : List Char -> Option Json) (levels : Nat) (cs : List Char) :
    Option Json :=
  match readValue? carried levels (skipBlanks cs) with
  | some (value, after) => if skipBlanks after = [] then some value else none
  | none => none

/-- How deeply a text may nest arrays and objects, unless another limit is asked for. -/
def nestingLimit : Nat := 127

/-- The value of a text that is carried within at most the given number of others. -/
def readText? : Nat -> List Char -> Option Json
  | 0 => readWhole? (fun _ => none) nestingLimit
  | depth + 1 => readWhole? (readText? depth) nestingLimit

/-- The value of a text that nests at most the given number of levels. -/
def ofText? (levels : Nat) (cs : List Char) : Option Json :=
  readWhole? (readText? cs.length) levels cs

end Json
end ContactSearch
