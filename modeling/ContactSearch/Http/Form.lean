import ContactSearch.Text.Percent
import ContactSearch.Text.Utf8

namespace ContactSearch
namespace Http

/-!
# Queries of a target

A query is a list of names and values as a form sends them: pairs with
ampersands between them, a name up to the first equals sign, a plus for a
blank and percent escapes for all other bytes.  Empty pairs are passed over.
What is not well formed is shown by replacement characters, so reading never
fails.
-/

/-- The text of a name or value as a form sends it. -/
def formText (cs : List Char) : String :=
  let blanks := cs.map fun c => if c = '+' then ' ' else c
  Text.ofBytesLenient (Text.percentDecode (Text.bytes (String.ofList blanks)))

/-- A pair; without an equals sign its value is empty. -/
def formPair (cs : List Char) : String × String :=
  (formText (cs.takeWhile (· ≠ '=')), formText ((cs.dropWhile (· ≠ '=')).drop 1))

/-- The pairs of a query. -/
def formPairs (query : String) : List (String × String) :=
  ((query.toList.splitOn '&').filter (· ≠ [])).map formPair

end Http
end ContactSearch
