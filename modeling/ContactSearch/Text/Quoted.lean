import ContactSearch.Text.Hexadecimal
import ContactSearch.Text.Printable

namespace ContactSearch
namespace Text

/-!
# Quoted text for people

A string is shown between quotation marks with six short escapes.  Characters
that cannot be shown as they are appear by their hexadecimal code point in
braces; everything else, the apostrophe included, is shown raw.
-/

/-- The characters that have a short escape, with its letter. -/
def shortEscapes : List (Char × Char) :=
  [('\x00', '0'), ('\t', 't'), ('\r', 'r'), ('\n', 'n'), ('"', '"'), ('\\', '\\')]

/-- How a character is shown between quotation marks. -/
def shown (c : Char) : List Char :=
  match shortEscapes.find? (fun pair => pair.1 == c) with
  | some pair => ['\\', pair.2]
  | none =>
      if extendsPrevious c || !isPrintable c then
        '\\' :: 'u' :: '{' :: hexDigits c.toNat ++ ['}']
      else
        [c]

/-- A string between quotation marks. -/
def quoted (text : String) : List Char :=
  '"' :: text.toList.flatMap shown ++ ['"']

end Text
end ContactSearch
