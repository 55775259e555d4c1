import ContactSearch.Text.Percent
import ContactSearch.Text.Utf8

namespace ContactSearch
namespace Http

/-!
# Segments of a path

A path is cut at its slashes.  A segment is compared as it is written; only
where it stands for a text of the caller are its percent escapes read, and
then the bytes have to be well formed.  A plus stands for itself.
-/

/-- The pieces between the slashes of a path, empty ones included. -/
def pieces (path : String) : List String :=
  (path.toList.splitOn '/').map String.ofList

/-- The text that a segment stands for. -/
def segmentText? (segment : String) : Option String :=
  Text.ofBytes? (Text.percentDecode (Text.bytes segment))

end Http
end ContactSearch
