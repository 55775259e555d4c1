import ContactSearch.Contact.Variant
import ContactSearch.Http.Segment

namespace ContactSearch
namespace Server

/-!
# Routes and labels of paths

A path leads to a page, or to the search of a mode and a variant.  The two
segments that name them are not judged here, and may even be empty, so a path
can lead to a search that does not exist.

For counting, every path has one of finitely many labels.  Labels are more
forgiving than routes: they pass over empty segments.
-/

/-- What a path leads to. -/
inductive Route where
  | index
  | page
  | icon
  | health
  | metrics
  | search (mode variant : String)
  deriving DecidableEq

namespace Route

/-- The route of a path, if there is one. -/
def ofPath? (path : String) : Option Route :=
  match path with
  | "/" => some .index
  | "/index.html" => some .page
  | "/favicon.ico" => some .icon
  | "/health" => some .health
  | "/metrics" => some .metrics
  | _ =>
      match Http.pieces path with
      | [front, mode, variant, third, fourth] =>
          if front = "" ∧ third = "contacts" ∧ fourth = "search" then
            some (.search mode variant)
          else
            none
      | _ => none

/-- The path of the search of a mode and a variant. -/
def searchPath (mode variant : String) : String :=
  "/" ++ mode ++ "/" ++ variant ++ "/contacts/search"

end Route

/-- A label under which requests are counted. -/
inductive PathLabel where
  | index
  | page
  | health
  | metrics
  | search (mode : Contact.Mode) (variant : Contact.Variant)
  | unknownSearch
  | other
  deriving DecidableEq

namespace PathLabel

/-- The text of a label. -/
def text : PathLabel -> String
  | .index => "/"
  | .page => "/index.html"
  | .health => "/health"
  | .metrics => "/metrics"
  | .search mode variant => Route.searchPath mode.text variant.slug
  | .unknownSearch => Route.searchPath "\x7bmode\x7d" "\x7bvariant\x7d"
  | .other => "/other"

/-- The two segments in front of the end of a search path, empty segments apart. -/
def searchSegments? (path : String) : Option (String × String) :=
  match (Http.pieces path).filter (· ≠ "") with
  | [mode, variant, third, fourth] =>
      if third = "contacts" ∧ fourth = "search" then some (mode, variant) else none
  | _ => none

/-- The label of a search; a mode or a variant that nobody knows has no label of its own. -/
def ofSegments (mode variant : String) : PathLabel :=
  match Contact.Mode.ofText? mode, Contact.Variant.ofSlug? variant with
  | some mode, some variant => .search mode variant
  | _, _ => .unknownSearch

/-- The label of a path. -/
def ofPath (path : String) : PathLabel :=
  match searchSegments? path with
  | some (mode, variant) => ofSegments mode variant
  | none =>
      if path = "/" then .index
      else if path = "/index.html" then .page
      else if path = "/health" then .health
      else if path = "/metrics" then .metrics
      else .other

end PathLabel
end Server
end ContactSearch
