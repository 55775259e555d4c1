namespace ContactSearch
namespace Contact

/-!
# Modes and variants of a search

A mode says how the user's input reaches the store: spliced into a script, or
bound as literal values.  A variant names the way in which the query is put
together.  Every variant is available in the secure mode; the native filter
has no insecure form.
-/

/-- How user input reaches the store. -/
inductive Mode where
  | insecure
  | secure
  deriving DecidableEq

/-- How the query of a search is put together. -/
inductive Variant where
  | filter
  | put
  | putAll
  | append
  | single
  | ofMap
  | parse
  | builderAdd
  | builderAppend
  | builderSingle
  | builderMap
  deriving DecidableEq

namespace Mode

/-- Both modes in the order of listings. -/
def all : List Mode :=
  [.insecure, .secure]

/-- The name of a mode. -/
def text : Mode -> String
  | .insecure => "insecure"
  | .secure => "secure"

/-- The mode with a given name. -/
def ofText? (name : String) : Option Mode :=
  all.find? fun mode => mode.text == name

theorem ofText?_text (mode : Mode) : ofText? mode.text = some mode := by
  cases mode <;> decide

theorem text_of_ofText? {name : String} {mode : Mode} (found : ofText? name = some mode) :
    mode.text = name := by
  simpa using List.find?_some found

/-- The wording of an unknown mode name. -/
def unknownMessage (name : String) : String :=
  "unknown query mode '" ++ name ++ "'"

end Mode

namespace Variant

/-- All variants in the order of listings. -/
def all : List Variant :=
  [.filter, .put, .putAll, .append, .single, .ofMap, .parse,
    .builderAdd, .builderAppend, .builderSingle, .builderMap]

theorem mem_all (variant : Variant) : variant ∈ all := by
  cases variant <;> decide

/-- The path segment that names a variant. -/
def slug : Variant -> String
  | .filter => "bson-filter"
  | .put => "basicdbobject-put"
  | .putAll => "basicdbobject-putall"
  | .append => "basicdbobject-append"
  | .single => "basicdbobject-constructor-kv"
  | .ofMap => "basicdbobject-constructor-map"
  | .parse => "basicdbobject-parse"
  | .builderAdd => "basicdbobjectbuilder-add"
  | .builderAppend => "basicdbobjectbuilder-append"
  | .builderSingle => "basicdbobjectbuilder-start-kv"
  | .builderMap => "basicdbobjectbuilder-start-map"

/-- The variant that a path segment names. -/
def ofSlug? (slug : String) : Option Variant :=
  all.find? fun variant => variant.slug == slug

theorem ofSlug?_slug (variant : Variant) : ofSlug? variant.slug = some variant := by
  cases variant <;> decide

theorem slug_of_ofSlug? {segment : String} {variant : Variant}
    (found : ofSlug? segment = some variant) : variant.slug = segment := by
  simpa using List.find?_some found

/-- What a variant does, for people. -/
def description : Variant -> String
  | .filter => "native filters::and(filters::eq(..), filters::eq(..))"
  | .put => "QueryDocument::put for each criterion"
  | .putAll => "QueryDocument::put_all from a map"
  | .append => "chained QueryDocument::append"
  | .single => "QueryDocument::with(key, value) constructor"
  | .ofMap => "QueryDocument::from_map constructor"
  | .parse => "map serialized to JSON, then QueryDocument::parse"
  | .builderAdd => "QueryDocumentBuilder::start().add(..)"
  | .builderAppend => "QueryDocumentBuilder::start().append(..)"
  | .builderSingle => "QueryDocumentBuilder::start_with(key, value)"
  | .builderMap => "QueryDocumentBuilder::start_from(map)"

/-- Whether a variant is available in a mode. -/
def supports (variant : Variant) (mode : Mode) : Bool :=
  !(variant == .filter && mode == .insecure)

/-- The wording of an unknown path segment. -/
def unknownMessage (slug : String) : String :=
  "unknown query variant '" ++ slug ++ "'"

end Variant

/-- The variants available in a mode. -/
def Mode.variants (mode : Mode) : List Variant :=
  Variant.all.filter fun variant => variant.supports mode

/-- Every mode with each of its variants, in the order of listings. -/
def routes : List (Mode × Variant) :=
  Mode.all.flatMap fun mode => mode.variants.map fun variant => (mode, variant)

end Contact
end ContactSearch
