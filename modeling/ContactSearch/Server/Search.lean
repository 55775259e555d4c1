import ContactSearch.Contact.Search
import ContactSearch.Http.Form
import ContactSearch.Server.Credentials
import ContactSearch.Server.Metrics

namespace ContactSearch
namespace Server

/-!
# Searches over HTTP

A request for a search is examined in this order: who calls, what the two
segments of the path say, what the query says, whether there is such a search,
and whether an address was given.  Only then is the search run, and only then
is it counted.

A fault of a script is shown to the caller, who wrote part of it.  A fault of
the store is not: its answer says nothing about the store.
-/

/-- Why a request for a search has no result. -/
inductive SearchFault where
  | notLoggedIn
  | unreadableSegment (name : String)
  | repeatedParameter (name : String)
  | unknownMode (mode : String)
  | unknownVariant (mode : Contact.Mode) (variant : String)
  | unsupported (mode : Contact.Mode) (variant : Contact.Variant)
  | missingParameter (name : String)
  | script (fault : Contact.Fault)
  | store (fault : Contact.Fault)

namespace SearchFault

/-- The status of the answer to a faulty request. -/
def status : SearchFault -> Http.Status
  | .notLoggedIn => .unauthorized
  | .unreadableSegment _ => .badRequest
  | .repeatedParameter _ => .badRequest
  | .unknownMode _ => .notFound
  | .unknownVariant _ _ => .notFound
  | .unsupported _ _ => .notFound
  | .missingParameter _ => .badRequest
  | .script _ => .badRequest
  | .store _ => .internalError

/-- The wording of a faulty request. -/
def message : SearchFault -> String
  | .notLoggedIn => AccessFault.missing.message
  | .unreadableSegment name => "Invalid URL: Invalid UTF-8 in `" ++ name ++ "`"
  | .repeatedParameter name =>
      "Failed to deserialize query string: duplicate field `" ++ name ++ "`"
  | .unknownMode mode => "Not found: " ++ Contact.Mode.unknownMessage mode
  | .unknownVariant mode variant =>
      "Not found: no variant '" ++ variant ++ "' in " ++ mode.text ++ " mode"
  | .unsupported mode variant => "Not found: " ++ Route.searchPath mode.text variant.slug
  | .missingParameter name => "Missing query parameter: " ++ name
  | .script fault => "Query evaluation failed: " ++ fault.message
  | .store _ => "Internal server error"

/-- The answer to a faulty request; what cannot be read at all is answered in plain text. -/
def response (access : Access) (fault : SearchFault) : Http.Response :=
  match fault with
  | .notLoggedIn => access.refusal .missing
  | .unreadableSegment _ => .ofText fault.status "text/plain; charset=utf-8" fault.message
  | .repeatedParameter _ => .ofText fault.status "text/plain; charset=utf-8" fault.message
  | _ => .ofFault fault.status fault.message

/-- The fault of a search that was run. -/
def ofContact (fault : Contact.Fault) : SearchFault :=
  match fault with
  | .unsupported mode variant => .unsupported mode variant
  | .store _ => if fault.isScript then .script fault else .store fault

end SearchFault

/-- A search that can be run. -/
structure SearchCall where
  mode : Contact.Mode
  variant : Contact.Variant
  term : String

namespace SearchCall

/-- The parameter that holds the address to look for. -/
def parameter : String := "email"

/-- The text of a segment of the path. -/
def segment (name value : String) : Except SearchFault String :=
  match Http.segmentText? value with
  | some text => .ok text
  | none => .error (.unreadableSegment name)

/-- The address to look for, if the query gives one; it must not give several. -/
def termOf (query : String) : Except SearchFault (Option String) :=
  match (Http.formPairs query).filter fun pair => pair.1 == parameter with
  | [] => .ok none
  | [(_, value)] => .ok (some value)
  | _ => .error (.repeatedParameter parameter)

/-- The mode and the variant that two texts name, if the variant is available in the mode. -/
def resolve (mode variant : String) : Except SearchFault (Contact.Mode × Contact.Variant) :=
  match Contact.Mode.ofText? mode with
  | none => .error (.unknownMode mode)
  | some mode =>
      match Contact.Variant.ofSlug? variant with
      | some known =>
          if known.supports mode then .ok (mode, known) else .error (.unknownVariant mode variant)
      | none => .error (.unknownVariant mode variant)

/-- The search that two segments and a query ask for. -/
def ofRequest (mode variant query : String) : Except SearchFault SearchCall := do
  let mode ← segment "mode" mode
  let variant ← segment "variant" variant
  let term ← termOf query
  let (mode, variant) ← resolve mode variant
  match term with
  | some term => .ok ⟨mode, variant, term⟩
  | none => .error (.missingParameter parameter)

/-- Run a search for a caller. -/
def run (call : SearchCall) (order : Contact.MapOrder) (storage : Storage)
    (catalog : Store.Catalog) (caller : String) :
    Except SearchFault (List Store.Document) :=
  (Contact.search order catalog storage.database storage.collection
    ⟨call.mode, call.variant, caller, call.term⟩).mapError SearchFault.ofContact

/-- What is counted of a search that was run. -/
def record (call : SearchCall) (result : Except SearchFault (List Store.Document)) :
    SearchRecord :=
  match result with
  | .ok found => ⟨call.mode, call.variant, .success, some found.length⟩
  | .error fault =>
      let outcome := if fault.status = .internalError then .serverFault else .clientFault
      ⟨call.mode, call.variant, outcome, none⟩

end SearchCall

/-- The answer to a request for a search, and what is counted of it. -/
def searchReply (order : Contact.MapOrder) (config : Config) (catalog : Store.Catalog)
    (caller : Option String) (mode variant query : String) :
    Http.Response × Option SearchRecord :=
  match caller with
  | none => (SearchFault.notLoggedIn.response config.access, none)
  | some caller =>
      match SearchCall.ofRequest mode variant query with
      | .error fault => (fault.response config.access, none)
      | .ok call =>
          let result := call.run order config.storage catalog caller
          let response := match result with
            | .ok found =>
                .ofJson .ok (.array (found.map Store.Document.toJson))
            | .error fault => fault.response config.access
          (response, some (call.record result))

end Server
end ContactSearch
