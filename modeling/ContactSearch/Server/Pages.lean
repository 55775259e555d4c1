import ContactSearch.Http.Message
import ContactSearch.Server.Config
import ContactSearch.Server.Route

namespace ContactSearch
namespace Server

/-!
# Pages

Besides the searches, the server has a description of itself, a list of links
for people, and an answer that tells that it is running.
-/

namespace Pages

/-- The version that the server tells. -/
def version : String := "0.1.0"

/-- The path of the search of a mode and a variant. -/
def searchPath (mode : Contact.Mode) (variant : Contact.Variant) : String :=
  Route.searchPath mode.text variant.slug

/-- The description of a search. -/
def endpoint (mode : Contact.Mode) (variant : Contact.Variant) : Json :=
  .object
    [("mode", .string mode.text), ("variant", .string variant.slug),
      ("description", .string variant.description), ("path", .string (searchPath mode variant))]

/-- The description of the server and all its searches. -/
def index (config : Config) : Http.Response :=
  .ofJson .ok (.object
    [("server", .string Config.serviceName), ("version", .string version),
      ("database", .string config.storage.database),
      ("collection", .string config.storage.collection),
      ("authRealm", .string config.access.realm),
      ("endpoints", .array (Contact.routes.map fun (mode, variant) => endpoint mode variant))])

/-- The link to a search. -/
def link (mode : Contact.Mode) (variant : Contact.Variant) : String :=
  let path := searchPath mode variant
  "<li><a href=\"" ++ path ++ "?email=contact1@private.info\">" ++ path ++ "</a> (" ++
    variant.description ++ ")</li>\n"

/-- The list of links to all searches. -/
def page : Http.Response :=
  .ofText .ok "text/html; charset=utf-8"
    ("<!DOCTYPE html>\n<html>\n<head><title>Contacts search</title></head>\n<body>\n" ++
      "<h1>Contacts search</h1>\n<ul>\n" ++
      String.join (Contact.routes.map fun (mode, variant) => link mode variant) ++
      "</ul>\n</body>\n</html>\n")

/-- The answer that tells that the server is running. -/
def health : Http.Response :=
  .ofJson .ok (.object [("status", .string "ok"), ("service", .string Config.serviceName)])

/-- The icon, of which there is none. -/
def icon : Http.Response :=
  .empty .noContent

/-- The answer to a path that leads nowhere. -/
def notFound (path : String) : Http.Response :=
  .ofFault .notFound ("Not found: " ++ path)

end Pages
end Server
end ContactSearch
