import ContactSearch.Server.Exposition
import ContactSearch.Server.Layers
import ContactSearch.Server.Pages
import ContactSearch.Server.Search

namespace ContactSearch
namespace Server

/-!
# The service

The state of a server is its configuration, its store and its metrics.
Requests change the metrics only.  The store changes through the operations of
whoever runs the server.

A request for permission is answered at once.  Every other request is counted,
its caller is identified unless the path is public, and then the route of the
path answers.  A route is only read; a path without a route answers every
method alike.
-/

/-- A running server. -/
structure Service where
  config : Config
  catalog : Store.Catalog
  metrics : Metrics

namespace Service

/-! ## The life of a server -/

/-- Start a server: its collection is seeded or, if it is not to be, created empty. -/
def start (config : Config) : Except Store.Fault Service := do
  let storage := config.storage
  let catalog ←
    if storage.seeded then
      (Contact.seed .start storage.database storage.collection).map Prod.snd
    else
      (Store.Catalog.start.createCollection storage.database storage.collection).map Prod.snd
  return ⟨config, catalog, .zero⟩

/-- Stop the store of a server; requests are still answered. -/
def shutDown (service : Service) : Service :=
  { service with catalog := service.catalog.stop }

/-- Append documents to the collection of a server. -/
def insert (service : Service) (documents : List Store.Document) :
    Except Store.Fault (Nat × Service) := do
  let storage := service.config.storage
  let (count, catalog) ←
    service.catalog.insertMany storage.database storage.collection documents
  return (count, { service with catalog })

/-- Drop the collection of a server. -/
def drop (service : Service) : Except Store.Fault (Bool × Service) := do
  let storage := service.config.storage
  let (existed, catalog) ← service.catalog.dropCollection storage.database storage.collection
  return (existed, { service with catalog })

/-! ## Answers -/

/-- The metrics after the size of the collection has been looked up, if there is one. -/
def sampled (config : Config) (catalog : Store.Catalog) (metrics : Metrics) : Metrics :=
  match catalog.collection config.storage.database config.storage.collection with
  | .ok collection => metrics.sample collection.size
  | .error _ => metrics

/-- The page of metrics. -/
def metricsPage (metrics : Metrics) : Http.Response :=
  .ofText .ok "text/plain; version=0.0.4; charset=utf-8" metrics.exposition

/-- What a route answers, and the metrics afterwards. -/
def serve (order : Contact.MapOrder) (service : Service) (caller : Option String)
    (request : Http.Request) : Route -> Http.Response × Metrics
  | .index => (Pages.index service.config, service.metrics)
  | .page => (Pages.page, service.metrics)
  | .icon => (Pages.icon, service.metrics)
  | .health => (Pages.health, service.metrics)
  | .metrics =>
      let metrics := sampled service.config service.catalog service.metrics
      (metricsPage metrics, metrics)
  | .search mode variant =>
      let (response, record) := searchReply order service.config service.catalog caller
        mode variant (request.target.query.getD "")
      (response, match record with
        | some record => service.metrics.note record
        | none => service.metrics)

/-- The answer of a path to a caller, and the metrics afterwards. -/
def dispatch (order : Contact.MapOrder) (service : Service) (caller : Option String)
    (request : Http.Request) : Http.Response × Metrics :=
  match Route.ofPath? request.target.path with
  | none => (Pages.notFound request.target.path, service.metrics)
  | some route =>
      if request.method.isReading then
        serve order service caller request route
      else
        (.empty .methodNotAllowed, service.metrics)

/-- Identify the caller, unless the path is public, and answer or refuse. -/
def receive (order : Contact.MapOrder) (service : Service) (request : Http.Request) :
    Http.Response × Metrics :=
  let access := service.config.access
  if access.isPublic request.target.path then
    dispatch order service none request
  else
    match access.authenticate request.headers with
    | .ok caller => dispatch order service (some caller) request
    | .error fault => (access.refusal fault, service.metrics.refuse)

/-- What a request is counted as. -/
def served (request : Http.Request) : Served :=
  ⟨request.method.text, PathLabel.ofPath request.target.path⟩

/-- Answer a request that is not for permission alone, and count it. -/
def answer (order : Contact.MapOrder) (service : Service) (identifier : String)
    (request : Http.Request) : Http.Response × Metrics :=
  let counted := served request
  let begun := { service with metrics := service.metrics.begin counted }
  let (response, metrics) := receive order begun request
  let finished := metrics.finish counted response.status
  let layered := Layers.markCompressible
    (Layers.identify identifier request (Layers.protect request response))
  (Layers.permit service.config request layered, finished)

/--
Answer a request that has been given an identifier.  The order of maps is handed on to the
search.
-/
def handle (order : Contact.MapOrder) (service : Service) (identifier : String)
    (request : Http.Request) : Http.Response × Service :=
  let onPage := (Route.ofPath? request.target.path).isSome
  if request.method = .options then
    (Layers.complete onPage request.method (Layers.permission service.config request), service)
  else
    let (response, metrics) := answer order service identifier request
    (Layers.complete onPage request.method response, { service with metrics })

end Service
end Server
end ContactSearch
