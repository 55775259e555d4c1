import ContactSearch.Proofs.Contact.SecureSearch
import ContactSearch.Proofs.Server.Layers
import ContactSearch.Proofs.Server.Runs

namespace ContactSearch
namespace Server
namespace Service

/-!
# Secure searches and the documents of others

Two servers agree for a user when their stores are in the same state and hold
the same documents shared with that user.  Whatever else they hold, a secure
search of the user has the same result on both: the documents that are sought
are among those that the user shares, and no other document can make the
search fail.

A caller who is not identified learns nothing about the store at all.
-/

/-- The configured collection, if there is one. -/
def collection? (service : Service) : Option Store.Collection :=
  Store.Catalog.lookup (service.config.storage.database, service.config.storage.collection)
    service.catalog.collections

/-- The documents of the configured collection that are shared with a user. -/
def sharedWith (user : String) (service : Service) : List Store.Document :=
  match service.collection? with
  | some collection =>
      collection.documents.filter fun document =>
        document.getString? Contact.ownerField == some user
  | none => []

/-- Two servers that a user cannot tell apart. -/
structure AgreeFor (user : String) (first second : Service) : Prop where
  running : first.catalog.running = second.catalog.running
  present : first.collection?.isSome = second.collection?.isSome
  shared : first.sharedWith user = second.sharedWith user

/-! ## The search -/

/-- The sought documents, from the documents that a user shares. -/
theorem filter_isSought (user term : String) (documents : List Store.Document) :
    documents.filter (Contact.isSought user term) =
      (documents.filter fun document =>
        document.getString? Contact.ownerField == some user).filter fun document =>
          document.getString? Contact.emailField == some term := by
  rw [List.filter_filter]
  apply congrArg (fun test => documents.filter test)
  funext document
  exact Bool.and_comm _ _

/-- What a secure search of a user finds on a server depends on the documents of the user only. -/
theorem search_eq (order : Contact.MapOrder) (service : Service) (variant : Contact.Variant)
    (user term : String) :
    Contact.search order service.catalog service.config.storage.database
        service.config.storage.collection ⟨.secure, variant, user, term⟩ =
      if service.catalog.running = true then
        if service.collection?.isSome = true then
          .ok ((service.sharedWith user).filter fun document =>
            document.getString? Contact.emailField == some term)
        else
          .error (.store (.collectionNotFound service.config.storage.database
            service.config.storage.collection))
      else
        .error (.store .notRunning) := by
  have found : service.catalog.collection service.config.storage.database
      service.config.storage.collection =
        if service.catalog.running = true then
          match service.collection? with
          | some collection => .ok collection
          | none => .error (.collectionNotFound service.config.storage.database
              service.config.storage.collection)
        else
          .error .notRunning :=
    Store.Catalog.collection_eq _ _ _
  rw [Contact.search_secure, found, sharedWith]
  cases service.catalog.running with
  | false => rfl
  | true =>
      cases service.collection? with
      | none => rfl
      | some collection => exact congrArg Except.ok (filter_isSought user term collection.documents)

theorem AgreeFor.search {user : String} {first second : Service}
    (agree : AgreeFor user first second) (sameConfig : first.config = second.config)
    (order order' : Contact.MapOrder) (variant : Contact.Variant) (term : String) :
    Contact.search order first.catalog first.config.storage.database
        first.config.storage.collection ⟨.secure, variant, user, term⟩ =
      Contact.search order' second.catalog second.config.storage.database
        second.config.storage.collection ⟨.secure, variant, user, term⟩ := by
  rw [search_eq, search_eq, agree.running, agree.present, agree.shared, sameConfig]

/-! ## The answer of a search route -/

/-- The mode and the variant that two segments of a path stand for. -/
def resolved? (mode variant : String) : Option (Contact.Mode × Contact.Variant) :=
  match SearchCall.segment "mode" mode, SearchCall.segment "variant" variant with
  | .ok mode, .ok variant => (SearchCall.resolve mode variant).toOption
  | _, _ => none

/-- A request for a search has the mode and the variant that its path resolves to. -/
theorem ofRequest_eq_ok {mode variant query : String} {call : SearchCall}
    (asked : SearchCall.ofRequest mode variant query = .ok call) :
    resolved? mode variant = some (call.mode, call.variant) := by
  rcases exists_of_bind_eq_ok asked with ⟨modeText, readMode, asked⟩
  rcases exists_of_bind_eq_ok asked with ⟨variantText, readVariant, asked⟩
  rcases exists_of_bind_eq_ok asked with ⟨term, readTerm, asked⟩
  rcases exists_of_bind_eq_ok asked with ⟨⟨knownMode, knownVariant⟩, resolved, asked⟩
  have found : resolved? mode variant = some (knownMode, knownVariant) := by
    rw [resolved?, readMode, readVariant]
    simp only [resolved]
    rfl
  cases term with
  | none => cases asked
  | some term =>
      cases asked
      exact found

/-- A secure search is answered alike by servers that agree for the caller. -/
theorem AgreeFor.searchReply {user : String} {first second : Service}
    (agree : AgreeFor user first second) (sameConfig : first.config = second.config)
    (order order' : Contact.MapOrder) {mode variant : String} {known : Contact.Variant}
    (secure : resolved? mode variant = some (.secure, known)) (query : String) :
    Server.searchReply order first.config first.catalog (some user) mode variant query =
      Server.searchReply order' second.config second.catalog (some user) mode variant query := by
  rw [Server.searchReply, Server.searchReply]
  cases asked : SearchCall.ofRequest mode variant query with
  | error fault => simp only [sameConfig]
  | ok call =>
      rcases call with ⟨callMode, callVariant, term⟩
      have resolved : some (Contact.Mode.secure, known) = some (callMode, callVariant) :=
        secure.symm.trans (ofRequest_eq_ok asked)
      cases resolved
      have same : SearchCall.run ⟨.secure, known, term⟩ order first.config.storage first.catalog
          user = SearchCall.run ⟨.secure, known, term⟩ order' second.config.storage
            second.catalog user :=
        congrArg (fun result => result.mapError SearchFault.ofContact)
          (agree.search sameConfig order order' known term)
      simp only [same]
      rw [sameConfig]

/-! ## The answer to a request -/

variable {request : Http.Request} {mode variant : String}

/-- A route of a search answers the caller, if the method is one for reading. -/
theorem dispatch_search (order : Contact.MapOrder) (service : Service) (caller : Option String)
    (isSearch : Route.ofPath? request.target.path = some (.search mode variant)) :
    (dispatch order service caller request).1 =
      if request.method.isReading = true then
        (searchReply order service.config service.catalog caller mode variant
          (request.target.query.getD "")).1
      else
        .empty .methodNotAllowed := by
  rw [dispatch, isSearch]
  simp only
  split <;> rfl

/-- Whether the caller of a request is not identified. -/
def Unidentified (access : Access) (request : Http.Request) : Prop :=
  access.isPublic request.target.path = true ∨
    exists fault, access.authenticate request.headers = .error fault

/-- The answer of a search route to a caller who is not identified. -/
def refused (access : Access) (request : Http.Request) : Http.Response :=
  match access.isPublic request.target.path, access.authenticate request.headers with
  | false, .error fault => access.refusal fault
  | _, _ =>
      if request.method.isReading = true then access.refusal .missing
      else .empty .methodNotAllowed

theorem receive_of_unidentified (order : Contact.MapOrder) (service : Service)
    (isSearch : Route.ofPath? request.target.path = some (.search mode variant))
    (unidentified : Unidentified service.config.access request) :
    (receive order service request).1 = refused service.config.access request := by
  rw [receive, refused]
  cases isPublic : service.config.access.isPublic request.target.path with
  | true =>
      simp only [if_true]
      rw [dispatch_search order service none isSearch]
      rfl
  | false =>
      rcases unidentified with served | ⟨fault, denied⟩
      · rw [isPublic] at served
        cases served
      · simp only [denied]
        rfl

theorem AgreeFor.receive {user : String} {first second : Service}
    (agree : AgreeFor user first second) (sameConfig : first.config = second.config)
    (order order' : Contact.MapOrder)
    (isSearch : Route.ofPath? request.target.path = some (.search mode variant))
    {known : Contact.Variant} (secure : resolved? mode variant = some (.secure, known))
    (identified : first.config.access.authenticate request.headers = .ok user) :
    (Service.receive order first request).1 = (Service.receive order' second request).1 := by
  cases isPublic : first.config.access.isPublic request.target.path with
  | true =>
      have unidentified : Unidentified first.config.access request := Or.inl isPublic
      rw [receive_of_unidentified order first isSearch unidentified,
        receive_of_unidentified order' second isSearch (sameConfig ▸ unidentified), sameConfig]
  | false =>
      have answered (order : Contact.MapOrder) (service : Service)
          (sameConfig : first.config = service.config) :
          (Service.receive order service request).1 =
            (dispatch order service (some user) request).1 := by
        rw [sameConfig] at isPublic identified
        rw [Service.receive]
        simp only [isPublic, identified]
        rfl
      rw [answered order first rfl, answered order' second sameConfig,
        dispatch_search order first (some user) isSearch,
        dispatch_search order' second (some user) isSearch,
        agree.searchReply sameConfig order order' secure]

/-- A refusal says nothing about the store. -/
theorem refused_cases (access : Access) (request : Http.Request) :
    refused access request = .empty .methodNotAllowed ∨
      exists fault, refused access request = access.refusal fault := by
  rw [refused]
  split
  · next fault _ _ => exact Or.inr ⟨fault, rfl⟩
  · split
    · exact Or.inr ⟨.missing, rfl⟩
    · exact Or.inl rfl

/-! ## Two runs -/

theorem AgreeFor.begun {user : String} {first second : Service}
    (agree : AgreeFor user first second) (request : Http.Request) :
    AgreeFor user (first.begun request) (second.begun request) :=
  ⟨agree.running, agree.present, agree.shared⟩

theorem AgreeFor.handle {user : String} {first second : Service}
    (agree : AgreeFor user first second) (sameConfig : first.config = second.config)
    (order order' : Contact.MapOrder) (identifier identifier' : String)
    (isSearch : Route.ofPath? request.target.path = some (.search mode variant))
    {known : Contact.Variant} (secure : resolved? mode variant = some (.secure, known))
    (identified : first.config.access.authenticate request.headers = .ok user) :
    (Service.handle order first identifier request).1.content =
      (Service.handle order' second identifier' request).1.content := by
  by_cases forPermission : request.method = .options
  · rw [handle_of_options order first identifier forPermission,
      handle_of_options order' second identifier' forPermission, sameConfig]
  · have received :=
      (agree.begun request).receive sameConfig order order' isSearch secure identified
    rw [handle_of_ne order first identifier forPermission,
      handle_of_ne order' second identifier' forPermission, content_layered, content_layered,
      received]

/-- The answer of a search route to a caller who is not identified, after all layers. -/
def refusedFinally (config : Config) (identifier : String) (request : Http.Request) :
    Http.Response :=
  if request.method = .options then
    Layers.complete (isOnPage request) request.method (Layers.permission config request)
  else
    layered config identifier request (refused config.access request)

theorem handle_of_unidentified (order : Contact.MapOrder) (service : Service)
    (identifier : String)
    (isSearch : Route.ofPath? request.target.path = some (.search mode variant))
    (unidentified : request.method = .options ∨ Unidentified service.config.access request) :
    (Service.handle order service identifier request).1 =
      refusedFinally service.config identifier request := by
  rw [refusedFinally]
  by_cases forPermission : request.method = .options
  · rw [if_pos forPermission, handle_of_options order service identifier forPermission]
  · have unknown := unidentified.resolve_left forPermission
    have received := receive_of_unidentified order (service.begun request) isSearch unknown
    rw [if_neg forPermission, handle_of_ne order service identifier forPermission, received]
    rfl

theorem body_refusedFinally (config : Config) (identifier : String) (request : Http.Request) :
    (refusedFinally config identifier request).body = "" ∨
      exists fault, (refusedFinally config identifier request).body =
        (config.access.refusal fault).body := by
  rw [refusedFinally]
  split
  · have content := Layers.content_complete (isOnPage request) request.method
      (Layers.permission config request)
    have body := (Prod.mk.inj content).2
    rcases Layers.visible_body (isOnPage request) request.method
      (Layers.permission config request).content with none | whole
    · exact Or.inl (body.trans none)
    · exact Or.inl (body.trans whole)
  · have content := content_layered config identifier request (refused config.access request)
    have body := (Prod.mk.inj content).2
    rcases Layers.visible_body (isOnPage request) request.method
      (refused config.access request).content with none | whole
    · exact Or.inl (body.trans none)
    · rcases refused_cases config.access request with empty | ⟨fault, denied⟩
      · have nothing := congrArg Http.Response.body empty
        exact Or.inl (body.trans (whole.trans nothing))
      · have denial := congrArg Http.Response.body denied
        exact Or.inr ⟨fault, body.trans (whole.trans denial)⟩

theorem content_refusedFinally (config : Config) (identifier identifier' : String)
    (request : Http.Request) :
    (refusedFinally config identifier request).content =
      (refusedFinally config identifier' request).content := by
  rw [refusedFinally, refusedFinally]
  split
  · rfl
  · rw [content_layered, content_layered]

/--
Two reachable servers that agree for a user give the user the same answer to every secure search,
whatever else they hold.  Whoever is not identified gets the same refusal from both.
-/
theorem secure_search_noninterference (config : Config) (user : String) (first second : Service)
    (firstReachable : first.Reachable config) (secondReachable : second.Reachable config)
    (agree : AgreeFor user first second) (order order' : Contact.MapOrder)
    (identifier identifier' : String) (request : Http.Request) (mode variant : String)
    (isSearch : Route.ofPath? request.target.path = some (.search mode variant)) :
    (config.access.authenticate request.headers = .ok user ->
      (exists known, resolved? mode variant = some (.secure, known)) ->
      (handle order first identifier request).1.status =
          (handle order' second identifier' request).1.status ∧
        (handle order first identifier request).1.body =
          (handle order' second identifier' request).1.body) ∧
    (request.method = .options ∨ Unidentified config.access request ->
      (handle order first identifier request).1 = (handle order' second identifier request).1 ∧
      (handle order first identifier request).1.status =
          (handle order' second identifier' request).1.status ∧
        (handle order first identifier request).1.body =
          (handle order' second identifier' request).1.body ∧
      ((handle order first identifier request).1.body = "" ∨
        exists fault, (handle order first identifier request).1.body =
          (config.access.refusal fault).body)) := by
  have firstConfig := firstReachable.config
  have secondConfig := secondReachable.config
  have sameConfig : first.config = second.config := firstConfig.trans secondConfig.symm
  refine ⟨?_, ?_⟩
  · rintro identified ⟨known, secure⟩
    rw [← firstConfig] at identified
    have same := agree.handle sameConfig order order' identifier identifier' isSearch secure
      identified
    exact Prod.mk.inj same
  · intro unidentified
    have answer (order : Contact.MapOrder) (service : Service) (identifier : String)
        (sameConfig : service.config = config) :
        (handle order service identifier request).1 = refusedFinally config identifier request := by
      rw [← sameConfig] at unidentified
      rw [handle_of_unidentified order service identifier isSearch unidentified, sameConfig]
    rw [answer order first identifier firstConfig, answer order' second identifier secondConfig,
      answer order' second identifier' secondConfig]
    have same := Prod.mk.inj (content_refusedFinally config identifier identifier' request)
    exact ⟨rfl, same.1, same.2, body_refusedFinally config identifier request⟩

/-- The server that is started when nothing is configured. -/
def seededServer : Service :=
  ⟨Config.default,
    ⟨true, Store.Directory.empty.set Contact.seedDatabase
      (Store.Directory.empty.set Contact.seedCollection
        ⟨Contact.seedCollection, Contact.seedDocuments⟩)⟩,
    .zero⟩

/-- The same server with documents that the first user does not share, one of them without text. -/
def crowdedServer : Service :=
  seededServer.after [.insert
    [Contact.contact "contact1@private.info" "" "" "user2",
      Store.Document.ofEntries [(Contact.ownerField, .integer 1)]]]

/-- A secure search of the first user. -/
def firstUserSearch : Http.Request where
  method := .get
  target := ⟨none, "/secure/bson-filter/contacts/search", some "email=contact1@private.info"⟩
  headers := [("authorization", "Basic dXNlcjE6cGFzczE=")]

theorem authenticate_firstUserSearch :
    Config.default.access.authenticate firstUserSearch.headers = .ok "user1" := by
  have header : firstUserSearch.headers.first? "authorization" =
      some "Basic dXNlcjE6cGFzczE=" := by
    simp [firstUserSearch, Http.Headers.first?, Http.sameIgnoringCase]
  rw [Access.authenticate, header]
  rfl

theorem secure_search_noninterference_seeded :
    (seededServer.Reachable Config.default ∧ crowdedServer.Reachable Config.default ∧
      AgreeFor "user1" seededServer crowdedServer ∧
      Route.ofPath? firstUserSearch.target.path = some (.search "secure" "bson-filter")) ∧
    (handle .asWritten seededServer "first" firstUserSearch).1.status =
        (handle .reversed crowdedServer "second" firstUserSearch).1.status ∧
      (handle .asWritten seededServer "first" firstUserSearch).1.body =
        (handle .reversed crowdedServer "second" firstUserSearch).1.body := by
  have firstReachable : seededServer.Reachable Config.default := ⟨seededServer, [], rfl, rfl⟩
  have secondReachable : crowdedServer.Reachable Config.default := ⟨seededServer, _, rfl, rfl⟩
  have agree : AgreeFor "user1" seededServer crowdedServer := ⟨rfl, rfl, rfl⟩
  have isSearch : Route.ofPath? firstUserSearch.target.path =
      some (.search "secure" "bson-filter") := by decide
  have resolves : resolved? "secure" "bson-filter" = some (.secure, .filter) := by
    decide +kernel
  refine ⟨⟨firstReachable, secondReachable, agree, isSearch⟩, ?_⟩
  exact (secure_search_noninterference Config.default "user1" seededServer crowdedServer
    firstReachable secondReachable agree .asWritten .reversed "first" "second" firstUserSearch
    "secure" "bson-filter" isSearch).1 authenticate_firstUserSearch ⟨.filter, resolves⟩

end Service
end Server
end ContactSearch
