import ContactSearch.Proofs.Contact.InsecureSearch
import ContactSearch.Proofs.Http.Paths
import ContactSearch.Proofs.Server.Activities
import ContactSearch.Proofs.Server.Noninterference

namespace ContactSearch
namespace Server
namespace Service

/-!
# Which status a search has

The answer to a search is decided in this order: who calls, whether there is
such a search, whether an address is given, whether there is a collection to
search, and at last, in the insecure mode only, whether the script can be read
and has an answer on every document.

A script is read only after the collection has been looked up, so without a
collection the answer is the same for every script.  It is a text that says
nothing about the store.  No query that is put together from a caller's texts
is refused on its own account, so nothing else can go wrong.
-/

/-! ## What decides -/

/-- The mode and the variant of two names, if the variant is available in the mode. -/
def named? (mode variant : String) : Option (Contact.Mode × Contact.Variant) :=
  match Contact.Mode.ofText? mode, Contact.Variant.ofSlug? variant with
  | some mode, some variant => if variant.supports mode then some (mode, variant) else none
  | _, _ => none

/-- The collection that a search looks through, if the store runs and has it. -/
def searched? (service : Service) : Option Store.Collection :=
  if service.catalog.running then service.collection? else none

/-- Whether a text is no script, or is one without an answer on some document. -/
def scriptFails (script : String) (documents : List Store.Document) : Bool :=
  match Script.Expression.parse script with
  | .error _ => true
  | .ok expression => documents.any fun document => !(expression.test document.toJson).isOk

/-- The status of a search for a caller who is known. -/
def statusFor (service : Service) (caller mode variant : String) (email? : Option String) :
    Http.Status :=
  match named? mode variant, email?, searched? service with
  | none, _, _ => .notFound
  | some _, none, _ => .badRequest
  | some _, some _, none => .internalError
  | some (mode, _), some email, some collection =>
      if mode = .insecure ∧
          scriptFails (Contact.ownershipScript caller email) collection.documents = true then
        .badRequest
      else
        .ok

/-- The status of a search: a caller who is not known is told so before anything else. -/
def searchStatus (service : Service) (access : Access) (headers : Http.Headers)
    (mode variant : String) (email? : Option String) : Http.Status :=
  match access.authenticate headers with
  | .error _ => .unauthorized
  | .ok caller => statusFor service caller mode variant email?

theorem searchStatus_of_known {access : Access} {headers : Http.Headers} {caller : String}
    (known : access.authenticate headers = .ok caller) (service : Service)
    (mode variant : String) (email? : Option String) :
    searchStatus service access headers mode variant email? =
      statusFor service caller mode variant email? := by
  rw [searchStatus, known]

/-! ## The outcome of a search -/

/-- The status that an outcome is answered with. -/
def statusOf : Except SearchFault (List Store.Document) -> Http.Status
  | .ok _ => .ok
  | .error fault => fault.status

/-- The answer that tells an outcome. -/
def replyOf (access : Access) : Except SearchFault (List Store.Document) -> Http.Response
  | .ok found => .ofJson .ok (.array (found.map Store.Document.toJson))
  | .error fault => fault.response access

/-- The outcome of a request for a search by a caller who is known. -/
def outcome (order : Contact.MapOrder) (service : Service) (caller mode variant query : String) :
    Except SearchFault (List Store.Document) := do
  let call ← SearchCall.ofRequest mode variant query
  call.run order service.config.storage service.catalog caller

theorem searchReply_eq (order : Contact.MapOrder) (service : Service)
    (caller mode variant query : String) :
    (searchReply order service.config service.catalog (some caller) mode variant query).1 =
      replyOf service.config.access (outcome order service caller mode variant query) := by
  rw [searchReply, outcome]
  cases SearchCall.ofRequest mode variant query with
  | error fault => rfl
  | ok call =>
      simp only [bind, Except.bind]
      cases call.run order service.config.storage service.catalog caller <;> rfl

theorem status_response (access : Access) (fault : SearchFault) :
    (fault.response access).status = fault.status := by
  cases fault with
  | notLoggedIn => exact status_refusal access .missing
  | _ => rfl

theorem status_replyOf (access : Access) (result : Except SearchFault (List Store.Document)) :
    (replyOf access result).status = statusOf result := by
  cases result with
  | error fault => exact status_response access fault
  | ok found => rfl

/-- What a caller is told who must not learn anything about the store. -/
def discretion : String :=
  (Http.Response.ofFault .internalError "Internal server error").body

theorem body_replyOf_of_internalError {access : Access}
    {result : Except SearchFault (List Store.Document)}
    (internal : statusOf result = .internalError) : (replyOf access result).body = discretion := by
  cases result with
  | ok found => cases internal
  | error fault =>
      cases fault with
      | store fault => rfl
      | _ => cases internal

theorem exists_of_statusOf_eq_ok {result : Except SearchFault (List Store.Document)}
    (succeeded : statusOf result = .ok) : exists found, result = .ok found := by
  cases result with
  | ok found => exact ⟨found, rfl⟩
  | error fault => cases fault <;> cases succeeded

theorem statusFor_ne_unauthorized (service : Service) (caller mode variant : String)
    (email? : Option String) : statusFor service caller mode variant email? ≠ .unauthorized := by
  rw [statusFor.eq_def]
  split
  case h_4 => split <;> exact Http.Status.noConfusion
  all_goals exact Http.Status.noConfusion

/-! ## What a request asks for -/

theorem resolve_of_named {mode variant : String} {known : Contact.Mode × Contact.Variant}
    (found : named? mode variant = some known) : SearchCall.resolve mode variant = .ok known := by
  rw [named?] at found
  rw [SearchCall.resolve]
  split at found
  · next named namedMode slugged =>
      split at found
      · next supported =>
          cases found
          simp only [namedMode, slugged, supported, if_true]
      · cases found
  · cases found

theorem resolve_of_unnamed {mode variant : String} (unknown : named? mode variant = none) :
    exists fault, SearchCall.resolve mode variant = .error fault ∧ fault.status = .notFound := by
  rw [named?] at unknown
  rw [SearchCall.resolve]
  cases namedMode : Contact.Mode.ofText? mode with
  | none => exact ⟨_, rfl, rfl⟩
  | some knownMode =>
      cases slugged : Contact.Variant.ofSlug? variant with
      | none => exact ⟨_, rfl, rfl⟩
      | some knownVariant =>
          simp only [namedMode, slugged] at unknown
          split at unknown
          · cases unknown
          · next unsupported => exact ⟨_, if_neg unsupported, rfl⟩

theorem supports_of_named {mode variant : String} {known : Contact.Mode × Contact.Variant}
    (found : named? mode variant = some known) : known.2.supports known.1 = true := by
  rw [named?] at found
  split at found
  · split at found
    · next supported =>
        cases found
        exact supported
    · cases found
  · cases found

/-- The addresses that a query gives. -/
def emails (query : String) : List String :=
  ((Http.formPairs query).filter fun pair => pair.1 == "email").map Prod.snd

theorem termOf_of_emails {query : String} {email? : Option String}
    (given : emails query = email?.toList) : SearchCall.termOf query = .ok email? := by
  rw [emails] at given
  rw [SearchCall.termOf, SearchCall.parameter]
  cases email? with
  | none =>
      rw [List.map_eq_nil_iff.mp given]
  | some email =>
      rcases List.map_eq_singleton_iff.mp given with ⟨⟨name, value⟩, single, rfl⟩
      rw [single]

/-- A path whose two segments can be read, with a query that gives at most one address. -/
structure Asks (request : Http.Request) (mode variant : String) (email? : Option String) :
    Prop where
  path : exists rawMode rawVariant,
    Route.ofPath? request.target.path = some (.search rawMode rawVariant) ∧
      Http.segmentText? rawMode = some mode ∧ Http.segmentText? rawVariant = some variant
  query : emails (request.target.query.getD "") = email?.toList

/-- Segments without escapes are read as they are written. -/
theorem asks_of_unescaped {request : Http.Request} {mode variant : String} {email? : Option String}
    (route : Route.ofPath? request.target.path = some (.search mode variant))
    (plainMode : '%' ∉ mode.toList) (plainVariant : '%' ∉ variant.toList)
    (query : emails (request.target.query.getD "") = email?.toList) :
    Asks request mode variant email? where
  path := ⟨mode, variant, route, Http.segmentText?_of_unescaped plainMode,
    Http.segmentText?_of_unescaped plainVariant⟩
  query := query

theorem ofRequest_eq {rawMode rawVariant mode variant query : String} {email? : Option String}
    (readMode : Http.segmentText? rawMode = some mode)
    (readVariant : Http.segmentText? rawVariant = some variant)
    (given : emails query = email?.toList) :
    SearchCall.ofRequest rawMode rawVariant query =
      (SearchCall.resolve mode variant >>= fun known =>
        match email? with
        | some email => .ok ⟨known.1, known.2, email⟩
        | none => .error (.missingParameter SearchCall.parameter)) := by
  rw [SearchCall.ofRequest, SearchCall.segment, SearchCall.segment, readMode, readVariant,
    termOf_of_emails given]
  rfl

/-! ## What a search comes to -/

variable (order : Contact.MapOrder) (service : Service)

theorem collection_of_searched (service : Service) :
    match searched? service with
    | some collection =>
        service.catalog.collection service.config.storage.database
          service.config.storage.collection = .ok collection
    | none => exists fault : Store.Fault, fault.isScript = false ∧
        service.catalog.collection service.config.storage.database
          service.config.storage.collection = .error fault := by
  rw [searched?, collection?, Store.Catalog.collection_eq]
  cases service.catalog.running with
  | false => exact ⟨_, rfl, rfl⟩
  | true =>
      simp only [if_true]
      cases Store.Catalog.lookup (service.config.storage.database,
        service.config.storage.collection) service.catalog.collections with
      | none => exact ⟨_, rfl, rfl⟩
      | some collection => rfl

/-- Without a collection every search that is available fails on the store. -/
theorem search_of_unavailable (missing : searched? service = none) {mode : Contact.Mode}
    {variant : Contact.Variant} (supported : variant.supports mode = true)
    (caller email : String) :
    exists fault : Store.Fault, fault.isScript = false ∧
      Contact.search order service.catalog service.config.storage.database
        service.config.storage.collection ⟨mode, variant, caller, email⟩ =
          .error (.store fault) := by
  have looked := collection_of_searched service
  simp only [missing] at looked
  rcases looked with ⟨fault, plain, refused⟩
  refine ⟨fault, plain, ?_⟩
  cases mode with
  | secure => rw [Contact.search_secure, refused]
  | insecure => rw [Contact.search, Contact.predicate_insecure order supported, refused]

/-- The test of a script fails on nothing but the script. -/
theorem isScript_of_testScript {expression : Script.Expression} {document : Store.Document}
    {fault : Store.Fault} (failed : Store.Collection.testScript expression document = .error fault) :
    fault.isScript = true := by
  rw [Contact.testScript_eq, mapError_eq_error_iff] at failed
  rcases failed with ⟨inner, _, rfl⟩
  rfl

theorem isOk_test_iff {expression : Script.Expression} {document : Store.Document} :
    (expression.test document.toJson).isOk = true <->
      exists passed, Store.Collection.testScript expression document = .ok passed := by
  rw [Contact.testScript_eq]
  cases expression.test document.toJson with
  | error fault => exact ⟨nofun, fun found => nomatch found.choose_spec⟩
  | ok passed => exact ⟨fun _ => ⟨passed, rfl⟩, fun _ => rfl⟩

/-- A script that can be read fails exactly if a selection with it does. -/
theorem scriptFails_iff {script : String} {expression : Script.Expression}
    (parsed : Script.Expression.parse script = .ok expression)
    (documents : List Store.Document) :
    scriptFails script documents = true <->
      exists fault, Store.Collection.select (Store.Collection.testScript expression) documents =
        .error fault := by
  rw [scriptFails, parsed]
  constructor
  · intro failing
    rcases List.any_eq_true.mp failing with ⟨document, member, unanswered⟩
    cases selected : Store.Collection.select (Store.Collection.testScript expression) documents with
    | error fault => exact ⟨fault, rfl⟩
    | ok found =>
        have answered := Store.Collection.answered_of_select selected document member
        rw [isOk_test_iff.mpr answered] at unanswered
        cases unanswered
  · rintro ⟨fault, failed⟩
    rcases Store.Collection.select_eq_error_iff.mp failed with
      ⟨before, document, after, rfl, _, unanswered⟩
    apply List.any_eq_true.mpr
    refine ⟨document, by simp, ?_⟩
    rw [Bool.not_eq_true', <- Bool.not_eq_true, isOk_test_iff]
    rintro ⟨passed, answered⟩
    cases answered.symm.trans unanswered

/-- The fault of a failing selection lies with the script. -/
theorem isScript_of_select {expression : Script.Expression} {documents : List Store.Document}
    {fault : Store.Fault}
    (failed : Store.Collection.select (Store.Collection.testScript expression) documents =
      .error fault) : fault.isScript = true := by
  rcases Store.Collection.select_eq_error_iff.mp failed with ⟨_, _, _, _, _, unanswered⟩
  exact isScript_of_testScript unanswered

/-- In a collection an insecure search fails exactly if its script does, and on the script. -/
theorem find_script_outcome (script : String) (collection : Store.Collection) :
    match collection.find (.script script) with
    | .error fault => fault.isScript = true ∧ scriptFails script collection.documents = true
    | .ok _ => scriptFails script collection.documents = false := by
  cases parsed : Script.Expression.parse script with
  | error fault =>
      rw [Store.Collection.find, scriptFails, parsed]
      exact ⟨rfl, rfl⟩
  | ok expression =>
      rw [Contact.find_script parsed]
      have failing := scriptFails_iff parsed collection.documents
      cases selected : Store.Collection.select (Store.Collection.testScript expression)
        collection.documents with
      | error fault => exact ⟨isScript_of_select selected, failing.mpr ⟨fault, selected⟩⟩
      | ok found =>
          apply Bool.eq_false_iff.mpr
          intro fails
          rcases failing.mp fails with ⟨fault, failed⟩
          cases selected.symm.trans failed

theorem status_ofContact_store (fault : Store.Fault) :
    (SearchFault.ofContact (.store fault)).status =
      if fault.isScript = true then .badRequest else .internalError := by
  cases fault <;> rfl

/-- A search that is available fails on the store, on its script, or not at all. -/
theorem statusOf_run {mode : Contact.Mode} {variant : Contact.Variant}
    (supported : variant.supports mode = true) (caller email : String) :
    statusOf (SearchCall.run ⟨mode, variant, email⟩ order service.config.storage service.catalog
        caller) =
      match searched? service with
      | none => .internalError
      | some collection =>
          if mode = .insecure ∧
              scriptFails (Contact.ownershipScript caller email) collection.documents = true then
            .badRequest
          else
            .ok := by
  have looked := collection_of_searched service
  rw [SearchCall.run]
  cases searching : searched? service with
  | none =>
      simp only [searching] at looked
      rcases search_of_unavailable order service searching supported caller email with
        ⟨fault, plain, refused⟩
      rw [refused]
      apply (status_ofContact_store fault).trans
      rw [plain]
      rfl
  | some collection =>
      simp only [searching] at looked
      cases mode with
      | secure =>
          rw [Contact.search_secure, looked]
          rfl
      | insecure =>
          have outcome := find_script_outcome (Contact.ownershipScript caller email) collection
          rw [Contact.search, Contact.predicate_insecure order supported, looked]
          simp only
          cases found : collection.find (.script (Contact.ownershipScript caller email)) with
          | error fault =>
              simp only [found] at outcome
              apply (status_ofContact_store fault).trans
              rw [if_pos outcome.1, if_pos ⟨trivial, outcome.2⟩]
          | ok documents =>
              simp only [found] at outcome
              rw [outcome]
              rfl

variable {request : Http.Request} {mode variant : String} {email? : Option String}

theorem statusOf_outcome {rawMode rawVariant query : String}
    (readMode : Http.segmentText? rawMode = some mode)
    (readVariant : Http.segmentText? rawVariant = some variant)
    (given : emails query = email?.toList) (caller : String) :
    statusOf (outcome order service caller rawMode rawVariant query) =
      statusFor service caller mode variant email? := by
  rw [outcome, ofRequest_eq readMode readVariant given, statusFor.eq_def]
  cases named : named? mode variant with
  | none =>
      rcases resolve_of_unnamed named with ⟨fault, refused, notFound⟩
      rw [refused]
      exact notFound
  | some known =>
      rw [resolve_of_named named]
      cases email? with
      | none => rfl
      | some email =>
          apply (statusOf_run order service (supports_of_named named) caller email).trans
          cases searched? service <;> rfl

/-- A result is what the search of the store returns for what was asked. -/
theorem found_of_outcome {rawMode rawVariant query : String}
    (readMode : Http.segmentText? rawMode = some mode)
    (readVariant : Http.segmentText? rawVariant = some variant)
    (given : emails query = email?.toList) {caller : String} {documents : List Store.Document}
    (succeeded : outcome order service caller rawMode rawVariant query = .ok documents) :
    exists known email, named? mode variant = some known ∧ email? = some email ∧
      Contact.search order service.catalog service.config.storage.database
        service.config.storage.collection ⟨known.1, known.2, caller, email⟩ = .ok documents := by
  rw [outcome, ofRequest_eq readMode readVariant given] at succeeded
  cases named : named? mode variant with
  | none =>
      rcases resolve_of_unnamed named with ⟨fault, refused, _⟩
      rw [refused] at succeeded
      cases succeeded
  | some known =>
      rw [resolve_of_named named] at succeeded
      cases email? with
      | none => cases succeeded
      | some email => exact ⟨known, email, rfl, rfl, mapError_eq_ok_iff.mp succeeded⟩

/-! ## The answer -/

/-- A request that gets a page whole is answered with what the route answers. -/
theorem content_handle_of_get (identifier : String) (get : request.method = .get) :
    (handle order service identifier request).1.content =
      (receive order (service.begun request) request).1.content := by
  have proper : request.method ≠ .options := by
    rw [get]
    exact Http.Method.noConfusion
  rw [handle_of_ne order service identifier proper, content_layered, Layers.visible, get]
  exact if_neg fun both => Http.Method.noConfusion both.2

theorem enabled_of_refused {access : Access} {headers : Http.Headers} {fault : AccessFault}
    (denied : access.authenticate headers = .error fault) : access.enabled = true := by
  rw [Access.authenticate] at denied
  cases enabled : access.enabled with
  | true => rfl
  | false =>
      rw [enabled] at denied
      cases denied

theorem content_of_unknown (identifier : String) (get : request.method = .get)
    (guarded : service.config.access.isPublic request.target.path = false) {fault : AccessFault}
    (denied : service.config.access.authenticate request.headers = .error fault) :
    (handle order service identifier request).1.content =
      (service.config.access.refusal fault).content := by
  have unidentified : identified (service.begun request).config.access request = .error fault := by
    rw [identified, begun, guarded, denied]
    rfl
  rw [content_handle_of_get order service identifier get, receive_eq, unidentified]
  rfl

theorem content_of_known (identifier : String) (get : request.method = .get)
    (guarded : service.config.access.isPublic request.target.path = false) {caller : String}
    (known : service.config.access.authenticate request.headers = .ok caller)
    {rawMode rawVariant : String}
    (route : Route.ofPath? request.target.path = some (.search rawMode rawVariant)) :
    (handle order service identifier request).1.content =
      (replyOf service.config.access (outcome order service caller rawMode rawVariant
        (request.target.query.getD ""))).content := by
  have caller : identified (service.begun request).config.access request = .ok (some caller) := by
    rw [identified, begun, guarded, known]
    rfl
  have reading : request.method.isReading = true := by
    rw [get]
    rfl
  rw [content_handle_of_get order service identifier get, receive_eq, caller]
  simp only
  rw [dispatch_search order (service.begun request) _ route, if_pos reading, searchReply_eq]
  rfl

/--
Every search that is asked for by reading a path that is not public is answered with the status
that the caller, the two names, the address, the store and the script decide on, in this order.
-/
theorem search_status (config : Config) {service : Service} (reachable : service.Reachable config)
    {request : Http.Request} (get : request.method = .get)
    (guarded : config.access.isPublic request.target.path = false)
    {mode variant : String} {email? : Option String} (asks : Asks request mode variant email?)
    (order : Contact.MapOrder) (identifier : String) :
    (handle order service identifier request).1.status =
        searchStatus service config.access request.headers mode variant email? ∧
      ((handle order service identifier request).1.status = .unauthorized ->
        config.access.enabled = true) ∧
      ((handle order service identifier request).1.status = .internalError ->
        (handle order service identifier request).1.body = discretion) ∧
      (forall caller, config.access.authenticate request.headers = .ok caller ->
        (handle order service identifier request).1.status = .ok ->
          exists known email documents, named? mode variant = some known ∧ email? = some email ∧
            Contact.search order service.catalog config.storage.database
              config.storage.collection ⟨known.1, known.2, caller, email⟩ = .ok documents ∧
            (handle order service identifier request).1.body =
              (Json.array (documents.map Store.Document.toJson)).text) := by
  have sameConfig := reachable.config
  subst sameConfig
  rcases asks with ⟨⟨rawMode, rawVariant, route, readMode, readVariant⟩, given⟩
  cases caller : service.config.access.authenticate request.headers with
  | error fault =>
      have content := Prod.mk.inj (content_of_unknown order service identifier get guarded caller)
      have unauthorized := content.1.trans (status_refusal service.config.access fault)
      refine ⟨?_, ?_, ?_, nofun⟩
      · rw [unauthorized, searchStatus, caller]
      · exact fun _ => enabled_of_refused caller
      · intro internal
        cases unauthorized.symm.trans internal
  | ok name =>
      have content := Prod.mk.inj
        (content_of_known order service identifier get guarded caller route)
      have status := content.1.trans (status_replyOf _ _)
      have decided := statusOf_outcome order service readMode readVariant given name
      refine ⟨?_, ?_, ?_, ?_⟩
      · rw [status, decided, searchStatus_of_known caller]
      · intro unauthorized
        have never := statusFor_ne_unauthorized service name mode variant email?
        exact absurd (decided.symm.trans (status.symm.trans unauthorized)) never
      · intro internal
        exact content.2.trans (body_replyOf_of_internalError (status.symm.trans internal))
      · rintro _ ⟨⟩ succeeded
        rcases exists_of_statusOf_eq_ok (status.symm.trans succeeded) with ⟨documents, result⟩
        rcases found_of_outcome order service readMode readVariant given result with
          ⟨known, email, named, present, searched⟩
        refine ⟨known, email, documents, named, present, searched, ?_⟩
        rw [content.2, result]
        rfl

/-- An insecure search of the first user for a quotation mark, which ends up in a script. -/
def quoteSearch : Http.Request where
  method := .get
  target := ⟨none, "/insecure/basicdbobject-put/contacts/search", some "email=%22"⟩
  headers := firstUserSearch.headers

/-- The search of the first user by somebody who does not say who it is. -/
def anonymousSearch : Http.Request :=
  { firstUserSearch with headers := [] }

/-- The search of the first user in a mode in which its variant is not available. -/
def unavailableSearch : Http.Request :=
  { firstUserSearch with
    target := ⟨none, "/insecure/bson-filter/contacts/search", some "email=contact1@private.info"⟩ }

/-- One search for each status, asked of the seeded server while it runs or after its shutdown. -/
theorem search_status_fiveSearches :
    (seededServer.Reachable Config.default ∧
      (seededServer.after [.shutDown]).Reachable Config.default ∧ quoteSearch.method = .get ∧
      Config.default.access.isPublic quoteSearch.target.path = false ∧
      Asks quoteSearch "insecure" "basicdbobject-put" (some "\"")) ∧
    (handle .asWritten seededServer "first" quoteSearch).1.status = .badRequest ∧
      (handle .asWritten (seededServer.after [.shutDown]) "second" quoteSearch).1.status =
        .internalError ∧
      (handle .asWritten seededServer "third" anonymousSearch).1.status = .unauthorized ∧
      (handle .asWritten seededServer "fourth" unavailableSearch).1.status = .notFound ∧
      (handle .asWritten seededServer "fifth" firstUserSearch).1.status = .ok ∧
      (handle .asWritten seededServer "fifth" firstUserSearch).1.body =
        (Json.array [(Contact.contact "contact1@private.info" "123 Fake St" "111-111-1111"
          "user1").toJson]).text := by
  have running : seededServer.Reachable Config.default := ⟨seededServer, [], rfl, rfl⟩
  have stopped : (seededServer.after [.shutDown]).Reachable Config.default :=
    ⟨seededServer, _, rfl, rfl⟩
  have guarded : Config.default.access.isPublic quoteSearch.target.path = false := by decide
  have asks : Asks quoteSearch "insecure" "basicdbobject-put" (some "\"") :=
    asks_of_unescaped rfl (by decide) (by decide) (by decide +kernel)
  have address : emails "email=contact1@private.info" = ["contact1@private.info"] := by
    decide +kernel
  have asksFirst : Asks firstUserSearch "secure" "bson-filter" (some "contact1@private.info") :=
    asks_of_unescaped (by decide) (by decide) (by decide) address
  have asksAnonymous : Asks anonymousSearch "secure" "bson-filter"
      (some "contact1@private.info") := ⟨asksFirst.path, asksFirst.query⟩
  have asksUnavailable : Asks unavailableSearch "insecure" "bson-filter"
      (some "contact1@private.info") :=
    asks_of_unescaped rfl (by decide) (by decide) address
  have first := search_status Config.default running rfl rfl asksFirst .asWritten "fifth"
  have succeeded : (handle .asWritten seededServer "fifth" firstUserSearch).1.status = .ok := by
    apply first.1.trans
    apply (searchStatus_of_known authenticate_firstUserSearch _ _ _ _).trans
    rfl
  refine ⟨⟨running, stopped, rfl, guarded, asks⟩, ?_, ?_, ?_, ?_, succeeded, ?_⟩
  · apply (search_status Config.default running rfl guarded asks .asWritten "first").1.trans
    apply (searchStatus_of_known authenticate_firstUserSearch _ _ _ _).trans
    decide +kernel
  · apply (search_status Config.default stopped rfl guarded asks .asWritten "second").1.trans
    apply (searchStatus_of_known authenticate_firstUserSearch _ _ _ _).trans
    decide +kernel
  · apply (search_status Config.default running rfl rfl asksAnonymous .asWritten "third").1.trans
    rfl
  · apply (search_status Config.default running rfl rfl asksUnavailable .asWritten "fourth").1.trans
    apply (searchStatus_of_known authenticate_firstUserSearch _ _ _ _).trans
    rfl
  · have known : named? "secure" "bson-filter" = some (.secure, .filter) := rfl
    rcases first.2.2.2 "user1" authenticate_firstUserSearch succeeded with
      ⟨_, _, documents, named, given, searched, body⟩
    cases known.symm.trans named
    cases given
    rw [Contact.search_secure] at searched
    cases searched
    exact body

end Service
end Server
end ContactSearch
