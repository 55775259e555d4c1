import ContactSearch.Proofs.Server.SearchStatus

namespace ContactSearch
namespace Server
namespace Service

/-!
# Who is refused

A request can be refused in two places.  On a path that is not public the
caller has to log in first.  On a public path nobody is asked who calls, so a
search that is read there has no caller to search for, and refuses.  Nothing
else is answered with this status: a search fails in other ways, and no page
knows its caller.

The second place does not ask whether logging in is enabled.  A public path
therefore spares every page the credentials, but takes a search away from
everybody, from anonymous callers as well.
-/

/-- Whether a path that is not public is asked for without credentials that are accepted. -/
def LacksCredentials (access : Access) (request : Http.Request) : Prop :=
  access.isPublic request.target.path = false ∧
    exists fault, access.authenticate request.headers = .error fault

/-- Whether a path leads to a search. -/
def IsSearchPath (path : String) : Prop :=
  exists mode variant, Route.ofPath? path = some (.search mode variant)

/-- Whether a search is read on a public path. -/
def SearchesInPublic (access : Access) (request : Http.Request) : Prop :=
  access.isPublic request.target.path = true ∧ request.method.isReading = true ∧
    IsSearchPath request.target.path

/-! ## Searches of a known caller -/

theorem status_ofContact_ne_unauthorized (fault : Contact.Fault) :
    (SearchFault.ofContact fault).status ≠ .unauthorized := by
  cases fault with
  | unsupported mode variant => exact Http.Status.noConfusion
  | store fault =>
      rw [status_ofContact_store]
      split <;> exact Http.Status.noConfusion

theorem status_of_segment {name value : String} {fault : SearchFault}
    (refused : SearchCall.segment name value = .error fault) : fault.status = .badRequest := by
  rw [SearchCall.segment] at refused
  split at refused <;> cases refused
  rfl

theorem status_of_termOf {query : String} {fault : SearchFault}
    (refused : SearchCall.termOf query = .error fault) : fault.status = .badRequest := by
  rw [SearchCall.termOf] at refused
  split at refused <;> cases refused
  rfl

theorem status_of_resolve {mode variant : String} {fault : SearchFault}
    (refused : SearchCall.resolve mode variant = .error fault) : fault.status = .notFound := by
  rw [SearchCall.resolve] at refused
  split at refused
  · cases refused
    rfl
  · split at refused
    · split at refused <;> cases refused
      rfl
    · cases refused
      rfl

/-- What is wrong with a request for a search is never the caller. -/
theorem status_of_ofRequest {mode variant query : String} {fault : SearchFault}
    (refused : SearchCall.ofRequest mode variant query = .error fault) :
    fault.status = .badRequest ∨ fault.status = .notFound := by
  rcases bind_eq_error_iff.mp refused with refused | ⟨modeText, _, refused⟩
  · exact Or.inl (status_of_segment refused)
  rcases bind_eq_error_iff.mp refused with refused | ⟨variantText, _, refused⟩
  · exact Or.inl (status_of_segment refused)
  rcases bind_eq_error_iff.mp refused with refused | ⟨term, _, refused⟩
  · exact Or.inl (status_of_termOf refused)
  rcases bind_eq_error_iff.mp refused with refused | ⟨known, _, refused⟩
  · exact Or.inr (status_of_resolve refused)
  cases term with
  | some term => cases refused
  | none =>
      cases refused
      exact Or.inl rfl

/-- A search of a caller who is known is never refused for want of one. -/
theorem status_searchReply_ne_unauthorized (order : Contact.MapOrder) (service : Service)
    (caller mode variant query : String) :
    (searchReply order service.config service.catalog (some caller) mode variant query).1.status ≠
      .unauthorized := by
  rw [searchReply_eq, status_replyOf, outcome]
  cases asked : SearchCall.ofRequest mode variant query with
  | error fault =>
      intro unauthorized
      rcases status_of_ofRequest asked with status | status <;>
        cases status.symm.trans unauthorized
  | ok call =>
      change statusOf (call.run order service.config.storage service.catalog caller) ≠ _
      rw [SearchCall.run]
      cases Contact.search order service.catalog service.config.storage.database
        service.config.storage.collection ⟨call.mode, call.variant, caller, call.term⟩ with
      | error fault => exact status_ofContact_ne_unauthorized fault
      | ok found => exact Http.Status.noConfusion

/-! ## Where a request is refused -/

variable (order : Contact.MapOrder) (service : Service) {request : Http.Request}

theorem status_serve_eq_unauthorized_iff (caller : Option String) (route : Route) :
    (serve order service caller request route).1.status = .unauthorized <->
      caller = none ∧ exists mode variant, route = .search mode variant := by
  cases route with
  | search mode variant =>
      cases caller with
      | none => exact iff_of_true (status_refusal _ _) ⟨rfl, mode, variant, rfl⟩
      | some caller =>
          have known := status_searchReply_ne_unauthorized order service caller mode variant
            (request.target.query.getD "")
          exact iff_of_false known nofun
  | _ => exact iff_of_false Http.Status.noConfusion nofun

theorem status_dispatch_eq_unauthorized_iff (caller : Option String) :
    (dispatch order service caller request).1.status = .unauthorized <->
      caller = none ∧ request.method.isReading = true ∧ IsSearchPath request.target.path := by
  rw [dispatch, IsSearchPath]
  cases Route.ofPath? request.target.path with
  | none =>
      apply iff_of_false Http.Status.noConfusion
      rintro ⟨_, _, mode, variant, found⟩
      cases found
  | some route =>
      simp only [Option.some.injEq]
      split
      · next reading =>
          rw [status_serve_eq_unauthorized_iff, reading]
          exact and_congr_right fun _ => (and_iff_right rfl).symm
      · next passive =>
          exact iff_of_false Http.Status.noConfusion fun both => passive both.2.1

theorem identified_eq_error_iff {access : Access} :
    (exists fault, identified access request = .error fault) <->
      LacksCredentials access request := by
  rw [LacksCredentials, identified]
  cases access.isPublic request.target.path with
  | true =>
      apply iff_of_false
      · rintro ⟨fault, refused⟩
        cases refused
      · rintro ⟨guarded, _⟩
        cases guarded
  | false =>
      cases access.authenticate request.headers with
      | error fault => exact iff_of_true ⟨fault, rfl⟩ ⟨rfl, fault, rfl⟩
      | ok caller =>
          apply iff_of_false
          · rintro ⟨fault, refused⟩
            cases refused
          · rintro ⟨_, fault, refused⟩
            cases refused

theorem identified_eq_none_iff {access : Access} :
    identified access request = .ok none <-> access.isPublic request.target.path = true := by
  rw [identified]
  cases access.isPublic request.target.path with
  | true => exact iff_of_true rfl rfl
  | false =>
      apply iff_of_false
      · intro known
        cases found : access.authenticate request.headers <;> rw [found] at known <;> cases known
      · exact Bool.false_ne_true

theorem status_receive_eq_unauthorized_iff (request : Http.Request) :
    (receive order service request).1.status = .unauthorized <->
      LacksCredentials service.config.access request ∨
        SearchesInPublic service.config.access request := by
  rw [receive_eq, ← identified_eq_error_iff, SearchesInPublic, ← identified_eq_none_iff]
  cases identified service.config.access request with
  | error fault => exact iff_of_true (status_refusal _ _) (Or.inl ⟨fault, rfl⟩)
  | ok caller =>
      rw [status_dispatch_eq_unauthorized_iff, Except.ok.injEq]
      exact (or_iff_right nofun).symm

/-- A request for permission is never refused, and the layers never change a status. -/
theorem status_handle_eq_unauthorized_iff (identifier : String) (request : Http.Request) :
    (handle order service identifier request).1.status = .unauthorized <->
      request.method ≠ .options ∧
        (LacksCredentials service.config.access request ∨
          SearchesInPublic service.config.access request) := by
  by_cases forPermission : request.method = .options
  · have content := Layers.content_complete (isOnPage request) request.method
      (Layers.permission service.config request)
    have permitted := (congrArg Prod.fst content).trans (Layers.fst_visible _ _ _)
    rw [handle_of_options order service identifier forPermission]
    apply iff_of_false
    · intro unauthorized
      cases permitted.symm.trans unauthorized
    · exact fun both => both.1 forPermission
  · have content := content_layered service.config identifier request
      (receive order (service.begun request) request).1
    have received := (congrArg Prod.fst content).trans (Layers.fst_visible _ _ _)
    rw [handle_of_ne order service identifier forPermission]
    exact (congrArg (· = Http.Status.unauthorized) received).to_iff.trans
      ((status_receive_eq_unauthorized_iff order (service.begun request) request).trans
        (and_iff_right forPermission).symm)

/-! ## Public paths -/

/-- A server with one more public path. -/
def withPublicPath (service : Service) (path : String) : Service :=
  { service with
    config :=
      { service.config with
        access :=
          { service.config.access with
            publicPaths := path :: service.config.access.publicPaths } } }

theorem isPublic_withPublicPath (service : Service) (path requested : String) :
    (service.withPublicPath path).config.access.isPublic requested = true <->
      requested = path ∨ service.config.access.isPublic requested = true := by
  rw [Access.isPublic, Access.isPublic, List.contains_iff_mem, List.contains_iff_mem]
  exact List.mem_cons

theorem not_lacksCredentials_of_disabled {access : Access} (disabled : access.enabled = false)
    (request : Http.Request) : ¬ LacksCredentials access request := by
  rintro ⟨_, fault, denied⟩
  cases disabled.symm.trans (enabled_of_refused denied)

/-- One more public path spares credentials, and turns away those who search on it. -/
theorem refused_of_withPublicPath {service : Service} {path : String}
    (refused : LacksCredentials (service.withPublicPath path).config.access request ∨
      SearchesInPublic (service.withPublicPath path).config.access request) :
    (LacksCredentials service.config.access request ∨
        SearchesInPublic service.config.access request) ∨
      request.target.path = path ∧ IsSearchPath path := by
  rcases refused with ⟨guarded, denied⟩ | ⟨isPublic, reading, isSearch⟩
  · have notAdded := mt (isPublic_withPublicPath service path request.target.path).mpr
      (Bool.eq_false_iff.mp guarded)
    have guarded := Bool.eq_false_iff.mpr fun isPublic => notAdded (Or.inr isPublic)
    exact Or.inl (Or.inl ⟨guarded, denied⟩)
  · rcases (isPublic_withPublicPath service path request.target.path).mp isPublic with
      rfl | isPublic
    · exact Or.inr ⟨rfl, isSearch⟩
    · exact Or.inl (Or.inr ⟨isPublic, reading, isSearch⟩)

/--
A request is refused exactly if it lacks credentials on a path that is not public or reads a
search on one that is.  Where nobody has to log in, only the second is left.  So no page asks for
credentials on a public path, and one more public path refuses nothing that was not refused
before, but for the searches on this very path.
-/
theorem unauthorized_exactly (identifier : String) (request : Http.Request) :
    ((handle order service identifier request).1.status = .unauthorized <->
      request.method ≠ .options ∧
        (LacksCredentials service.config.access request ∨
          SearchesInPublic service.config.access request)) ∧
    (service.config.access.enabled = false ->
      ((handle order service identifier request).1.status = .unauthorized <->
        request.method ≠ .options ∧ SearchesInPublic service.config.access request)) ∧
    (forall path,
      (handle order service identifier request).1.status ≠ .unauthorized ->
      (handle order (service.withPublicPath path) identifier request).1.status = .unauthorized ->
        request.target.path = path ∧ IsSearchPath path) := by
  refine ⟨status_handle_eq_unauthorized_iff order service identifier request, ?_, ?_⟩
  · intro disabled
    rw [status_handle_eq_unauthorized_iff,
      or_iff_right (not_lacksCredentials_of_disabled disabled request)]
  · intro path answered unauthorized
    rw [Ne, status_handle_eq_unauthorized_iff] at answered
    rw [status_handle_eq_unauthorized_iff] at unauthorized
    rcases refused_of_withPublicPath unauthorized.2 with refused | added
    · exact absurd ⟨unauthorized.1, refused⟩ answered
    · exact added

/-- The default server, with the path of the first user's search made public. -/
def publicSearchServer : Service :=
  seededServer.withPublicPath firstUserSearch.target.path

/-- The same server, with nobody having to log in. -/
def anonymousSearchServer : Service :=
  { publicSearchServer with
    config :=
      { publicSearchServer.config with
        access := { publicSearchServer.config.access with enabled := false } } }

/-- The first user finds a contact until the path is public, and then nobody is let in. -/
theorem publicSearch_unauthorized :
    (publicSearchServer.config.validate = .ok () ∧
      publicSearchServer.Reachable publicSearchServer.config ∧
      anonymousSearchServer.config.validate = .ok () ∧
      anonymousSearchServer.Reachable anonymousSearchServer.config) ∧
    firstUserSearch.target.path ∈ publicSearchServer.config.access.publicPaths ∧
    anonymousSearchServer.config.access.enabled = false ∧
    (handle .asWritten seededServer "first" firstUserSearch).1.status = .ok ∧
    (handle .asWritten publicSearchServer "first" firstUserSearch).1.status = .unauthorized ∧
    (handle .asWritten anonymousSearchServer "first" firstUserSearch).1.status =
      .unauthorized := by
  have reachable : publicSearchServer.Reachable publicSearchServer.config :=
    ⟨publicSearchServer, [], rfl, rfl⟩
  have anonymousReachable : anonymousSearchServer.Reachable anonymousSearchServer.config :=
    ⟨anonymousSearchServer, [], rfl, rfl⟩
  have isPublic := (isPublic_withPublicPath seededServer firstUserSearch.target.path _).mpr
    (Or.inl rfl)
  have isSearch : IsSearchPath firstUserSearch.target.path :=
    ⟨"secure", "bson-filter", by decide⟩
  refine ⟨⟨rfl, reachable, rfl, anonymousReachable⟩, List.mem_cons_self, rfl, ?_, ?_, ?_⟩
  · decide +kernel
  · exact (status_handle_eq_unauthorized_iff _ publicSearchServer _ _).mpr
      ⟨Http.Method.noConfusion, Or.inr ⟨isPublic, rfl, isSearch⟩⟩
  · exact (status_handle_eq_unauthorized_iff _ anonymousSearchServer _ _).mpr
      ⟨Http.Method.noConfusion, Or.inr ⟨isPublic, rfl, isSearch⟩⟩

end Service
end Server
end ContactSearch
