import ContactSearch.Proofs.Server.Activities
import ContactSearch.Proofs.Server.Headers
import ContactSearch.Proofs.Server.Noninterference

namespace ContactSearch
namespace Server
namespace Service

/-!
# Headers that every answer is meant to carry

However an answer to a request has come about, it carries the number of the
request and each protective header once, and the order to stay with a
protected connection exactly if the request came over one.  A page, a refusal
and a fault are alike in this, as they differ in no header of these names.

The exception is the answer to a request for permission.  It has passed none
of the layers that add these headers, and carries not one of them.
-/

/-! ## Answers before the layers -/

/-- The names of the headers that an answer can have before it passes the layers. -/
def innerNames : List String := ["content-type", "www-authenticate"]

/-- Whether a response has only headers of its own. -/
def IsInner (response : Http.Response) : Prop :=
  forall header, header ∈ response.headers -> header.1 ∈ innerNames

theorem isInner_empty (status : Http.Status) : IsInner (.empty status) :=
  nofun

theorem isInner_ofText (status : Http.Status) (contentType body : String) :
    IsInner (.ofText status contentType body) := by
  intro header member
  rw [List.mem_singleton.mp member]
  exact List.mem_cons_self

theorem isInner_refusal (access : Access) (fault : AccessFault) :
    IsInner (access.refusal fault) := by
  have told : IsInner (.ofFault .unauthorized fault.message) := isInner_ofText _ _ _
  intro header member
  rw [Access.refusal] at member
  split at member
  · rcases List.mem_append.mp member with member | member
    · exact told header (List.mem_filter.mp member).1
    · rw [List.mem_singleton.mp member]
      exact List.mem_cons_of_mem _ List.mem_cons_self
  · exact told header member

theorem isInner_response (access : Access) (fault : SearchFault) :
    IsInner (fault.response access) := by
  cases fault with
  | notLoggedIn => exact isInner_refusal access .missing
  | _ => exact isInner_ofText _ _ _

theorem isInner_searchReply (order : Contact.MapOrder) (config : Config)
    (catalog : Store.Catalog) (caller : Option String) (mode variant query : String) :
    IsInner (searchReply order config catalog caller mode variant query).1 := by
  cases caller with
  | none => exact isInner_response config.access .notLoggedIn
  | some caller =>
      rw [searchReply]
      cases SearchCall.ofRequest mode variant query with
      | error fault => exact isInner_response config.access fault
      | ok call =>
          simp only
          cases call.run order config.storage catalog caller with
          | error fault => exact isInner_response config.access fault
          | ok found => exact isInner_ofText _ _ _

theorem isInner_dispatch (order : Contact.MapOrder) (service : Service) (caller : Option String)
    (request : Http.Request) : IsInner (dispatch order service caller request).1 := by
  rw [dispatch]
  split
  · exact isInner_ofText _ _ _
  · next route _ =>
      split
      · cases route with
        | icon => exact isInner_empty _
        | search mode variant => exact isInner_searchReply _ _ _ _ _ _ _
        | _ => exact isInner_ofText _ _ _
      · exact isInner_empty _

theorem isInner_receive (order : Contact.MapOrder) (service : Service) (request : Http.Request) :
    IsInner (receive order service request).1 := by
  rw [receive_eq]
  cases identified service.config.access request with
  | error fault => exact isInner_refusal _ _
  | ok caller => exact isInner_dispatch _ _ _ _

/-! ## The baseline -/

/-- A request over a protected connection, to the server or to one in front of it. -/
def CameProtected (request : Http.Request) : Prop :=
  (exists value, request.headers.first? "x-forwarded-proto" = some value ∧
    Http.sameIgnoringCase value "https" = true) ∨
  (exists scheme, request.target.scheme = some scheme ∧
    Http.sameIgnoringCase scheme "https" = true)

/-- An answer with all headers that are meant to be on every answer, each of them once. -/
structure Guarded (identifier : String) (request : Http.Request) (response : Http.Response) :
    Prop where
  number : response.headers.values "x-request-id" = [identifier]
  unguessed : response.headers.values "x-content-type-options" = ["nosniff"]
  unframed : response.headers.values "x-frame-options" = ["DENY"]
  unreferred : response.headers.values "referrer-policy" = ["no-referrer"]
  confined : response.headers.values "content-security-policy" =
    ["default-src 'none'; frame-ancestors 'none'"]
  unstored : response.headers.values "cache-control" = ["no-store"]
  transport : response.headers.values "strict-transport-security" ≠ [] <-> CameProtected request

/-- The names of these headers. -/
def baselineNames : List String :=
  ["x-request-id", "x-content-type-options", "x-frame-options", "referrer-policy",
    "content-security-policy", "cache-control", "strict-transport-security"]

theorem isProtected_iff (request : Http.Request) :
    Layers.isProtected request = true <-> CameProtected request := by
  rw [Layers.isProtected, CameProtected, Bool.or_eq_true]
  cases request.headers.first? "x-forwarded-proto" <;> cases request.target.scheme <;>
    simp

/-- Every protective header is there once, whatever the response had under its name. -/
theorem values_protection (config : Config) (identifier : String) (request : Http.Request)
    (response : Http.Response) {header : String × String}
    (member : header ∈ Layers.protections) :
    (layered config identifier request response).headers.values header.1 = [header.2] := by
  have later : forall header, header ∈ Layers.protections ->
      Http.Apart Layers.laterNames header.1 := by decide +kernel
  have counted : forall header, header ∈ Layers.protections ->
      Http.Apart ["x-request-id", "x-correlation-id"] header.1 := by decide +kernel
  rw [values_layered (later header member), numbered,
    Layers.values_identify_of_apart (counted header member)]
  exact Layers.values_protect request response member

/-- The order to stay with a protected connection is told by the request alone. -/
theorem values_transport (config : Config) (identifier : String) (request : Http.Request)
    {response : Http.Response} (inner : IsInner response) :
    (layered config identifier request response).headers.values Layers.transportName =
      if Layers.isProtected request = true then ["max-age=31536000; includeSubDomains"]
      else [] := by
  have later : Http.Apart Layers.laterNames Layers.transportName := by decide +kernel
  have counted : Http.Apart ["x-request-id", "x-correlation-id"] Layers.transportName := by
    decide +kernel
  have foreign : Http.Apart innerNames Layers.transportName := by decide +kernel
  have none : response.headers.values Layers.transportName = [] :=
    Http.Headers.values_eq_nil_of_apart (Layers.apart_of_mem foreign inner)
  rw [values_layered later, numbered, Layers.values_identify_of_apart counted,
    Layers.values_protect_transport, none]

/-- A response with headers of its own only is guarded once it has passed all layers. -/
theorem guarded_layered (config : Config) (identifier : String) (request : Http.Request)
    {response : Http.Response} (inner : IsInner response) :
    Guarded identifier request (layered config identifier request response) := by
  have guard : forall name value, (name, value) ∈ Layers.protections ->
      (layered config identifier request response).headers.values name = [value] :=
    fun _ _ member => values_protection config identifier request response member
  have later : Http.Apart Layers.laterNames "x-request-id" := by decide +kernel
  have transport := values_transport config identifier request inner
  refine ⟨?_, guard _ _ (by decide), guard _ _ (by decide), guard _ _ (by decide),
    guard _ _ (by decide), guard _ _ (by decide), ?_⟩
  · rw [values_layered later, numbered]
    exact Layers.values_identify_number identifier request _
  · rw [← isProtected_iff, ← Layers.transportName, transport]
    cases Layers.isProtected request with
    | true => exact iff_of_true (List.cons_ne_nil _ _) rfl
    | false => exact iff_of_false (fun some => some rfl) Bool.false_ne_true

/-! ## Requests for permission -/

/-- The names of the headers of an answer to a request for permission. -/
def permissionNames : List String :=
  ["vary", "access-control-allow-origin", "access-control-allow-methods",
    "access-control-allow-headers", "allow", "content-length"]

theorem mem_permission {config : Config} {request : Http.Request} {header : String × String}
    (member : header ∈ (Layers.complete (isOnPage request) request.method
      (Layers.permission config request)).headers) : header.1 ∈ permissionNames := by
  rw [Layers.headers_complete] at member
  rcases List.mem_append.mp member with member | member
  · simp only [Layers.permission, List.mem_append, List.mem_singleton] at member
    rcases member with (rfl | member) | member
    · decide
    · rw [Layers.mem_originHeaders member]
      decide
    · rw [Layers.generalPermissions] at member
      split at member
      · cases member
      · simp only [List.mem_cons, List.not_mem_nil, or_false] at member
        rcases member with rfl | rfl <;> decide
  · have completed := Layers.mem_completionHeaders member
    exact List.mem_append_right ["vary", "access-control-allow-origin",
      "access-control-allow-methods", "access-control-allow-headers"] completed

/-- The answer to a request for permission carries none of the headers. -/
theorem values_permission (config : Config) (request : Http.Request) {name : String}
    (member : name ∈ baselineNames) :
    (Layers.complete (isOnPage request) request.method
      (Layers.permission config request)).headers.values name = [] := by
  have apart : forall name, name ∈ baselineNames -> Http.Apart permissionNames name := by
    decide +kernel
  apply Http.Headers.values_eq_nil_of_apart
  exact Layers.apart_of_mem (apart name member) fun _ member => mem_permission member

/--
Every answer carries all of the baseline headers once, and the order to stay with a protected
connection exactly after a request over one; only the answers to requests for permission carry
none of them.
-/
theorem guarded_unless_permission (order : Contact.MapOrder) (service : Service)
    (identifier : String) (request : Http.Request) :
    (request.method ≠ .options ∧
      Guarded identifier request (handle order service identifier request).1) ∨
    (request.method = .options ∧ forall name, name ∈ baselineNames ->
      (handle order service identifier request).1.headers.values name = []) := by
  by_cases forPermission : request.method = .options
  · rw [handle_of_options order service identifier forPermission]
    exact Or.inr ⟨forPermission, fun name member => values_permission service.config request member⟩
  · rw [handle_of_ne order service identifier forPermission]
    exact Or.inl ⟨forPermission, guarded_layered service.config identifier request
      (isInner_receive order (service.begun request) request)⟩

/-- A request for permission to see the page that tells that the server is running. -/
def healthPermission : Http.Request :=
  ⟨.options, ⟨none, "/health", none⟩, []⟩

/-- The default server answers it without the number of the request and without protection. -/
theorem healthPermission_not_guarded :
    seededServer.Reachable Config.default ∧
      ¬ Guarded "first" healthPermission
        (handle .asWritten seededServer "first" healthPermission).1 := by
  refine ⟨⟨seededServer, [], rfl, rfl⟩, ?_⟩
  intro guarded
  have answered := handle_of_options .asWritten seededServer "first"
    (rfl : healthPermission.method = .options)
  have bare := values_permission seededServer.config healthPermission
    (List.mem_cons_self : "x-request-id" ∈ baselineNames)
  rw [← answered, guarded.number] at bare
  cases bare

end Service
end Server
end ContactSearch
