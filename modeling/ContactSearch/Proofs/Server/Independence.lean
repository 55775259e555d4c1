import Mathlib.Data.List.Forall2
import ContactSearch.Proofs.Contact.InsecureSearch
import ContactSearch.Proofs.Server.Activities
import ContactSearch.Proofs.Server.Headers
import ContactSearch.Proofs.Server.Noninterference

namespace ContactSearch
namespace Server
namespace Service

/-!
# Requests do not depend on one another

A request changes the metrics of a server and nothing else, and only the page
of metrics reads them.  So every other answer is the one that the server would
have given at first, whatever was asked in the meantime and by whom.

Two things come with a request that its caller does not choose: the order in
which a map hands out its entries, and the number of the request.  The order
makes no difference.  The number is returned in a header of its own; apart from
this header the answer can tell only whether the caller has guessed it.
-/

/-! ## Arrivals -/

/-- A request as it arrives, with an order for its maps and with a number. -/
structure Arrival where
  order : Contact.MapOrder
  identifier : String
  request : Http.Request

namespace Arrival

/-- The event that an arrival is. -/
def event (arrival : Arrival) : Event :=
  .request arrival.order arrival.identifier arrival.request

/-- Whether the caller has guessed the number that the request is given. -/
def IsGuessed (arrival : Arrival) : Prop :=
  arrival.request.headers.first? "x-request-id" = some arrival.identifier

/-- Whether an arrival is not for the page of metrics. -/
def IsUnmetered (arrival : Arrival) : Prop :=
  arrival.request.target.path ≠ "/metrics"

end Arrival

/-- The answer of a server to an arrival. -/
def reply (service : Service) (arrival : Arrival) : Http.Response :=
  (handle arrival.order service arrival.identifier arrival.request).1

/-- A server after requests in turn. -/
def afterArrivals (service : Service) (arrivals : List Arrival) : Service :=
  service.after (arrivals.map Arrival.event)

/-! ## What a request leaves alone -/

/-- Two servers that differ in their metrics at most. -/
structure SameStore (first second : Service) : Prop where
  config : first.config = second.config
  catalog : first.catalog = second.catalog

namespace SameStore

variable {first second third : Service}

theorem refl (service : Service) : SameStore service service :=
  ⟨rfl, rfl⟩

theorem symm (same : SameStore first second) : SameStore second first :=
  ⟨same.config.symm, same.catalog.symm⟩

theorem trans (same : SameStore first second) (same' : SameStore second third) :
    SameStore first third :=
  ⟨same.config.trans same'.config, same.catalog.trans same'.catalog⟩

end SameStore

theorem sameStore_step (service : Service) (arrival : Arrival) :
    SameStore (service.step arrival.event) service := by
  refine ⟨config_handle _ _ _ _, ?_⟩
  rw [Arrival.event, step, handle]
  split <;> rfl

theorem sameStore_afterArrivals (service : Service) (arrivals : List Arrival) :
    SameStore (service.afterArrivals arrivals) service := by
  induction arrivals generalizing service with
  | nil => exact SameStore.refl service
  | cons arrival rest ih => exact (ih (service.step arrival.event)).trans (sameStore_step _ _)

/-! ## What an answer depends on -/

theorem searchReply_order (order order' : Contact.MapOrder) (config : Config)
    (catalog : Store.Catalog) (caller : Option String) (mode variant query : String) :
    (searchReply order config catalog caller mode variant query).1 =
      (searchReply order' config catalog caller mode variant query).1 := by
  cases caller with
  | none => rfl
  | some caller =>
      rw [searchReply, searchReply]
      cases SearchCall.ofRequest mode variant query with
      | error fault => rfl
      | ok call =>
          simp only [SearchCall.run]
          rw [Contact.search_order order order']

section Answers

variable {first second : Service} (same : SameStore first second)
  (order order' : Contact.MapOrder) {request : Http.Request}

include same

/-- Every page but that of the metrics is told by the configuration and the store. -/
theorem SameStore.serve (caller : Option String) {route : Route} (other : route ≠ .metrics) :
    (Service.serve order first caller request route).1 =
      (Service.serve order' second caller request route).1 := by
  cases route with
  | metrics => exact absurd rfl other
  | index => exact congrArg Pages.index same.config
  | search mode variant =>
      rw [Service.serve, Service.serve, same.config, same.catalog]
      exact searchReply_order order order' _ _ caller mode variant _
  | _ => rfl

theorem SameStore.dispatch (caller : Option String)
    (unmetered : request.target.path ≠ "/metrics") :
    (Service.dispatch order first caller request).1 =
      (Service.dispatch order' second caller request).1 := by
  rw [Service.dispatch, Service.dispatch]
  cases found : Route.ofPath? request.target.path with
  | none => rfl
  | some route =>
      have other : route ≠ .metrics := by
        rintro rfl
        exact unmetered (path_of_route_metrics found)
      simp only
      split
      · exact same.serve order order' caller other
      · rfl

theorem SameStore.receive (unmetered : request.target.path ≠ "/metrics") :
    (Service.receive order first request).1 = (Service.receive order' second request).1 := by
  rw [receive_eq, receive_eq, same.config]
  cases identified second.config.access request with
  | error fault => rfl
  | ok caller => exact same.dispatch order order' caller unmetered

theorem SameStore.begun (request : Http.Request) :
    SameStore (first.begun request) (second.begun request) :=
  ⟨same.config, same.catalog⟩

end Answers

/-- Two answers that differ by the numbers of their requests at most. -/
structure Alike (first second : Arrival × Http.Response) : Prop where
  status : first.2.status = second.2.status
  body : first.2.body = second.2.body
  headers : (first.1.IsGuessed <-> second.1.IsGuessed) ->
    first.2.headers.without "x-request-id" = second.2.headers.without "x-request-id"
  whole : first.1.identifier = second.1.identifier -> first.2 = second.2

/-- Servers that differ in their metrics at most give alike answers to one request. -/
theorem SameStore.reply {first second : Service} (same : SameStore first second)
    {arrival other : Arrival} (asked : arrival.request = other.request)
    (unmetered : arrival.IsUnmetered) :
    Alike (arrival, first.reply arrival) (other, second.reply other) := by
  rcases arrival with ⟨order, identifier, request⟩
  rcases other with ⟨order', identifier', request'⟩
  cases asked
  by_cases forPermission : request.method = .options
  · have answered : (handle order first identifier request).1 =
        (handle order' second identifier' request).1 := by
      rw [handle_of_options order first identifier forPermission,
        handle_of_options order' second identifier' forPermission, same.config]
    exact ⟨congrArg Http.Response.status answered, congrArg Http.Response.body answered,
      fun _ => congrArg (fun response => response.headers.without "x-request-id") answered,
      fun _ => answered⟩
  · have received := (same.begun request).receive order order' unmetered
    have answered := handle_of_ne order first identifier forPermission
    have answered' := handle_of_ne order' second identifier' forPermission
    rw [same.config, received] at answered
    have content : (handle order first identifier request).1.content =
        (handle order' second identifier' request).1.content := by
      rw [answered, answered', content_layered, content_layered]
    refine ⟨(Prod.mk.inj content).1, (Prod.mk.inj content).2, fun guessed => ?_, ?_⟩
    · have unnumbered := without_layered guessed second.config
        (Service.receive order' (second.begun request) request).1
      rw [← answered, ← answered'] at unnumbered
      exact unnumbered
    · rintro rfl
      exact answered.trans answered'.symm

/-! ## Several clients -/

/-- What belongs to one of several clients, in the order in which it came. -/
def ofClient {Client : Type} [DecidableEq Client] {α : Type} (client : Client)
    (tagged : List (Client × α)) : List α :=
  tagged.filterMap fun item => if item.1 = client then some item.2 else none

/-- What clients ask, each request with its client, and what they are answered in turn. -/
def exchanges {Client : Type} (service : Service) :
    List (Client × Arrival) -> List (Client × Arrival × Http.Response)
  | [] => []
  | (client, arrival) :: rest =>
      (client, arrival, service.reply arrival) :: (service.step arrival.event).exchanges rest

/-- One request that was answered twice, with alike answers unless it was for the metrics. -/
def SameExchange (first second : Arrival × Http.Response) : Prop :=
  first.1.request = second.1.request ∧ (first.1.IsUnmetered -> Alike first second)

section Clients

variable {Client : Type} [DecidableEq Client]

theorem ofClient_cons {α : Type} (client other : Client) (item : α)
    (rest : List (Client × α)) :
    ofClient client ((other, item) :: rest) =
      if other = client then item :: ofClient client rest else ofClient client rest := by
  rw [ofClient, List.filterMap_cons]
  by_cases own : other = client
  · rw [if_pos own, if_pos own]
    rfl
  · rw [if_neg own, if_neg own]
    rfl

theorem mem_of_mem_ofClient {α : Type} {client : Client} {tagged : List (Client × α)} {item : α}
    (member : item ∈ ofClient client tagged) : (client, item) ∈ tagged := by
  rcases List.mem_filterMap.mp member with ⟨⟨other, found⟩, listed, own⟩
  split at own
  · next same =>
      cases own
      exact same ▸ listed
  · cases own

/-- A client is answered what it has asked, in the order in which it asked. -/
theorem arrivals_exchanges (service : Service) (trace : List (Client × Arrival))
    (client : Client) :
    (ofClient client (service.exchanges trace)).map Prod.fst = ofClient client trace := by
  induction trace generalizing service with
  | nil => rfl
  | cons turn rest ih =>
      rcases turn with ⟨other, arrival⟩
      rw [exchanges, ofClient_cons, ofClient_cons]
      split
      · exact congrArg (arrival :: ·) (ih (service.step arrival.event))
      · exact ih (service.step arrival.event)

omit [DecidableEq Client] in
/-- Whoever asks, and whenever, is answered by a server that differs in its metrics at most. -/
theorem exists_reply_of_mem {service : Service} {trace : List (Client × Arrival)}
    {client : Client} {exchange : Arrival × Http.Response}
    (member : (client, exchange) ∈ service.exchanges trace) :
    exists current, SameStore current service ∧ exchange.2 = current.reply exchange.1 := by
  induction trace generalizing service with
  | nil => cases member
  | cons turn rest ih =>
      rcases turn with ⟨other, arrival⟩
      rw [exchanges] at member
      rcases List.mem_cons.mp member with now | later
      · cases now
        exact ⟨service, SameStore.refl service, rfl⟩
      · rcases ih later with ⟨current, same, answered⟩
        exact ⟨current, same.trans (sameStore_step service arrival), answered⟩

theorem sameExchange_of_mem {service : Service} {trace trace' : List (Client × Arrival)}
    {client : Client} {first second : Arrival × Http.Response}
    (member : first ∈ ofClient client (service.exchanges trace))
    (member' : second ∈ ofClient client (service.exchanges trace'))
    (asked : first.1.request = second.1.request) : SameExchange first second := by
  rcases exists_reply_of_mem (mem_of_mem_ofClient member) with ⟨current, same, answered⟩
  rcases exists_reply_of_mem (mem_of_mem_ofClient member') with ⟨current', same', answered'⟩
  refine ⟨asked, fun unmetered => ?_⟩
  have alike := (same.trans same'.symm).reply asked unmetered
  rw [← answered, ← answered'] at alike
  exact alike

end Clients

/--
Requests change nothing but the metrics, so every answer but the page of metrics is the same
whatever was asked before, apart from the number of its request.  In particular each of several
clients gets the same answers however their requests interleave.
-/
theorem requests_independent (service : Service) :
    (forall arrivals, (service.afterArrivals arrivals).catalog = service.catalog) ∧
    (forall (earlier earlier' : List Arrival) (arrival other : Arrival),
      arrival.request = other.request -> arrival.IsUnmetered ->
        Alike (arrival, (service.afterArrivals earlier).reply arrival)
          (other, (service.afterArrivals earlier').reply other)) ∧
    (forall (Client : Type) [DecidableEq Client] (trace trace' : List (Client × Arrival)),
      (forall client, (ofClient client trace).map Arrival.request =
        (ofClient client trace').map Arrival.request) ->
      forall client, List.Forall₂ SameExchange (ofClient client (service.exchanges trace))
        (ofClient client (service.exchanges trace'))) := by
  refine ⟨fun arrivals => (sameStore_afterArrivals service arrivals).catalog, ?_, ?_⟩
  · intro earlier earlier' arrival other asked unmetered
    have same := sameStore_afterArrivals service earlier
    have same' := sameStore_afterArrivals service earlier'
    exact (same.trans same'.symm).reply asked unmetered
  · intro Client _ trace trace' asked client
    have requests : (ofClient client (service.exchanges trace)).map (fun e => e.1.request) =
        (ofClient client (service.exchanges trace')).map (fun e => e.1.request) := by
      have own := asked client
      rw [← arrivals_exchanges service trace, ← arrivals_exchanges service trace',
        List.map_map, List.map_map] at own
      exact own
    have length := congrArg List.length requests
    rw [List.length_map, List.length_map] at length
    refine List.forall₂_iff_get.mpr ⟨length, fun i bound bound' => ?_⟩
    apply sameExchange_of_mem (List.get_mem _ _) (List.get_mem _ _)
    have turn := List.getElem_of_eq requests (by rw [List.length_map]; exact bound)
    rw [List.getElem_map, List.getElem_map] at turn
    exact turn

/-- The first user's search as it arrives. -/
def searchArrival : Arrival :=
  ⟨.asWritten, "first", firstUserSearch⟩

/-- A look at the metrics as it arrives. -/
def lookArrival : Arrival :=
  ⟨.reversed, "second", ⟨.get, ⟨none, "/metrics", none⟩, []⟩⟩

theorem requests_independent_turns :
    Alike (searchArrival, (seededServer.afterArrivals []).reply searchArrival)
        (searchArrival, (seededServer.afterArrivals [lookArrival]).reply searchArrival) ∧
      forall client, List.Forall₂ SameExchange
        (ofClient client
          (seededServer.exchanges [("user", searchArrival), ("watcher", lookArrival)]))
        (ofClient client
          (seededServer.exchanges [("watcher", lookArrival), ("user", searchArrival)])) := by
  have unmetered : searchArrival.IsUnmetered :=
    (by decide : firstUserSearch.target.path ≠ "/metrics")
  have asked : forall client,
      (ofClient client [("user", searchArrival), ("watcher", lookArrival)]).map Arrival.request =
        (ofClient client [("watcher", lookArrival), ("user", searchArrival)]).map
          Arrival.request := by
    intro client
    rw [ofClient_cons, ofClient_cons, ofClient_cons, ofClient_cons]
    by_cases user : "user" = client
    · subst user
      rfl
    · rw [if_neg user, if_neg user]
  have independent := requests_independent seededServer
  exact ⟨independent.2.1 [] [lookArrival] searchArrival searchArrival rfl unmetered,
    independent.2.2 String _ _ asked⟩

end Service
end Server
end ContactSearch
