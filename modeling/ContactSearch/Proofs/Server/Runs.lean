import ContactSearch.Proofs.Outcome
import ContactSearch.Server.Service

namespace ContactSearch

namespace Server
namespace Service

/-!
# Runs of a server

A server is started from a configuration.  From then on it answers requests,
and whoever runs it inserts documents, drops the collection or stops the
store.  An operation that is refused leaves the server as it is.

No event changes the configuration, so a reachable server still has the one
that it was started with.
-/

/-- What can happen to a running server. -/
inductive Event where
  | request (order : Contact.MapOrder) (identifier : String) (request : Http.Request)
  | insert (documents : List Store.Document)
  | drop
  | shutDown

/-- A server after one event. -/
def step (service : Service) : Event -> Service
  | .request order identifier request => (handle order service identifier request).2
  | .insert documents =>
      match service.insert documents with
      | .ok (_, next) => next
      | .error _ => service
  | .drop =>
      match service.drop with
      | .ok (_, next) => next
      | .error _ => service
  | .shutDown => service.shutDown

/-- A server after events in turn. -/
def after (service : Service) (events : List Event) : Service :=
  events.foldl step service

/-- The servers that can be reached from a configuration. -/
def Reachable (config : Config) (service : Service) : Prop :=
  exists initial events, start config = .ok initial ∧ service = initial.after events

theorem config_start {config : Config} {initial : Service} (started : start config = .ok initial) :
    initial.config = config := by
  rw [start] at started
  split at started
  · rcases exists_of_bind_eq_ok started with ⟨catalog, _, rest⟩
    cases rest
    rfl
  · rcases exists_of_bind_eq_ok started with ⟨catalog, _, rest⟩
    cases rest
    rfl

theorem config_handle (order : Contact.MapOrder) (service : Service) (identifier : String)
    (request : Http.Request) :
    (handle order service identifier request).2.config = service.config := by
  rw [handle]
  split <;> rfl

theorem config_insert {service next : Service} {documents : List Store.Document} {count : Nat}
    (inserted : service.insert documents = .ok (count, next)) : next.config = service.config := by
  rcases exists_of_bind_eq_ok inserted with ⟨grown, _, rest⟩
  cases rest
  rfl

theorem config_drop {service next : Service} {existed : Bool}
    (dropped : service.drop = .ok (existed, next)) : next.config = service.config := by
  rcases exists_of_bind_eq_ok dropped with ⟨shrunk, _, rest⟩
  cases rest
  rfl

theorem config_step (service : Service) (event : Event) :
    (service.step event).config = service.config := by
  cases event with
  | request order identifier request => exact config_handle order service identifier request
  | insert documents =>
      rw [step]
      cases inserted : service.insert documents with
      | error fault => rfl
      | ok pair => exact config_insert inserted
  | drop =>
      rw [step]
      cases dropped : service.drop with
      | error fault => rfl
      | ok pair => exact config_drop dropped
  | shutDown => rfl

theorem config_after (service : Service) (events : List Event) :
    (service.after events).config = service.config := by
  induction events generalizing service with
  | nil => rfl
  | cons event events ih => exact (ih (service.step event)).trans (config_step service event)

theorem Reachable.config {config : Config} {service : Service}
    (reachable : service.Reachable config) : service.config = config := by
  rcases reachable with ⟨initial, events, started, rfl⟩
  exact (config_after initial events).trans (config_start started)

end Service
end Server
end ContactSearch
