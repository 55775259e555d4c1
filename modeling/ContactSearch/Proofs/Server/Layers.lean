import ContactSearch.Server.Service

namespace ContactSearch

/-!
# What the layers leave alone

The layers of a response only add headers.  Its status never changes, and its
body is left out only where the head alone was asked for.
-/

/-- The status and the body of a response. -/
def Http.Response.content (response : Http.Response) : Http.Status × String :=
  (response.status, response.body)

namespace Server
namespace Layers

theorem content_protect (request : Http.Request) (response : Http.Response) :
    (protect request response).content = response.content := by
  rw [protect]
  split <;> rfl

theorem content_identify (identifier : String) (request : Http.Request)
    (response : Http.Response) :
    (identify identifier request response).content = response.content := by
  rw [identify]
  split
  · split <;> rfl
  · rfl

theorem content_markCompressible (response : Http.Response) :
    (markCompressible response).content = response.content := by
  rw [markCompressible]
  split <;> rfl

theorem content_measure (response : Http.Response) :
    (measure response).content = response.content := by
  rw [measure]
  split <;> rfl

theorem content_tellMethods (method : Http.Method) (response : Http.Response) :
    (tellMethods method response).content = response.content := by
  rw [tellMethods]
  split <;> rfl

/-- What is left of a status and a body for whoever asks in this way. -/
def visible (onPage : Bool) (method : Http.Method) (content : Http.Status × String) :
    Http.Status × String :=
  if onPage = true ∧ method = .head then (content.1, "") else content

theorem fst_visible (onPage : Bool) (method : Http.Method) (content : Http.Status × String) :
    (visible onPage method content).1 = content.1 := by
  rw [visible]
  split <;> rfl

theorem visible_body (onPage : Bool) (method : Http.Method) (content : Http.Status × String) :
    (visible onPage method content).2 = "" ∨ (visible onPage method content).2 = content.2 := by
  rw [visible]
  split
  · exact Or.inl rfl
  · exact Or.inr rfl

theorem content_complete (onPage : Bool) (method : Http.Method) (response : Http.Response) :
    (complete onPage method response).content = visible onPage method response.content := by
  have measured : (measure (tellMethods method response)).content = response.content :=
    (content_measure _).trans (content_tellMethods method response)
  rw [complete, visible]
  cases onPage with
  | false => exact content_measure response
  | true =>
      simp only [if_true, true_and]
      split
      · have status := congrArg Prod.fst measured
        exact congrArg (fun status => (status, "")) status
      · exact measured

end Layers

namespace Service

/-- Whether the path of a request leads to a page. -/
def isOnPage (request : Http.Request) : Bool :=
  (Route.ofPath? request.target.path).isSome

/-- A response after all layers. -/
def layered (config : Config) (identifier : String) (request : Http.Request)
    (response : Http.Response) : Http.Response :=
  Layers.complete (isOnPage request) request.method
    (Layers.permit config request
      (Layers.markCompressible
        (Layers.identify identifier request (Layers.protect request response))))

theorem content_layered (config : Config) (identifier : String) (request : Http.Request)
    (response : Http.Response) :
    (layered config identifier request response).content =
      Layers.visible (isOnPage request) request.method response.content := by
  rw [layered, Layers.content_complete]
  apply congrArg (Layers.visible (isOnPage request) request.method)
  apply Eq.trans (Layers.content_markCompressible _)
  apply Eq.trans (Layers.content_identify identifier request _)
  exact Layers.content_protect request response

/-- A server that has counted a request as begun. -/
def begun (service : Service) (request : Http.Request) : Service :=
  { service with metrics := service.metrics.begin (served request) }

/-- A request that is not for permission alone is answered through all layers. -/
theorem handle_of_ne (order : Contact.MapOrder) (service : Service) (identifier : String)
    {request : Http.Request} (proper : request.method ≠ .options) :
    (handle order service identifier request).1 =
      layered service.config identifier request
        (receive order (service.begun request) request).1 := by
  rw [handle, if_neg proper]
  rfl

/-- The answer to a request for permission is the same whatever the store holds. -/
theorem handle_of_options (order : Contact.MapOrder) (service : Service) (identifier : String)
    {request : Http.Request} (forPermission : request.method = .options) :
    (handle order service identifier request).1 =
      Layers.complete (isOnPage request) request.method
        (Layers.permission service.config request) := by
  rw [handle, if_pos forPermission]
  rfl

end Service
end Server
end ContactSearch
