import ContactSearch.Proofs.Server.Layers

namespace ContactSearch
namespace Server
namespace Service

/-!
# What a request amounts to

A request that is not for permission alone amounts to one of four things.  Its
caller is refused, or it looks at the metrics, or it runs a search, or it does
nothing that is counted on its own account.  Which of them it is depends on
the configured access and on the request, not on the store and not on what has
been counted before.

The answer and the change of the metrics are told for each of the four.  All
that is said about counting rests on this.
-/

/-- What a request can amount to. -/
inductive Activity where
  | refused (fault : AccessFault)
  | scrape
  | search (call : SearchCall) (caller : String)
  | other

/-- Who asks: nobody in particular on a public path, and otherwise a caller who is known. -/
def identified (access : Access) (request : Http.Request) : Except AccessFault (Option String) :=
  if access.isPublic request.target.path then .ok none
  else (access.authenticate request.headers).map some

/-- What a route amounts to for whoever asks. -/
def activityOn (caller : Option String) (request : Http.Request) : Route -> Activity
  | .metrics => .scrape
  | .search mode variant =>
      match caller, SearchCall.ofRequest mode variant (request.target.query.getD "") with
      | some caller, .ok call => .search call caller
      | _, _ => .other
  | _ => .other

/-- What a request amounts to. -/
def activity (access : Access) (request : Http.Request) : Activity :=
  match identified access request, Route.ofPath? request.target.path with
  | .error fault, _ => .refused fault
  | .ok caller, some route =>
      if request.method.isReading then activityOn caller request route else .other
  | .ok _, none => .other

/-- The metrics after what a request amounts to has been counted. -/
def counted (order : Contact.MapOrder) (service : Service) : Activity -> Metrics
  | .refused _ => service.metrics.refuse
  | .scrape => sampled service.config service.catalog service.metrics
  | .search call caller =>
      service.metrics.note
        (call.record (call.run order service.config.storage service.catalog caller))
  | .other => service.metrics

variable (order : Contact.MapOrder) (service : Service) {request : Http.Request}

theorem receive_eq (request : Http.Request) :
    receive order service request =
      match identified service.config.access request with
      | .error fault => (service.config.access.refusal fault, service.metrics.refuse)
      | .ok caller => dispatch order service caller request := by
  rw [receive, identified]
  cases service.config.access.isPublic request.target.path with
  | true => rfl
  | false => cases service.config.access.authenticate request.headers <;> rfl

theorem metrics_serve (caller : Option String) (request : Http.Request) (route : Route) :
    (serve order service caller request route).2 =
      counted order service (activityOn caller request route) := by
  cases route with
  | search mode variant =>
      cases caller with
      | none => rfl
      | some caller =>
          simp only [serve, activityOn, searchReply]
          cases SearchCall.ofRequest mode variant (request.target.query.getD "") <;> rfl
  | _ => rfl

/-- The metrics after a request has been answered, before its answer is counted. -/
theorem metrics_receive (request : Http.Request) :
    (receive order service request).2 =
      counted order service (activity service.config.access request) := by
  rw [receive_eq, activity]
  cases identified service.config.access request with
  | error fault => rfl
  | ok caller =>
      simp only [dispatch]
      cases Route.ofPath? request.target.path with
      | none => rfl
      | some route =>
          simp only
          split
          · exact metrics_serve order service caller request route
          · rfl

/-! ## Refused requests -/

/-- What somebody amounts to on a route who is not refused. -/
theorem activity_of_identified {access : Access} {caller : Option String}
    (known : identified access request = .ok caller) :
    activity access request =
      match Route.ofPath? request.target.path with
      | some route => if request.method.isReading then activityOn caller request route else .other
      | none => .other := by
  rw [activity, known]
  cases Route.ofPath? request.target.path <;> rfl

theorem activityOn_ne_refused (caller : Option String) (request : Http.Request) (route : Route)
    (fault : AccessFault) : activityOn caller request route ≠ .refused fault := by
  rw [activityOn.eq_def]
  split
  · exact Activity.noConfusion
  · split <;> exact Activity.noConfusion
  · exact Activity.noConfusion

theorem identified_of_refused {access : Access} {fault : AccessFault}
    (refused : activity access request = .refused fault) :
    identified access request = .error fault := by
  cases known : identified access request with
  | error other =>
      rw [activity, known] at refused
      cases refused
      rfl
  | ok caller =>
      rw [activity_of_identified known] at refused
      split at refused
      · split at refused
        · exact absurd refused (activityOn_ne_refused _ _ _ _)
        · cases refused
      · cases refused

theorem receive_of_refused {fault : AccessFault}
    (refused : activity service.config.access request = .refused fault) :
    receive order service request =
      (service.config.access.refusal fault, service.metrics.refuse) := by
  rw [receive_eq, identified_of_refused refused]

theorem status_refusal (access : Access) (fault : AccessFault) :
    (access.refusal fault).status = .unauthorized := by
  rw [Access.refusal]
  split <;> rfl

/-! ## Looking at the metrics -/

theorem path_of_route_metrics {path : String} (found : Route.ofPath? path = some .metrics) :
    path = "/metrics" := by
  rw [Route.ofPath?.eq_def] at found
  split at found
  case h_5 => rfl
  all_goals first | cases found | (split at found <;> try split at found) <;> cases found

theorem route_of_activityOn_scrape {caller : Option String} {route : Route}
    (scrape : activityOn caller request route = .scrape) : route = .metrics := by
  rw [activityOn.eq_def] at scrape
  split at scrape
  · rfl
  · split at scrape <;> cases scrape
  · cases scrape

theorem route_of_scrape {access : Access} (scrape : activity access request = .scrape) :
    (exists caller, identified access request = .ok caller) ∧
      Route.ofPath? request.target.path = some .metrics ∧ request.method.isReading = true := by
  cases known : identified access request with
  | error fault =>
      rw [activity, known] at scrape
      cases scrape
  | ok caller =>
      rw [activity_of_identified known] at scrape
      split at scrape
      · next route found =>
          split at scrape
          · next reading =>
              cases route_of_activityOn_scrape scrape
              exact ⟨⟨caller, rfl⟩, found, reading⟩
          · cases scrape
      · cases scrape

theorem receive_of_scrape (scrape : activity service.config.access request = .scrape) :
    (receive order service request).1 =
      metricsPage (sampled service.config service.catalog service.metrics) := by
  rcases route_of_scrape scrape with ⟨⟨caller, known⟩, found, reading⟩
  rw [receive_eq, known]
  simp only [dispatch, found, reading, if_true]
  rfl

end Service
end Server
end ContactSearch
