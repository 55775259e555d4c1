import ContactSearch.Proofs.Server.Activities
import ContactSearch.Proofs.Server.Counting
import ContactSearch.Proofs.Server.Runs

namespace ContactSearch
namespace Server
namespace Service

/-!
# What has been counted and what has happened

The metrics of a server agree with one another and with its past.  Every
request but those for permission is in the totals and has been timed, and none
is in flight between requests.  The distribution of a mode has one number for
every search of the mode that succeeded, and callers who were refused are
counted apart from everything else.

The past is the list of events, each with the server that it happened to, so
what an event contributed is said about the configuration, the store and the
event.  Nothing in it is read off the metrics.
-/

/-! ## The past -/

/-- Events in turn, each with the server as it was before. -/
def history (service : Service) : List Event -> List (Service × Event)
  | [] => []
  | event :: events => (service, event) :: history (service.step event) events

/-- What an event amounts to, if it is a request that is not for permission. -/
def activity? : Service × Event -> Option Activity
  | (service, .request _ _ request) =>
      if request.method = .options then none
      else some (activity service.config.access request)
  | _ => none

/-- Whether a request amounts to a refusal. -/
def Activity.isRefusal : Activity -> Bool
  | .refused _ => true
  | _ => false

/-- How many documents were found, if a request amounts to a search in a mode that succeeds. -/
def foundBy (order : Contact.MapOrder) (service : Service) (mode : Contact.Mode) :
    Activity -> Option Nat
  | .search call caller =>
      match call.run order service.config.storage service.catalog caller with
      | .ok found => if call.mode = mode then some found.length else none
      | .error _ => none
  | _ => none

/-- The size of the collection, if a request looks at the metrics while there is a collection. -/
def sampledBy (service : Service) : Activity -> Option Nat
  | .scrape =>
      match service.catalog.collection service.config.storage.database
          service.config.storage.collection with
      | .ok collection => some collection.size
      | .error _ => none
  | _ => none

/-- Whether an event is a request that is not for permission. -/
def isProper (moment : Service × Event) : Bool :=
  (activity? moment).isSome

/-- Whether an event is a request whose caller is refused before its route is looked up. -/
def isRefused (moment : Service × Event) : Bool :=
  (activity? moment).any Activity.isRefusal

/-- How many documents were found, if an event is a search in a mode that succeeds. -/
def found? (mode : Contact.Mode) : Service × Event -> Option Nat
  | (service, .request order identifier request) =>
      (activity? (service, .request order identifier request)).bind (foundBy order service mode)
  | _ => none

/-- The size of the collection, if an event looks at the metrics while there is a collection. -/
def sample? (moment : Service × Event) : Option Nat :=
  (activity? moment).bind (sampledBy moment.1)

/-- The last size of the collection that was looked up, or zero. -/
def lastSample (past : List (Service × Event)) : Nat :=
  ((past.filterMap sample?).getLast?).getD 0

/-- Whether a search is counted as a success in a mode. -/
def isSuccess (mode : Contact.Mode) (searched : Searched) : Bool :=
  searched.mode == mode && searched.outcome == .success

/-- Metrics that agree with one another and with a past. -/
structure Conserved (past : List (Service × Event)) (metrics : Metrics) : Prop where
  distinctRequests : metrics.requests.keys.Nodup
  distinctSearches : metrics.searches.keys.Nodup
  timed : forall served,
    metrics.timed.get served = metrics.requests.sumOf fun key => key.1 == served
  total : (metrics.requests.sumOf fun _ => true) = past.countP isProper
  idle : forall served, metrics.inFlight.get served = 0
  successes : forall mode,
    (metrics.distributionOf mode).count = metrics.searches.sumOf (isSuccess mode)
  succeeded : forall mode,
    (metrics.distributionOf mode).count = (past.filterMap (found? mode)).length
  found : forall mode, (metrics.distributionOf mode).sum = (past.filterMap (found? mode)).sum
  refusals : metrics.refusals = past.countP isRefused
  documents : metrics.documents = lastSample past

/-! ## One request -/

section Request

variable (order : Contact.MapOrder) (service : Service) (identifier : String)
  {request : Http.Request}

/-- The metrics after a request: what it amounts to has been counted while it was in flight. -/
theorem metrics_handle (proper : request.method ≠ .options) :
    (handle order service identifier request).2.metrics =
      (counted order (service.begun request) (activity service.config.access request)).finish
        (served request) (receive order (service.begun request) request).1.status := by
  have received := metrics_receive order (service.begun request) request
  rw [handle, if_neg proper]
  exact congrArg
    (fun metrics : Metrics => metrics.finish (served request)
      (receive order (service.begun request) request).1.status) received

theorem metrics_handle_of_options (forPermission : request.method = .options) :
    (handle order service identifier request).2.metrics = service.metrics := by
  rw [handle, if_pos forPermission]

/-- What is counted of an activity never touches the totals, the times and what is in flight. -/
theorem counted_frame (activity : Activity) :
    (counted order service activity).requests = service.metrics.requests ∧
      (counted order service activity).timed = service.metrics.timed ∧
      (counted order service activity).inFlight = service.metrics.inFlight := by
  cases activity with
  | scrape =>
      rw [counted, sampled]
      split <;> exact ⟨rfl, rfl, rfl⟩
  | _ => exact ⟨rfl, rfl, rfl⟩

variable (activity : Activity)

theorem refusals_counted :
    (counted order service activity).refusals =
      service.metrics.refusals + if activity.isRefusal then 1 else 0 := by
  cases activity with
  | scrape =>
      rw [counted, sampled]
      split <;> rfl
  | _ => rfl

theorem documents_counted :
    (counted order service activity).documents =
      (sampledBy service activity).getD service.metrics.documents := by
  cases activity with
  | scrape =>
      rw [counted, sampled, sampledBy]
      cases service.catalog.collection service.config.storage.database
        service.config.storage.collection <;> rfl
  | _ => rfl

/-- A search that succeeds is entered with what it found, and nothing else is entered. -/
theorem distributionOf_counted (mode : Contact.Mode) :
    (counted order service activity).distributionOf mode =
      match foundBy order service mode activity with
      | some found => (service.metrics.distributionOf mode).observe found
      | none => service.metrics.distributionOf mode := by
  cases activity with
  | search call caller =>
      rw [counted, foundBy]
      cases call.run order service.config.storage service.catalog caller with
      | error fault => rfl
      | ok found =>
          apply (Metrics.resultsOf_enterResult call.mode mode found.length _).trans
          by_cases same : call.mode = mode
          · simp only [same, if_true]
            rfl
          · simp only [same, if_false]
            rfl
  | scrape =>
      rw [counted, sampled]
      split <;> rfl
  | _ => rfl

theorem count_counted (mode : Contact.Mode) :
    ((counted order service activity).distributionOf mode).count =
      (service.metrics.distributionOf mode).count +
        (foundBy order service mode activity).toList.length := by
  rw [distributionOf_counted]
  cases foundBy order service mode activity <;> rfl

theorem sum_counted (mode : Contact.Mode) :
    ((counted order service activity).distributionOf mode).sum =
      (service.metrics.distributionOf mode).sum +
        (foundBy order service mode activity).toList.sum := by
  rw [distributionOf_counted]
  cases foundBy order service mode activity <;> rfl

/-- The successes of a mode grow with exactly the numbers that are entered for the mode. -/
theorem successes_counted (mode : Contact.Mode) :
    (counted order service activity).searches.sumOf (isSuccess mode) =
      service.metrics.searches.sumOf (isSuccess mode) +
        (foundBy order service mode activity).toList.length := by
  cases activity with
  | search call caller =>
      rw [counted, foundBy]
      apply (Tally.sumOf_increment _ _ _).trans
      cases call.run order service.config.storage service.catalog caller with
      | error fault =>
          have failure : isSuccess mode (call.record (.error fault)).key = false := by
            rw [SearchCall.record, SearchRecord.key, isSuccess]
            split <;> simp
          rw [failure]
          rfl
      | ok found =>
          by_cases same : call.mode = mode <;>
            simp [SearchCall.record, SearchRecord.key, isSuccess, same]
  | scrape =>
      rw [counted, sampled]
      split <;> rfl
  | _ => rfl

theorem distinctSearches_counted (distinct : service.metrics.searches.keys.Nodup) :
    (counted order service activity).searches.keys.Nodup := by
  cases activity with
  | search call caller => exact Tally.nodup_keys_increment distinct _
  | scrape =>
      rw [counted, sampled]
      split <;> exact distinct
  | _ => exact distinct

end Request

/-! ## One event -/

/-- An event that is no proper request leaves the metrics alone. -/
theorem metrics_step_of_none {service : Service} {event : Event}
    (nothing : activity? (service, event) = none) :
    (service.step event).metrics = service.metrics := by
  cases event with
  | request order identifier request =>
      rw [activity?] at nothing
      split at nothing
      · next forPermission => exact metrics_handle_of_options order service identifier forPermission
      · cases nothing
  | insert documents =>
      rw [step]
      cases inserted : service.insert documents with
      | error fault => rfl
      | ok pair =>
          rcases exists_of_bind_eq_ok inserted with ⟨grown, _, rest⟩
          cases rest
          rfl
  | drop =>
      rw [step]
      cases dropped : service.drop with
      | error fault => rfl
      | ok pair =>
          rcases exists_of_bind_eq_ok dropped with ⟨shrunk, _, rest⟩
          cases rest
          rfl
  | shutDown => rfl

theorem found?_of_none {moment : Service × Event} (nothing : activity? moment = none)
    (mode : Contact.Mode) : found? mode moment = none := by
  rcases moment with ⟨service, event⟩
  cases event with
  | request order identifier request =>
      rw [found?, nothing]
      rfl
  | _ => rfl

/-- What was found up to a moment and what is found at it. -/
theorem filterMap_found?_append (mode : Contact.Mode) (past : List (Service × Event))
    (moment : Service × Event) :
    (past ++ [moment]).filterMap (found? mode) =
      past.filterMap (found? mode) ++ (found? mode moment).toList := by
  rw [List.filterMap_append]
  cases found : found? mode moment <;> simp [found]

theorem lastSample_append (past : List (Service × Event)) (moment : Service × Event) :
    lastSample (past ++ [moment]) = (sample? moment).getD (lastSample past) := by
  rw [lastSample, lastSample, List.filterMap_append]
  cases sampled : sample? moment <;> simp [sampled]

/-- Nothing has been counted before anything has happened. -/
theorem conserved_zero : Conserved [] .zero := by
  constructor
  case distinctRequests => exact List.nodup_nil
  case distinctSearches => exact List.nodup_nil
  all_goals intros; rfl

theorem Conserved.idle_step {past : List (Service × Event)} {service : Service} {event : Event}
    (held : Conserved past service.metrics) (nothing : activity? (service, event) = none) :
    Conserved (past ++ [(service, event)]) (service.step event).metrics := by
  have unfound := found?_of_none nothing
  have unsampled : sample? (service, event) = none := by rw [sample?, nothing]; rfl
  rw [metrics_step_of_none nothing]
  exact {
    distinctRequests := held.distinctRequests
    distinctSearches := held.distinctSearches
    timed := held.timed
    total := by
      rw [List.countP_append, held.total]
      simp [isProper, nothing]
    idle := held.idle
    successes := held.successes
    succeeded := by
      intro mode
      simp [held.succeeded mode, unfound mode]
    found := by
      intro mode
      simp [held.found mode, unfound mode]
    refusals := by
      rw [List.countP_append, held.refusals]
      simp [isRefused, nothing]
    documents := by
      rw [lastSample_append, unsampled]
      exact held.documents }

theorem Conserved.request_step {past : List (Service × Event)} {service : Service}
    (held : Conserved past service.metrics) (order : Contact.MapOrder) (identifier : String)
    {request : Http.Request} (proper : request.method ≠ .options) :
    Conserved (past ++ [(service, .request order identifier request)])
      (handle order service identifier request).2.metrics := by
  have amounts : activity? (service, .request order identifier request) =
      some (activity service.config.access request) := by
    rw [activity?, if_neg proper]
  have searched : forall mode, found? mode (service, .request order identifier request) =
      foundBy order service mode (activity service.config.access request) := by
    intro mode
    rw [found?, amounts]
    rfl
  rw [metrics_handle order service identifier proper]
  generalize (receive order (service.begun request) request).1.status = status
  generalize activity service.config.access request = activity at amounts searched
  rcases counted_frame order (service.begun request) activity with ⟨requests, timed, inFlight⟩
  exact {
    distinctRequests := by
      apply Tally.nodup_keys_increment
      rw [requests]
      exact held.distinctRequests
    distinctSearches := by
      exact distinctSearches_counted order (service.begun request) activity held.distinctSearches
    timed := by
      intro served
      apply (Tally.get_increment _ _ _).trans
      rw [Metrics.finish, Tally.sumOf_increment, requests, timed]
      simp [begun, Metrics.begin, held.timed served]
    total := by
      rw [Metrics.finish, Tally.sumOf_increment, requests, List.countP_append]
      simp [begun, Metrics.begin, held.total, isProper, amounts]
    idle := by
      intro served
      apply (Tally.get_decrement _ _ _).trans
      rw [inFlight]
      simp [begun, Metrics.begin, Tally.get_increment, held.idle served]
    successes := by
      intro mode
      apply (count_counted order (service.begun request) activity mode).trans
      apply Eq.trans _ (successes_counted order (service.begun request) activity mode).symm
      exact congrArg (· + _) (held.successes mode)
    succeeded := by
      intro mode
      apply (count_counted order (service.begun request) activity mode).trans
      rw [filterMap_found?_append, List.length_append, <- held.succeeded mode, searched mode]
      rfl
    found := by
      intro mode
      apply (sum_counted order (service.begun request) activity mode).trans
      rw [filterMap_found?_append, List.sum_append, <- held.found mode, searched mode]
      rfl
    refusals := by
      apply (refusals_counted order (service.begun request) activity).trans
      rw [List.countP_append, <- held.refusals]
      simp [begun, Metrics.begin, isRefused, amounts]
    documents := by
      apply (documents_counted order (service.begun request) activity).trans
      rw [lastSample_append, <- held.documents, sample?, amounts]
      rfl }

theorem Conserved.step {past : List (Service × Event)} {service : Service}
    (held : Conserved past service.metrics) (event : Event) :
    Conserved (past ++ [(service, event)]) (service.step event).metrics := by
  cases event with
  | request order identifier request =>
      by_cases forPermission : request.method = .options
      · apply held.idle_step
        rw [activity?, if_pos forPermission]
      · exact held.request_step order identifier forPermission
  | _ => exact held.idle_step rfl

/-! ## Runs -/

theorem Conserved.after {past : List (Service × Event)} {service : Service}
    (held : Conserved past service.metrics) (events : List Event) :
    Conserved (past ++ service.history events) (service.after events).metrics := by
  induction events generalizing past service with
  | nil =>
      rw [history, List.append_nil]
      exact held
  | cons event events ih =>
      have run := ih (held.step event)
      rw [List.append_assoc] at run
      exact run

/-- A server about which nothing has been counted. -/
def fresh (config : Config) (catalog : Store.Catalog) : Service :=
  ⟨config, catalog, .zero⟩

theorem conserved_fresh (config : Config) (catalog : Store.Catalog) (events : List Event) :
    Conserved ((fresh config catalog).history events) ((fresh config catalog).after events).metrics := by
  have started : Conserved [] (fresh config catalog).metrics := conserved_zero
  have run := started.after events
  rw [List.nil_append] at run
  exact run

/-! ## Refusals and the page of metrics -/

theorem proper_of_scrape {access : Access} {request : Http.Request}
    (scrape : activity access request = .scrape) : request.method ≠ .options := by
  intro forPermission
  have reading := (route_of_scrape scrape).2.2
  rw [forPermission] at reading
  cases reading

/-- Whoever is refused is told so, and nothing is counted about searches. -/
def RefusesApart (service : Service) : Prop :=
  forall order identifier (request : Http.Request) fault, request.method ≠ .options ->
    activity service.config.access request = .refused fault ->
      (handle order service identifier request).1.status = .unauthorized ∧
        (handle order service identifier request).2.metrics.searches = service.metrics.searches ∧
        (handle order service identifier request).2.metrics.results = service.metrics.results

/-- While the page of metrics is made, the request for it is the only one in flight. -/
def ScrapesAlone (service : Service) : Prop :=
  forall order identifier (request : Http.Request),
    activity service.config.access request = .scrape ->
      (served request).label = .metrics ∧ exists shown : Metrics,
        (handle order service identifier request).1.content =
            (.ok, if request.method = .head then "" else shown.exposition) ∧
          forall other, shown.inFlight.get other = if served request = other then 1 else 0

theorem refusesApart (service : Service) : RefusesApart service := by
  intro order identifier request fault proper refused
  rw [metrics_handle order service identifier proper, refused]
  refine ⟨?_, rfl, rfl⟩
  have received := receive_of_refused order (service.begun request) refused
  have content := content_layered service.config identifier request
    (receive order (service.begun request) request).1
  rw [<- handle_of_ne order service identifier proper, received] at content
  have status := congrArg Prod.fst content
  rw [Layers.fst_visible] at status
  exact status.trans (status_refusal service.config.access fault)

theorem content_metricsPage (metrics : Metrics) :
    (metricsPage metrics).content = (.ok, metrics.exposition) := by
  rw [metricsPage, Http.Response.ofText, Http.Response.content]

theorem label_of_route_metrics {path : String} (found : Route.ofPath? path = some .metrics) :
    PathLabel.ofPath path = .metrics := by
  rw [path_of_route_metrics found]
  decide +kernel

theorem scrapesAlone {service : Service}
    (idle : forall served, service.metrics.inFlight.get served = 0) : ScrapesAlone service := by
  intro order identifier request scrape
  rcases route_of_scrape scrape with ⟨_, found, _⟩
  refine ⟨label_of_route_metrics found, ?_⟩
  refine ⟨sampled service.config service.catalog (service.begun request).metrics, ?_, ?_⟩
  · have onPage : isOnPage request = true := by rw [isOnPage, found]; rfl
    rw [handle_of_ne order service identifier (proper_of_scrape scrape), content_layered,
      receive_of_scrape order (service.begun request) scrape, onPage, content_metricsPage,
      Layers.visible]
    by_cases head : request.method = .head
    · rw [if_pos ⟨rfl, head⟩, if_pos head]
    · rw [if_neg (fun both => head both.2), if_neg head]
      rfl
  · intro other
    have frame := (counted_frame order (service.begun request) .scrape).2.2
    rw [counted] at frame
    apply (congrArg (Tally.get · other) frame).trans
    apply (Tally.get_increment _ _ _).trans
    rw [idle other, Nat.zero_add]

/--
After any events a server's metrics agree with one another and with what has happened, and they
go on to do so in the two answers that show or stop them.
-/
theorem metrics_conserved (config : Config) (catalog : Store.Catalog) (events : List Event) :
    Conserved ((fresh config catalog).history events)
        ((fresh config catalog).after events).metrics ∧
      RefusesApart ((fresh config catalog).after events) ∧
      ScrapesAlone ((fresh config catalog).after events) := by
  have conserved := conserved_fresh config catalog events
  exact ⟨conserved, refusesApart _, scrapesAlone conserved.idle⟩

end Service
end Server
end ContactSearch
