import ContactSearch.Server.Metrics

namespace ContactSearch
namespace Server

/-!
# Exposition of metrics

Metrics are shown as text, one sample a line, with the samples of a family
below the lines that describe it.  Families stand in the order of their names,
and a family without samples is left out.

The page shows what requests decide.  What the clock and the process decide is
left out: of the durations there is only their count, without the `_bucket` and
`_sum` lines, and there are no `process_` families.

Two more things of a full page are left out.  There the samples of a family are
sorted by their labels, and here they stand in the order in which their keys were
first used.  There a number without labels has no lines before it is first used,
and here it is shown from the start, as zero.  So the length of the page is that of
what is shown here.
-/

/-- One number of a family. -/
structure Sample where
  name : String
  labels : List (String × String)
  value : Nat

/-- Samples that belong together. -/
structure Family where
  name : String
  help : String
  kind : String
  samples : List Sample

namespace Sample

/-- A label and its value. -/
def labelText (label : String × String) : String :=
  label.1 ++ "=\"" ++ label.2 ++ "\""

/-- The line of a sample. -/
def line (sample : Sample) : String :=
  let labels :=
    if sample.labels.isEmpty then ""
    else "\x7b" ++ ",".intercalate (sample.labels.map labelText) ++ "\x7d"
  sample.name ++ labels ++ " " ++ Decimal.natText sample.value

end Sample

namespace Family

/-- The lines of a family. -/
def lines (family : Family) : List String :=
  if family.samples.isEmpty then []
  else
    ("# HELP " ++ family.name ++ " " ++ family.help) ::
      ("# TYPE " ++ family.name ++ " " ++ family.kind) ::
      family.samples.map Sample.line

end Family

namespace Metrics

/-- The labels of what a request is counted as. -/
def servedLabels (served : Served) : List (String × String) :=
  [("method", served.method), ("path", served.label.text)]

/-- The labels of what a search is counted as. -/
def searchedLabels (searched : Searched) : List (String × String) :=
  [("mode", searched.mode.text), ("status", searched.outcome.text),
    ("variant", searched.variant.slug)]

/-- A family with one sample that has no labels. -/
def single (name help kind : String) (value : Nat) : Family :=
  ⟨name, help, kind, [⟨name, [], value⟩]⟩

/-- The samples of a tally. -/
def tallySamples (name : String) (labels : κ -> List (String × String)) (tally : Tally κ) :
    List Sample :=
  tally.entries.map fun (key, value) => ⟨name, labels key, value⟩

/-- The samples of a distribution: how many numbers are within each bound, their sum and count. -/
def distributionSamples (name : String) (labels : List (String × String))
    (distribution : Distribution) : List Sample :=
  let bucket := fun (bound : String) (value : Nat) =>
    (⟨name ++ "_bucket", labels ++ [("le", bound)], value⟩ : Sample)
  List.zipWith (fun bound count => bucket (Decimal.natText bound) count)
      Distribution.bounds distribution.within ++
    [bucket "+Inf" distribution.count,
      ⟨name ++ "_sum", labels, distribution.sum⟩,
      ⟨name ++ "_count", labels, distribution.count⟩]

/-- How many callers have been refused. -/
def refusalFamily (metrics : Metrics) : Family :=
  single "contacts_auth_failures_total"
    "Total number of requests rejected by authentication" "counter" metrics.refusals

/-- How many documents there were when they were last counted. -/
def documentFamily (metrics : Metrics) : Family :=
  single "contacts_collection_documents"
    "Number of documents in the contacts collection" "gauge" metrics.documents

/-- How many requests have been timed; how long they took is left out. -/
def timedFamily (metrics : Metrics) : Family :=
  let name := "contacts_http_request_duration_seconds"
  ⟨name, "HTTP request duration in seconds", "histogram",
    tallySamples (name ++ "_count") servedLabels metrics.timed⟩

/-- How many requests have not been answered yet. -/
def inFlightFamily (metrics : Metrics) : Family :=
  let name := "contacts_http_requests_in_flight"
  ⟨name, "Number of HTTP requests currently being processed", "gauge",
    tallySamples name servedLabels metrics.inFlight⟩

/-- How many requests have been answered. -/
def requestFamily (metrics : Metrics) : Family :=
  let name := "contacts_http_requests_total"
  ⟨name, "Total number of HTTP requests", "counter",
    tallySamples name
      (fun key => servedLabels key.1 ++ [("status", Decimal.natText key.2.code)])
      metrics.requests⟩

/-- How many contacts the searches found. -/
def resultFamily (metrics : Metrics) : Family :=
  let name := "contacts_search_results"
  ⟨name, "Number of contacts returned by search", "histogram",
    metrics.results.flatMap fun (mode, distribution) =>
      distributionSamples name [("mode", mode.text)] distribution⟩

/-- How many searches there were. -/
def searchFamily (metrics : Metrics) : Family :=
  let name := "contacts_search_total"
  ⟨name, "Total number of contact searches", "counter",
    tallySamples name searchedLabels metrics.searches⟩

/-- All families in the order of their names, apart from those of the process. -/
def families (metrics : Metrics) : List Family :=
  [metrics.refusalFamily, metrics.documentFamily, metrics.timedFamily, metrics.inFlightFamily,
    metrics.requestFamily, metrics.resultFamily, metrics.searchFamily]

/-- The text of all metrics, as far as requests decide it. -/
def exposition (metrics : Metrics) : String :=
  String.join ((metrics.families.flatMap Family.lines).map fun line => line ++ "\n")

end Metrics
end Server
end ContactSearch
