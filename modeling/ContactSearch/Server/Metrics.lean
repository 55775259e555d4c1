import ContactSearch.Http.Message
import ContactSearch.Server.Route

namespace ContactSearch
namespace Server

/-!
# Metrics

Counters grow with the requests that are served.  A request is in flight from
the moment it is counted as begun until its response is known, and only then
does it enter the totals.  Searches are counted by their outcome; those that
succeed also enter a distribution of the numbers of contacts they found.

How long a request takes is not measured, only that it has been timed.  What a
process uses is not counted either.
-/

/-- Numbers by key, in the order in which the keys were first used. -/
structure Tally (κ : Type) where
  entries : List (κ × Nat)

namespace Tally

variable {κ : Type} [DecidableEq κ]

def empty : Tally κ :=
  ⟨[]⟩

/-- The number of a key in entries; a key that is not there has none. -/
def lookup (key : κ) : List (κ × Nat) -> Nat
  | [] => 0
  | (other, count) :: rest => if other = key then count else lookup key rest

/-- The number of a key. -/
def get (tally : Tally κ) (key : κ) : Nat :=
  lookup key tally.entries

/-- Entries with the number of a key changed; a new key starts at zero. -/
def changeEntry (change : Nat -> Nat) (key : κ) : List (κ × Nat) -> List (κ × Nat)
  | [] => [(key, change 0)]
  | (other, count) :: rest =>
      if other = key then (other, change count) :: rest
      else (other, count) :: changeEntry change key rest

/-- Change the number of a key. -/
def change (tally : Tally κ) (key : κ) (f : Nat -> Nat) : Tally κ :=
  ⟨changeEntry f key tally.entries⟩

/-- Count a key once more. -/
def increment (tally : Tally κ) (key : κ) : Tally κ :=
  tally.change key (· + 1)

/-- Count a key once less. -/
def decrement (tally : Tally κ) (key : κ) : Tally κ :=
  tally.change key (· - 1)

theorem lookup_changeEntry (f : Nat -> Nat) (key other : κ) (entries : List (κ × Nat)) :
    lookup other (changeEntry f key entries) =
      if key = other then f (lookup key entries) else lookup other entries := by
  induction entries with
  | nil => simp [changeEntry, lookup]
  | cons head tail ih =>
      obtain ⟨name, count⟩ := head
      by_cases same : name = key
      · subst same
        simp only [changeEntry, lookup]
        by_cases hit : name = other <;> simp [hit, lookup]
      · by_cases hit : name = other
        · subst hit
          simp [changeEntry, lookup, same, Ne.symm same]
        · simp [changeEntry, lookup, same, hit, ih]

theorem get_increment (tally : Tally κ) (key other : κ) :
    (tally.increment key).get other = tally.get other + if key = other then 1 else 0 := by
  by_cases same : key = other
  · subst same
    simp [get, increment, change, lookup_changeEntry]
  · simp [get, increment, change, lookup_changeEntry, same]

theorem get_decrement (tally : Tally κ) (key other : κ) :
    (tally.decrement key).get other = tally.get other - if key = other then 1 else 0 := by
  by_cases same : key = other
  · subst same
    simp [get, decrement, change, lookup_changeEntry]
  · simp [get, decrement, change, lookup_changeEntry, same]

end Tally

/-- What a request is counted as. -/
structure Served where
  method : String
  label : PathLabel
  deriving DecidableEq

/-- How a search ended. -/
inductive Outcome where
  | success
  | clientFault
  | serverFault
  deriving DecidableEq

/-- The name of an outcome. -/
def Outcome.text : Outcome -> String
  | .success => "success"
  | .clientFault => "client_error"
  | .serverFault => "server_error"

/-- What is counted of a search. -/
structure SearchRecord where
  mode : Contact.Mode
  variant : Contact.Variant
  outcome : Outcome
  found : Option Nat

/-- What a search is counted as. -/
structure Searched where
  mode : Contact.Mode
  variant : Contact.Variant
  outcome : Outcome
  deriving DecidableEq

/-- What a search is counted as, apart from what it found. -/
def SearchRecord.key (record : SearchRecord) : Searched :=
  ⟨record.mode, record.variant, record.outcome⟩

/-- A distribution of numbers: how many were within each bound, their count and their sum. -/
structure Distribution where
  within : List Nat
  count : Nat
  sum : Nat

namespace Distribution

/-- The bounds of the distribution. -/
def bounds : List Nat :=
  [0, 1, 2, 3, 5, 10, 100]

def empty : Distribution :=
  ⟨bounds.map fun _ => 0, 0, 0⟩

/-- Enter a number. -/
def observe (distribution : Distribution) (value : Nat) : Distribution where
  within := List.zipWith (fun bound count => if value ≤ bound then count + 1 else count)
    bounds distribution.within
  count := distribution.count + 1
  sum := distribution.sum + value

end Distribution

/-- Everything that is counted. -/
structure Metrics where
  requests : Tally (Served × Http.Status)
  timed : Tally Served
  inFlight : Tally Served
  refusals : Nat
  searches : Tally Searched
  results : List (Contact.Mode × Distribution)
  documents : Nat

namespace Metrics

/-- The metrics of a server that has just been started. -/
def zero : Metrics :=
  ⟨.empty, .empty, .empty, 0, .empty, [], 0⟩

/-- A request arrives. -/
def begin (metrics : Metrics) (served : Served) : Metrics :=
  { metrics with inFlight := metrics.inFlight.increment served }

/-- The response to a request is known. -/
def finish (metrics : Metrics) (served : Served) (status : Http.Status) : Metrics :=
  { metrics with
    requests := metrics.requests.increment (served, status)
    timed := metrics.timed.increment served
    inFlight := metrics.inFlight.decrement served }

/-- A caller has been refused. -/
def refuse (metrics : Metrics) : Metrics :=
  { metrics with refusals := metrics.refusals + 1 }

/-- The distribution of a mode, as far as numbers have been entered. -/
def resultsOf (mode : Contact.Mode) : List (Contact.Mode × Distribution) -> Distribution
  | [] => .empty
  | (other, distribution) :: rest =>
      if other = mode then distribution else resultsOf mode rest

/-- Enter a number into the distribution of a mode. -/
def enterResult (mode : Contact.Mode) (value : Nat) :
    List (Contact.Mode × Distribution) -> List (Contact.Mode × Distribution)
  | [] => [(mode, Distribution.empty.observe value)]
  | (other, distribution) :: rest =>
      if other = mode then (other, distribution.observe value) :: rest
      else (other, distribution) :: enterResult mode value rest

/-- A search has ended. -/
def note (metrics : Metrics) (record : SearchRecord) : Metrics :=
  { metrics with
    searches := metrics.searches.increment record.key
    results := match record.found with
      | some found => enterResult record.mode found metrics.results
      | none => metrics.results }

/-- The size of the collection has been looked up. -/
def sample (metrics : Metrics) (documents : Nat) : Metrics :=
  { metrics with documents }

end Metrics
end Server
end ContactSearch
