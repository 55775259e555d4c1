import ContactSearch.Server.Metrics
import Mathlib.Algebra.GroupWithZero.Nat

namespace ContactSearch
namespace Server

/-!
# Sums of what is counted

The numbers of a tally can be added up over the keys that are of interest.
Counting a key once more adds one to every sum that the key is part of, and to
no other.  A number that is entered into the distribution of a mode changes no
other distribution.
-/

namespace Tally

variable {κ : Type} [DecidableEq κ]

/-! ## Keys -/

/-- The keys in the order in which they were first used. -/
def keys (tally : Tally κ) : List κ :=
  tally.entries.map Prod.fst

theorem keys_changeEntry (f : Nat -> Nat) (key : κ) (entries : List (κ × Nat)) :
    (changeEntry f key entries).map Prod.fst =
      if key ∈ entries.map Prod.fst then entries.map Prod.fst
      else entries.map Prod.fst ++ [key] := by
  induction entries with
  | nil => rfl
  | cons entry entries ih =>
      rcases entry with ⟨name, count⟩
      by_cases same : name = key
      · simp [changeEntry, same]
      · rw [changeEntry, if_neg same, List.map_cons, ih]
        by_cases known : key ∈ entries.map Prod.fst <;> simp [known, Ne.symm same]

theorem nodup_keys_increment {tally : Tally κ} (distinct : tally.keys.Nodup) (key : κ) :
    (tally.increment key).keys.Nodup := by
  rw [keys, increment, change, keys_changeEntry]
  split
  · exact distinct
  · next fresh =>
      apply List.nodup_append.mpr
      refine ⟨distinct, List.pairwise_singleton _ key, ?_⟩
      intro other member last single
      cases List.mem_singleton.mp single
      exact fun same => fresh (same ▸ member)

/-! ## Sums -/

/-- The sum of the numbers of the selected keys in entries. -/
def sumOver (selects : κ -> Bool) (entries : List (κ × Nat)) : Nat :=
  ((entries.filter fun entry => selects entry.1).map Prod.snd).sum

/-- The sum of the numbers of all selected keys. -/
def sumOf (tally : Tally κ) (selects : κ -> Bool) : Nat :=
  sumOver selects tally.entries

omit [DecidableEq κ] in
theorem sumOver_cons (selects : κ -> Bool) (entry : κ × Nat) (entries : List (κ × Nat)) :
    sumOver selects (entry :: entries) =
      (if selects entry.1 then entry.2 else 0) + sumOver selects entries := by
  rw [sumOver, List.filter_cons]
  split
  · rw [List.map_cons, List.sum_cons]
    rfl
  · rw [Nat.zero_add]
    rfl

theorem sumOver_changeEntry (selects : κ -> Bool) (key : κ) (entries : List (κ × Nat)) :
    sumOver selects (changeEntry (· + 1) key entries) =
      sumOver selects entries + if selects key then 1 else 0 := by
  induction entries with
  | nil => rw [changeEntry, sumOver_cons, Nat.add_comm]
  | cons entry entries ih =>
      rcases entry with ⟨name, count⟩
      rw [changeEntry]
      split
      · next same =>
          rw [sumOver_cons, sumOver_cons, same]
          split <;> omega
      · rw [sumOver_cons, sumOver_cons, ih, Nat.add_assoc]

theorem sumOf_increment (tally : Tally κ) (key : κ) (selects : κ -> Bool) :
    (tally.increment key).sumOf selects = tally.sumOf selects + if selects key then 1 else 0 :=
  sumOver_changeEntry selects key tally.entries

end Tally

namespace Metrics

/-- The distribution of a mode. -/
def distributionOf (metrics : Metrics) (mode : Contact.Mode) : Distribution :=
  resultsOf mode metrics.results

theorem resultsOf_enterResult (mode other : Contact.Mode) (value : Nat)
    (results : List (Contact.Mode × Distribution)) :
    resultsOf other (enterResult mode value results) =
      if mode = other then (resultsOf mode results).observe value
      else resultsOf other results := by
  induction results with
  | nil => by_cases same : mode = other <;> simp [enterResult, resultsOf, same]
  | cons entry results ih =>
      rcases entry with ⟨name, distribution⟩
      by_cases same : name = mode
      · subst same
        rw [enterResult, if_pos rfl, resultsOf, resultsOf, resultsOf, if_pos rfl]
        split <;> rfl
      · rw [enterResult, if_neg same, resultsOf, resultsOf, resultsOf, if_neg same]
        by_cases found : name = other
        · rw [if_pos found, if_pos found, if_neg fun hit => same (found.trans hit.symm)]
        · rw [if_neg found, if_neg found, ih]

end Metrics
end Server
end ContactSearch
