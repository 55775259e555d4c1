import Mathlib.Data.List.Induction
import Mathlib.Data.List.Nodup
import Mathlib.Data.List.Perm.Subperm
import ContactSearch.Proofs.Json.Reordering

namespace ContactSearch
namespace Json

/-!
# Merged entries

Entries on different keys are merged to themselves.  In general the keys stand
in the order in which they came first, and nothing is merged but the entries
that were given.  So the merged entries are fewer exactly if a key is repeated.

Which entry of a repeated key is kept is told by looking the key up from behind.
Together with the order of the keys this determines the merged entries.
-/

theorem setEntry_of_fresh {key : String} {entries : List (String × Json)}
    (fresh : key ∉ entries.map Prod.fst) (value : Json) :
    setEntry key value entries = entries ++ [(key, value)] := by
  induction entries with
  | nil => rfl
  | cons entry entries ih =>
      rcases entry with ⟨name, old⟩
      have different : name ≠ key := fun same => fresh (same ▸ List.mem_cons_self)
      have later : key ∉ entries.map Prod.fst := fun member =>
        fresh (List.mem_cons_of_mem name member)
      rw [setEntry, if_neg different, ih later, List.cons_append]

theorem foldl_setEntry_of_nodup {merged entries : List (String × Json)}
    (distinct : ((merged ++ entries).map Prod.fst).Nodup) :
    entries.foldl (fun merged entry => setEntry entry.1 entry.2 merged) merged =
      merged ++ entries := by
  induction entries generalizing merged with
  | nil => exact (List.append_nil merged).symm
  | cons entry entries ih =>
      have fresh : entry.1 ∉ merged.map Prod.fst := by
        rw [List.map_append, List.map_cons] at distinct
        intro member
        exact (List.nodup_append.mp distinct).2.2 entry.1 member entry.1 List.mem_cons_self rfl
      have split : merged ++ entry :: entries = (merged ++ [entry]) ++ entries := by
        rw [List.append_assoc, List.singleton_append]
      rw [List.foldl_cons, setEntry_of_fresh fresh, split]
      exact ih (split ▸ distinct)

/-- Merging entries on different keys changes nothing. -/
theorem mergeEntries_of_nodup {entries : List (String × Json)}
    (distinct : (entries.map Prod.fst).Nodup) : mergeEntries entries = entries :=
  foldl_setEntry_of_nodup distinct

theorem nodup_keys_mergeEntries (entries : List (String × Json)) :
    ((mergeEntries entries).map Prod.fst).Nodup := by
  rw [<- Fields.entries_ofEntries]
  exact (Fields.ofEntries entries).distinct

theorem mem_of_mem_setEntry {key : String} {value : Json} {entry : String × Json}
    {entries : List (String × Json)} (member : entry ∈ setEntry key value entries) :
    entry = (key, value) ∨ entry ∈ entries := by
  induction entries with
  | nil => exact Or.inl (List.mem_singleton.mp member)
  | cons head tail ih =>
      rcases head with ⟨name, old⟩
      rw [setEntry] at member
      split at member
      · rcases List.mem_cons.mp member with same | behind
        · exact Or.inl same
        · exact Or.inr (List.mem_cons_of_mem _ behind)
      · rcases List.mem_cons.mp member with rfl | behind
        · exact Or.inr List.mem_cons_self
        · exact (ih behind).imp_right (List.mem_cons_of_mem _)

/-- Merging invents no entries. -/
theorem mem_of_mem_mergeEntries {entry : String × Json} {entries : List (String × Json)}
    (member : entry ∈ mergeEntries entries) : entry ∈ entries := by
  have origins : forall (entries merged : List (String × Json)),
      entry ∈ entries.foldl (fun merged entry => setEntry entry.1 entry.2 merged) merged ->
      entry ∈ merged ∨ entry ∈ entries := by
    intro entries
    induction entries with
    | nil => exact fun merged member => Or.inl member
    | cons first rest ih =>
        intro merged member
        rcases ih _ member with earlier | later
        · rcases mem_of_mem_setEntry earlier with same | before
          · exact Or.inr (same ▸ List.mem_cons_self)
          · exact Or.inl before
        · exact Or.inr (List.mem_cons_of_mem _ later)
  exact (origins entries [] member).resolve_left List.not_mem_nil

theorem mergeEntries_concat (entries : List (String × Json)) (key : String) (value : Json) :
    mergeEntries (entries ++ [(key, value)]) = setEntry key value (mergeEntries entries) :=
  List.foldl_append

/-- The merged keys are the given ones, each once, in the order in which they came first. -/
theorem keys_mergeEntries (entries : List (String × Json)) :
    (mergeEntries entries).map Prod.fst = (entries.map Prod.fst).eraseDups := by
  induction entries using List.reverseRecOn with
  | nil => rfl
  | append_singleton entries entry ih =>
      have known : entry.1 ∈ (entries.map Prod.fst).eraseDups <-> entry.1 ∈ entries.map Prod.fst :=
        List.mem_eraseDups
      rw [mergeEntries_concat, keys_setEntry, ih, List.map_append, List.eraseDups_append]
      by_cases member : entry.1 ∈ entries.map Prod.fst
      · rw [if_pos (known.mpr member)]
        simp [List.removeAll, member]
      · rw [if_neg (mt known.mp member)]
        simp [List.removeAll, member, List.eraseDups_cons]

/-- The first key stays the first one. -/
theorem head?_keys_mergeEntries (entries : List (String × Json)) :
    ((mergeEntries entries).map Prod.fst).head? = (entries.map Prod.fst).head? := by
  rw [keys_mergeEntries]
  cases entries with
  | nil => rfl
  | cons entry entries => rw [List.map_cons, List.eraseDups_cons, List.head?_cons, List.head?_cons]

theorem mergeEntries_subperm (entries : List (String × Json)) :
    (mergeEntries entries).Subperm entries := by
  have distinct := List.Nodup.of_map Prod.fst (nodup_keys_mergeEntries entries)
  exact distinct.subperm fun _ => mem_of_mem_mergeEntries

/-- A repeated key makes the merged entries fewer. -/
theorem length_mergeEntries_eq_iff {entries : List (String × Json)} :
    (mergeEntries entries).length = entries.length <-> (entries.map Prod.fst).Nodup := by
  constructor
  · intro same
    have perm := (mergeEntries_subperm entries).perm_of_length_le (Nat.le_of_eq same.symm)
    exact (perm.map Prod.fst).nodup_iff.mp (nodup_keys_mergeEntries entries)
  · intro distinct
    rw [mergeEntries_of_nodup distinct]

/-! ## Last values -/

/-- The last value that entries give a key. -/
def latest? (key : String) (entries : List (String × Json)) : Option Json :=
  lookup key entries.reverse

/-- The keys of entries in the order in which they came first, each once, with its last value. -/
def latestEntries (entries : List (String × Json)) : List (String × Json) :=
  (entries.map Prod.fst).eraseDups.filterMap fun key => (latest? key entries).map (Prod.mk key)

theorem latest?_concat (entries : List (String × Json)) (key name : String) (value : Json) :
    latest? key (entries ++ [(name, value)]) =
      if name = key then some value else latest? key entries := by
  rw [latest?, List.reverse_concat, lookup, latest?]

theorem lookup_mergeEntries (entries : List (String × Json)) (key : String) :
    lookup key (mergeEntries entries) = latest? key entries := by
  induction entries using List.reverseRecOn with
  | nil => rfl
  | append_singleton entries entry ih =>
      rw [mergeEntries_concat, lookup_setEntry, latest?_concat, ih]

/-- Entries on different keys are determined by the keys and by what is looked up. -/
theorem filterMap_lookup_of_nodup {entries : List (String × Json)}
    (distinct : (entries.map Prod.fst).Nodup) :
    (entries.map Prod.fst).filterMap (fun key => (lookup key entries).map (Prod.mk key)) =
      entries := by
  have found : forall entry, entry ∈ entries ->
      (lookup entry.1 entries).map (Prod.mk entry.1) = some entry := by
    intro entry member
    rw [(lookup_eq_some_iff distinct).mpr member, Option.map_some]
  rw [List.filterMap_map]
  calc
    entries.filterMap (fun entry => (lookup entry.1 entries).map (Prod.mk entry.1)) =
        entries.filterMap some := List.filterMap_congr found
    _ = entries := List.filterMap_some

/-- First places stay and last values win. -/
theorem mergeEntries_eq_latestEntries (entries : List (String × Json)) :
    mergeEntries entries = latestEntries entries := by
  have determined := filterMap_lookup_of_nodup (nodup_keys_mergeEntries entries)
  simp only [keys_mergeEntries, lookup_mergeEntries] at determined
  exact determined.symm

end Json
end ContactSearch
