namespace ContactSearch
namespace Store

/-!
# Directories

A directory holds values under names, and no name twice.  Storing a value
under a name discards what was there.  The entries have no order that means
anything.
-/

/-- Values under distinct names. -/
structure Directory (α : Type) where
  entries : List (String × α)
  distinct : (entries.map Prod.fst).Nodup

namespace Directory

variable {α : Type}

def empty : Directory α :=
  ⟨[], List.nodup_nil⟩

/-- The value of a name in entries. -/
def valueOf (name : String) : List (String × α) -> Option α
  | [] => none
  | (other, value) :: rest => if other = name then some value else valueOf name rest

/-- The value under a name. -/
def get? (directory : Directory α) (name : String) : Option α :=
  valueOf name directory.entries

/-- The names under which there is a value. -/
def names (directory : Directory α) : List String :=
  directory.entries.map Prod.fst

/-- The directory without a name. -/
def remove (directory : Directory α) (name : String) : Directory α where
  entries := directory.entries.filter fun entry => entry.1 != name
  distinct := directory.distinct.sublist (List.filter_sublist.map Prod.fst)

theorem not_mem_names_remove (directory : Directory α) (name : String) :
    name ∉ (directory.remove name).names := by
  intro member
  rcases List.mem_map.mp member with ⟨entry, kept, rfl⟩
  exact bne_iff_ne.mp (List.mem_filter.mp kept).2 rfl

/-- The directory with a value under a name. -/
def set (directory : Directory α) (name : String) (value : α) : Directory α where
  entries := (name, value) :: (directory.remove name).entries
  distinct :=
    List.nodup_cons.mpr ⟨directory.not_mem_names_remove name, (directory.remove name).distinct⟩

theorem valueOf_filter_ne (name other : String) (entries : List (String × α)) :
    valueOf other (entries.filter fun entry => entry.1 != name) =
      if name = other then none else valueOf other entries := by
  induction entries with
  | nil => simp [valueOf]
  | cons entry rest ih =>
      rcases entry with ⟨held, value⟩
      by_cases removed : held = name
      · subst removed
        rw [List.filter_cons_of_neg (by simp), ih, valueOf]
        by_cases same : held = other <;> simp [same]
      · rw [List.filter_cons_of_pos (by simpa using removed), valueOf, valueOf, ih]
        by_cases same : held = other
        · subst same
          simp [Ne.symm removed]
        · simp [same]

theorem get?_remove (directory : Directory α) (name other : String) :
    (directory.remove name).get? other = if name = other then none else directory.get? other :=
  valueOf_filter_ne name other directory.entries

theorem get?_set (directory : Directory α) (name other : String) (value : α) :
    (directory.set name value).get? other =
      if name = other then some value else directory.get? other := by
  rw [get?, set, valueOf]
  by_cases same : name = other
  · rw [if_pos same, if_pos same]
  · rw [if_neg same, if_neg same]
    exact (directory.get?_remove name other).trans (if_neg same)

theorem isSome_valueOf_iff {name : String} {entries : List (String × α)} :
    (valueOf name entries).isSome = true <-> name ∈ entries.map Prod.fst := by
  induction entries with
  | nil => simp [valueOf]
  | cons entry rest ih =>
      rcases entry with ⟨held, value⟩
      by_cases same : held = name
      · simp [valueOf, same]
      · simp [valueOf, same, Ne.symm same, ih]

theorem mem_names_iff {directory : Directory α} {name : String} :
    name ∈ directory.names <-> (directory.get? name).isSome = true :=
  isSome_valueOf_iff.symm

end Directory
end Store
end ContactSearch
