import ContactSearch.Proofs.Store.Queries
import ContactSearch.Store.Filter

namespace ContactSearch
namespace Store
namespace Filter

/-!
# Flattened filters

A filter is a tree, and its comparisons are the leaves of this tree.  A leaf is
found by the places to take from the root on, so that equal leaves in different
places are told apart.  From left to right is the lexicographic order of these
paths.  Flattening lists the leaves in this order and loses none of them.

The meaning of a filter is read off the tree as well: a comparison holds for the
documents whose field has an equal value, and a conjunction for those for which
all of its members hold.  That the clauses hold together comes to the same.  It
does not depend on how the leaves are put together, only on which they are.
-/

/-- Induction on filters, with the claim for whatever stands in a conjunction. -/
@[elab_as_elim]
theorem nestedInduction {motive : Filter -> Prop}
    (eq : forall field value, motive (.eq field value))
    (and : forall filters, (forall filter, filter ∈ filters -> motive filter) ->
      motive (.and filters)) (filter : Filter) : motive filter :=
  match filter with
  | .eq field value => eq field value
  | .and filters => and filters fun filter _ => nestedInduction eq and filter
termination_by filter
decreasing_by
  next member =>
    have smaller := List.sizeOf_lt_of_mem member
    rw [Filter.and.sizeOf_spec]
    omega

/-! ## Leaves -/

/-- The comparison at the end of a path, which is the place to take at each conjunction. -/
def leaf? : Filter -> List Nat -> Option Clause
  | .eq field value, [] => some ⟨field, value⟩
  | .eq _ _, _ :: _ => none
  | .and _, [] => none
  | .and filters, place :: path => filters[place]?.bind fun filter => filter.leaf? path

/-- The leaves of a filter with their paths, from left to right. -/
structure Leaves (filter : Filter) (leaves : List (List Nat × Clause)) : Prop where
  rising : (leaves.map Prod.fst).Pairwise (· < ·)
  mem_iff : forall path clause, (path, clause) ∈ leaves <-> filter.leaf? path = some clause

/-- A path into a conjunction, once a further member stands in front of the others. -/
def movedPath : List Nat -> List Nat
  | [] => []
  | place :: path => (place + 1) :: path

theorem movedPath_lt {path other : List Nat} (before : path < other) :
    movedPath path < movedPath other := by
  cases other with
  | nil => cases before
  | cons place' other =>
      cases path with
      | nil => exact List.nil_lt_cons _ _
      | cons place path =>
          simpa [movedPath, List.cons_lt_cons_iff] using before

variable {filter : Filter} {filters : List Filter}

theorem leaves_eq (field : String) (value : Json) :
    Leaves (.eq field value) [([], ⟨field, value⟩)] where
  rising := List.pairwise_singleton _ _
  mem_iff path clause := by
    cases path with
    | nil => simp [leaf?, eq_comm]
    | cons place path => simp [leaf?]

theorem leaves_and_nil : Leaves (.and []) [] where
  rising := .nil
  mem_iff path clause := by
    cases path <;> simp [leaf?]

/-- No path to a leaf of a conjunction ends at its root. -/
theorem Leaves.exists_cons {leaves : List (List Nat × Clause)}
    (ofAll : Leaves (.and filters) leaves) {leaf : List Nat × Clause} (member : leaf ∈ leaves) :
    exists place path, leaf.1 = place :: path := by
  have found : leaf? (.and filters) leaf.1 = some leaf.2 := (ofAll.mem_iff _ _).mp member
  rcases shape : leaf.1 with _ | ⟨place, path⟩
  · rw [shape] at found
    cases found
  · exact ⟨place, path, rfl⟩

/-- The leaves of the first member come before those of the others, whose first places move. -/
theorem Leaves.and_cons {first others : List (List Nat × Clause)} (ofFirst : filter.Leaves first)
    (ofOthers : Leaves (.and filters) others) :
    Leaves (.and (filter :: filters))
      (first.map (fun leaf => (0 :: leaf.1, leaf.2)) ++
        others.map fun leaf => (movedPath leaf.1, leaf.2)) where
  rising := by
    have rising := List.pairwise_map.mp ofFirst.rising
    have rising' := List.pairwise_map.mp ofOthers.rising
    rw [List.map_append, List.map_map, List.map_map, List.pairwise_append, List.pairwise_map,
      List.pairwise_map]
    refine ⟨rising.imp List.cons_lt_cons_self.mpr, rising'.imp movedPath_lt, ?_⟩
    intro path member path' member'
    rcases List.mem_map.mp member with ⟨leaf, _, rfl⟩
    rcases List.mem_map.mp member' with ⟨leaf', listed, rfl⟩
    rcases ofOthers.exists_cons listed with ⟨place, rest, shape⟩
    rw [Function.comp, Function.comp, shape, movedPath, List.cons_lt_cons_iff]
    exact Or.inl place.succ_pos
  mem_iff path clause := by
    rw [List.mem_append, List.mem_map, List.mem_map]
    constructor
    · rintro (⟨leaf, member, same⟩ | ⟨leaf, member, same⟩)
      · cases same
        exact (ofFirst.mem_iff _ _).mp member
      · rcases ofOthers.exists_cons member with ⟨place, rest, shape⟩
        have found := (ofOthers.mem_iff _ _).mp member
        cases same
        rw [shape] at found ⊢
        exact found
    · intro found
      match path with
      | [] => cases found
      | 0 :: path => exact Or.inl ⟨(path, clause), (ofFirst.mem_iff _ _).mpr found, rfl⟩
      | (place + 1) :: path =>
          exact Or.inr ⟨(place :: path, clause), (ofOthers.mem_iff _ _).mpr found, rfl⟩

/-- Flattening lists the leaves from left to right. -/
theorem exists_leaves (filter : Filter) :
    exists leaves, filter.Leaves leaves ∧ filter.clauses = leaves.map Prod.snd := by
  induction filter using nestedInduction with
  | eq field value => exact ⟨_, leaves_eq field value, by rw [clauses]; rfl⟩
  | and filters ih =>
      -- the members are added from the last one to the first one
      induction filters with
      | nil => exact ⟨_, leaves_and_nil, by rw [clauses, clausesOfAll]; rfl⟩
      | cons filter filters ih' =>
          rcases List.forall_mem_cons.mp ih with ⟨first, others⟩
          rcases first with ⟨leaves, ofFirst, listed⟩
          rcases ih' others with ⟨leaves', ofOthers, listed'⟩
          refine ⟨_, ofFirst.and_cons ofOthers, ?_⟩
          rw [clauses] at listed'
          rw [clauses, clausesOfAll, listed, listed', List.map_append, List.map_map, List.map_map]
          rfl

/-! ## Meaning -/

/-- The filters that hold for a document. -/
inductive Holds (document : Document) : Filter -> Prop where
  | eq {field : String} {value held : Json} (found : document.get? field = some held)
      (equal : held.equals value = true) : Holds document (.eq field value)
  | and {filters : List Filter} (all : forall filter, filter ∈ filters -> Holds document filter) :
      Holds document (.and filters)

theorem holds_eq_iff {document : Document} {field : String} {value : Json} :
    Holds document (.eq field value) <-> Clause.matches ⟨field, value⟩ document = true := by
  rw [Clause.matches_iff]
  constructor
  · intro holds
    cases holds with
    | eq found equal => exact ⟨_, found, equal⟩
  · rintro ⟨held, found, equal⟩
    exact .eq found equal

theorem holds_and_iff {document : Document} :
    Holds document (.and filters) <-> forall filter, filter ∈ filters -> Holds document filter := by
  constructor
  · intro holds
    cases holds with
    | and all => exact all
  · exact .and

theorem clausesOfAll_eq_flatMap (filters : List Filter) :
    clausesOfAll filters = filters.flatMap clauses := by
  induction filters with
  | nil => rw [clausesOfAll, List.flatMap_nil]
  | cons filter filters ih => rw [clausesOfAll, ih, List.flatMap_cons]

/-- A filter holds for the documents for which all of its clauses do. -/
theorem matchesAll_clauses_iff (filter : Filter) (document : Document) :
    Predicate.matchesAll filter.clauses document = true <-> filter.Holds document := by
  rw [Predicate.matchesAll, List.all_eq_true]
  induction filter using nestedInduction with
  | eq field value => rw [holds_eq_iff, clauses, List.forall_mem_singleton]
  | and filters ih =>
      rw [holds_and_iff, clauses, clausesOfAll_eq_flatMap]
      constructor
      · intro all filter listed
        exact (ih filter listed).mp fun clause inner =>
          all clause (List.mem_flatMap.mpr ⟨filter, listed, inner⟩)
      · intro all clause member
        rcases List.mem_flatMap.mp member with ⟨filter, listed, inner⟩
        exact (ih filter listed).mpr (all filter listed) clause inner

instance (filter : Filter) (document : Document) : Decidable (filter.Holds document) :=
  decidable_of_iff _ (filter.matchesAll_clauses_iff document)

theorem find_lower (filter : Filter) (collection : Collection) :
    collection.find filter.lower =
      .ok (collection.documents.filter fun document => filter.Holds document) :=
  Collection.find_fields_of_iff filter.matchesAll_clauses_iff collection

theorem Leaves.mem_clauses_iff {leaves : List (List Nat × Clause)} (ofFilter : filter.Leaves leaves)
    {clause : Clause} : clause ∈ leaves.map Prod.snd <-> clause ∈ filter.clauses := by
  rcases filter.exists_leaves with ⟨leaves', ofFilter', listed⟩
  rw [listed, List.mem_map, List.mem_map]
  constructor
  · rintro ⟨leaf, member, rfl⟩
    exact ⟨leaf, (ofFilter'.mem_iff _ _).mpr ((ofFilter.mem_iff _ _).mp member), rfl⟩
  · rintro ⟨leaf, member, rfl⟩
    exact ⟨leaf, (ofFilter.mem_iff _ _).mpr ((ofFilter'.mem_iff _ _).mp member), rfl⟩

/--
Flattening preserves the meaning of a filter.  Its predicate consists of clauses, one for each leaf,
from left to right, and finds the documents for which the filter holds, in order.  Two filters with
the same leaves, however often each of them occurs, find the same documents, in whatever way the
leaves are nested and in whatever order they stand.
-/
theorem flattening_preserves_meaning :
    (forall filter : Filter, exists leaves, filter.Leaves leaves ∧
      filter.lower = .fields (leaves.map Prod.snd) ∧
      forall collection : Collection, collection.find filter.lower =
        .ok (collection.documents.filter fun document => filter.Holds document)) ∧
    (forall (filter other : Filter) (leaves leaves' : List (List Nat × Clause)),
      filter.Leaves leaves -> other.Leaves leaves' ->
        (leaves.map Prod.snd).Perm (leaves'.map Prod.snd) ->
          forall collection : Collection,
            collection.find filter.lower = collection.find other.lower) := by
  constructor
  · intro filter
    rcases filter.exists_leaves with ⟨leaves, ofFilter, listed⟩
    exact ⟨leaves, ofFilter, congrArg Predicate.fields listed, filter.find_lower⟩
  · intro filter other leaves leaves' ofFilter ofOther same collection
    have members (clause : Clause) : clause ∈ filter.clauses <-> clause ∈ other.clauses := by
      rw [<- ofFilter.mem_clauses_iff, <- ofOther.mem_clauses_iff, same.mem_iff]
    have alike (document : Document) : filter.Holds document <-> other.Holds document := by
      simp only [<- matchesAll_clauses_iff, Predicate.matchesAll, List.all_eq_true, members]
    simp only [find_lower, alike]

/-- Conjunctions within a conjunction, one of them empty. -/
def nestedFilter : Filter :=
  .and [.eq "$where" (.string "false"), .and [.and [], .eq "a" (.integer 1)],
    .eq "a" (.integer 1)]

/-- The same leaves, put together in another way. -/
def rearrangedFilter : Filter :=
  .and [.and [.eq "a" (.integer 1), .eq "a" (.integer 1)], .eq "$where" (.string "false")]

theorem flattening_preserves_meaning_rearranged :
    let script : Clause := ⟨"$where", .string "false"⟩
    let one : Clause := ⟨"a", .integer 1⟩
    let document := Document.ofEntries [("a", .integer 1), ("$where", .string "false")]
    let collection : Collection := ⟨"all", [.empty, document, .ofEntries [("a", .integer 1)]]⟩
    nestedFilter.Leaves [([0], script), ([1, 1], one), ([2], one)] ∧
      rearrangedFilter.Leaves [([0, 0], one), ([0, 1], one), ([1], script)] ∧
      [script, one, one].Perm [one, one, script] ∧
      collection.find nestedFilter.lower = .ok [document] ∧
      collection.find rearrangedFilter.lower = collection.find nestedFilter.lower := by
  intro script one document collection
  have pair : Leaves (.and [.and [], .eq "a" (.integer 1)]) [([1], one)] :=
    leaves_and_nil.and_cons ((leaves_eq "a" _).and_cons leaves_and_nil)
  have nested : nestedFilter.Leaves [([0], script), ([1, 1], one), ([2], one)] :=
    (leaves_eq "$where" _).and_cons (pair.and_cons ((leaves_eq "a" _).and_cons leaves_and_nil))
  have twice : Leaves (.and [.eq "a" (.integer 1), .eq "a" (.integer 1)])
      [([0], one), ([1], one)] :=
    (leaves_eq "a" _).and_cons ((leaves_eq "a" _).and_cons leaves_and_nil)
  have rearranged : rearrangedFilter.Leaves [([0, 0], one), ([0, 1], one), ([1], script)] :=
    twice.and_cons ((leaves_eq "$where" _).and_cons leaves_and_nil)
  have perm : [script, one, one].Perm [one, one, script] :=
    (List.Perm.swap one script [one]).trans ((List.Perm.swap one script []).cons one)
  rcases flattening_preserves_meaning.1 nestedFilter with ⟨_, _, _, found⟩
  have same := flattening_preserves_meaning.2 rearrangedFilter nestedFilter _ _ rearranged nested
    perm.symm collection
  exact ⟨nested, rearranged, perm, found collection, same⟩

end Filter
end Store
end ContactSearch
