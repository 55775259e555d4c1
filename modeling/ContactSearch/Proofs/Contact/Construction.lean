import ContactSearch.Contact.Criteria
import ContactSearch.Proofs.Store.Queries

namespace ContactSearch
namespace Contact

/-!
# Ways to put a query together

All variants but the filter put the same query together, up to the order of
its criteria.  Filling a query one criterion at a time, in bulk, through a
builder or from another start is the same fold.  Going through text gives the
criteria back, because texts are read back from what is written for them.

The order matters only for variants that go through a map, and it does not
change what the resulting predicate means.
-/

open Store

/-! ## The order of a map -/

theorem MapOrder.perm_arrange (order : MapOrder) (entries : List α) :
    (order.arrange entries).Perm entries := by
  cases order with
  | asWritten => exact List.Perm.refl entries
  | reversed => exact List.reverse_perm entries

/-- A map of two entries can hand them out in no other order. -/
theorem MapOrder.exists_arrange_eq {first second : α} {entries : List α}
    (shuffled : entries.Perm [first, second]) :
    exists order : MapOrder, order.arrange [first, second] = entries := by
  cases entries with
  | nil => cases shuffled.length_eq
  | cons head tail =>
      rcases List.mem_cons.mp (shuffled.mem_iff.mp List.mem_cons_self) with rfl | member
      · have rest := List.perm_singleton.mp ((List.perm_cons head).mp shuffled)
        exact ⟨.asWritten, congrArg (List.cons head) rest.symm⟩
      · cases List.mem_singleton.mp member
        have swapped := shuffled.trans (List.Perm.swap second first [])
        have rest := List.perm_singleton.mp ((List.perm_cons second).mp swapped)
        exact ⟨.reversed, congrArg (List.cons second) rest.symm⟩

/-! ## Filling a query -/

theorem foldl_append_eq_putAll (entries : List (String × Json)) (query : Query) :
    entries.foldl (fun query entry => query.append entry.1 entry.2) query =
      query.putAll entries := by
  induction entries generalizing query with
  | nil => rfl
  | cons entry entries ih => exact ih (query.append entry.1 entry.2)

theorem foldl_add_eq_putAll (entries : List (String × Json)) (builder : Query.Builder) :
    (entries.foldl (fun builder entry => builder.add entry.1 entry.2) builder).get =
      builder.query.putAll entries := by
  induction entries generalizing builder with
  | nil => rfl
  | cons entry entries ih => exact ih (builder.add entry.1 entry.2)

/-- Entries that every variant but the filter can put into a query. -/
structure Assembles (entries : List (String × Json)) : Prop where
  present : entries ≠ []
  keys : forall entry, entry ∈ entries -> entry.1 ≠ Json.carrierKey
  texts : forall entry, entry ∈ entries -> exists text, entry.2 = .string text
  distinct : (entries.map Prod.fst).Nodup

theorem Assembles.of_perm {entries others : List (String × Json)} (assembles : Assembles entries)
    (same : others.Perm entries) : Assembles others where
  present := fun none => assembles.present (List.perm_nil.mp (none ▸ same.symm))
  keys := fun entry member => assembles.keys entry (same.mem_iff.mp member)
  texts := fun entry member => assembles.texts entry (same.mem_iff.mp member)
  distinct := (same.map Prod.fst).nodup_iff.mpr assembles.distinct

theorem Assembles.throughText {entries : List (String × Json)} (assembles : Assembles entries) :
    throughText entries = .ok (Query.ofEntries entries) :=
  Query.parse_text assembles.keys assembles.texts assembles.distinct

/-- Every variant but the filter puts a query over the entries together, in some order. -/
theorem Assembles.assemble {entries : List (String × Json)} (assembles : Assembles entries)
    (order : MapOrder) {variant : Variant} (notFilter : variant ≠ .filter) :
    exists arrangement : List (String × Json), arrangement.Perm entries ∧
      Contact.assemble order entries variant = .ok (Query.ofEntries arrangement) := by
  have asWritten : entries.Perm entries := List.Perm.refl entries
  have arranged := order.perm_arrange entries
  cases variant with
  | filter => exact absurd rfl notFilter
  | put => exact ⟨entries, asWritten, congrArg Except.ok (foldl_append_eq_putAll entries _)⟩
  | append => exact ⟨entries, asWritten, congrArg Except.ok (foldl_append_eq_putAll entries _)⟩
  | builderAdd => exact ⟨entries, asWritten, congrArg Except.ok (foldl_add_eq_putAll entries _)⟩
  | builderAppend =>
      exact ⟨entries, asWritten, congrArg Except.ok (foldl_add_eq_putAll entries _)⟩
  | putAll => exact ⟨order.arrange entries, arranged, rfl⟩
  | ofMap => exact ⟨order.arrange entries, arranged, rfl⟩
  | builderMap => exact ⟨order.arrange entries, arranged, rfl⟩
  | parse =>
      exact ⟨order.arrange entries, arranged, (assembles.of_perm arranged).throughText⟩
  | single =>
      refine ⟨entries, asWritten, ?_⟩
      cases entries with
      | nil => exact absurd rfl assembles.present
      | cons entry entries => exact congrArg Except.ok (foldl_append_eq_putAll entries _)
  | builderSingle =>
      refine ⟨entries, asWritten, ?_⟩
      cases entries with
      | nil => exact absurd rfl assembles.present
      | cons entry entries => exact congrArg Except.ok (foldl_add_eq_putAll entries _)

/-- The predicate over plain entries has one clause for each, in some order. -/
theorem Assembles.assembled {entries : List (String × Json)} (assembles : Assembles entries)
    (plain : Query.IsPlain entries) (order : MapOrder) {variant : Variant}
    (notFilter : variant ≠ .filter) :
    exists arrangement : List (String × Json), arrangement.Perm entries ∧
      Contact.assembled order entries variant =
        .ok (.fields (arrangement.map Clause.ofEntry)) := by
  rcases assembles.assemble order notFilter with ⟨arrangement, same, put⟩
  have plain' : Query.IsPlain arrangement := fun entry member =>
    plain entry (same.mem_iff.mp member)
  refine ⟨arrangement, same, ?_⟩
  simp only [Contact.assembled, put,
    Query.lower_ofEntries plain' (assembles.of_perm same).distinct]

end Contact
end ContactSearch
