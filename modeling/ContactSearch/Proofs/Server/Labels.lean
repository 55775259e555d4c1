import ContactSearch.Proofs.Http.Paths
import ContactSearch.Server.Route
import Mathlib.Data.List.Nodup

namespace ContactSearch
namespace Server

/-!
# Labels of paths

A label is chosen by the segments of a path.  Whatever the path is, its label is
one of a fixed list, so a caller cannot make up new ones.

The text of a label is a path again, and its label is the label itself: the
texts of modes and variants have no slashes, so they come back as the segments
that they were.  The texts in braces come back as well, and name nothing.
Different labels therefore have different texts.
-/

/-! ## Paths of searches -/

section SearchPaths

variable {path mode variant : String}

theorem searchPath_eq_joined (mode variant : String) :
    Route.searchPath mode variant = Http.joined ["", mode, variant, "contacts", "search"] := by
  apply String.toList_inj.mp
  simp [Route.searchPath, Http.joined, List.intercalate_cons_cons, List.intercalate_singleton]

theorem eq_searchPath_of_pieces
    (cut : Http.pieces path = ["", mode, variant, "contacts", "search"]) :
    path = Route.searchPath mode variant := by
  rw [searchPath_eq_joined, <- cut, Http.joined_pieces]

theorem pieces_searchPath (named : Http.IsName mode) (named' : Http.IsName variant) :
    Http.pieces (Route.searchPath mode variant) = ["", mode, variant, "contacts", "search"] := by
  rw [searchPath_eq_joined]
  apply Http.pieces_joined (List.cons_ne_nil _ _)
  intro text listed
  simp only [List.mem_cons, List.not_mem_nil, or_false] at listed
  rcases listed with rfl | rfl | rfl | rfl | rfl
  · decide
  · exact named.whole
  · exact named'.whole
  · decide
  · decide

theorem segments_of_pieces (present : mode ≠ "") (present' : variant ≠ "")
    (cut : Http.pieces path = ["", mode, variant, "contacts", "search"]) :
    Http.segments path = [mode, variant, "contacts", "search"] := by
  rw [Http.segments, cut]
  simp [present, present']

theorem segments_searchPath (named : Http.IsName mode) (named' : Http.IsName variant) :
    Http.segments (Route.searchPath mode variant) = [mode, variant, "contacts", "search"] :=
  segments_of_pieces named.present named'.present (pieces_searchPath named named')

theorem isName_mode (mode : Contact.Mode) : Http.IsName mode.text := by
  cases mode <;> exact ⟨by decide, by decide, by decide⟩

theorem isName_variant (variant : Contact.Variant) : Http.IsName variant.slug := by
  cases variant <;> exact ⟨by decide, by decide, by decide⟩

end SearchPaths

namespace PathLabel

/-! ## What decides on a label -/

variable {path modeText variantText : String} {mode : Contact.Mode} {variant : Contact.Variant}

theorem searchSegments?_eq_some_iff :
    searchSegments? path = some (modeText, variantText) <->
      Http.segments path = [modeText, variantText, "contacts", "search"] := by
  rw [searchSegments?, Http.segments]
  constructor
  · intro found
    split at found
    · next cut =>
        split at found
        · next ends =>
            cases found
            rw [cut, ends.1, ends.2]
        · cases found
    · cases found
  · intro cut
    rw [cut]
    rfl

theorem ofPath_of_segments
    (cut : Http.segments path = [modeText, variantText, "contacts", "search"]) :
    ofPath path = ofSegments modeText variantText := by
  rw [ofPath, searchSegments?_eq_some_iff.mpr cut]

theorem ofSegments_eq_search_iff :
    ofSegments modeText variantText = .search mode variant <->
      modeText = mode.text ∧ variantText = variant.slug := by
  rw [ofSegments.eq_def]
  constructor
  · intro labelled
    split at labelled
    · next found found' =>
        cases labelled
        exact ⟨(Contact.Mode.text_of_ofText? found).symm,
          (Contact.Variant.slug_of_ofSlug? found').symm⟩
    · cases labelled
  · rintro ⟨rfl, rfl⟩
    rw [Contact.Mode.ofText?_text, Contact.Variant.ofSlug?_slug]

/-- The label of a search is given for its two names, as they are written, and for nothing else. -/
theorem ofPath_eq_search_iff :
    ofPath path = .search mode variant <->
      Http.segments path = [mode.text, variant.slug, "contacts", "search"] := by
  constructor
  · intro labelled
    rw [ofPath.eq_def] at labelled
    split at labelled
    · next found =>
        rcases ofSegments_eq_search_iff.mp labelled with ⟨rfl, rfl⟩
        exact searchSegments?_eq_some_iff.mp found
    · repeat' split at labelled
      all_goals cases labelled
  · intro cut
    rw [ofPath_of_segments cut]
    exact ofSegments_eq_search_iff.mpr ⟨rfl, rfl⟩

/-! ## The label of a label -/

theorem segments_text_search (mode : Contact.Mode) (variant : Contact.Variant) :
    Http.segments (search mode variant).text = [mode.text, variant.slug, "contacts", "search"] :=
  segments_searchPath (isName_mode mode) (isName_variant variant)

theorem ofPath_text (label : PathLabel) : ofPath label.text = label := by
  cases label with
  | search mode variant => exact ofPath_eq_search_iff.mpr (segments_text_search mode variant)
  | index | page | health | metrics | unknownSearch | other => decide

theorem text_injective : Function.Injective text := by
  intro label label' same
  rw [<- ofPath_text label, same, ofPath_text]

/-! ## All labels -/

/-- All labels: those of single pages, those of what nobody knows, and those of searches. -/
def all : List PathLabel :=
  [.index, .page, .health, .metrics, .other, .unknownSearch] ++
    Contact.Mode.all.flatMap fun mode => Contact.Variant.all.map fun variant =>
      .search mode variant

/-- The texts of all labels. -/
def texts : List String :=
  ["/", "/index.html", "/health", "/metrics", "/other",
      "/\x7bmode\x7d/\x7bvariant\x7d/contacts/search"] ++
    Contact.Mode.all.flatMap fun mode => Contact.Variant.all.map fun variant =>
      "/" ++ mode.text ++ "/" ++ variant.slug ++ "/contacts/search"

theorem mem_all (label : PathLabel) : label ∈ all := by
  cases label with
  | search mode variant => cases mode <;> cases variant <;> decide
  | index | page | health | metrics | unknownSearch | other => decide

theorem map_text_all : all.map text = texts := by
  decide

theorem mem_texts_iff {text : String} : text ∈ texts <-> exists label, text = PathLabel.text label := by
  rw [<- map_text_all, List.mem_map]
  constructor
  · rintro ⟨label, _, rfl⟩
    exact ⟨label, rfl⟩
  · rintro ⟨label, rfl⟩
    exact ⟨label, mem_all label, rfl⟩

theorem nodup_texts : texts.Nodup := by
  have distinct : all.Nodup := by decide
  rw [<- map_text_all]
  exact distinct.map text_injective

theorem length_texts : texts.length = 28 := by
  rw [<- map_text_all, List.length_map]
  rfl

/-- Only the labels of searches have texts that look like one, the one in braces apart. -/
theorem eq_search_of_segments_text {label : PathLabel}
    (shaped : Http.segments label.text = [modeText, variantText, "contacts", "search"])
    (known : label ≠ .unknownSearch) :
    exists mode variant, label = .search mode variant ∧ modeText = mode.text ∧
      variantText = variant.slug := by
  cases label with
  | search mode variant =>
      rw [segments_text_search] at shaped
      cases shaped
      exact ⟨mode, variant, rfl, rfl, rfl⟩
  | unknownSearch => exact absurd rfl known
  | index | page | health | metrics | other =>
      have four : (Http.segments _).length = 4 := congrArg List.length shaped
      exact absurd four (by decide)

/--
Whatever a path is, its label is one of 28 different texts: those of four pages, one for all else,
one for searches that nobody knows, and one for each of two modes with each of eleven variants.
Each of these texts is its own label, so that the label of a label is the label.  A label that
looks like a search has the segments of the path, unless it is the one in braces.
-/
theorem labels_bounded_and_stable :
    (texts.length = 28 ∧ texts.Nodup) ∧
    (forall path, (ofPath path).text ∈ texts) ∧
    (forall text, text ∈ texts -> (ofPath text).text = text) ∧
    (forall path, (ofPath (ofPath path).text).text = (ofPath path).text) ∧
    (forall path modeText variantText,
      Http.segments (ofPath path).text = [modeText, variantText, "contacts", "search"] ->
        (ofPath path).text ≠ "/\x7bmode\x7d/\x7bvariant\x7d/contacts/search" ->
          Http.segments path = [modeText, variantText, "contacts", "search"]) := by
  refine ⟨⟨length_texts, nodup_texts⟩, ?_, ?_, ?_, ?_⟩
  · intro path
    exact mem_texts_iff.mpr ⟨ofPath path, rfl⟩
  · intro text listed
    rcases mem_texts_iff.mp listed with ⟨label, rfl⟩
    rw [ofPath_text]
  · intro path
    rw [ofPath_text]
  · intro path modeText variantText shaped known
    have other : ofPath path ≠ .unknownSearch := by
      intro same
      rw [same] at known
      exact known rfl
    rcases eq_search_of_segments_text shaped other with ⟨mode, variant, labelled, rfl, rfl⟩
    exact ofPath_eq_search_iff.mp labelled

/-- Further slashes do not change a label, and no label has them. -/
theorem labels_bounded_and_stable_slashes :
    let path := "//secure//bson-filter/contacts/search/"
    (ofPath path).text ∈ texts ∧
      (ofPath path).text = "/secure/bson-filter/contacts/search" ∧
      Http.segments (ofPath path).text = ["secure", "bson-filter", "contacts", "search"] ∧
      Http.segments path = ["secure", "bson-filter", "contacts", "search"] := by
  intro path
  rcases labels_bounded_and_stable with ⟨_, bounded, _, _, literal⟩
  have labelled : (ofPath path).text = "/secure/bson-filter/contacts/search" := by decide
  have shaped : Http.segments (ofPath path).text =
      ["secure", "bson-filter", "contacts", "search"] := by
    rw [labelled]
    decide
  refine ⟨bounded path, labelled, shaped, literal path _ _ shaped ?_⟩
  rw [labelled]
  decide

end PathLabel
end Server
end ContactSearch
