import ContactSearch.Proofs.Server.Labels
import ContactSearch.Proofs.Server.Noninterference

namespace ContactSearch
namespace Server

/-!
# Labels and what is served

A route and a label are read off a path in different ways.  A route needs every
slash in its place, and the two segments that it hands on are read: their
escapes are replaced, and they must name a mode and a variant that is available
in it.  A label passes over empty segments and takes the others as they are
written.

On a path that is written plainly the two agree about every search that is
available.  On any other path the label may name a search that is not served,
because the slashes of the path are not those of a route, and a search that is
served may have the label in braces, because it is written with escapes.  What
cannot happen is that a search is counted as another one.
-/

namespace Route

variable {path mode variant : String}

theorem ofPath?_eq_search_iff :
    ofPath? path = some (.search mode variant) <->
      Http.pieces path = ["", mode, variant, "contacts", "search"] := by
  constructor
  · intro found
    rw [ofPath?.eq_def] at found
    split at found
    case h_6 =>
      split at found
      · next cut =>
          split at found
          · next ends =>
              cases found
              rw [cut, ends.1, ends.2.1, ends.2.2]
          · cases found
      · cases found
    all_goals cases found
  · intro cut
    have five : (Http.pieces path).length = 5 := congrArg List.length cut
    rw [ofPath?.eq_def]
    split
    case h_6 =>
      rw [cut]
      rfl
    all_goals exact absurd five (by decide)

end Route

open Service

theorem resolve_eq_ok_iff {modeText variantText : String} {mode : Contact.Mode}
    {variant : Contact.Variant} :
    SearchCall.resolve modeText variantText = .ok (mode, variant) <->
      modeText = mode.text ∧ variantText = variant.slug ∧ variant.supports mode = true := by
  rw [SearchCall.resolve]
  constructor
  · intro resolved
    split at resolved
    · cases resolved
    · next named =>
        split at resolved
        · next slugged =>
            split at resolved
            · next supported =>
                cases resolved
                exact ⟨(Contact.Mode.text_of_ofText? named).symm,
                  (Contact.Variant.slug_of_ofSlug? slugged).symm, supported⟩
            · cases resolved
        · cases resolved
  · rintro ⟨rfl, rfl, supported⟩
    simp only [Contact.Mode.ofText?_text, Contact.Variant.ofSlug?_slug, supported, if_true]

theorem resolved?_eq_some_iff {rawMode rawVariant : String} {mode : Contact.Mode}
    {variant : Contact.Variant} :
    resolved? rawMode rawVariant = some (mode, variant) <->
      Http.segmentText? rawMode = some mode.text ∧
        Http.segmentText? rawVariant = some variant.slug ∧ variant.supports mode = true := by
  rw [resolved?, SearchCall.segment, SearchCall.segment]
  cases Http.segmentText? rawMode with
  | none => simp
  | some modeText =>
      cases Http.segmentText? rawVariant with
      | none => simp
      | some variantText =>
          simp only [Option.some.injEq, <- resolve_eq_ok_iff]
          cases SearchCall.resolve modeText variantText <;> simp [Except.toOption]

namespace Route

variable {path : String} {mode : Contact.Mode} {variant : Contact.Variant}

/-- The search that a path leads to, if there is such a search. -/
def servedSearch? (path : String) : Option (Contact.Mode × Contact.Variant) :=
  match ofPath? path with
  | some (.search rawMode rawVariant) => resolved? rawMode rawVariant
  | _ => none

theorem servedSearch?_eq_some_iff :
    servedSearch? path = some (mode, variant) <->
      exists rawMode rawVariant,
        Http.pieces path = ["", rawMode, rawVariant, "contacts", "search"] ∧
          Http.segmentText? rawMode = some mode.text ∧
          Http.segmentText? rawVariant = some variant.slug ∧ variant.supports mode = true := by
  rw [servedSearch?]
  constructor
  · intro served
    split at served
    · next rawMode rawVariant found =>
        exact ⟨rawMode, rawVariant, ofPath?_eq_search_iff.mp found,
          resolved?_eq_some_iff.mp served⟩
    · cases served
  · rintro ⟨rawMode, rawVariant, cut, read⟩
    rw [ofPath?_eq_search_iff.mpr cut]
    exact resolved?_eq_some_iff.mpr read

/-- A path without escapes that leads to a search is the path of this search. -/
theorem eq_searchPath_of_served (unescaped : '%' ∉ path.toList)
    (served : servedSearch? path = some (mode, variant)) :
    path = searchPath mode.text variant.slug := by
  rcases servedSearch?_eq_some_iff.mp served with ⟨rawMode, rawVariant, cut, read, read', _⟩
  have written := eq_searchPath_of_pieces cut
  rw [written, searchPath] at unescaped
  simp only [String.toList_append, List.mem_append, not_or] at unescaped
  rcases unescaped with ⟨⟨⟨⟨_, plainMode⟩, _⟩, plainVariant⟩, _⟩
  rw [Http.segmentText?_of_unescaped plainMode, Option.some.injEq] at read
  rw [Http.segmentText?_of_unescaped plainVariant, Option.some.injEq] at read'
  rw [written, read, read']

end Route

namespace PathLabel

variable {path : String} {mode : Contact.Mode} {variant : Contact.Variant}

theorem text_eq_searchPath_iff :
    (ofPath path).text = Route.searchPath mode.text variant.slug <->
      Http.segments path = [mode.text, variant.slug, "contacts", "search"] := by
  rw [<- ofPath_eq_search_iff]
  exact text_injective.eq_iff' rfl

/-- A plain path with the label of a search that is available leads to this search. -/
theorem servedSearch?_of_labelled (plain : Http.IsPlain path)
    (supported : variant.supports mode = true)
    (labelled : (ofPath path).text = Route.searchPath mode.text variant.slug) :
    Route.servedSearch? path = some (mode, variant) := by
  have cut : Http.pieces path = ["", mode.text, variant.slug, "contacts", "search"] := by
    rw [plain.full, text_eq_searchPath_iff.mp labelled]
  exact Route.servedSearch?_eq_some_iff.mpr ⟨mode.text, variant.slug, cut,
    (isName_mode mode).segmentText?, (isName_variant variant).segmentText?, supported⟩

theorem labelled_searchPath (mode : Contact.Mode) (variant : Contact.Variant) :
    (ofPath (Route.searchPath mode.text variant.slug)).text =
      Route.searchPath mode.text variant.slug :=
  congrArg text (ofPath_text (search mode variant))

theorem ofSegments_of_unnamed {modeText variantText : String}
    (unnamed : forall (mode : Contact.Mode) (variant : Contact.Variant),
      modeText = mode.text -> variantText ≠ variant.slug) :
    ofSegments modeText variantText = .unknownSearch := by
  rw [ofSegments.eq_def]
  split
  · next found found' =>
      exact absurd (Contact.Variant.slug_of_ofSlug? found').symm
        (unnamed _ _ (Contact.Mode.text_of_ofText? found).symm)
  · rfl

/--
A path that leads to a search without being the path of this search has escapes in it, and the
label in braces.  It cannot be written as another search, since what is written would be read.
-/
theorem ofPath_of_escaped (served : Route.servedSearch? path = some (mode, variant))
    (escaped : path ≠ Route.searchPath mode.text variant.slug) :
    ofPath path = .unknownSearch := by
  rcases Route.servedSearch?_eq_some_iff.mp served with ⟨rawMode, rawVariant, cut, read, read', _⟩
  have present := (isName_mode mode).present_of_segmentText? read
  have present' := (isName_variant variant).present_of_segmentText? read'
  rw [ofPath_of_segments (segments_of_pieces present present' cut)]
  apply ofSegments_of_unnamed
  rintro mode' variant' rfl rfl
  rw [(isName_mode mode').segmentText?, Option.some.injEq] at read
  rw [(isName_variant variant').segmentText?, Option.some.injEq] at read'
  rw [read, read'] at cut
  exact escaped (eq_searchPath_of_pieces cut)

/--
On a path that is written plainly the label names a search that is available exactly if the path
leads to it.  On any path the label names a search only if the segments are its names as they are
written, and it does so if the search is available, however many slashes there are.  A path that
leads to a search has the label of this search if it is written out, and otherwise the one in
braces.  What has not the label of a search has one of the others.

A search that is not available leads nowhere, and nothing is promised of its label.  So the second
part asks for availability, although its proof does without: see `text_eq_searchPath_iff`.
-/
theorem search_labels_name_what_is_written :
    (forall path, Http.IsPlain path ->
      forall (mode : Contact.Mode) (variant : Contact.Variant), variant.supports mode = true ->
        ((ofPath path).text = Route.searchPath mode.text variant.slug <->
          Route.servedSearch? path = some (mode, variant))) ∧
    (forall path (mode : Contact.Mode) (variant : Contact.Variant),
      ((ofPath path).text = Route.searchPath mode.text variant.slug ->
        Http.segments path = [mode.text, variant.slug, "contacts", "search"]) ∧
      (variant.supports mode = true ->
        Http.segments path = [mode.text, variant.slug, "contacts", "search"] ->
          (ofPath path).text = Route.searchPath mode.text variant.slug)) ∧
    (forall path mode variant, Route.servedSearch? path = some (mode, variant) ->
      (ofPath path).text =
        if path = Route.searchPath mode.text variant.slug then path
        else "/\x7bmode\x7d/\x7bvariant\x7d/contacts/search") ∧
    (forall path,
      (forall (mode : Contact.Mode) (variant : Contact.Variant),
        (ofPath path).text ≠ Route.searchPath mode.text variant.slug) ->
      (ofPath path).text ∈ ["/", "/index.html", "/health", "/metrics", "/other",
        "/\x7bmode\x7d/\x7bvariant\x7d/contacts/search"]) := by
  refine ⟨?_, ?_, ?_, ?_⟩
  · intro path plain mode variant supported
    constructor
    · exact servedSearch?_of_labelled plain supported
    · intro served
      rw [Route.eq_searchPath_of_served plain.unescaped served]
      exact labelled_searchPath mode variant
  · intro path mode variant
    exact ⟨text_eq_searchPath_iff.mp, fun _ => text_eq_searchPath_iff.mpr⟩
  · intro path mode variant served
    by_cases written : path = Route.searchPath mode.text variant.slug
    · rw [if_pos written, written]
      exact labelled_searchPath mode variant
    · rw [if_neg written, ofPath_of_escaped served written]
      rfl
  · intro path unnamed
    cases labelled : ofPath path with
    | search mode variant =>
        rw [labelled] at unnamed
        exact absurd rfl (unnamed mode variant)
    | index | page | health | metrics | unknownSearch | other => decide

/-- A letter of a mode may be escaped. -/
theorem servedSearch?_escaped :
    Route.servedSearch? "/%73ecure/bson-filter/contacts/search" = some (.secure, .filter) := by
  decide +kernel

theorem search_labels_name_what_is_written_escaped :
    let plain := "/insecure/basicdbobject-put/contacts/search"
    let escaped := "/%73ecure/bson-filter/contacts/search"
    (Http.IsPlain plain ∧ Contact.Variant.put.supports .insecure = true ∧
      Route.servedSearch? escaped = some (.secure, .filter)) ∧
    ((ofPath plain).text = Route.searchPath "insecure" "basicdbobject-put" <->
      Route.servedSearch? plain = some (.insecure, .put)) ∧
    (ofPath escaped).text = "/\x7bmode\x7d/\x7bvariant\x7d/contacts/search" := by
  intro plain escaped
  rcases search_labels_name_what_is_written with ⟨agree, _, counted, _⟩
  have isPlain : Http.IsPlain plain := ⟨by decide, by decide⟩
  refine ⟨⟨isPlain, rfl, servedSearch?_escaped⟩, agree plain isPlain .insecure .put rfl, ?_⟩
  exact (counted escaped _ _ servedSearch?_escaped).trans (if_neg (by decide))

/--
An escaped path that leads to a search does not have its label, and a path with a further slash
has the label of a search that it does not lead to.
-/
theorem labels_drift_from_routes :
    ¬((ofPath "/%73ecure/bson-filter/contacts/search").text =
          "/secure/bson-filter/contacts/search" <->
        Route.servedSearch? "/%73ecure/bson-filter/contacts/search" =
          some (.secure, .filter)) ∧
      ¬((ofPath "//secure/bson-filter/contacts/search").text =
          "/secure/bson-filter/contacts/search" <->
        Route.servedSearch? "//secure/bson-filter/contacts/search" =
          some (.secure, .filter)) := by
  constructor
  · intro agree
    exact absurd (agree.mpr servedSearch?_escaped) (by decide)
  · intro agree
    exact absurd (agree.mp (by decide)) (by decide)

end PathLabel
end Server
end ContactSearch
