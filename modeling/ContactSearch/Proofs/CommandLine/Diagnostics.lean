import ContactSearch.CommandLine.Report
import ContactSearch.Proofs.CommandLine.Assignments
import ContactSearch.Proofs.Contact.InsecureSearch

namespace ContactSearch
namespace CommandLine

/-!
# Diagnostics

Two commands have a switch that makes them show more: a search can be explained,
and a script can be shown as a tree.  What is shown comes in front of the rest,
and whatever the command does otherwise stays the same, whether it succeeds or
fails.

The explanation is put together before the search and apart from it, and maps may
hand out their entries in another order the second time.  A search whose
predicate cannot be built fails in the same way when it is built for the
explanation; a script that cannot be read is explained, and fails in the search.
-/

/-- A report that says what another one says, with more output in front. -/
structure Report.Extends (longer shorter : Report) : Prop where
  code : longer.code = shorter.code
  complaint : longer.complaint = shorter.complaint
  output : exists front, longer.output = front ++ shorter.output

theorem Report.extends_after (front : String) (report : Report) :
    (report.after front).Extends report :=
  ⟨rfl, rfl, front, rfl⟩

theorem Report.extends_self (report : Report) : report.Extends report :=
  ⟨rfl, rfl, "", String.empty_append.symm⟩

namespace Command

/-! ## Searches -/

/-- The seed is put into a running store that is empty, so nothing can go wrong. -/
theorem exists_seeded : exists catalog, seeded = .ok catalog :=
  ⟨_, rfl⟩

theorem searchReport_order (order order' : Contact.MapOrder) (request : Contact.Request) :
    searchReport order request = searchReport order' request := by
  rw [searchReport, searchReport]
  cases seeded with
  | error fault => rfl
  | ok catalog => simp only [Contact.search_order order order']

/-- A search whose predicate cannot be built fails on that. -/
theorem searchReport_of_refused {order : Contact.MapOrder} {request : Contact.Request}
    {fault : Contact.Fault}
    (refused : Contact.predicate order request.mode request.variant request.identity
      request.term = .error fault) :
    searchReport order request = .failure (.ofContact fault) := by
  rcases exists_seeded with ⟨catalog, ready⟩
  rw [searchReport, ready]
  simp only [Contact.search, refused]

/-- What is explained may have been put together in another order than what is searched. -/
theorem explainedReport_eq (order order' : Contact.MapOrder) (request : Contact.Request) :
    explainedReport order request =
      match Contact.predicate order request.mode request.variant request.identity
        request.term with
      | .error fault => .failure (.ofContact fault)
      | .ok predicate => (searchReport order' request).after (explanation predicate) := by
  rw [<- searchReport_order order order' request]
  rfl

theorem explainedReport_extends (order order' : Contact.MapOrder) (request : Contact.Request) :
    (explainedReport order request).Extends (searchReport order' request) := by
  rw [explainedReport_eq order order']
  cases built : Contact.predicate order request.mode request.variant request.identity
    request.term with
  | error fault =>
      rw [searchReport_order order' order, searchReport_of_refused built]
      exact Report.extends_self _
  | ok predicate => exact Report.extends_after (explanation predicate) _

/-! ## Scripts -/

theorem evaluateReport_extends (script : String) :
    (evaluateReport script true).Extends (evaluateReport script false) := by
  rw [evaluateReport, evaluateReport]
  cases Script.Expression.parse script with
  | error fault => exact Report.extends_self _
  | ok expression =>
      have plain : (selectReport script).after "" = selectReport script := by
        rw [Report.after, String.empty_append]
      simp only [if_true, Bool.false_eq_true, if_false, plain]
      exact Report.extends_after _ _

/-! ## Asking for them -/

/-- A switch, if it is given. -/
def switched (name : String) (given : Bool) : List String :=
  if given then ["--" ++ name] else []

section Asking

variable (mode : Contact.Mode) (variant : Contact.Variant) (user email script : String)
  (given : Bool)

/-- The options of a search with their values. -/
def searchEntries : List (String × String) :=
  [("mode", mode.text), ("variant", variant.slug), ("user", user), ("email", email)]

/-- The arguments that ask for a search, and perhaps for its explanation. -/
def searchArguments : List String :=
  "search" :: ((searchEntries mode variant user email).map assigned ++ switched "explain" given)

/-- The arguments that ask for the evaluation of a script, and perhaps for its tree. -/
def evaluateArguments : List String :=
  "where" :: ([("expr", script)].map assigned ++ switched "ast" given)

theorem accepts_searchEntries :
    forall entry, entry ∈ searchEntries mode variant user email ->
      Reading.Accepts searchForm.arguments entry := by
  intro entry listed
  simp only [searchEntries, List.mem_cons, List.not_mem_nil, or_false] at listed
  rcases listed with rfl | rfl | rfl | rfl
  · exact ⟨(by decide : '=' ∉ "mode".toList), modeArgument true, rfl, rfl, by
      simp only [modeArgument, Contact.Mode.ofText?_text]⟩
  · exact ⟨(by decide : '=' ∉ "variant".toList), variantArgument, rfl, rfl, by
      simp only [variantArgument, Contact.Variant.ofSlug?_slug]⟩
  · exact ⟨(by decide : '=' ∉ "user".toList), .text "user" "USER" false, rfl, rfl, rfl⟩
  · exact ⟨(by decide : '=' ∉ "email".toList), .text "email" "EMAIL" true, rfl, rfl, rfl⟩

/-- Every search can be asked for, with and without its explanation. -/
theorem ofArguments_search :
    ofArguments (searchArguments mode variant user email given) =
      .ok (.search mode variant user email given) := by
  have distinct : (([] ++ searchEntries mode variant user email).map Prod.fst).Nodup :=
    (by decide : ["mode", "variant", "user", "email"].Nodup)
  have taken := Reading.takeAll_assigned (accepts_searchEntries mode variant user email) distinct
    (switched "explain" given)
  have mode' := Contact.Mode.ofText?_text mode
  have variant' := Contact.Variant.ofSlug?_slug variant
  cases given with
  | false =>
      apply ofForm_of_takeAll (taken.trans rfl) rfl
      simp [searchForm, searchEntries, Reading.value?, Reading.isGiven, mode', variant']
  | true =>
      have explained : Reading.takeAll searchForm.arguments
          ⟨searchEntries mode variant user email, none⟩ ["--explain"] =
            .ok ⟨searchEntries mode variant user email ++ [("explain", "")], none⟩ := rfl
      apply ofForm_of_takeAll (taken.trans explained) rfl
      simp [searchForm, searchEntries, Reading.value?, Reading.isGiven, mode', variant']

/-- Every script can be asked for, with and without its tree. -/
theorem ofArguments_evaluate :
    ofArguments (evaluateArguments script given) = .ok (.evaluate script given) := by
  have accepts : forall entry, entry ∈ [("expr", script)] ->
      Reading.Accepts evaluateForm.arguments entry :=
    List.forall_mem_singleton.mpr
      ⟨(by decide : '=' ∉ "expr".toList), scriptArgument, rfl, rfl, rfl⟩
  have distinct : (([] ++ [("expr", script)]).map Prod.fst).Nodup := (by decide : ["expr"].Nodup)
  have taken := Reading.takeAll_assigned accepts distinct (switched "ast" given)
  cases given with
  | false => exact ofForm_of_takeAll (taken.trans rfl) rfl rfl
  | true =>
      have shown : Reading.takeAll evaluateForm.arguments ⟨[("expr", script)], none⟩ ["--ast"] =
          .ok ⟨[("expr", script), ("ast", "")], none⟩ := rfl
      exact ofForm_of_takeAll (taken.trans shown) rfl rfl

end Asking

end Command

open Command

/--
Every search can be asked for with and without its explanation, and every script with and without
its tree.  In whatever way the arguments are written, the switch changes neither the exit code nor
the complaint, and what is printed without it is what comes last with it.  Maps may hand out their
entries in one order here and in another one there.
-/
theorem diagnostics_only_add_output (order order' : Contact.MapOrder) :
    (forall mode variant user email,
      (forall given, ofArguments (searchArguments mode variant user email given) =
        .ok (.search mode variant user email given)) ∧
      forall flagged plain, ofArguments flagged = .ok (.search mode variant user email true) ->
        ofArguments plain = .ok (.search mode variant user email false) ->
          (run order flagged).Extends (run order' plain)) ∧
    (forall script,
      (forall given, ofArguments (evaluateArguments script given) =
        .ok (.evaluate script given)) ∧
      forall flagged plain, ofArguments flagged = .ok (.evaluate script true) ->
        ofArguments plain = .ok (.evaluate script false) ->
          (run order flagged).Extends (run order' plain)) := by
  constructor
  · intro mode variant user email
    refine ⟨ofArguments_search mode variant user email, ?_⟩
    intro flagged plain read read'
    rw [run, run, read, read']
    exact explainedReport_extends order order' ⟨mode, variant, user, email⟩
  · intro script
    refine ⟨ofArguments_evaluate script, ?_⟩
    intro flagged plain read read'
    rw [run, run, read, read']
    exact evaluateReport_extends script

/-- A search whose script cannot be read, and a script without an answer on the first document. -/
theorem diagnostics_only_add_output_failing :
    let explained := ["search", "--explain", "--mode", "insecure", "--variant=basicdbobject-put",
      "--email", "\""]
    let plain := ["search", "--email", "\"", "--user=user1", "--mode=insecure", "--variant",
      "basicdbobject-put"]
    let shown := ["where", "--expr", "this.a.b", "--ast"]
    let plain' := ["where", "--expr=this.a.b"]
    (ofArguments explained = .ok (.search .insecure .put "user1" "\"" true) ∧
      ofArguments plain = .ok (.search .insecure .put "user1" "\"" false) ∧
      ofArguments shown = .ok (.evaluate "this.a.b" true) ∧
      ofArguments plain' = .ok (.evaluate "this.a.b" false)) ∧
    (run .reversed explained).Extends (run .asWritten plain) ∧
      (run .asWritten shown).Extends (run .asWritten plain') ∧
      (run .asWritten plain').code = 1 := by
  intro explained plain shown plain'
  have read : ofArguments explained = .ok (.search .insecure .put "user1" "\"" true) := rfl
  have read' : ofArguments plain = .ok (.search .insecure .put "user1" "\"" false) := rfl
  have readTree : ofArguments shown = .ok (.evaluate "this.a.b" true) := rfl
  have readTree' : ofArguments plain' = .ok (.evaluate "this.a.b" false) := rfl
  refine ⟨⟨read, read', readTree, readTree'⟩, ?_, ?_, by decide +kernel⟩
  · exact ((diagnostics_only_add_output .reversed .asWritten).1 _ _ _ _).2 explained plain read read'
  · exact ((diagnostics_only_add_output .asWritten .asWritten).2 _).2 shown plain' readTree readTree'

end CommandLine
end ContactSearch
