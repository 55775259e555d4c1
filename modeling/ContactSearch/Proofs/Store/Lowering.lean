import ContactSearch.Proofs.Store.ClauseCount

namespace ContactSearch
namespace Store
namespace Query

/-!
# What a query comes down to

A query is a script, a list of comparisons or refused, and its criteria decide
which.  It is a script only if it consists of the one criterion that says so.
It is a list of comparisons if nothing in it is spelled like an operator, which
concerns the keys and, for a value that is an object, the keys of this object;
what stands deeper is data.  Everything else is refused, and nothing is
interpreted for want of a better reading.

A query that has a script criterion is never looked at criterion by criterion.
Otherwise the first criterion that cannot be a comparison is the reason of the
refusal, and its key comes before its value.
-/

/-- A key that begins with the mark of operators. -/
def IsMarked (key : String) : Prop :=
  ['$'] <+: key.toList

/-- An object with a marked key, which would be an operator expression. -/
def SpellsOperators (value : Json) : Prop :=
  exists inner, value = .object inner ∧ exists entry, entry ∈ inner ∧ IsMarked entry.1

/-- Criteria in which nothing is spelled like an operator. -/
def IsLiteral (entries : List (String × Json)) : Prop :=
  forall entry, entry ∈ entries -> ¬IsMarked entry.1 ∧ ¬SpellsOperators entry.2

/-- Why a criterion is no comparison. -/
inductive RefusedCriterion (key : String) (value : Json) : QueryFault -> Prop where
  | key (marked : IsMarked key) : RefusedCriterion key value (.unsupportedOperator key)
  | value (unmarked : ¬IsMarked key) (operators : SpellsOperators value) :
      RefusedCriterion key value (.operatorValue key)

/-- Why a query comes down to nothing. -/
inductive Refused (query : Query) : QueryFault -> Prop where
  | scriptNotText {value : Json} (held : query.get? scriptKey = some value)
      (other : forall source, value ≠ .string source) : Refused query (.scriptNotText value.kind)
  | scriptWithFields {source : String} (held : query.get? scriptKey = some (.string source))
      (more : 1 < query.size) : Refused query .scriptWithFields
  | criterion {before after : List (String × Json)} {entry : String × Json} {fault : QueryFault}
      (noScript : query.get? scriptKey = none)
      (shape : query.criteria.entries = before ++ entry :: after) (literal : IsLiteral before)
      (refused : RefusedCriterion entry.1 entry.2 fault) : Refused query fault

/-! ## Criterion by criterion -/

theorem isOperator_eq_true_iff (key : String) : isOperator key = true <-> IsMarked key := by
  rw [isOperator, IsMarked]
  cases key.toList with
  | nil => simp
  | cons first rest =>
      rw [List.head?_cons, beq_iff_eq, Option.some.injEq, List.cons_prefix_cons, eq_comm]
      exact (and_iff_left List.nil_prefix).symm

theorem isOperatorValue_eq_true_iff (value : Json) :
    isOperatorValue value = true <-> SpellsOperators value := by
  cases value with
  | object entries =>
      simp only [isOperatorValue, SpellsOperators, List.any_eq_true, isOperator_eq_true_iff,
        Json.object.injEq, exists_eq_left']
  | _ => simp [isOperatorValue, SpellsOperators]

theorem isPlain_iff (entries : List (String × Json)) : IsPlain entries <-> IsLiteral entries := by
  simp only [IsPlain, IsLiteral, Bool.eq_false_iff, ne_eq, isOperator_eq_true_iff,
    isOperatorValue_eq_true_iff]

theorem clause_eq_error_iff {key : String} {value : Json} {fault : QueryFault} :
    clause key value = .error fault <-> RefusedCriterion key value fault := by
  constructor
  · intro fails
    rw [clause] at fails
    split at fails
    · next marked =>
        cases fails
        exact .key ((isOperator_eq_true_iff key).mp marked)
    · next unmarked =>
        split at fails
        · next operators =>
            cases fails
            exact .value (mt (isOperator_eq_true_iff key).mpr unmarked)
              ((isOperatorValue_eq_true_iff value).mp operators)
        · cases fails
  · intro refused
    rw [clause]
    cases refused with
    | key marked => exact if_pos ((isOperator_eq_true_iff key).mpr marked)
    | value unmarked operators =>
        rw [if_neg (mt (isOperator_eq_true_iff key).mp unmarked)]
        exact if_pos ((isOperatorValue_eq_true_iff value).mpr operators)

/-- A criterion without a reason against it is a comparison. -/
theorem exists_clause_iff {key : String} {value : Json} :
    (exists found, clause key value = .ok found) <-> ¬IsMarked key ∧ ¬SpellsOperators value := by
  constructor
  · rintro ⟨found, answered⟩
    have allowed (fault : QueryFault) : ¬RefusedCriterion key value fault := by
      rw [<- clause_eq_error_iff, answered]
      exact nofun
    have unmarked : ¬IsMarked key := fun marked => allowed _ (.key marked)
    exact ⟨unmarked, fun operators => allowed _ (.value unmarked operators)⟩
  · intro literal
    rcases answered : clause key value with fault | found
    · cases clause_eq_error_iff.mp answered with
      | key marked => exact absurd marked literal.1
      | value _ operators => exact absurd operators literal.2
    · exact ⟨found, rfl⟩

theorem clauses_eq_error_iff {entries : List (String × Json)} {fault : QueryFault} :
    clauses entries = .error fault <->
      exists before entry after, entries = before ++ entry :: after ∧ IsLiteral before ∧
        RefusedCriterion entry.1 entry.2 fault := by
  rw [clauses_eq_mapM, mapM_eq_error_iff]
  simp only [exists_clause_iff, clause_eq_error_iff, IsLiteral]

theorem clauses_eq_ok_iff {entries : List (String × Json)} {found : List Clause} :
    clauses entries = .ok found <-> IsLiteral entries ∧ found = entries.map Clause.ofEntry := by
  constructor
  · intro succeeded
    have literal : IsLiteral entries := fun entry member =>
      exists_clause_iff.mp (answered_of_mapM (clauses_eq_mapM entries ▸ succeeded) entry member)
    have same := clauses_of_isPlain ((isPlain_iff entries).mpr literal)
    exact ⟨literal, Except.ok.inj (succeeded.symm.trans same)⟩
  · rintro ⟨literal, rfl⟩
    exact clauses_of_isPlain ((isPlain_iff entries).mpr literal)

/-! ## The whole query -/

/-- Being looked up and alone is being the single criterion. -/
theorem entries_eq_singleton_iff {query : Query} {key : String} {value : Json} :
    query.criteria.entries = [(key, value)] <-> query.get? key = some value ∧ ¬1 < query.size := by
  rw [get?, Fields.get?, size, Fields.size]
  generalize query.criteria.entries = entries
  constructor
  · rintro rfl
    exact ⟨if_pos rfl, Nat.lt_irrefl 1⟩
  · rintro ⟨found, small⟩
    rcases entries with _ | ⟨entry, _ | ⟨second, others⟩⟩
    · cases found
    · have distinct : ([entry].map Prod.fst).Nodup := List.nodup_singleton entry.1
      rw [List.mem_singleton.mp ((Json.lookup_eq_some_iff distinct).mp found)]
    · exact absurd (Nat.succ_lt_succ (Nat.succ_pos _)) small

variable {query : Query}

theorem lower_eq_script_iff {source : String} :
    query.lower = .ok (.script source) <->
      query.criteria.entries = [(scriptKey, .string source)] := by
  rw [entries_eq_singleton_iff]
  constructor
  · intro lowered
    rw [lower] at lowered
    split at lowered
    · next found held =>
        split at lowered
        · cases lowered
        · next small =>
            cases lowered
            exact ⟨held, small⟩
    · cases lowered
    · rcases map_eq_ok_iff.mp lowered with ⟨found, _, same⟩
      cases same
  · rintro ⟨held, small⟩
    rw [lower, held]
    exact if_neg small

theorem lower_eq_fields_iff {found : List Clause} :
    query.lower = .ok (.fields found) <->
      IsLiteral query.criteria.entries ∧ found = query.criteria.entries.map Clause.ofEntry := by
  constructor
  · intro lowered
    rw [lower] at lowered
    split at lowered
    · split at lowered <;> cases lowered
    · cases lowered
    · rcases map_eq_ok_iff.mp lowered with ⟨comparisons, answered, same⟩
      cases same
      exact clauses_eq_ok_iff.mp answered
  · rintro ⟨literal, rfl⟩
    exact lower_of_isPlain ((isPlain_iff _).mpr literal)

theorem lower_eq_error_iff {fault : QueryFault} :
    query.lower = .error fault <-> query.Refused fault := by
  constructor
  · intro lowered
    rw [lower] at lowered
    split at lowered
    · next source held =>
        split at lowered
        · next more =>
            cases lowered
            exact .scriptWithFields held more
        · cases lowered
    · next value other held =>
        cases lowered
        exact .scriptNotText held other
    · next absent =>
        rcases clauses_eq_error_iff.mp (map_eq_error_iff.mp lowered) with
          ⟨before, entry, after, shape, literal, refused⟩
        exact .criterion absent shape literal refused
  · intro refused
    cases refused with
    | @scriptNotText value held other =>
        rw [lower, held]
        cases value with
        | string source => exact absurd rfl (other source)
        | _ => rfl
    | scriptWithFields held more =>
        rw [lower, held]
        exact if_pos more
    | criterion absent shape literal refused =>
        rw [lower, absent]
        exact map_eq_error_iff.mpr
          (clauses_eq_error_iff.mpr ⟨_, _, _, shape, literal, refused⟩)

/--
Lowering is exact and never takes data for anything else, in whatever way the query was filled or
whatever text it was read from.  Its predicate is a script exactly if it consists of the script
criterion with a text.  It is a list of clauses exactly if nothing is spelled like an operator, and
the clauses are the criteria in their order.  They are on different fields and accepted by the
clause count, and they find the documents, in order, that have an equal value for each key of the
query.  All other queries are refused, each for the reason that comes first.
-/
theorem lowering_exact (query : Query) :
    let entries := query.criteria.entries
    let comparisons := entries.map Clause.ofEntry
    (forall source, query.lower = .ok (.script source) <->
      entries = [(scriptKey, .string source)]) ∧
    (forall found, query.lower = .ok (.fields found) <-> IsLiteral entries ∧ found = comparisons) ∧
    (comparisons.map Clause.field).Nodup ∧
    Predicate.ensureClauseCount query.size (.fields comparisons) = .ok () ∧
    (forall collection : Collection, collection.find (.fields comparisons) =
      .ok (collection.documents.filter fun document => document.Meets entries)) ∧
    ((exists fault, query.lower = .error fault) <->
      (forall source, entries ≠ [(scriptKey, .string source)]) ∧ ¬IsLiteral entries) ∧
    (forall fault, query.lower = .error fault <-> query.Refused fault) := by
  intro entries comparisons
  have fields : comparisons.map Clause.field = query.criteria.keys := List.map_map
  have distinct : (comparisons.map Clause.field).Nodup := fields ▸ query.criteria.distinct
  have counted : Predicate.ensureClauseCount query.size (.fields comparisons) = .ok () := by
    have accepted := Predicate.ensureClauseCount_of_nodup distinct
    rwa [List.length_map] at accepted
  refine ⟨fun _ => lower_eq_script_iff, fun _ => lower_eq_fields_iff, distinct, counted,
    fun collection => collection.find_ofEntries entries, ?_, fun _ => lower_eq_error_iff⟩
  constructor
  · rintro ⟨fault, refused⟩
    constructor
    · intro source single
      cases refused.symm.trans (lower_eq_script_iff.mpr single)
    · intro literal
      cases refused.symm.trans (lower_eq_fields_iff.mpr ⟨literal, rfl⟩)
  · rintro ⟨noScript, marked⟩
    rcases lowered : query.lower with fault | ⟨source | found⟩
    · exact ⟨fault, rfl⟩
    · exact absurd (lower_eq_script_iff.mp lowered) (noScript source)
    · exact absurd (lower_eq_fields_iff.mp lowered).1 marked

/-- Documents with a number, with its digits as a text, and without it. -/
def numbered : Collection :=
  ⟨"numbered",
    [Document.ofEntries [("n", .integer 7), ("tag", .string "a")],
      Document.ofEntries [("tag", .string "a"), ("n", .string "7")],
      Document.ofEntries [("tag", .string "a")],
      Document.ofEntries [("tag", .string "a"), ("more", .null), ("n", .integer 7)]]⟩

/-- A query of each kind: one that compares two fields, a refused one and a script. -/
theorem lowering_exact_numbered :
    ((ofEntries [("tag", .string "a"), ("n", .integer 7)]).lower =
        .ok (.fields [⟨"tag", .string "a"⟩, ⟨"n", .integer 7⟩]) ∧
      numbered.find (.fields [⟨"tag", .string "a"⟩, ⟨"n", .integer 7⟩]) =
        .ok [Document.ofEntries [("n", .integer 7), ("tag", .string "a")],
          Document.ofEntries [("tag", .string "a"), ("more", .null), ("n", .integer 7)]]) ∧
    (ofEntries [("tag", .string "a"), ("n", .object [("$gt", .integer 6)])]).lower =
      .error (.operatorValue "n") ∧
    (single scriptKey (.string "this.n > 6")).lower = .ok (.script "this.n > 6") := by
  have unmarked : ¬IsMarked "n" := mt (isOperator_eq_true_iff "n").mpr Bool.false_ne_true
  have tagLiteral : IsLiteral [("tag", .string "a")] :=
    (isPlain_iff _).mp (List.forall_mem_singleton.mpr ⟨rfl, rfl⟩)
  have literal : IsLiteral [("tag", .string "a"), ("n", .integer 7)] :=
    (isPlain_iff _).mp
      (List.forall_mem_cons.mpr ⟨⟨rfl, rfl⟩, List.forall_mem_singleton.mpr ⟨rfl, rfl⟩⟩)
  refine ⟨?_, ?_, ?_⟩
  · rcases lowering_exact (ofEntries [("tag", .string "a"), ("n", .integer 7)]) with
      ⟨_, lowered, _, _, found, _, _⟩
    exact ⟨(lowered _).mpr ⟨literal, rfl⟩, (found numbered).trans rfl⟩
  · rcases lowering_exact (ofEntries [("tag", .string "a"), ("n", .object [("$gt", .integer 6)])])
      with ⟨_, _, _, _, _, _, refused⟩
    have operators : SpellsOperators (.object [("$gt", .integer 6)]) :=
      (isOperatorValue_eq_true_iff _).mp rfl
    exact (refused _).mpr (.criterion rfl rfl tagLiteral (.value unmarked operators))
  · exact ((lowering_exact (single scriptKey (.string "this.n > 6"))).1 _).mpr rfl

/-- Within an array a marked key is data. -/
example : (Query.single "tags" (.array [.object [("$ne", .null)]])).lower =
    .ok (.fields [⟨"tags", .array [.object [("$ne", .null)]]⟩]) := rfl

end Query
end Store
end ContactSearch
