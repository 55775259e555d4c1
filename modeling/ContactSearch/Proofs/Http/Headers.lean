import ContactSearch.Http.Message

namespace ContactSearch
namespace Http

/-!
# Values of a header

A list of headers may repeat a name, and may spell it in any case.  All that a
receiver can tell about a name is the list of its values, and all that can be
told apart from it is the list of the headers that are left without it.

Replacing the values of a name leaves exactly one of them.  Neither replacing
nor adding touches what can be told about any other name.
-/

theorem sameIgnoringCase_self (name : String) : sameIgnoringCase name name = true :=
  beq_self_eq_true name.toLower

/-- Two spellings of one name are told apart from the same names. -/
theorem sameIgnoringCase_congr {first second : String}
    (same : sameIgnoringCase first second = true) (name : String) :
    sameIgnoringCase first name = sameIgnoringCase second name := by
  have lower : first.toLower = second.toLower := beq_iff_eq.mp same
  rw [sameIgnoringCase, sameIgnoringCase, lower]

theorem sameIgnoringCase_comm (first second : String) :
    sameIgnoringCase first second = sameIgnoringCase second first :=
  Bool.beq_comm

/-- Whether a name is none of some names. -/
def Apart (names : List String) (name : String) : Prop :=
  forall other, other ∈ names -> sameIgnoringCase other name = false

instance Apart.decidable (names : List String) (name : String) : Decidable (Apart names name) :=
  inferInstanceAs (Decidable (forall other, other ∈ names -> sameIgnoringCase other name = false))

namespace Headers

/-- All values of a name, in the order in which they are sent. -/
def values (headers : Headers) (name : String) : List String :=
  (headers.filter fun header => sameIgnoringCase header.1 name).map Prod.snd

/-- The headers that are left without a name. -/
def without (headers : Headers) (name : String) : Headers :=
  headers.filter fun header => !sameIgnoringCase header.1 name

variable {headers : Headers} {name other : String}

theorem set_eq (headers : Headers) (name value : String) :
    headers.set name value = headers.without name ++ [(name, value)] :=
  rfl

/-! ## Values -/

theorem values_append (headers added : Headers) (name : String) :
    values (headers ++ added) name = headers.values name ++ added.values name := by
  rw [values, List.filter_append, List.map_append]
  rfl

theorem values_eq_nil_of_apart (apart : Apart (headers.map Prod.fst) name) :
    headers.values name = [] := by
  rw [values, List.map_eq_nil_iff, List.filter_eq_nil_iff]
  intro header member
  rw [apart header.1 (List.mem_map_of_mem member)]
  exact Bool.false_ne_true

theorem values_singleton (name value : String) : values [(name, value)] name = [value] := by
  rw [values, List.filter_cons_of_pos]
  · rfl
  · exact sameIgnoringCase_self name

theorem values_without_self (headers : Headers) (name : String) :
    (headers.without name).values name = [] := by
  rw [values, without, List.filter_filter, List.map_eq_nil_iff, List.filter_eq_nil_iff]
  intro header _
  cases sameIgnoringCase header.1 name <;> exact Bool.false_ne_true

/-- What is left without a name has all values of every other name. -/
theorem values_without_of_ne (apart : sameIgnoringCase name other = false) :
    (headers.without name).values other = headers.values other := by
  rw [values, without, List.filter_filter]
  apply congrArg (fun test => (headers.filter test).map Prod.snd)
  funext header
  cases spelled : sameIgnoringCase header.1 other with
  | false => rfl
  | true =>
      have different : sameIgnoringCase header.1 name = false := by
        rw [sameIgnoringCase_congr spelled, sameIgnoringCase_comm]
        exact apart
      rw [different]
      rfl

theorem values_set_self (headers : Headers) (name value : String) :
    (headers.set name value).values name = [value] := by
  rw [set_eq, values_append, values_without_self, values_singleton]
  rfl

theorem values_set_of_ne (apart : sameIgnoringCase name other = false) (value : String) :
    (headers.set name value).values other = headers.values other := by
  have added : values [(name, value)] other = [] :=
    values_eq_nil_of_apart fun spelled member => List.mem_singleton.mp member ▸ apart
  rw [set_eq, values_append, values_without_of_ne apart, added, List.append_nil]

theorem values_append_of_apart {added : Headers} (apart : Apart (added.map Prod.fst) name)
    (headers : Headers) : values (headers ++ added) name = headers.values name := by
  rw [values_append, values_eq_nil_of_apart apart, List.append_nil]

theorem contains_iff (headers : Headers) (name : String) :
    headers.contains name = true <-> headers.values name ≠ [] := by
  rw [contains, List.any_eq_true, values, Ne, List.map_eq_nil_iff, List.filter_eq_nil_iff]
  exact Classical.not_forall_not.symm.trans (by simp only [not_and])

/-- Whether a name occurs is told by its values. -/
theorem contains_congr {first second : Headers}
    (same : first.values name = second.values name) :
    first.contains name = second.contains name := by
  rw [Bool.eq_iff_iff, contains_iff, contains_iff, same]

/-! ## What is left without a name -/

theorem without_append (headers added : Headers) (name : String) :
    without (headers ++ added) name = headers.without name ++ added.without name :=
  List.filter_append _ _

theorem without_eq_self_of_apart (apart : Apart (headers.map Prod.fst) name) :
    headers.without name = headers := by
  rw [without, List.filter_eq_self]
  intro header member
  rw [apart header.1 (List.mem_map_of_mem member)]
  rfl

theorem without_singleton (name value : String) : without [(name, value)] name = [] := by
  rw [without, List.filter_cons_of_neg]
  · rfl
  · rw [sameIgnoringCase_self]
    exact Bool.false_ne_true

theorem without_without_comm (headers : Headers) (name other : String) :
    (headers.without name).without other = (headers.without other).without name := by
  rw [without, without, List.filter_filter, without, without, List.filter_filter]
  exact congrArg (fun test => headers.filter test) (funext fun _ => Bool.and_comm _ _)

theorem without_set_self (headers : Headers) (name value : String) :
    (headers.set name value).without name = headers.without name := by
  have once : (headers.without name).without name = headers.without name := by
    rw [without, without, List.filter_filter]
    exact congrArg (fun test => headers.filter test) (funext fun _ => Bool.and_self _)
  rw [set_eq, without_append, once, without_singleton, List.append_nil]

theorem without_set_of_ne (apart : sameIgnoringCase other name = false) (value : String) :
    (headers.set other value).without name = (headers.without name).set other value := by
  have kept : without [(other, value)] name = [(other, value)] :=
    without_eq_self_of_apart fun spelled member => List.mem_singleton.mp member ▸ apart
  rw [set_eq, set_eq, without_append, without_without_comm, kept]

end Headers
end Http
end ContactSearch
