import ContactSearch.CommandLine.Command

namespace ContactSearch
namespace CommandLine

/-!
# Assigned options

An option can be written together with its value, behind an equals sign.  Then
any text can be given, also one that begins with a dash: what stands behind the
first equals sign is the value, as it is.

Assignments to different options are read one by one, and each of them is kept.
So every search and every script can be asked for on the command line.
-/

/-- An option that is written together with its value. -/
def assigned (entry : String × String) : String :=
  "--" ++ entry.1 ++ "=" ++ entry.2

theorem longForm_assigned {name : List Char} (value : List Char) (noEquals : '=' ∉ name) :
    longForm (name ++ '=' :: value) = .long (String.ofList name) (some (String.ofList value)) := by
  have passed : forall c, c ∈ name -> decide (c ≠ '=') = true := by
    intro c member
    exact decide_eq_true fun same => noEquals (same ▸ member)
  rw [longForm, List.takeWhile_append_of_pos passed, List.dropWhile_append_of_pos passed]
  simp

theorem argumentForm_assigned {entry : String × String} (noEquals : '=' ∉ entry.1.toList) :
    argumentForm (assigned entry) = .long entry.1 (some entry.2) := by
  have characters : (assigned entry).toList =
      '-' :: '-' :: (entry.1.toList ++ '=' :: entry.2.toList) := by simp [assigned]
  have form := longForm_assigned entry.2.toList noEquals
  rw [String.ofList_toList, String.ofList_toList] at form
  rw [argumentForm, characters, <- form]
  cases entry.1.toList <;> rfl

namespace Reading

/-- Whether arguments have an option of a name that takes a value. -/
structure Accepts (arguments : List Argument) (entry : String × String) : Prop where
  noEquals : '=' ∉ entry.1.toList
  known : exists argument : Argument,
    (Argument.help :: arguments).find? (fun argument => argument.name == entry.1) =
        some argument ∧
      argument.placeholder.isSome = true ∧ argument.refusal entry.2 = none

variable {arguments : List Argument} {values : List (String × String)}

theorem isGiven_iff {reading : Reading} {name : String} :
    reading.isGiven name = true <-> name ∈ reading.values.map Prod.fst := by
  rw [isGiven, value?, Option.isSome_map, List.find?_isSome, List.mem_map]
  simp

theorem takeLong_assigned {entry : String × String} (accepts : Accepts arguments entry)
    (fresh : entry.1 ∉ values.map Prod.fst) :
    takeLong arguments entry.1 (some entry.2) ⟨values, none⟩ =
      .ok ⟨values ++ [entry], none⟩ := by
  rcases accepts.known with ⟨argument, found, valued, accepted⟩
  rcases Option.isSome_iff_exists.mp valued with ⟨placeholder, shown⟩
  have name : argument.name = entry.1 := by simpa using List.find?_some found
  have unused : (Reading.mk values none).isGiven entry.1 = false := by
    rw [Bool.eq_false_iff, ne_eq, isGiven_iff]
    exact fresh
  have kept : keep argument entry.2 ⟨values, none⟩ = .ok ⟨values ++ [entry], none⟩ := by
    simp only [keep, name, unused, accepted, Bool.false_eq_true, if_false]
  simp only [takeLong, found, shown, settle]
  exact kept

theorem takeAll_of_long {given name : String} {value : Option String}
    (form : argumentForm given = .long name value) (reading : Reading) (rest : List String) :
    takeAll arguments reading (given :: rest) =
      (takeLong arguments name value reading >>= fun next => takeAll arguments next rest) := by
  rw [takeAll.eq_def]
  simp only [form]

/-- Assignments to different options are all kept, and then the other arguments are read. -/
theorem takeAll_assigned {entries : List (String × String)}
    (accepts : forall entry, entry ∈ entries -> Accepts arguments entry)
    (distinct : ((values ++ entries).map Prod.fst).Nodup) (rest : List String) :
    takeAll arguments ⟨values, none⟩ (entries.map assigned ++ rest) =
      takeAll arguments ⟨values ++ entries, none⟩ rest := by
  induction entries generalizing values with
  | nil => rw [List.map_nil, List.nil_append, List.append_nil]
  | cons entry entries ih =>
      rcases List.forall_mem_cons.mp accepts with ⟨first, others⟩
      have fresh : entry.1 ∉ values.map Prod.fst := by
        rw [List.map_append, List.nodup_append] at distinct
        exact fun member => distinct.2.2 _ member _ List.mem_cons_self rfl
      rw [List.append_cons] at distinct
      rw [List.map_cons, List.cons_append, List.append_cons,
        takeAll_of_long (argumentForm_assigned first.noEquals), takeLong_assigned first fresh]
      exact ih others distinct

end Reading

/-- A command is read if nothing that it requires is missing. -/
theorem Command.ofForm_of_takeAll {form : Form} {given : List String} {reading : Reading}
    {command : Command} (taken : Reading.takeAll form.arguments .start given = .ok reading)
    (complete : form.arguments.filter (fun argument =>
      argument.required && !reading.isGiven argument.name) = [])
    (read : form.read reading = some command) : ofForm form given = .ok command := by
  have whole : Reading.ofArguments form.arguments given = .ok reading := by
    rw [Reading.ofArguments, taken]
    simp only [bind, Except.bind, complete, List.isEmpty_nil, if_true]
  rw [ofForm, whole]
  simp only [bind, Except.bind, read]

end CommandLine
end ContactSearch
