namespace ContactSearch

/-!
# Outcomes of steps that may fail

Steps in turn succeed only if each of them does, and fail as the first one that
does not; that is so for a list of items as well.  Wrapping a fault changes
nothing else about an outcome.  Two runs of the same steps are compared by
relating their faults and their results; what is related after each step is
related after all of them.
-/

variable {ε : Type}

/-- Two steps succeed together only if the first one does, and then the second one. -/
theorem exists_of_bind_eq_ok {α β : Type} {first : Except ε α} {second : α -> Except ε β}
    {result : β} (succeeded : (first >>= second) = .ok result) :
    exists value, first = .ok value ∧ second value = .ok result := by
  cases first with
  | error fault => cases succeeded
  | ok value => exact ⟨value, rfl, succeeded⟩

/-- Two steps fail together if the first one does, or else the second one. -/
theorem bind_eq_error_iff {α β : Type} {first : Except ε α} {second : α -> Except ε β}
    {fault : ε} :
    (first >>= second) = .error fault <->
      first = .error fault ∨ exists value, first = .ok value ∧ second value = .error fault := by
  cases first with
  | error other =>
      constructor
      · intro failed
        exact Or.inl (congrArg Except.error (Except.error.inj failed))
      · rintro (same | ⟨value, impossible, _⟩)
        · exact congrArg Except.error (Except.error.inj same)
        · cases impossible
  | ok value =>
      constructor
      · intro failed
        exact Or.inr ⟨value, rfl, failed⟩
      · rintro (impossible | ⟨other, same, failed⟩)
        · cases impossible
        · cases same
          exact failed

theorem mapError_eq_error_iff {ε' α : Type} {wrap : ε -> ε'} {outcome : Except ε α} {fault : ε'} :
    outcome.mapError wrap = .error fault <->
      exists inner, outcome = .error inner ∧ fault = wrap inner := by
  cases outcome with
  | error inner =>
      constructor
      · intro same
        exact ⟨inner, rfl, (Except.error.inj same).symm⟩
      · rintro ⟨other, same, rfl⟩
        exact congrArg (Except.mapError wrap) same
  | ok value => exact ⟨nofun, fun found => nomatch found.choose_spec.1⟩

theorem mapError_eq_ok_iff {ε' α : Type} {wrap : ε -> ε'} {outcome : Except ε α} {value : α} :
    outcome.mapError wrap = .ok value <-> outcome = .ok value := by
  cases outcome with
  | error inner => exact ⟨nofun, nofun⟩
  | ok other => exact ⟨fun same => congrArg Except.ok (Except.ok.inj same),
      fun same => congrArg (Except.mapError wrap) same⟩

theorem map_eq_error_iff {α β : Type} {outcome : Except ε α} {change : α -> β} {fault : ε} :
    outcome.map change = .error fault <-> outcome = .error fault := by
  cases outcome with
  | error other => rw [Except.map, Except.error.injEq, Except.error.injEq]
  | ok value => exact ⟨nofun, nofun⟩

theorem map_eq_ok_iff {α β : Type} {outcome : Except ε α} {change : α -> β} {result : β} :
    outcome.map change = .ok result <-> exists value, outcome = .ok value ∧ change value = result := by
  cases outcome with
  | error fault => exact ⟨nofun, fun found => nomatch found.choose_spec.1⟩
  | ok value => simp only [Except.map, Except.ok.injEq, exists_eq_left']

/-- A check succeeds only under its condition. -/
theorem check_eq_ok_iff {α : Type} {condition : Prop} [Decidable condition] {value : α}
    {fault : ε} :
    (if condition then .ok value else .error fault : Except ε α) = .ok value <-> condition := by
  split
  · next holds => exact iff_of_true rfl holds
  · next fails => exact iff_of_false nofun fails

/-! ## One step for each item of a list -/

section Items

variable {α β : Type} {step : α -> Except ε β} {items : List α}

theorem mapM_of_answered {answer : α -> β}
    (answered : forall item, item ∈ items -> step item = .ok (answer item)) :
    items.mapM step = .ok (items.map answer) := by
  induction items with
  | nil => rfl
  | cons item items ih =>
      rcases List.forall_mem_cons.mp answered with ⟨first, others⟩
      rw [List.mapM_cons, first, ih others]
      rfl

theorem answered_of_mapM {results : List β} (succeeded : items.mapM step = .ok results) :
    forall item, item ∈ items -> exists result, step item = .ok result := by
  induction items generalizing results with
  | nil => exact fun _ => nofun
  | cons item items ih =>
      rw [List.mapM_cons] at succeeded
      rcases exists_of_bind_eq_ok succeeded with ⟨first, answered, later⟩
      rcases exists_of_bind_eq_ok later with ⟨others, remaining, _⟩
      exact List.forall_mem_cons.mpr ⟨⟨first, answered⟩, ih remaining⟩

/-- The fault is that of the first item whose step fails. -/
theorem mapM_eq_error_iff {fault : ε} :
    items.mapM step = .error fault <->
      exists before item after, items = before ++ item :: after ∧
        (forall earlier, earlier ∈ before -> exists result, step earlier = .ok result) ∧
        step item = .error fault := by
  induction items with
  | nil =>
      constructor
      · exact nofun
      · rintro ⟨before, item, after, shape, _⟩
        cases before <;> cases shape
  | cons front items ih =>
      have later (first : β) :
          (items.mapM step >>= fun others => pure (first :: others)) = .error fault <->
            items.mapM step = .error fault := by
        cases items.mapM step with
        | error other => rfl
        | ok others => exact ⟨nofun, nofun⟩
      rw [List.mapM_cons, bind_eq_error_iff]
      constructor
      · rintro (fails | ⟨first, answered, fails⟩)
        · exact ⟨[], front, items, rfl, fun _ => nofun, fails⟩
        · rcases ih.mp ((later first).mp fails) with ⟨before, item, after, rfl, earlier, fails⟩
          exact ⟨front :: before, item, after, rfl,
            List.forall_mem_cons.mpr ⟨⟨first, answered⟩, earlier⟩, fails⟩
      · rintro ⟨before, item, after, shape, answered, fails⟩
        cases before with
        | nil =>
            cases shape
            exact Or.inl fails
        | cons other before =>
            cases shape
            rcases List.forall_mem_cons.mp answered with ⟨⟨first, answered⟩, earlier⟩
            have remaining := ih.mpr ⟨before, item, after, rfl, earlier, fails⟩
            exact Or.inr ⟨first, answered, (later first).mpr remaining⟩

end Items

/-- Two outcomes of one kind, with related faults or with related results. -/
inductive Corresponds {ε ε' α β : Type} (faults : ε -> ε' -> Prop) (results : α -> β -> Prop) :
    Except ε α -> Except ε' β -> Prop where
  | fault {left : ε} {right : ε'} (related : faults left right) :
      Corresponds faults results (.error left) (.error right)
  | result {left : α} {right : β} (related : results left right) :
      Corresponds faults results (.ok left) (.ok right)

theorem Corresponds.refl {α : Type} (outcome : Except ε α) :
    Corresponds Eq Eq outcome outcome := by
  cases outcome with
  | error fault => exact .fault rfl
  | ok value => exact .result rfl

theorem Corresponds.bind {ε ε' α α' β β' : Type} {faults : ε -> ε' -> Prop}
    {results : α -> β -> Prop} {results' : α' -> β' -> Prop} {left : Except ε α}
    {right : Except ε' β} {next : α -> Except ε α'} {next' : β -> Except ε' β'}
    (outcomes : Corresponds faults results left right)
    (onResult : forall a b, results a b -> Corresponds faults results' (next a) (next' b)) :
    Corresponds faults results' (left >>= next) (right >>= next') := by
  cases outcomes with
  | fault related => exact .fault related
  | result related => exact onResult _ _ related

end ContactSearch
