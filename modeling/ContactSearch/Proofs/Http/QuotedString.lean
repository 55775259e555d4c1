namespace ContactSearch
namespace Http

/-!
# Quoted strings

In a header value a text can stand between quotation marks.  A backslash in it
stands for the character behind it, whatever that is, and the first quotation
mark without one is the end.

A text that is put between quotation marks as it is reads as itself exactly if
it holds neither a quotation mark nor a backslash.  The first would end the
string too early, and the second would be gone: every backslash that is read
leaves the text shorter than what it was read from.
-/

/-- Read a quoted string behind its opening mark, and hand back what is behind its end. -/
def unquote? : List Char -> Option (List Char × List Char)
  | [] => none
  | '"' :: rest => some ([], rest)
  | ['\\'] => none
  | '\\' :: c :: rest => (unquote? rest).map fun read => (c :: read.1, read.2)
  | c :: rest => (unquote? rest).map fun read => (c :: read.1, read.2)

/-- Whether a character stands for itself in a quoted string. -/
def StandsForItself (c : Char) : Prop :=
  c ≠ '"' ∧ c ≠ '\\'

theorem unquote?_of_standsForItself {c : Char} (plain : StandsForItself c) (rest : List Char) :
    unquote? (c :: rest) = (unquote? rest).map fun read => (c :: read.1, read.2) := by
  rw [unquote?]
  · exact plain.1
  · exact fun same _ => plain.2 same
  · exact fun _ _ same _ => plain.2 same

theorem map_cons_eq_some_iff {c : Char} {read : Option (List Char × List Char)}
    {text rest : List Char} :
    (read.map fun read => (c :: read.1, read.2)) = some (text, rest) <->
      exists behind, read = some (behind, rest) ∧ text = c :: behind := by
  rw [Option.map_eq_some_iff]
  constructor
  · rintro ⟨⟨behind, left⟩, found, same⟩
    cases same
    exact ⟨behind, found, rfl⟩
  · rintro ⟨behind, found, rfl⟩
    exact ⟨(behind, rest), found, rfl⟩

/-- The text and what is behind it are shorter than what they were read from. -/
theorem length_of_unquote? {cs text rest : List Char} (read : unquote? cs = some (text, rest)) :
    text.length + rest.length < cs.length := by
  fun_induction unquote? cs generalizing text rest with
  | case1 => cases read
  | case2 behind =>
      cases read
      simp only [List.length_nil, List.length_cons]
      omega
  | case3 => cases read
  | case4 escaped behind ih =>
      rcases map_cons_eq_some_iff.mp read with ⟨text, inner, rfl⟩
      have shorter := ih inner
      simp only [List.length_cons]
      omega
  | case5 c behind _ _ _ ih =>
      rcases map_cons_eq_some_iff.mp read with ⟨text, inner, rfl⟩
      have shorter := ih inner
      simp only [List.length_cons]
      omega

/-- A backslash that is read is missing in the text. -/
theorem length_of_unquote?_escape {cs text rest : List Char}
    (read : unquote? ('\\' :: cs) = some (text, rest)) :
    text.length + rest.length < cs.length := by
  cases cs with
  | nil => cases read
  | cons escaped behind =>
      rcases map_cons_eq_some_iff.mp read with ⟨text, inner, rfl⟩
      have shorter := length_of_unquote? inner
      simp only [List.length_cons]
      omega

/-- A text between quotation marks reads as itself exactly if all its characters do. -/
theorem unquote?_append_iff (text rest : List Char) :
    unquote? (text ++ '"' :: rest) = some (text, rest) <->
      forall c, c ∈ text -> StandsForItself c := by
  induction text with
  | nil => exact iff_of_true rfl nofun
  | cons c text ih =>
      rw [List.forall_mem_cons, ← ih]
      constructor
      · intro read
        have plain : StandsForItself c := by
          constructor
          · rintro rfl
            cases read
          · rintro rfl
            have shorter : text.length + 1 + rest.length < (text ++ '"' :: rest).length :=
              length_of_unquote?_escape read
            rw [List.length_append, List.length_cons] at shorter
            omega
        rw [List.cons_append, unquote?_of_standsForItself plain, map_cons_eq_some_iff] at read
        rcases read with ⟨behind, read, same⟩
        cases same
        exact ⟨plain, read⟩
      · rintro ⟨plain, read⟩
        rw [List.cons_append, unquote?_of_standsForItself plain, read]
        rfl

end Http
end ContactSearch
