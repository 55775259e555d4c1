namespace ContactSearch
namespace Text

/-!
# Ranges of code points

A property of characters is a list of closed ranges in ascending order.  A
search stops at the first range that begins beyond the character, so the
common characters are decided by the first ranges.
-/

/-- Whether a code point lies in one of the ascending ranges. -/
def inRanges (code : Nat) : List (Nat × Nat) -> Bool
  | [] => false
  | (first, last) :: rest =>
      if code < first then false
      else if code ≤ last then true
      else inRanges code rest

/-- A found code point lies in one of the ranges, whatever their order. -/
theorem exists_range_of_inRanges {code : Nat} {ranges : List (Nat × Nat)}
    (found : inRanges code ranges = true) :
    ∃ range ∈ ranges, range.1 ≤ code ∧ code ≤ range.2 := by
  induction ranges with
  | nil => simp [inRanges] at found
  | cons head tail ih =>
      rw [inRanges] at found
      split at found
      · simp at found
      · next reached =>
          split at found
          · next inside => exact ⟨head, List.mem_cons_self, Nat.le_of_not_lt reached, inside⟩
          · obtain ⟨range, member, bounds⟩ := ih found
            exact ⟨range, List.mem_cons_of_mem _ member, bounds⟩

end Text
end ContactSearch
