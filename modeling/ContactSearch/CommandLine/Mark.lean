import ContactSearch.Text.ControlSequence

namespace ContactSearch
namespace CommandLine

/-!
# Marks

A terminal can show a part of a message in another weight or colour.  A mark is
put around such a part.  On a plain stream nothing of it is left, and a part
without control characters reads as if it had never been marked.
-/

/-- What a part of a message is marked as. -/
inductive Mark where
  | alarm
  | fault
  | name
  deriving DecidableEq

namespace Mark

open Text

/-- The sequences that begin a mark: bold and red, yellow, and bold. -/
def opening : Mark -> String
  | .alarm => "\x1b[1m\x1b[31m"
  | .fault => "\x1b[33m"
  | .name => "\x1b[1m"

/-- The sequence that ends every mark. -/
def closing : String :=
  "\x1b[0m"

/-- A text within a mark. -/
def around (mark : Mark) (text : String) : String :=
  mark.opening ++ text ++ closing

theorem shownFrom_opening (mark : Mark) (rest : List Char) :
    shownFrom SequencePosition.start (mark.opening.toList ++ rest) =
      shownFrom SequencePosition.start rest := by
  cases mark <;> rfl

theorem shownFrom_closing (rest : List Char) :
    shownFrom SequencePosition.start (closing.toList ++ rest) =
      shownFrom SequencePosition.start rest := by
  rfl

/-- Taking a mark out gives the text within it back. -/
theorem withoutControls_around (mark : Mark) {text : String}
    (shown : ∀ c ∈ text.toList, isShown c = true) :
    withoutControls (mark.around text) = text := by
  unfold withoutControls around
  have parts : (mark.opening ++ text ++ closing).toList =
      mark.opening.toList ++ (text.toList ++ (closing.toList ++ [])) := by simp
  rw [parts, shownFrom_opening, shownFrom_start_append shown, shownFrom_closing]
  simp [shownFrom]

end Mark
end CommandLine
end ContactSearch
