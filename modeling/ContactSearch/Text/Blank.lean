import ContactSearch.Text.Ranges

namespace ContactSearch
namespace Text

/-!
# Blank characters

The characters with the white space property: the blanks of the ASCII range,
the no-break spaces, the typographic spaces and the line separators.  The
zero-width space is not one of them.
-/

/-- The ranges of the white space property. -/
def blankRanges : List (Nat × Nat) :=
  [(0x9, 0xD), (0x20, 0x20), (0x85, 0x85), (0xA0, 0xA0), (0x1680, 0x1680), (0x2000, 0x200A),
    (0x2028, 0x2029), (0x202F, 0x202F), (0x205F, 0x205F), (0x3000, 0x3000)]

/-- Whether a character is white space. -/
def isBlank (c : Char) : Bool :=
  inRanges c.toNat blankRanges

/-- A text without the white space at both ends. -/
def trim (cs : List Char) : List Char :=
  ((cs.dropWhile isBlank).reverse.dropWhile isBlank).reverse

theorem dropWhile_isBlank_of_forall {cs : List Char}
    (solid : forall c, c ∈ cs -> isBlank c = false) : cs.dropWhile isBlank = cs := by
  cases cs with
  | nil => rfl
  | cons c rest =>
      have first := solid c List.mem_cons_self
      exact List.dropWhile_cons_of_neg (by simp [first])

theorem trim_of_forall {cs : List Char} (solid : forall c, c ∈ cs -> isBlank c = false) :
    trim cs = cs := by
  have backwards : forall c, c ∈ cs.reverse -> isBlank c = false :=
    fun c member => solid c (List.mem_reverse.mp member)
  rw [trim, dropWhile_isBlank_of_forall solid, dropWhile_isBlank_of_forall backwards,
    List.reverse_reverse]

/-- A string without the white space at both ends. -/
def trimmed (text : String) : String :=
  String.ofList (trim text.toList)

end Text
end ContactSearch
