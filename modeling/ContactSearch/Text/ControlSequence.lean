namespace ContactSearch
namespace Text

/-!
# Control sequences

A terminal takes some characters of a text as commands: the control characters,
and the sequences that an escape character begins.  `withoutControls` is the
text that is left when nothing but a plain stream is there to take it.

A sequence ends with a letter of its own, and its kind says which one.  Strings
for the device or for the window go on up to a terminator.  An escape character
always begins a new sequence, so a mark behind a text also ends what the text
left open.

The four blank control characters are kept, even within a sequence.  From such
a blank on, the text is shown up to the next control character that is not
kept, and there the interrupted sequence goes on.
-/

/-- Where a text stands with respect to control sequences. -/
inductive SequencePart where
  | outside
  | escape
  | escapeTail
  | parameters
  | deviceStart
  | deviceParameters
  | deviceTail
  | deviceString
  | windowString
  deriving DecidableEq

/-- A position in a text: the part of a sequence it belongs to, and whether it is shown even so. -/
structure SequencePosition where
  part : SequencePart
  shown : Bool
  deriving DecidableEq

namespace SequencePosition

/-- A position at which nothing has begun. -/
def start : SequencePosition :=
  ⟨.outside, true⟩

end SequencePosition

/-- The blanks among the control characters, the vertical tabulator apart. -/
def isControlBlank (c : Char) : Bool :=
  c == '\t' || c == '\n' || c == '\x0c' || c == '\r'

/-- Whether a character is shown outside of all sequences. -/
def isShown (c : Char) : Bool :=
  (0x20 ≤ c.toNat && c.toNat != 0x7F) || isControlBlank c

/-- Whether a character lies between two code points. -/
def isWithin (first last : Nat) (c : Char) : Bool :=
  first ≤ c.toNat && c.toNat ≤ last

/-- The byte that ends a string for the device, also as a part of another character. -/
def stringTerminator : UInt8 := 0x9C

/-- The part of a sequence after its escape character. -/
def afterEscape (c : Char) : SequencePart :=
  if c = '[' then .parameters
  else if c = ']' then .windowString
  else if c = 'P' then .deviceStart
  else if c = 'X' ∨ c = '^' ∨ c = '_' then .deviceString
  else if isWithin 0x20 0x2F c then .escapeTail
  else if isWithin 0x30 0x7E c then .outside
  else .escape

/-- The part of a sequence after one more character that is not shown. -/
def SequencePart.next (part : SequencePart) (c : Char) : SequencePart :=
  match part with
  | .outside => .outside
  | .escape => afterEscape c
  | .escapeTail => if isWithin 0x30 0x7E c then .outside else .escapeTail
  | .parameters => if isWithin 0x40 0x7E c then .outside else .parameters
  | .deviceStart =>
      if isWithin 0x20 0x2F c then .deviceTail
      else if isWithin 0x30 0x3F c then .deviceParameters
      else if isWithin 0x40 0x7E c then .deviceString
      else .deviceStart
  | .deviceParameters =>
      if isWithin 0x20 0x2F c then .deviceTail
      else if isWithin 0x3C 0x7E c then .deviceString
      else .deviceParameters
  | .deviceTail => if isWithin 0x30 0x7E c then .deviceString else .deviceTail
  | .deviceString =>
      if (String.utf8EncodeChar c).contains stringTerminator then .outside else .deviceString
  | .windowString => if c = '\x07' then .outside else .windowString

/-- Whether a blank is kept within a part of a sequence. -/
def SequencePart.keepsBlanks : SequencePart -> Bool
  | .outside => true
  | .escape => true
  | .escapeTail => true
  | .parameters => true
  | _ => false

/-- The position after a character, and whether the character is shown. -/
def SequencePosition.step (position : SequencePosition) (c : Char) : SequencePosition × Bool :=
  if c = '\x1b' then (⟨.escape, false⟩, false)
  else if c = '\x18' ∨ c = '\x1a' then (SequencePosition.start, false)
  else if position.shown then
    if isShown c then (⟨if 0x80 ≤ c.toNat then .outside else position.part, true⟩, true)
    else (⟨position.part, position.part = .outside⟩, false)
  else if isControlBlank c && position.part.keepsBlanks then (⟨position.part, true⟩, true)
  else
    let part := position.part.next c
    (⟨part, part = .outside⟩, false)

/-- The characters that are shown from a position on. -/
def shownFrom (position : SequencePosition) : List Char -> List Char
  | [] => []
  | c :: rest =>
      let (next, isVisible) := position.step c
      if isVisible then c :: shownFrom next rest else shownFrom next rest

theorem step_start_of_isShown {c : Char} (shown : isShown c = true) :
    SequencePosition.start.step c = (SequencePosition.start, true) := by
  have noEscape : c ≠ '\x1b' := fun same => by subst same; revert shown; decide
  have noCancel : ¬ (c = '\x18' ∨ c = '\x1a') := by
    rintro (same | same) <;> (subst same; revert shown; decide)
  simp [SequencePosition.step, SequencePosition.start, noEscape, noCancel, shown]

/-- A beginning without control characters loses nothing, and leaves nothing open. -/
theorem shownFrom_start_append {cs : List Char} (shown : ∀ c ∈ cs, isShown c = true)
    (rest : List Char) :
    shownFrom SequencePosition.start (cs ++ rest) =
      cs ++ shownFrom SequencePosition.start rest := by
  induction cs with
  | nil => rfl
  | cons c others ih =>
      rw [List.cons_append, shownFrom, step_start_of_isShown (shown c List.mem_cons_self)]
      simp only [if_true]
      rw [ih fun other member => shown other (List.mem_cons_of_mem c member), List.cons_append]

/-- A text as a plain stream shows it. -/
def withoutControls (text : String) : String :=
  String.ofList (shownFrom SequencePosition.start text.toList)

end Text
end ContactSearch
