import ContactSearch.Proofs.Number.WholeNumbers
import ContactSearch.Script.Evaluation

namespace ContactSearch

/-!
# Numbers as positions in an array

A number that selects an element is written out in plain decimal, and the text
is read as a position.  On the way the number can get lost.  Negative zero is
admitted as a key, being whole and no less than zero, but its text begins with a
minus sign, and no position does.  So it reads nothing, although it is strictly
equal to zero, which reads the first element.

Every other admitted number reaches a position that is rounded to it.  Below
`2 ^ 53` this is the number itself.  Above, it may be a neighbour, which makes a
difference only for arrays with as many elements.
-/

namespace Finite

/-- Whether a value is the zero with a minus sign. -/
def isNegativeZero (x : Finite) : Bool :=
  x.negative && x.units == 0

variable {x y : Finite}

/-- Equal values are the same, but for the sign of a zero. -/
theorem eq_of_equals (same : x.equals y = true) (zeros : x.isNegativeZero = y.isNegativeZero) :
    x = y := by
  rcases x with ⟨negative, units, representable⟩
  rcases y with ⟨negative', units', representable'⟩
  simp only [equals, Bool.and_eq_true, Bool.or_eq_true, beq_iff_eq] at same
  rcases same with ⟨rfl, rfl | rfl⟩
  · rfl
  · simp only [isNegativeZero, beq_self_eq_true, Bool.and_true] at zeros
    cases zeros
    rfl

theorem plainText_of_isNegativeZero (zero : x.isNegativeZero = true) :
    x.plainText = ['-', '0'] := by
  rw [isNegativeZero, Bool.and_eq_true, beq_iff_eq] at zero
  rw [plainText, if_pos zero.2, sign, if_pos zero.1]
  rfl

/-- An admitted number other than negative zero is written in digits that are rounded to it. -/
theorem exists_digits_of_isIndex (admitted : (Double.finite x).isIndex = true)
    (plus : x.isNegativeZero = false) :
    exists digits, x.plainText = digits ∧ digits ≠ [] ∧ Double.AreDigits digits ∧
      Double.ofNat (Decimal.value digits) = .finite x := by
  rw [Double.isIndex, isNonnegative, Bool.and_eq_true] at admitted
  have unsigned : x.negative = false := by
    cases negative : x.negative with
    | false => rfl
    | true => simp [isNegativeZero, negative] at admitted plus; exact absurd admitted.2 plus
  rcases exists_plainText_of_isWhole admitted.1 with ⟨digits, text, present, areDigits, rounded⟩
  rw [unsigned] at rounded
  rw [sign, unsigned] at text
  exact ⟨digits, text, present, areDigits, rounded⟩

end Finite

namespace Script

/-! ## Texts as positions -/

theorem position?_minus (rest : List Char) : position? (String.ofList ('-' :: rest)) = none := by
  rw [position?, String.toList_ofList]
  rfl

theorem position?_digits {digits : List Char} (present : digits ≠ [])
    (areDigits : Double.AreDigits digits) :
    position? (String.ofList digits) =
      if Decimal.value digits < 2 ^ 64 then some (Decimal.value digits) else none := by
  have read : Decimal.read? digits = some (Decimal.value digits) :=
    if_pos ⟨present, List.all_eq_true.mpr areDigits⟩
  have unsigned {rest : List Char} (plus : digits = '+' :: rest) : False := by
    have digit := areDigits '+' (plus ▸ List.mem_cons_self)
    cases digit
  rw [position?, String.toList_ofList]
  split
  · next place found =>
      split at found
      · exact (unsigned rfl).elim
      · cases read.symm.trans found
        rfl
  · next missing =>
      split at missing
      · exact (unsigned rfl).elim
      · cases read.symm.trans missing

/-- The text of a number is not the name of the length. -/
theorem ofList_ne_lengthProperty {c : Char} (other : c ≠ 'l') (rest : List Char) :
    String.ofList (c :: rest) ≠ lengthProperty := by
  intro same
  have chars := congrArg String.toList same
  rw [String.toList_ofList] at chars
  exact other (List.cons.inj chars).1

/-- Digits select the element at the number that they spell. -/
theorem readProperty_digits {items : List Json} {digits : List Char} (present : digits ≠ [])
    (areDigits : Double.AreDigits digits)
    (fits : items.length ≤ 2 ^ 64 ∨ Decimal.value digits < 2 ^ 64) :
    readProperty (.array items) (String.ofList digits) =
      .ok (valueOrUndefined items[Decimal.value digits]?) := by
  have other : String.ofList digits ≠ lengthProperty := by
    cases digits with
    | nil => exact absurd rfl present
    | cons c rest =>
        apply ofList_ne_lengthProperty
        rintro rfl
        cases areDigits 'l' List.mem_cons_self
  rw [readProperty, if_neg other, position?_digits present areDigits]
  split
  · rfl
  · next large =>
      rw [List.getElem?_eq_none (by omega)]
      rfl

section Keys

variable {document : Json} {object key : Tree} {items : List Json} {n : Finite}

/-- An array is read at the plain text of an admitted number. -/
theorem evaluate_index (target : object.evaluate document = .ok (.array items))
    (keyed : key.evaluate document = .ok (.number (.finite n)))
    (admitted : (Double.finite n).isIndex = true) :
    (Tree.index object key).evaluate document =
      readProperty (.array items) (String.ofList n.plainText) := by
  have property : keyProperty (.number (.finite n)) = .ok (String.ofList n.plainText) :=
    if_pos admitted
  rw [Tree.evaluate, target, keyed]
  change (keyProperty (.number (.finite n)) >>= readProperty (.array items)) = _
  rw [property]
  rfl

/-- Negative zero reads nothing. -/
theorem evaluate_index_negativeZero (target : object.evaluate document = .ok (.array items))
    (keyed : key.evaluate document = .ok (.number (.finite n)))
    (admitted : (Double.finite n).isIndex = true) (zero : n.isNegativeZero = true) :
    (Tree.index object key).evaluate document = .ok .undefined := by
  rw [evaluate_index target keyed admitted, Finite.plainText_of_isNegativeZero zero, readProperty,
    if_neg (ofList_ne_lengthProperty (by decide) _), position?_minus]
  rfl

/-- Any other number reads at a position that is rounded to it, and up to `2 ^ 53` at itself. -/
theorem exists_position (target : object.evaluate document = .ok (.array items))
    (keyed : key.evaluate document = .ok (.number (.finite n)))
    (admitted : (Double.finite n).isIndex = true) (plus : n.isNegativeZero = false) :
    exists place, Double.ofNat place = .finite n ∧
      (items.length ≤ 2 ^ 64 ∨ place < 2 ^ 64 ->
        (Tree.index object key).evaluate document = .ok (valueOrUndefined items[place]?)) := by
  rcases Finite.exists_digits_of_isIndex admitted plus with
    ⟨digits, text, present, areDigits, rounded⟩
  refine ⟨Decimal.value digits, rounded, fun fits => ?_⟩
  rw [evaluate_index target keyed admitted, text]
  exact readProperty_digits present areDigits fits

/-- In arrays of no more than `2 ^ 53` elements, and at smaller numbers, the number is the place. -/
theorem evaluate_index_wholePart (target : object.evaluate document = .ok (.array items))
    (keyed : key.evaluate document = .ok (.number (.finite n)))
    (admitted : (Double.finite n).isIndex = true) (plus : n.isNegativeZero = false)
    (exact : items.length ≤ 2 ^ 53 ∨ n.wholePart < 2 ^ 53) :
    (Tree.index object key).evaluate document = .ok (valueOrUndefined items[n.wholePart]?) := by
  rcases exists_position target keyed admitted plus with ⟨place, rounded, reads⟩
  rcases Nat.lt_or_ge (2 ^ 53) place with large | small
  · have beyond := Double.le_wholePart_of_ofNat rounded (Nat.le_of_lt large)
    have few : items.length ≤ 2 ^ 53 := by omega
    rw [reads (Or.inl (by omega)), List.getElem?_eq_none (by omega),
      List.getElem?_eq_none (by omega)]
  · rw [Double.wholePart_of_ofNat rounded small]
    exact reads (Or.inr (by omega))

end Keys

/-- The fewest digits of a number beyond `2 ^ 54` can spell another number. -/
example : (Double.ofNat (2 ^ 54 + 8)).plainText = Decimal.digits (2 ^ 54 + 6) := by
  decide +kernel

/--
An array is read by an admitted number at the position that equals the number, provided that the
array has at most `2 ^ 53` elements or the number is smaller than that.  In longer arrays a larger
number is read at a position that is rounded to it.  Negative zero alone reads nothing.  Two other
numbers that are strictly equal read the same, wherever they come from.
-/
theorem number_key_selects_position (document : Json) (object key : Tree) (items : List Json)
    (n : Finite) (target : object.evaluate document = .ok (.array items))
    (keyed : key.evaluate document = .ok (.number (.finite n)))
    (admitted : (Double.finite n).isIndex = true) :
    (n.isNegativeZero = true -> (Tree.index object key).evaluate document = .ok .undefined) ∧
    (n.isNegativeZero = false ->
      (items.length ≤ 2 ^ 53 ∨ n.wholePart < 2 ^ 53 ->
        (Tree.index object key).evaluate document = .ok (valueOrUndefined items[n.wholePart]?)) ∧
      (exists place, Double.ofNat place = .finite n ∧
        (items.length ≤ 2 ^ 64 ->
          (Tree.index object key).evaluate document = .ok (valueOrUndefined items[place]?))) ∧
      (forall (other : Tree) (m : Finite), other.evaluate document = .ok (.number (.finite m)) ->
        m.isNegativeZero = false ->
        (Value.number (.finite n)).strictEquals (.number (.finite m)) = true ->
        (Tree.index object other).evaluate document =
          (Tree.index object key).evaluate document)) := by
  refine ⟨evaluate_index_negativeZero target keyed admitted, fun plus => ⟨?_, ?_, ?_⟩⟩
  · exact evaluate_index_wholePart target keyed admitted plus
  · rcases exists_position target keyed admitted plus with ⟨place, rounded, reads⟩
    exact ⟨place, rounded, fun fits => reads (Or.inl fits)⟩
  · intro other m keyed' plus' equal
    cases Finite.eq_of_equals equal (plus.trans plus'.symm)
    rw [evaluate_index target keyed admitted, evaluate_index target keyed' admitted]

/-- A list, and two fields with numbers to read it by. -/
def numberedDocument : Json :=
  .object [("list", .array [.string "x", .string "y"]), ("last", .integer 1),
    ("first", .double Finite.zero.negate)]

/-- The number one. -/
def single : Finite :=
  ⟨false, 2 ^ 1074, by decide +kernel⟩

theorem number_key_selects_position_last :
    let list : Tree := .member .this "list"
    let last : Tree := .member .this "last"
    last.evaluate numberedDocument = .ok (.number (.finite single)) ∧
      (Double.finite single).isIndex = true ∧ single.isNegativeZero = false ∧
      (Tree.index list last).evaluate numberedDocument = .ok (.string "y") ∧
      (Tree.index list (.literal (.number (.finite single)))).evaluate numberedDocument =
        .ok (.string "y") := by
  intro list last
  have target : list.evaluate numberedDocument = .ok (.array [.string "x", .string "y"]) := rfl
  have converted : Double.ofInt 1 = .finite single := by decide +kernel
  have keyed : last.evaluate numberedDocument = .ok (.number (.finite single)) :=
    converted ▸ rfl
  have admitted : (Double.finite single).isIndex = true := by decide +kernel
  have plus : single.isNegativeZero = false := by decide +kernel
  have whole : single.wholePart = 1 := by decide +kernel
  have reads := number_key_selects_position _ list last _ single target keyed admitted
  have found := (reads.2 plus).1 (Or.inl (by decide))
  rw [whole] at found
  have alike := (reads.2 plus).2.2 (.literal (.number (.finite single))) single rfl plus
    (by decide +kernel)
  exact ⟨keyed, admitted, plus, found, alike.trans found⟩

/-- Negative zero is admitted and strictly equal to zero, but does not read the first element. -/
theorem negativeZero_key_reads_nothing :
    let list : Tree := .member .this "list"
    let first : Tree := .member .this "first"
    Tree.parse "this.list[this.first]" = .ok (.index list first) ∧
      first.evaluate numberedDocument = .ok (.number (.finite Finite.zero.negate)) ∧
      (Double.finite Finite.zero.negate).isIndex = true ∧ Finite.zero.negate.wholePart = 0 ∧
      (Value.number (.finite Finite.zero.negate)).strictEquals (.number .zero) = true ∧
      (Tree.index list first).evaluate numberedDocument = .ok .undefined ∧
      (Tree.index list (.literal (.number .zero))).evaluate numberedDocument =
        .ok (.string "x") := by
  intro list first
  have target : list.evaluate numberedDocument = .ok (.array [.string "x", .string "y"]) := rfl
  have admitted : (Double.finite Finite.zero.negate).isIndex = true := by decide +kernel
  have keyed : first.evaluate numberedDocument = .ok (.number (.finite Finite.zero.negate)) := rfl
  have keyed' : (Tree.literal (.number .zero)).evaluate numberedDocument =
      .ok (.number (.finite Finite.zero)) := rfl
  have nothing := evaluate_index_negativeZero target keyed admitted (by decide +kernel)
  have found := evaluate_index_wholePart target keyed' (by decide +kernel) (by decide +kernel)
    (Or.inl (by decide))
  have none : Finite.zero.wholePart = 0 := by decide +kernel
  rw [none] at found
  have read : Tree.parse "this.list[this.first]" = .ok (.index list first) := by decide +kernel
  exact ⟨read, keyed, admitted, by decide +kernel, by decide +kernel, nothing, found⟩

end Script
end ContactSearch
