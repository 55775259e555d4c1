import ContactSearch.Number.Reading

namespace ContactSearch
namespace Double

/-!
# Numerals

A numeral is a run of digits, with a point and more digits behind it where it
has a fraction.  Such a text is read as the double nearest to the number that
its digits spell, and with a minus sign in front as the negation of that.
-/

/-- Whether a text consists of digits. -/
def AreDigits (cs : List Char) : Prop :=
  forall c, c ∈ cs -> c.isDigit = true

/-- A fraction with its point.  Without digits there is no point. -/
def pointed (fraction : List Char) : List Char :=
  if fraction = [] then [] else '.' :: fraction

theorem pointed_of_ne_nil {fraction : List Char} (present : fraction ≠ []) :
    pointed fraction = '.' :: fraction :=
  if_neg present

theorem decimal?_of_parts (negative : Bool) {whole fraction : List Char} (present : whole ≠ [])
    (digits : AreDigits whole) (digits' : AreDigits fraction) :
    decimal? negative (whole ++ pointed fraction) = some (ofDigits negative whole fraction 0) := by
  rw [decimal?, List.takeWhile_append_of_pos digits, List.dropWhile_append_of_pos digits]
  by_cases none : fraction = []
  · simp [none, pointed, present, exponent?]
  · have rest : fraction.dropWhile Char.isDigit = [] := by
      rw [<- List.append_nil fraction, List.dropWhile_append_of_pos digits']
      rfl
    have taken : fraction.takeWhile Char.isDigit = fraction := by
      rw [<- List.append_nil fraction, List.takeWhile_append_of_pos digits']
      rfl
    have point : Char.isDigit '.' = false := rfl
    simp [pointed, none, present, point, rest, taken, exponent?]

theorem takeSign_of_digit {c : Char} (digit : c.isDigit = true) (rest : List Char) :
    takeSign (c :: rest) = (false, c :: rest) := by
  unfold takeSign
  split
  · next same =>
      cases same
      cases digit
  · next same =>
      cases same
      cases digit
  · rfl

theorem toLower_of_digit {c : Char} (digit : c.isDigit = true) : c.toLower = c := by
  have bounds : 48 ≤ c.val.toNat ∧ c.val.toNat ≤ 57 := by
    simpa [Char.isDigit, UInt32.le_iff_toNat_le] using digit
  apply dif_neg
  intro upper
  have least : 65 ≤ c.val.toNat := by simpa [UInt32.le_iff_toNat_le] using upper.1
  omega

/-- The name of a special value does not begin with a digit. -/
theorem named?_of_digit (negative : Bool) {c : Char} (digit : c.isDigit = true)
    (rest : List Char) : named? negative (c :: rest) = none := by
  have apart (first : Char) (others : List Char) (letter : first.isDigit = false) :
      String.ofList ((c :: rest).map Char.toLower) ≠ String.ofList (first :: others) := by
    intro same
    have chars := String.ofList_injective same
    rw [List.map_cons, toLower_of_digit digit] at chars
    rw [(List.cons.inj chars).1, letter] at digit
    cases digit
  rw [named?, if_neg, if_neg]
  · exact apart 'n' ['a', 'n'] rfl
  · rintro (same | same)
    · exact apart 'i' ['n', 'f'] rfl same
    · exact apart 'i' ['n', 'f', 'i', 'n', 'i', 't', 'y'] rfl same

/-- A numeral is read as the number that its digits spell. -/
theorem ofText?_of_parts {whole fraction : List Char} (present : whole ≠ [])
    (digits : AreDigits whole) (digits' : AreDigits fraction) :
    ofText? (whole ++ pointed fraction) = some (ofDigits false whole fraction 0) := by
  cases whole with
  | nil => exact absurd rfl present
  | cons c whole =>
      have digit := digits c List.mem_cons_self
      rw [ofText?, List.cons_append, takeSign_of_digit digit, named?_of_digit false digit,
        Option.none_or, <- List.cons_append]
      exact decimal?_of_parts false present digits digits'

/-- A numeral behind a minus sign is read as the negated number. -/
theorem ofText?_of_minus {whole fraction : List Char} (present : whole ≠ [])
    (digits : AreDigits whole) (digits' : AreDigits fraction) :
    ofText? ('-' :: (whole ++ pointed fraction)) = some (ofDigits true whole fraction 0) := by
  cases whole with
  | nil => exact absurd rfl present
  | cons c whole =>
      have digit := digits c List.mem_cons_self
      rw [ofText?, takeSign, List.cons_append, named?_of_digit true digit, Option.none_or,
        <- List.cons_append]
      exact decimal?_of_parts true present digits digits'

theorem negative_of_ofUnits {negative : Bool} {numerator denominator : Nat} {x : Finite}
    (same : ofUnits negative numerator denominator = .finite x) : x.negative = negative := by
  rw [ofUnits] at same
  split at same <;> cases same
  rfl

/-- A finite number keeps the sign of its numeral, also when it is rounded to zero. -/
theorem negative_of_ofDigits {negative : Bool} {whole fraction : List Char} {exponent : Int}
    {x : Finite} (same : ofDigits negative whole fraction exponent = .finite x) :
    x.negative = negative := by
  rw [ofDigits, ofDecimal.eq_def] at same
  split at same
  · exact negative_of_ofUnits same
  · split at same
    · split at same
      · cases same
      · exact negative_of_ofUnits same
    · split at same <;> exact negative_of_ofUnits same

theorem ofUnits_cases (negative : Bool) (numerator denominator : Nat) :
    (exists x : Finite, ofUnits negative numerator denominator = .finite x) ∨
      ofUnits negative numerator denominator = .infinite negative := by
  rw [ofUnits]
  split
  · exact Or.inl ⟨_, rfl⟩
  · exact Or.inr rfl

/-- What digits spell is a number or too large for one. -/
theorem ofDigits_cases (negative : Bool) (whole fraction : List Char) (exponent : Int) :
    (exists x : Finite, ofDigits negative whole fraction exponent = .finite x) ∨
      ofDigits negative whole fraction exponent = .infinite negative := by
  rw [ofDigits, ofDecimal.eq_def]
  split
  · exact ofUnits_cases negative _ _
  · split
    · split
      · exact Or.inr rfl
      · exact ofUnits_cases negative _ _
    · split <;> exact ofUnits_cases negative _ _

end Double
end ContactSearch
