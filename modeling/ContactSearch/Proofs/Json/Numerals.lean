import ContactSearch.Proofs.Json.Quoting

namespace ContactSearch

/-!
# Numerals in front of other text

A numeral ends at a comma, a closing mark or the end of the text.  What is
read from it does then not depend on what follows.  So it is enough to know
how the text of a number is read by itself.  For integers within their bounds
this is shown here; a double is read back or not depending on its digits.
-/

namespace Decimal

/-- Only zero begins with the digit zero. -/
theorem exists_digits_cons (n : Nat) :
    n = 0 ∨ exists c rest, digits n = c :: rest ∧ c ≠ '0' := by
  induction n using Nat.strongRecOn with
  | ind n ih =>
      rw [digits]
      split
      · next small =>
          by_cases zero : n = 0
          · exact Or.inl zero
          · refine Or.inr ⟨digit n, [], rfl, fun same => zero ?_⟩
            rw [<- digitValue_digit small, same]
            rfl
      · next large =>
          rcases ih (n / 10) (by omega) with none | ⟨c, rest, shape, other⟩
          · omega
          · rw [shape]
            exact Or.inr ⟨c, _, rfl, other⟩

end Decimal

namespace Json

/-! ## What may follow a numeral -/

section Delimits

variable {rest : List Char}

theorem Delimits.head (delimits : Delimits rest) {c : Char} (first : c ∈ rest.head?) :
    c = ',' ∨ c = ']' ∨ c = '}' := by
  cases rest with
  | nil => cases first
  | cons d rest =>
      cases first
      exact delimits

theorem Delimits.spanDigits (delimits : Delimits rest) : spanDigits rest = ([], rest) := by
  cases rest with
  | nil => rfl
  | cons c rest => rcases delimits with rfl | rfl | rfl <;> rfl

theorem spanDigits_append (delimits : Delimits rest) (cs : List Char) :
    spanDigits (cs ++ rest) = ((spanDigits cs).1, (spanDigits cs).2 ++ rest) := by
  induction cs with
  | nil => exact delimits.spanDigits
  | cons c cs ih =>
      rw [Json.spanDigits, Prod.mk.injEq] at ih
      rw [Json.spanDigits, Json.spanDigits, List.cons_append]
      cases digit : c.isDigit with
      | true =>
          rw [List.takeWhile_cons_of_pos digit, List.takeWhile_cons_of_pos digit,
            List.dropWhile_cons_of_pos digit, List.dropWhile_cons_of_pos digit, ih.1, ih.2]
          rfl
      | false =>
          have stop : ¬ c.isDigit = true := Bool.eq_false_iff.mp digit
          rw [List.takeWhile_cons_of_neg stop, List.takeWhile_cons_of_neg stop,
            List.dropWhile_cons_of_neg stop, List.dropWhile_cons_of_neg stop, List.cons_append]

/-- The digits of an exponent whose sign is known. -/
def readMagnitude? (negative : Bool) (cs : List Char) : Option (Int × List Char) :=
  if (spanDigits cs).1 = [] then none
  else
    let magnitude : Int := Decimal.value (spanDigits cs).1
    some (if negative then -magnitude else magnitude, (spanDigits cs).2)

theorem readExponent?_cons (c : Char) (cs : List Char) :
    readExponent? (c :: cs) =
      if c = '-' then readMagnitude? true cs
      else if c = '+' then readMagnitude? false cs
      else readMagnitude? false (c :: cs) := by
  by_cases minus : c = '-'
  · rw [if_pos minus, minus]
    rfl
  by_cases plus : c = '+'
  · rw [if_neg minus, if_pos plus, plus]
    rfl
  · rw [if_neg minus, if_neg plus]
    unfold readExponent?
    split
    next shape =>
      split at shape
      · next same => exact absurd (List.cons.inj same).1 minus
      · next same => exact absurd (List.cons.inj same).1 plus
      · cases shape
        rfl

theorem readMagnitude?_append (delimits : Delimits rest) (negative : Bool) (cs : List Char) :
    readMagnitude? negative (cs ++ rest) =
      (readMagnitude? negative cs).map fun pair => (pair.1, pair.2 ++ rest) := by
  rw [readMagnitude?, readMagnitude?, spanDigits_append delimits]
  split <;> rfl

theorem readExponent?_append (delimits : Delimits rest) (cs : List Char) :
    readExponent? (cs ++ rest) =
      (readExponent? cs).map fun pair => (pair.1, pair.2 ++ rest) := by
  cases cs with
  | nil =>
      cases rest with
      | nil => rfl
      | cons c rest => rcases delimits with rfl | rfl | rfl <;> rfl
  | cons c cs =>
      rw [List.cons_append, readExponent?_cons, readExponent?_cons]
      split
      · exact readMagnitude?_append delimits true cs
      · split
        · exact readMagnitude?_append delimits false cs
        · exact readMagnitude?_append delimits false (c :: cs)

theorem readExponentPart?_append (delimits : Delimits rest) (cs : List Char) :
    readExponentPart? (cs ++ rest) =
      (readExponentPart? cs).map fun pair => (pair.1, pair.2 ++ rest) := by
  cases cs with
  | nil =>
      cases rest with
      | nil => rfl
      | cons c rest => rcases delimits with rfl | rfl | rfl <;> rfl
  | cons c cs =>
      rw [List.cons_append, readExponentPart?, readExponentPart?]
      split
      · rw [readExponent?_append delimits, Option.map_map, Option.map_map]
        rfl
      · rfl

/-! ## Numerals -/

/-- What follows the digits of a numeral: an exponent or nothing. -/
def readEnd? (negative : Bool) (whole fraction : List Char) (isWhole : Bool) (cs : List Char) :
    Option (Json × List Char) := do
  let (exponent, after) ← readExponentPart? cs
  let value ← numeral? negative whole fraction (exponent.getD 0) (isWhole && exponent.isNone)
  return (value, after)

/-- What follows the whole part of a numeral: a fraction or nothing, and its end. -/
def readAfterWhole? (negative : Bool) (whole : List Char) : List Char -> Option (Json × List Char)
  | '.' :: cs =>
      if (spanDigits cs).1 = [] then none
      else readEnd? negative whole (spanDigits cs).1 false (spanDigits cs).2
  | cs => readEnd? negative whole [] true cs

theorem readUnsigned?_eq (negative : Bool) (cs : List Char) :
    readUnsigned? negative cs =
      if isWholePart (spanDigits cs).1 then
        readAfterWhole? negative (spanDigits cs).1 (spanDigits cs).2
      else none := by
  rw [readUnsigned?]
  cases spanDigits cs with
  | mk whole afterWhole =>
      dsimp only
      split
      · split
        · rw [readAfterWhole?]
          split <;> rfl
        · next noPoint =>
            rw [readAfterWhole?.eq_2 negative whole afterWhole noPoint]
            rfl
      · rfl

theorem readEnd?_append (delimits : Delimits rest) (negative : Bool) (whole fraction : List Char)
    (isWhole : Bool) (cs : List Char) :
    readEnd? negative whole fraction isWhole (cs ++ rest) =
      (readEnd? negative whole fraction isWhole cs).map fun pair => (pair.1, pair.2 ++ rest) := by
  rw [readEnd?, readEnd?, readExponentPart?_append delimits]
  cases readExponentPart? cs with
  | none => rfl
  | some pair =>
      simp only [Option.map_some, Option.bind_eq_bind, Option.bind_some]
      cases numeral? negative whole fraction (pair.1.getD 0) (isWhole && pair.1.isNone) <;> rfl

theorem readAfterWhole?_of_ne (negative : Bool) (whole : List Char) {cs : List Char}
    (noPoint : cs.head? ≠ some '.') :
    readAfterWhole? negative whole cs = readEnd? negative whole [] true cs := by
  rw [readAfterWhole?.eq_2]
  rintro behind rfl
  exact noPoint rfl

theorem readAfterWhole?_append (delimits : Delimits rest) (negative : Bool)
    (whole cs : List Char) :
    readAfterWhole? negative whole (cs ++ rest) =
      (readAfterWhole? negative whole cs).map fun pair => (pair.1, pair.2 ++ rest) := by
  by_cases point : cs.head? = some '.'
  · rcases List.head?_eq_some_iff.mp point with ⟨behind, rfl⟩
    rw [List.cons_append, readAfterWhole?, readAfterWhole?, spanDigits_append delimits]
    split
    · rfl
    · exact readEnd?_append delimits negative whole _ false _
  · have noPoint : (cs ++ rest).head? ≠ some '.' := by
      cases cs with
      | nil =>
          intro same
          rcases delimits.head same with other | other | other <;> cases other
      | cons c cs => exact point
    rw [readAfterWhole?_of_ne negative whole noPoint, readAfterWhole?_of_ne negative whole point]
    exact readEnd?_append delimits negative whole [] true cs

theorem readUnsigned?_append (delimits : Delimits rest) (negative : Bool) (cs : List Char) :
    readUnsigned? negative (cs ++ rest) =
      (readUnsigned? negative cs).map fun pair => (pair.1, pair.2 ++ rest) := by
  rw [readUnsigned?_eq, readUnsigned?_eq, spanDigits_append delimits]
  split
  · exact readAfterWhole?_append delimits negative _ _
  · rfl

theorem readNumber?_of_ne {cs : List Char} (unsigned : cs.head? ≠ some '-') :
    readNumber? cs = readUnsigned? false cs := by
  rw [readNumber?.eq_2]
  rintro behind rfl
  exact unsigned rfl

/-- What is read from a numeral does not depend on what follows it. -/
theorem readNumber?_append (delimits : Delimits rest) (cs : List Char) :
    readNumber? (cs ++ rest) = (readNumber? cs).map fun pair => (pair.1, pair.2 ++ rest) := by
  by_cases minus : cs.head? = some '-'
  · rcases List.head?_eq_some_iff.mp minus with ⟨behind, rfl⟩
    exact readUnsigned?_append delimits true behind
  · have unsigned : (cs ++ rest).head? ≠ some '-' := by
      cases cs with
      | nil =>
          intro same
          rcases delimits.head same with other | other | other <;> cases other
      | cons c cs => exact minus
    rw [readNumber?_of_ne unsigned, readNumber?_of_ne minus]
    exact readUnsigned?_append delimits false cs

end Delimits

/-- A numeral begins with a digit or with a minus sign. -/
theorem exists_of_readNumber? {cs : List Char} {pair : Json × List Char}
    (read : readNumber? cs = some pair) :
    exists c rest, cs = c :: rest ∧ (c = '-' ∨ c.isDigit = true) := by
  cases cs with
  | nil => cases read
  | cons c rest =>
      refine ⟨c, rest, rfl, ?_⟩
      by_cases minus : c = '-'
      · exact Or.inl minus
      · have unsigned : (c :: rest).head? ≠ some '-' := fun same => minus (Option.some.inj same)
        rw [readNumber?_of_ne unsigned, readUnsigned?_eq] at read
        cases digit : c.isDigit with
        | true => exact Or.inr rfl
        | false =>
            have stop : ¬ c.isDigit = true := Bool.eq_false_iff.mp digit
            rw [spanDigits, List.takeWhile_cons_of_neg stop] at read
            cases read

/-! ## Integers -/

/-- The integers that are kept as integers: 64 bits, counted with a sign below zero. -/
def isMachineInteger (value : Int) : Bool :=
  -2 ^ 63 ≤ value && value < 2 ^ 64

theorem spanDigits_digits (n : Nat) :
    spanDigits (Decimal.digits n) = (Decimal.digits n, []) := by
  have all : forall c, c ∈ Decimal.digits n -> c.isDigit = true :=
    fun c member => Decimal.isDigit_of_mem_digits member
  have taken := @List.takeWhile_append_of_pos _ Char.isDigit (Decimal.digits n) [] all
  have dropped := @List.dropWhile_append_of_pos _ Char.isDigit (Decimal.digits n) [] all
  rw [List.append_nil] at taken dropped
  rw [spanDigits, taken, dropped, List.takeWhile_nil, List.dropWhile_nil, List.append_nil]

theorem isWholePart_digits (n : Nat) : isWholePart (Decimal.digits n) = true := by
  rcases Decimal.exists_digits_cons n with rfl | ⟨c, rest, shape, other⟩
  · rw [Decimal.digits]
    rfl
  · rw [shape, isWholePart.eq_3]
    · exact bne_iff_ne.mpr other
    · exact fun same _ => other same

/-- Digits without a fraction and an exponent are read as an integer if it is within bounds. -/
theorem readUnsigned?_digits {negative : Bool} {n : Nat} {value : Int}
    (bounded : integer? negative (Decimal.digits n) = some value) :
    readUnsigned? negative (Decimal.digits n) = some (.integer value, []) := by
  rw [readUnsigned?_eq, spanDigits_digits, if_pos (isWholePart_digits n), readAfterWhole?.eq_2,
    readEnd?, readExponentPart?]
  · simp only [Option.bind_eq_bind, Option.bind_some, Option.isNone_none, Bool.and_true,
      numeral?, if_true, bounded]
    rfl
  · nofun

/-- The text of an integer within bounds is read as the integer. -/
theorem readNumber?_integerText {value : Int} (bounded : isMachineInteger value = true) :
    readNumber? (integerText value) = some (.integer value, []) := by
  simp only [isMachineInteger, Bool.and_eq_true, decide_eq_true_eq] at bounded
  rw [integerText]
  split
  · next negative =>
      apply readUnsigned?_digits
      rw [integer?, Decimal.value_digits, if_pos rfl, if_pos ⟨by omega, by omega⟩]
      exact congrArg some (by omega)
  · next positive =>
      have unsigned : (Decimal.digits value.natAbs).head? ≠ some '-' := by
        intro same
        have digit := Decimal.isDigit_of_mem_digits (List.mem_of_head? same)
        cases digit
      rw [readNumber?_of_ne unsigned]
      apply readUnsigned?_digits
      rw [integer?, Decimal.value_digits, if_neg Bool.false_ne_true, significandBound,
        if_pos (by omega)]
      exact congrArg some (by omega)

/-! ## Doubles -/

/-- Whether a double is read back from its text. -/
def isReadBack (x : Finite) : Bool :=
  match readNumber? x.documentText with
  | some (.double y, []) => y == x
  | _ => false

theorem readNumber?_documentText {x : Finite} (back : isReadBack x = true) :
    readNumber? x.documentText = some (.double x, []) := by
  rw [isReadBack] at back
  split at back
  · next y read => rw [read, eq_of_beq back]
  · cases back

end Json
end ContactSearch
