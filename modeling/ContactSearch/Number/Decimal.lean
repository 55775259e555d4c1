namespace ContactSearch
namespace Decimal

/-!
# Decimal digits

Writing a natural number in decimal and reading it back.  The writer is the
only place where digits are produced, so every number text of the library
(counts, positions, versions, the digits of a double) goes through it.
-/

/-- The character of a digit; values above nine do not occur. -/
def digit (value : Nat) : Char :=
  Char.ofNat (48 + value)

/-- The value of an ASCII digit. -/
def digitValue (c : Char) : Nat :=
  c.toNat - 48

theorem digitValue_digit {value : Nat} (small : value < 10) :
    digitValue (digit value) = value := by
  have cases : value = 0 ∨ value = 1 ∨ value = 2 ∨ value = 3 ∨ value = 4 ∨
      value = 5 ∨ value = 6 ∨ value = 7 ∨ value = 8 ∨ value = 9 := by omega
  rcases cases with rfl | rfl | rfl | rfl | rfl | rfl | rfl | rfl | rfl | rfl <;> rfl

theorem isDigit_digit {value : Nat} (small : value < 10) :
    (digit value).isDigit = true := by
  have cases : value = 0 ∨ value = 1 ∨ value = 2 ∨ value = 3 ∨ value = 4 ∨
      value = 5 ∨ value = 6 ∨ value = 7 ∨ value = 8 ∨ value = 9 := by omega
  rcases cases with rfl | rfl | rfl | rfl | rfl | rfl | rfl | rfl | rfl | rfl <;> rfl

/-- The decimal digits of a natural number, most significant first; zero is one digit. -/
def digits (n : Nat) : List Char :=
  if n < 10 then [digit n] else digits (n / 10) ++ [digit (n % 10)]
termination_by n

/-- The number that a list of digits denotes, most significant first. -/
def value (cs : List Char) : Nat :=
  cs.foldl (fun total c => 10 * total + digitValue c) 0

@[simp] theorem value_nil : value [] = 0 := rfl

theorem value_append_singleton (cs : List Char) (c : Char) :
    value (cs ++ [c]) = 10 * value cs + digitValue c := by
  simp [value, List.foldl_append]

theorem value_digits (n : Nat) : value (digits n) = n := by
  induction n using Nat.strongRecOn with
  | ind n ih =>
      rw [digits]
      split
      · next small => simp [value, digitValue_digit small]
      · next large =>
          rw [value_append_singleton, ih (n / 10) (by omega),
            digitValue_digit (Nat.mod_lt n (by omega))]
          omega

theorem digits_ne_nil (n : Nat) : digits n ≠ [] := by
  rw [digits]
  split <;> simp

theorem isDigit_of_mem_digits {n : Nat} {c : Char} (member : c ∈ digits n) :
    c.isDigit = true := by
  induction n using Nat.strongRecOn with
  | ind n ih =>
      rw [digits] at member
      split at member
      · next small =>
          rw [List.mem_singleton] at member
          exact member ▸ isDigit_digit small
      · next large =>
          rcases List.mem_append.mp member with front | last
          · exact ih (n / 10) (by omega) front
          · rw [List.mem_singleton] at last
            exact last ▸ isDigit_digit (Nat.mod_lt n (by omega))

/-- How many decimal digits a number has. -/
def count (n : Nat) : Nat :=
  if n < 10 then 1 else count (n / 10) + 1
termination_by n

/-- The decimal text of a natural number. -/
def natText (n : Nat) : String :=
  String.ofList (digits n)

/-- The decimal text of an integer. -/
def intText (n : Int) : String :=
  if n < 0 then "-" ++ natText n.natAbs else natText n.natAbs

/-- The value of a non-empty run of ASCII digits that is the whole text. -/
def read? (cs : List Char) : Option Nat :=
  if cs ≠ [] ∧ cs.all Char.isDigit then some (value cs) else none

theorem read?_digits (n : Nat) : read? (digits n) = some n := by
  have all : (digits n).all Char.isDigit = true :=
    List.all_eq_true.mpr fun _ member => isDigit_of_mem_digits member
  simp [read?, digits_ne_nil, all, value_digits]

end Decimal
end ContactSearch
