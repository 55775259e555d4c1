namespace ContactSearch

/-!
# Double precision numbers as exact data

A finite double is a whole number of units, one unit being `2 ^ -1074`, the
smallest positive double.  In units every finite double is a natural number
and a sign, so equality, order and arithmetic are exact arithmetic on natural
numbers followed by one rounding step.  Nothing here depends on the machine's
own floating point operations, which a proof could not look into.
-/

-- powers of whole numbers are the core library's, also where another library has powers of its own
attribute [instance (high + 1), default_instance (high + 1)] instPowNat

/-- One is this power of two in units. -/
def unitExponent : Nat := 1074

/-- The number of units in one. -/
def unitsPerOne : Nat := 2 ^ unitExponent

/-- Doubles near a magnitude lie this power of two units apart: 53 significant bits are kept. -/
def spacingExponent (units : Nat) : Nat :=
  units.log2 - 52

/-- The smallest magnitude in units that is too large for a finite double. -/
def overflowUnits : Nat := 2 ^ 2098

/-- A magnitude that a double can hold: at most 53 significant bits, below the threshold. -/
def Representable (units : Nat) : Prop :=
  units < overflowUnits ∧ 2 ^ spacingExponent units ∣ units

instance (units : Nat) : Decidable (Representable units) :=
  inferInstanceAs (Decidable (_ ∧ _))

/-- A quotient rounded to the nearest natural number, a half going to the even neighbour. -/
def divideToEven (numerator denominator : Nat) : Nat :=
  let quotient := numerator / denominator
  let twice := 2 * (numerator % denominator)
  if twice < denominator then quotient
  else if denominator < twice then quotient + 1
  else quotient + quotient % 2

theorem divideToEven_le (numerator denominator : Nat) :
    divideToEven numerator denominator ≤ numerator / denominator + 1 := by
  simp only [divideToEven]
  split
  · omega
  · split <;> omega

theorem le_divideToEven (numerator denominator : Nat) :
    numerator / denominator ≤ divideToEven numerator denominator := by
  simp only [divideToEven]
  split
  · omega
  · split <;> omega

/-- A quotient rounded to the nearest grid point of its own magnitude. -/
def roundUnits (numerator denominator : Nat) : Nat :=
  let step := 2 ^ spacingExponent (numerator / denominator)
  divideToEven numerator (denominator * step) * step

theorem spacing_divides_multiple {mantissa : Nat} (small : mantissa ≤ 2 ^ 53) (exponent : Nat) :
    2 ^ spacingExponent (mantissa * 2 ^ exponent) ∣ mantissa * 2 ^ exponent := by
  rcases Nat.eq_zero_or_pos mantissa with rfl | positive
  · simp
  · have nonzero : mantissa * 2 ^ exponent ≠ 0 :=
      Nat.mul_ne_zero (by omega) (Nat.pos_iff_ne_zero.mp (Nat.two_pow_pos exponent))
    rcases Nat.lt_or_eq_of_le small with below | rfl
    · have bound : (mantissa * 2 ^ exponent).log2 < 53 + exponent := by
        rw [Nat.log2_lt nonzero, Nat.pow_add]
        exact Nat.mul_lt_mul_of_pos_right below (Nat.two_pow_pos exponent)
      exact Nat.dvd_trans (Nat.pow_dvd_pow 2 (by unfold spacingExponent; omega))
        (Nat.dvd_mul_left _ _)
    · rw [← Nat.pow_add]
      exact Nat.pow_dvd_pow 2 (by rw [spacingExponent, Nat.log2_two_pow]; omega)

theorem quotient_lt_mantissa_bound (numerator denominator : Nat) :
    numerator / (denominator * 2 ^ spacingExponent (numerator / denominator)) < 2 ^ 53 := by
  rw [← Nat.div_div_eq_div_mul]
  generalize numerator / denominator = quotient
  apply Nat.div_lt_of_lt_mul
  rw [← Nat.pow_add]
  exact Nat.lt_of_lt_of_le Nat.lt_log2_self
    (Nat.pow_le_pow_right (by omega) (by unfold spacingExponent; omega))

theorem spacing_divides_roundUnits (numerator denominator : Nat) :
    2 ^ spacingExponent (roundUnits numerator denominator) ∣ roundUnits numerator denominator := by
  apply spacing_divides_multiple
  have below := quotient_lt_mantissa_bound numerator denominator
  have upper := divideToEven_le numerator
    (denominator * 2 ^ spacingExponent (numerator / denominator))
  omega

/-- A finite double: a sign and a magnitude in units.  Zero has both signs. -/
structure Finite where
  negative : Bool
  units : Nat
  representable : Representable units
  deriving DecidableEq

namespace Finite

/-- Positive zero. -/
def zero : Finite :=
  ⟨false, 0, by decide +kernel⟩

instance : Inhabited Finite :=
  ⟨zero⟩

/-- Numeric equality: the two zeros are equal. -/
def equals (left right : Finite) : Bool :=
  left.units == right.units && (left.negative == right.negative || left.units == 0)

theorem equals_refl (x : Finite) : x.equals x = true := by
  simp [equals]

theorem equals_comm (left right : Finite) : left.equals right = right.equals left := by
  by_cases same : left.units = right.units
  · simp [equals, same, Bool.beq_comm (a := left.negative)]
  · have other : ¬ right.units = left.units := fun h => same h.symm
    rw [equals, equals, beq_false_of_ne same, beq_false_of_ne other]
    rfl

theorem equals_trans {first second third : Finite}
    (left : first.equals second = true) (right : second.equals third = true) :
    first.equals third = true := by
  simp only [equals, Bool.and_eq_true, Bool.or_eq_true, beq_iff_eq] at left right ⊢
  refine ⟨left.1.trans right.1, ?_⟩
  rcases left.2 with sign | none
  · rcases right.2 with sign' | none'
    · exact Or.inl (sign.trans sign')
    · exact Or.inr (left.1.trans none')
  · exact Or.inr none

/-- Whether the value has no fractional part. -/
def isWhole (x : Finite) : Bool :=
  x.units % unitsPerOne == 0

/-- The integral part of the magnitude. -/
def wholePart (x : Finite) : Nat :=
  x.units / unitsPerOne

/-- Whether the value is at least zero; both zeros are. -/
def isNonnegative (x : Finite) : Bool :=
  !x.negative || x.units == 0

/-- The same magnitude with the sign turned. -/
def negate (x : Finite) : Finite :=
  { x with negative := !x.negative }

end Finite

/-- A double precision number. -/
inductive Double where
  | nan
  | infinite (negative : Bool)
  | finite (value : Finite)
  deriving DecidableEq, Inhabited

namespace Double

/-- The double nearest to a quotient of units; a magnitude beyond the largest double is infinite. -/
def ofUnits (negative : Bool) (numerator denominator : Nat) : Double :=
  if bounded : roundUnits numerator denominator < overflowUnits then
    .finite ⟨negative, roundUnits numerator denominator,
      bounded, spacing_divides_roundUnits numerator denominator⟩
  else
    .infinite negative

/-- The double nearest to a quotient. -/
def ofRatio (negative : Bool) (numerator denominator : Nat) : Double :=
  ofUnits negative (numerator * unitsPerOne) denominator

/-- The double nearest to a natural number. -/
def ofNat (n : Nat) : Double :=
  ofRatio false n 1

/-- The double nearest to an integer. -/
def ofInt (n : Int) : Double :=
  ofRatio (n < 0) n.natAbs 1

/--
The double nearest to `coefficient * 10 ^ exponent`.  The first two cases settle numbers
whose exact value is known to overflow or to vanish without building it.
-/
def ofDecimal (negative : Bool) (coefficient : Nat) (exponent : Int) : Double :=
  if coefficient = 0 then
    ofRatio negative 0 1
  else
    match exponent with
    | .ofNat up =>
        if 310 < up then .infinite negative
        else ofRatio negative (coefficient * 10 ^ up) 1
    | .negSucc below =>
        if coefficient.log2 + 1081 < 3 * (below + 1) then ofRatio negative 0 1
        else ofRatio negative coefficient (10 ^ (below + 1))

def zero : Double :=
  .finite Finite.zero

def one : Double :=
  ofNat 1

/-- The product of two finite doubles, rounded once. -/
def multiply (left right : Finite) : Double :=
  ofUnits (left.negative != right.negative) (left.units * right.units) unitsPerOne

/-- The quotient of two finite doubles, rounded once; the divisor is not zero. -/
def divide (left right : Finite) : Double :=
  ofUnits (left.negative != right.negative) (left.units * unitsPerOne) right.units

/-- Equality of numbers: not-a-number differs from everything, itself included. -/
def equals : Double -> Double -> Bool
  | .finite left, .finite right => left.equals right
  | .infinite left, .infinite right => left == right
  | _, _ => false

theorem equals_comm (left right : Double) : left.equals right = right.equals left := by
  cases left <;> cases right <;> simp [equals, Finite.equals_comm, Bool.beq_comm]

theorem equals_self_iff (x : Double) : x.equals x = true <-> x ≠ .nan := by
  cases x <;> simp [equals, Finite.equals_refl]

theorem equals_trans {first second third : Double}
    (left : first.equals second = true) (right : second.equals third = true) :
    first.equals third = true := by
  cases first <;> cases second <;> simp [equals] at left <;> cases third <;>
    simp [equals] at right ⊢
  · exact left.trans right
  · exact Finite.equals_trans left right

/-- Whether the number counts as true: neither zero nor not-a-number. -/
def isTruthy : Double -> Bool
  | .nan => false
  | .infinite _ => true
  | .finite value => value.units != 0

/-- Whether the number may select an element: finite, whole and at least zero. -/
def isIndex : Double -> Bool
  | .finite value => value.isWhole && value.isNonnegative
  | _ => false

end Double
end ContactSearch
