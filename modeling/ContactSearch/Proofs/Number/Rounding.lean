import ContactSearch.Number.Shortest

namespace ContactSearch

/-!
# The rounding interval of a double

A quotient is rounded to a double exactly where the interval around the double
says so.  The interval ends half a step above the double.  Below, it ends half
a step away as well, but below a power of two the steps are half as wide, and
the interval ends half of such a step away.

Only the direction that reading back needs is proved: what lies within the
interval is rounded to the double.
-/

/-! ## One step -/

/--
A quotient within half a step of a whole number is rounded to it.  Where it is exactly half a
step away, the number has to be even.
-/
theorem divideToEven_eq {numerator step whole : Nat} (positive : 0 < step)
    (low : 2 * (whole * step) ≤ 2 * numerator + step)
    (high : 2 * numerator ≤ 2 * (whole * step) + step)
    (tie : whole % 2 = 1 ->
      2 * (whole * step) < 2 * numerator + step ∧ 2 * numerator < 2 * (whole * step) + step) :
    divideToEven numerator step = whole := by
  have split := Nat.div_add_mod numerator step
  have small := Nat.mod_lt numerator positive
  rw [divideToEven]
  generalize numerator / step = quotient at split
  generalize numerator % step = rest at split small
  rw [Nat.mul_comm] at split
  have notBelow : ¬ whole < quotient := by
    intro below
    have wider := Nat.mul_le_mul_right step (Nat.succ_le_of_lt below)
    rw [Nat.succ_mul] at wider
    omega
  have notAbove : ¬ quotient + 1 < whole := by
    intro above
    have wider := Nat.mul_le_mul_right step (Nat.succ_le_of_lt above)
    rw [Nat.succ_mul, Nat.succ_mul] at wider
    omega
  rcases Nat.lt_or_ge quotient whole with above | below
  · have next : whole = quotient + 1 := by omega
    subst next
    rw [Nat.succ_mul quotient] at low high tie
    split
    · omega
    · split <;> omega
  · have same : whole = quotient := by omega
    subst same
    split
    · rfl
    · split <;> omega

/-! ## The steps of a magnitude -/

namespace Finite

theorem spacing_pos (units : Nat) : 0 < spacing units :=
  Nat.two_pow_pos _

theorem lowerReach_le (units : Nat) : lowerReach units ≤ 2 * spacing units := by
  rw [lowerReach]
  have positive := spacing_pos units
  split <;> omega

end Finite

/-- Small magnitudes lie one unit apart. -/
theorem spacingExponent_of_lt {units : Nat} (small : units < 2 ^ 53) :
    spacingExponent units = 0 := by
  rcases Nat.eq_zero_or_pos units with rfl | positive
  · rfl
  · have bound := (Nat.log2_lt (Nat.pos_iff_ne_zero.mp positive)).mpr small
    rw [spacingExponent]
    omega

/-- The steps between two powers of two. -/
theorem spacingExponent_of_between {units exponent : Nat} (low : 2 ^ (52 + exponent) ≤ units)
    (high : units < 2 ^ (53 + exponent)) : spacingExponent units = exponent := by
  have nonzero : units ≠ 0 := by
    have positive := Nat.two_pow_pos (52 + exponent)
    omega
  have above := (Nat.le_log2 nonzero).mpr low
  have below := (Nat.log2_lt nonzero).mpr high
  rw [spacingExponent]
  omega

/-- A magnitude in steps: at most 53 bits of them, and all 53 unless the steps are single units. -/
theorem exists_steps {units : Nat} (positive : 0 < units)
    (grid : 2 ^ spacingExponent units ∣ units) :
    exists steps, units = steps * Finite.spacing units ∧ steps < 2 ^ 53 ∧
      (spacingExponent units = 0 ∨ 2 ^ 52 ≤ steps) := by
  rcases grid with ⟨steps, split⟩
  rw [Nat.mul_comm] at split
  refine ⟨steps, split, ?_, ?_⟩
  · have few := quotient_lt_mantissa_bound units 1
    rw [Nat.div_one, Nat.one_mul] at few
    have quotient : units / 2 ^ spacingExponent units = steps :=
      Nat.div_eq_of_eq_mul_left (Nat.two_pow_pos _) split
    rwa [quotient] at few
  · rcases Nat.lt_or_ge 52 units.log2 with wide | narrow
    · have top := Nat.log2_self_le (Nat.pos_iff_ne_zero.mp positive)
      have exponent : units.log2 = 52 + spacingExponent units := by
        rw [spacingExponent]
        omega
      rw [exponent, Nat.pow_add] at top
      have total : 2 ^ 52 * 2 ^ spacingExponent units ≤ steps * 2 ^ spacingExponent units :=
        Nat.le_trans top (Nat.le_of_eq split)
      exact Or.inr (Nat.le_of_mul_le_mul_right total (Nat.two_pow_pos _))
    · exact Or.inl (by rw [spacingExponent]; omega)

/-! ## The interval -/

/-- A quotient of units that lies in the rounding interval of a magnitude. -/
structure Within (numerator denominator units : Nat) : Prop where
  low : (4 * units - Finite.lowerReach units) * denominator ≤ 4 * numerator
  high : 4 * numerator ≤ (4 * units + Finite.upperReach units) * denominator
  inside : Finite.closedInterval units = false ->
    (4 * units - Finite.lowerReach units) * denominator < 4 * numerator ∧
      4 * numerator < (4 * units + Finite.upperReach units) * denominator

section Within

variable {numerator denominator units : Nat}

/-- The interval in products that are not subtracted. -/
theorem Within.bounds (within : Within numerator denominator units) :
    4 * (units * denominator) ≤ 4 * numerator + Finite.lowerReach units * denominator ∧
      4 * numerator ≤ 4 * (units * denominator) + 2 * (denominator * Finite.spacing units) := by
  have low := within.low
  have high := within.high
  rw [Nat.sub_mul, Nat.mul_assoc] at low
  rw [Nat.add_mul, Nat.mul_assoc, Finite.upperReach, Nat.mul_assoc,
    Nat.mul_comm (Finite.spacing units)] at high
  exact ⟨by omega, high⟩

theorem Within.strictBounds (within : Within numerator denominator units)
    (isOpen : Finite.closedInterval units = false) :
    4 * (units * denominator) < 4 * numerator + Finite.lowerReach units * denominator ∧
      4 * numerator < 4 * (units * denominator) + 2 * (denominator * Finite.spacing units) := by
  rcases within.inside isOpen with ⟨low, high⟩
  rw [Nat.sub_mul, Nat.mul_assoc] at low
  rw [Nat.add_mul, Nat.mul_assoc, Finite.upperReach, Nat.mul_assoc,
    Nat.mul_comm (Finite.spacing units)] at high
  exact ⟨by omega, high⟩

/-- In the interval and on the grid of the magnitude, the quotient is rounded to the magnitude. -/
theorem Within.roundUnits_of_same (within : Within numerator denominator units)
    (positive : 0 < denominator) {steps : Nat} (split : units = steps * Finite.spacing units)
    (same : spacingExponent (numerator / denominator) = spacingExponent units) :
    roundUnits numerator denominator = units := by
  have product : units * denominator = steps * (denominator * Finite.spacing units) := by
    rw [Nat.mul_comm denominator, <- Nat.mul_assoc, <- split]
  have reach : Finite.lowerReach units * denominator ≤
      2 * (denominator * Finite.spacing units) := by
    rw [Nat.mul_left_comm, Nat.mul_comm]
    exact Nat.mul_le_mul_left denominator (Finite.lowerReach_le units)
  have rounded : divideToEven numerator (denominator * Finite.spacing units) = steps := by
    have bounds := within.bounds
    apply divideToEven_eq (Nat.mul_pos positive (Finite.spacing_pos units))
    · omega
    · omega
    · intro odd
      have quotient : units / Finite.spacing units = steps :=
        Nat.div_eq_of_eq_mul_left (Finite.spacing_pos units) split
      have isOpen : Finite.closedInterval units = false := by
        rw [Finite.closedInterval, quotient, odd]
        rfl
      have strict := within.strictBounds isOpen
      omega
  rw [roundUnits, same]
  exact (congrArg (· * Finite.spacing units) rounded).trans split.symm

/-- Just below a power of two, the quotient is rounded to that power on a grid twice as fine. -/
theorem Within.roundUnits_of_finer (within : Within numerator denominator units)
    (positive : 0 < denominator) {exponent : Nat} (power : units = 2 ^ (53 + exponent))
    (below : numerator < units * denominator) :
    roundUnits numerator denominator = units := by
  have log : units.log2 = 53 + exponent := by rw [power, Nat.log2_two_pow]
  have coarse : Finite.spacing units = 2 * 2 ^ exponent := by
    have exponents : spacingExponent units = 1 + exponent := by
      rw [spacingExponent, log]
      omega
    rw [Finite.spacing, exponents, Nat.pow_add, Nat.pow_one]
  have reach : Finite.lowerReach units = 2 * 2 ^ exponent := by
    rw [Finite.lowerReach, if_pos ⟨by rw [log, power], by omega⟩, coarse]
  have split : units = 2 ^ 53 * 2 ^ exponent := by rw [power, Nat.pow_add]
  have product : units * denominator = 2 ^ 53 * (denominator * 2 ^ exponent) := by
    rw [split, Nat.mul_assoc, Nat.mul_comm (2 ^ exponent)]
  have low := within.bounds.1
  rw [reach, Nat.mul_assoc, Nat.mul_comm (2 ^ exponent)] at low
  have exponents : spacingExponent (numerator / denominator) = exponent := by
    apply spacingExponent_of_between
    · rw [Nat.le_div_iff_mul_le positive, Nat.pow_add, Nat.mul_assoc,
        Nat.mul_comm (2 ^ exponent)]
      omega
    · rw [Nat.div_lt_iff_lt_mul positive, <- power]
      exact below
  have rounded : divideToEven numerator (denominator * 2 ^ exponent) = 2 ^ 53 := by
    apply divideToEven_eq (Nat.mul_pos positive (Nat.two_pow_pos exponent))
    · omega
    · omega
    · intro odd
      exact absurd odd (by decide)
  rw [roundUnits, exponents]
  exact (congrArg (· * 2 ^ exponent) rounded).trans split.symm

/-- What lies in the rounding interval of a magnitude is rounded to the magnitude. -/
theorem Within.roundUnits_eq (within : Within numerator denominator units)
    (positive : 0 < denominator) (nonzero : 0 < units)
    (grid : 2 ^ spacingExponent units ∣ units) :
    roundUnits numerator denominator = units := by
  rcases exists_steps nonzero grid with ⟨steps, split, few, wide⟩
  have product : units * denominator = steps * (denominator * Finite.spacing units) := by
    rw [Nat.mul_comm denominator, <- Nat.mul_assoc, <- split]
  have bounds := within.bounds
  have ceiling := Nat.mul_le_mul_right (denominator * Finite.spacing units)
    (Nat.succ_le_of_lt few)
  rw [Nat.succ_mul steps] at ceiling
  have room : 0 < denominator * Finite.spacing units :=
    Nat.mul_pos positive (Finite.spacing_pos units)
  have upper : numerator < 2 ^ 53 * (denominator * Finite.spacing units) := by omega
  by_cases single : spacingExponent units = 0
  · apply within.roundUnits_of_same positive split
    rw [single]
    apply spacingExponent_of_lt
    rw [Nat.div_lt_iff_lt_mul positive]
    rwa [Finite.spacing, single, Nat.pow_zero, Nat.mul_one] at upper
  have many : 2 ^ 52 ≤ steps := wide.resolve_left single
  by_cases above : 2 ^ 52 * (denominator * Finite.spacing units) ≤ numerator
  · apply within.roundUnits_of_same positive split
    apply spacingExponent_of_between
    · rw [Nat.le_div_iff_mul_le positive, Nat.pow_add, Nat.mul_assoc,
        Nat.mul_comm (2 ^ spacingExponent units)]
      exact above
    · rw [Nat.div_lt_iff_lt_mul positive, Nat.pow_add, Nat.mul_assoc,
        Nat.mul_comm (2 ^ spacingExponent units)]
      exact upper
  · have least : steps = 2 ^ 52 := by
      apply Nat.le_antisymm _ many
      apply Nat.le_of_not_lt
      intro more
      have wider := Nat.mul_le_mul_right (denominator * Finite.spacing units)
        (Nat.succ_le_of_lt more)
      rw [Nat.succ_mul (2 ^ 52)] at wider
      have reach := Nat.mul_le_mul_right denominator (Finite.lowerReach_le units)
      rw [Nat.mul_assoc, Nat.mul_comm (Finite.spacing units)] at reach
      omega
    have power : units = 2 ^ (53 + (spacingExponent units - 1)) := by
      have exponents : 53 + (spacingExponent units - 1) = 52 + spacingExponent units := by omega
      rw [exponents, Nat.pow_add, <- least]
      exact split
    apply within.roundUnits_of_finer positive power
    rw [product, least]
    exact Nat.lt_of_not_le above

end Within

end ContactSearch
