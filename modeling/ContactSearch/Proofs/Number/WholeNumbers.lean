import ContactSearch.Proofs.Number.ReadBack

namespace ContactSearch

/-!
# Whole doubles

The plain text of a whole double has no fraction.  The grids of whole numbers
are among those that are tried, and the whole double itself is a point of the
finest of them, so its digits are found there or on a coarser one.  What stands
in the text is therefore a natural number, and one that is rounded to the
double.

It need not be the double itself.  Up to `2 ^ 53` every natural number is a
double, and no other is rounded to it.  Above, the doubles have gaps, and the
number with the fewest digits in the gap is written.
-/

/-! ## Rounding natural numbers -/

theorem unitsPerOne_pos : 0 < unitsPerOne :=
  Nat.two_pow_pos unitExponent

/-- A magnitude on the grid of its own size is not rounded. -/
theorem roundUnits_of_grid {units : Nat} (grid : 2 ^ spacingExponent units ∣ units) :
    roundUnits units 1 = units := by
  rcases grid with ⟨steps, split⟩
  have positive : 0 < 2 ^ spacingExponent units := Nat.two_pow_pos _
  rw [Nat.mul_comm] at split
  have exact : divideToEven units (2 ^ spacingExponent units) = steps := by
    apply divideToEven_eq positive <;> omega
  rw [roundUnits, Nat.div_one, Nat.one_mul, exact]
  exact split.symm

/-- Up to `2 ^ 53` natural numbers are doubles. -/
theorem roundUnits_of_le {n : Nat} (small : n ≤ 2 ^ 53) :
    roundUnits (n * unitsPerOne) 1 = n * unitsPerOne :=
  roundUnits_of_grid (spacing_divides_multiple small unitExponent)

/-- From `2 ^ 53` on, natural numbers are not rounded below it. -/
theorem le_roundUnits {n : Nat} (large : 2 ^ 53 ≤ n) :
    2 ^ 53 * unitsPerOne ≤ roundUnits (n * unitsPerOne) 1 := by
  have bound : 2 ^ (53 + unitExponent) ≤ n * unitsPerOne := by
    rw [Nat.pow_add]
    exact Nat.mul_le_mul_right _ large
  have nonzero : n * unitsPerOne ≠ 0 := by
    have positive := Nat.two_pow_pos (53 + unitExponent)
    omega
  have top := (Nat.le_log2 nonzero).mpr bound
  have split : (n * unitsPerOne).log2 = 52 + spacingExponent (n * unitsPerOne) := by
    rw [spacingExponent]
    omega
  -- the leading bit is on the grid, so rounding does not go below it
  have leading : 2 ^ 52 ≤ n * unitsPerOne / 2 ^ spacingExponent (n * unitsPerOne) := by
    rw [Nat.le_div_iff_mul_le (Nat.two_pow_pos _), <- Nat.pow_add, <- split]
    exact Nat.log2_self_le nonzero
  calc
    2 ^ 53 * unitsPerOne = 2 ^ (53 + unitExponent) := by rw [unitsPerOne, Nat.pow_add]
    _ ≤ 2 ^ (52 + spacingExponent (n * unitsPerOne)) :=
      Nat.pow_le_pow_right Nat.two_pos (Nat.le_trans top (Nat.le_of_eq split))
    _ = 2 ^ 52 * 2 ^ spacingExponent (n * unitsPerOne) := Nat.pow_add 2 52 _
    _ ≤ roundUnits (n * unitsPerOne) 1 := by
      rw [roundUnits, Nat.div_one, Nat.one_mul]
      exact Nat.mul_le_mul_right _ (Nat.le_trans leading (le_divideToEven _ _))

namespace Double

theorem units_of_ofNat {n : Nat} {x : Finite} (same : ofNat n = .finite x) :
    x.units = roundUnits (n * unitsPerOne) 1 := by
  rw [ofNat, ofRatio, ofUnits] at same
  split at same <;> cases same
  rfl

/-- A natural number up to `2 ^ 53` is the whole part of its double. -/
theorem wholePart_of_ofNat {n : Nat} {x : Finite} (same : ofNat n = .finite x)
    (small : n ≤ 2 ^ 53) : x.wholePart = n := by
  rw [Finite.wholePart, units_of_ofNat same, roundUnits_of_le small]
  exact Nat.mul_div_cancel n unitsPerOne_pos

/-- The whole part of the double of a larger number is large as well. -/
theorem le_wholePart_of_ofNat {n : Nat} {x : Finite} (same : ofNat n = .finite x)
    (large : 2 ^ 53 ≤ n) : 2 ^ 53 ≤ x.wholePart := by
  rw [Finite.wholePart, units_of_ofNat same, Nat.le_div_iff_mul_le unitsPerOne_pos]
  exact le_roundUnits large

end Double

/-! ## Digits of whole numbers -/

namespace Decimal

theorem lt_count {digits n : Nat} (large : 10 ^ digits ≤ n) : digits < count n := by
  induction digits generalizing n with
  | zero =>
      rw [count]
      split <;> omega
  | succ digits ih =>
      rw [Nat.pow_succ] at large
      have positive : 0 < 10 ^ digits := Nat.pow_pos (by decide)
      rw [count, if_neg (by omega)]
      exact Nat.succ_lt_succ (ih ((Nat.le_div_iff_mul_le (by decide)).mpr large))

theorem digitValue_pos {c : Char} (digit : c.isDigit = true) (nonzero : c ≠ '0') :
    0 < digitValue c ∧ digitValue c < 10 := by
  have bounds : 48 ≤ c.toNat ∧ c.toNat ≤ 57 := by
    simpa [Char.isDigit, UInt32.le_iff_toNat_le] using digit
  have other : c.toNat ≠ 48 := fun same => nonzero (Char.toNat_inj.mp same)
  rw [digitValue]
  omega

end Decimal

namespace Significant

/-- Significant digits end with a digit that counts. -/
theorem value_withoutTrailingZeros {digits : List Char}
    (areDigits : Double.AreDigits (withoutTrailingZeros digits))
    (present : withoutTrailingZeros digits ≠ []) :
    Decimal.value (withoutTrailingZeros digits) % 10 ≠ 0 := by
  rw [withoutTrailingZeros] at areDigits present ⊢
  cases shape : digits.reverse.dropWhile (fun c => c == '0') with
  | nil => exact absurd (by rw [shape]; rfl) present
  | cons c rest =>
      have kept := List.head?_dropWhile_not (fun c => c == '0') digits.reverse
      rw [shape] at kept areDigits
      have digit := areDigits c (by simp)
      have bounds := Decimal.digitValue_pos digit (ne_of_beq_false kept)
      rw [List.reverse_cons, Decimal.value_append_singleton]
      omega

/-- The digits of a whole number have no fraction. -/
theorem positional_of_whole {coefficient dropped place scale : Nat} (positive : 0 < coefficient)
    (whole : coefficient * 10 ^ dropped = place * 10 ^ scale) :
    (ofDecimal coefficient (dropped - scale : Int)).positional.2 = [] := by
  have spells := spells_ofDecimal positive (dropped - scale : Int)
  rcases spells.shifted with ⟨count, split, point⟩
  have enough : scale ≤ count + dropped := by
    apply Nat.le_of_not_lt
    intro few
    -- the digits would spell a multiple of ten
    rcases Nat.exists_eq_add_of_lt few with ⟨more, rfl⟩
    apply value_withoutTrailingZeros spells.digits spells.present
    have same : Decimal.value (withoutTrailingZeros (Decimal.digits coefficient)) *
        10 ^ (count + dropped) = place * 10 ^ more * 10 * 10 ^ (count + dropped) := by
      rw [ofDecimal] at split
      rw [Nat.pow_add, <- Nat.mul_assoc, <- split, whole]
      ring
    rw [Nat.eq_of_mul_eq_mul_right (Nat.pow_pos (by decide)) same]
    exact Nat.mul_mod_left _ 10
  have some := List.length_pos_iff.mpr spells.present
  rw [positional]
  split
  · next place' placed =>
      have place_eq : ((place' + 1 : Nat) : Int) = _ := placed.symm
      rw [point] at place_eq
      rw [if_pos (by omega)]
  · next apart =>
      exfalso
      apply apart ((ofDecimal coefficient (dropped - scale : Int)).point.toNat - 1)
      change _ = ((_ - 1 + 1 : Nat) : Int)
      omega

end Significant

/-! ## The plain text -/

namespace Finite

variable {x : Finite}

theorem units_of_isWhole (whole : x.isWhole = true) : x.units = x.wholePart * unitsPerOne := by
  have none : x.units % unitsPerOne = 0 := eq_of_beq whole
  rw [wholePart, Nat.div_mul_cancel (Nat.dvd_of_mod_eq_zero none)]

theorem scaled_of_isWhole (whole : x.isWhole = true) :
    x.scaled = x.wholePart * 10 ^ decimalScale := by
  rw [scaled, units_of_isWhole whole, Nat.mul_assoc, ten_pow_decimalScale]

/-- A grid on which the double lies has a point that is read as the double. -/
theorem onGrid?_ne_none {tie : Tie} {step : Nat} (nonzero : 0 < x.units)
    (exact : step ∣ x.scaled) : x.onGrid? tie step ≠ none := by
  have hit : x.readsAs (x.scaled / step * step) = true := by
    rw [Nat.div_mul_cancel exact]
    exact readsAs_scaled nonzero
  rw [onGrid?.eq_def]
  dsimp only
  rw [hit]
  cases x.readsAs ((x.scaled / step + 1) * step) with
  | false => exact Option.some_ne_none _
  | true =>
      dsimp only
      split
      · exact Option.some_ne_none _
      · split
        · exact Option.some_ne_none _
        · cases tie <;> exact Option.some_ne_none _

/-- The shortest digits of a whole double spell a whole number that is read as the double. -/
theorem exists_shortest_of_isWhole (tie : Tie) (nonzero : 0 < x.units)
    (whole : x.isWhole = true) :
    exists coefficient dropped place : Nat,
      Significant.shortest tie x =
        Significant.ofDecimal coefficient (dropped - decimalScale : Int) ∧
      coefficient * 10 ^ dropped = place * 10 ^ decimalScale ∧
      x.readsAs (place * 10 ^ decimalScale) = true := by
  have exact := scaled_of_isWhole whole
  have some : 0 < x.wholePart := by
    have split := units_of_isWhole whole
    apply Nat.pos_of_ne_zero
    intro none
    rw [none, Nat.zero_mul] at split
    omega
  rcases Significant.shortest_cases tie x with
    ⟨count, coefficient, shape, hit, missed⟩ | shape
  · have wide : decimalScale < Decimal.count x.scaled := by
      apply Decimal.lt_count
      rw [exact]
      exact Nat.le_mul_of_pos_left _ some
    -- the grid of whole numbers is tried before all finer ones
    have coarse : decimalScale ≤ Decimal.count x.scaled - (count + 1) := by
      apply Nat.le_of_not_lt
      intro fine
      have earlier := missed (Decimal.count x.scaled - (decimalScale + 1)) (by omega)
      rw [show Decimal.count x.scaled - (Decimal.count x.scaled - (decimalScale + 1) + 1) =
        decimalScale by omega] at earlier
      exact onGrid?_ne_none nonzero (exact ▸ Nat.dvd_mul_left _ _) earlier
    rcases Nat.exists_eq_add_of_le coarse with ⟨more, total⟩
    rw [total] at shape hit
    have split : coefficient * 10 ^ (decimalScale + more) =
        coefficient * 10 ^ more * 10 ^ decimalScale := by
      rw [Nat.pow_add]
      ring
    have reads := readsAs_of_onGrid hit
    rw [split] at reads
    exact ⟨coefficient, _, coefficient * 10 ^ more, shape, split, reads⟩
  · refine ⟨x.scaled, 0, x.wholePart, shape, ?_, ?_⟩
    · rw [Nat.pow_zero, Nat.mul_one, exact]
    · rw [<- exact]
      exact readsAs_scaled nonzero

end Finite

theorem Double.ofDecimal_whole (negative : Bool) (n : Nat) :
    ofDecimal negative n 0 = ofRatio negative n 1 := by
  rw [ofDecimal.eq_def]
  split
  · next none => rw [none]
  · change (if 310 < 0 then infinite negative else ofRatio negative (n * 10 ^ 0) 1) = _
    rw [if_neg (Nat.not_lt_zero 310), Nat.pow_zero, Nat.mul_one]

/-- The plain text of a whole double is its sign and digits that are rounded to the double. -/
theorem Finite.exists_plainText_of_isWhole {x : Finite} (whole : x.isWhole = true) :
    exists digits, x.plainText = x.sign ++ digits ∧ digits ≠ [] ∧ Double.AreDigits digits ∧
      Double.ofRatio x.negative (Decimal.value digits) 1 = .finite x := by
  rw [plainText]
  split
  · next zero =>
      refine ⟨['0'], rfl, List.cons_ne_nil _ _, ?_, ?_⟩
      · intro c member
        rw [List.mem_singleton.mp member]
        rfl
      · have rounded : roundUnits (Decimal.value ['0'] * unitsPerOne) 1 = x.units := by
          rw [show Decimal.value ['0'] = 0 from rfl, Nat.zero_mul]
          exact zero.symm
        exact Double.ofUnits_of_rounded rounded
  · next nonzero =>
      have positive : 0 < x.units := Nat.pos_of_ne_zero nonzero
      rcases exists_shortest_of_isWhole .up positive whole with
        ⟨coefficient, dropped, place, shape, split, reads⟩
      have some : 0 < coefficient := by
        have candidate := pos_of_readsAs positive reads
        rw [<- split] at candidate
        exact Nat.pos_of_mul_pos_right candidate
      have fraction := Significant.positional_of_whole some split
      have placed := (Significant.spells_ofDecimal some (dropped - decimalScale : Int)).placed
      rw [<- shape] at fraction placed
      have spelled := placed.value
      rw [fraction, List.append_nil, split] at spelled
      refine ⟨_, ?_, placed.present, placed.whole, ?_⟩
      · simp only [fraction, if_pos, List.append_nil]
      · have read : Double.ofDecimal x.negative _ (0 - (0 : Nat) : Int) = .finite x :=
          Double.ofDecimal_of_readsAs positive reads spelled
        rw [Int.natCast_zero, Int.sub_zero] at read
        rw [<- Double.ofDecimal_whole, read]

end ContactSearch
