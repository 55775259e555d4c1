import ContactSearch.Number.Layout
import ContactSearch.Proofs.Number.Numerals
import ContactSearch.Proofs.Number.Rounding
import Mathlib.Data.List.Induction
import Mathlib.Tactic.Ring

namespace ContactSearch

/-!
# Doubles that are read back

The digits of a double are chosen so that they lie in its rounding interval.
Wherever the point is put among them, and however many zeros are written to
reach it, they spell the same number.  So the plain text of every finite double
is read as that double, the sign of a zero included.
-/

/-! ## Digits and zeros -/

namespace Decimal

theorem value_append (front behind : List Char) :
    value (front ++ behind) = value front * 10 ^ behind.length + value behind := by
  induction behind using List.reverseRecOn with
  | nil => simp
  | append_singleton behind c ih =>
      rw [<- List.append_assoc, value_append_singleton, ih, value_append_singleton,
        List.length_append, List.length_singleton]
      ring

theorem value_zeros (count : Nat) : value (Significant.zeros count) = 0 := by
  induction count with
  | zero => rfl
  | succ count ih =>
      rw [Significant.zeros, List.replicate_succ', value_append_singleton]
      exact congrArg (fun total => 10 * total + 0) ih

theorem value_append_zeros (cs : List Char) (count : Nat) :
    value (cs ++ Significant.zeros count) = value cs * 10 ^ count := by
  rw [value_append, value_zeros, Significant.zeros, List.length_replicate, Nat.add_zero]

theorem value_zeros_append (cs : List Char) (count : Nat) :
    value (Significant.zeros count ++ cs) = value cs := by
  rw [value_append, value_zeros, Nat.zero_mul, Nat.zero_add]

end Decimal

namespace Significant

theorem areDigits_zeros (count : Nat) : Double.AreDigits (zeros count) := by
  intro c member
  rw [List.eq_of_mem_replicate member]
  rfl

/-- Digits are their significant part and the zeros that were dropped. -/
theorem exists_zeros (digits : List Char) :
    exists count, digits = withoutTrailingZeros digits ++ zeros count := by
  let isZero (c : Char) : Bool := c == '0'
  have dropped : (digits.reverse.takeWhile isZero).reverse =
      zeros (digits.reverse.takeWhile isZero).length := by
    rw [zeros, List.eq_replicate_iff, List.length_reverse]
    refine ⟨rfl, ?_⟩
    intro c member
    have zero := List.all_eq_true.mp List.all_takeWhile c (List.mem_reverse.mp member)
    exact eq_of_beq zero
  refine ⟨(digits.reverse.takeWhile isZero).length, ?_⟩
  calc
    digits = (digits.reverse.takeWhile isZero ++ digits.reverse.dropWhile isZero).reverse := by
      rw [List.takeWhile_append_dropWhile, List.reverse_reverse]
    _ = withoutTrailingZeros digits ++ zeros (digits.reverse.takeWhile isZero).length := by
      rw [List.reverse_append, dropped]
      rfl

/-- Significant digits with as many zeros behind them as it takes spell a scaled number. -/
structure Spells (number : Significant) (coefficient : Nat) (exponent : Int) : Prop where
  present : number.digits ≠ []
  digits : Double.AreDigits number.digits
  shifted : exists count : Nat, coefficient = Decimal.value number.digits * 10 ^ count ∧
    number.point = number.digits.length + count + exponent

theorem spells_ofDecimal {coefficient : Nat} (nonzero : 0 < coefficient) (exponent : Int) :
    (ofDecimal coefficient exponent).Spells coefficient exponent := by
  rcases exists_zeros (Decimal.digits coefficient) with ⟨count, split⟩
  have total : coefficient =
      Decimal.value (withoutTrailingZeros (Decimal.digits coefficient)) * 10 ^ count := by
    rw [<- Decimal.value_append_zeros, <- split, Decimal.value_digits]
  constructor
  · intro none
    rw [show withoutTrailingZeros (Decimal.digits coefficient) = [] from none] at total
    rw [total] at nonzero
    simp at nonzero
  · intro c member
    apply Decimal.isDigit_of_mem_digits (n := coefficient)
    rw [split]
    exact List.mem_append_left _ member
  · refine ⟨count, total, ?_⟩
    have length := congrArg List.length split
    rw [List.length_append, zeros, List.length_replicate] at length
    simp only [ofDecimal]
    omega

/-- What stands on both sides of the point. -/
structure Placed (parts : List Char × List Char) (coefficient dropped scale : Nat) : Prop where
  present : parts.1 ≠ []
  whole : Double.AreDigits parts.1
  fraction : Double.AreDigits parts.2
  value : Decimal.value (parts.1 ++ parts.2) * 10 ^ scale =
    coefficient * 10 ^ dropped * 10 ^ parts.2.length

/-- Wherever the point is placed, the digits spell the same number. -/
theorem Spells.placed {number : Significant} {coefficient dropped scale : Nat}
    (spells : number.Spells coefficient (dropped - scale : Int)) :
    Placed number.positional coefficient dropped scale := by
  rcases spells with ⟨present, digits, count, rfl, point⟩
  have shift {value left first second third : Nat} (sum : left = first + second + third) :
      value * 10 ^ left = value * 10 ^ first * 10 ^ second * 10 ^ third := by
    rw [sum]
    ring
  rw [positional]
  split
  · next place placed =>
      have place_eq : ((place + 1 : Nat) : Int) = number.point := placed.symm
      rw [point] at place_eq
      split
      · -- the point stands behind all digits
        constructor
        · exact List.append_ne_nil_of_left_ne_nil present _
        · intro c member
          rcases List.mem_append.mp member with digit | zero
          · exact digits c digit
          · exact areDigits_zeros _ c zero
        · exact fun _ => nofun
        · rw [List.append_nil, Decimal.value_append_zeros, Nat.mul_assoc, <- Nat.pow_add]
          apply shift
          simp only [List.length_nil]
          omega
      · -- the point stands among the digits
        constructor
        · apply List.ne_nil_of_length_pos
          rw [List.length_take]
          omega
        · exact fun c member => digits c (List.mem_of_mem_take member)
        · exact fun c member => digits c (List.mem_of_mem_drop member)
        · rw [List.take_append_drop]
          apply shift
          rw [List.length_drop]
          omega
  · next apart =>
      -- the point stands in front of all digits
      have nonpositive : number.point ≤ 0 := by
        apply Int.not_lt.mp
        intro positive
        apply apart (number.point.toNat - 1)
        change number.point = ((number.point.toNat - 1 + 1 : Nat) : Int)
        omega
      constructor
      · exact List.cons_ne_nil _ _
      · intro c member
        rw [List.mem_singleton.mp member]
        rfl
      · intro c member
        rcases List.mem_append.mp member with zero | digit
        · exact areDigits_zeros _ c zero
        · exact digits c digit
      · rw [Decimal.value_append, Decimal.value_zeros_append,
          show Decimal.value ['0'] = 0 from rfl, Nat.zero_mul, Nat.zero_add]
        apply shift
        rw [List.length_append, zeros, List.length_replicate]
        omega

end Significant

/-! ## Digits in the rounding interval -/

namespace Finite

variable {x : Finite}

theorem readsAs_iff {candidate : Nat} :
    x.readsAs candidate = true <->
      if closedInterval x.units then
        (4 * x.units - lowerReach x.units) * 5 ^ decimalScale ≤ 4 * candidate ∧
          4 * candidate ≤ (4 * x.units + upperReach x.units) * 5 ^ decimalScale
      else
        (4 * x.units - lowerReach x.units) * 5 ^ decimalScale < 4 * candidate ∧
          4 * candidate < (4 * x.units + upperReach x.units) * 5 ^ decimalScale := by
  rw [readsAs]
  split <;> simp only [Bool.and_eq_true, decide_eq_true_eq]

theorem readsAs_of_onGrid {tie : Tie} {step coefficient : Nat}
    (found : x.onGrid? tie step = some coefficient) :
    x.readsAs (coefficient * step) = true := by
  rw [onGrid?.eq_def] at found
  dsimp only at found
  split at found
  · cases found
  · next below _ =>
      cases found
      exact below
  · next _ above =>
      cases found
      exact above
  · next below above =>
      split at found
      · cases found
        exact below
      · split at found
        · cases found
          exact above
        · cases tie with
          | up =>
              cases found
              exact above
          | even =>
              cases found
              rcases Nat.mod_two_eq_zero_or_one (x.scaled / step) with even | odd
              · rw [even]
                exact below
              · rw [odd]
                exact above

theorem lowerReach_pos (units : Nat) : 0 < lowerReach units := by
  have positive := spacing_pos units
  rw [lowerReach]
  split <;> omega

theorem readsAs_scaled (nonzero : 0 < x.units) : x.readsAs x.scaled = true := by
  have lower := lowerReach_pos x.units
  have upper : 0 < upperReach x.units := Nat.mul_pos Nat.two_pos (spacing_pos x.units)
  have positive : 0 < 5 ^ decimalScale := Nat.pow_pos (by decide)
  have low : (4 * x.units - lowerReach x.units) * 5 ^ decimalScale < 4 * x.scaled := by
    rw [scaled, <- Nat.mul_assoc]
    exact Nat.mul_lt_mul_of_pos_right (by omega) positive
  have high : 4 * x.scaled < (4 * x.units + upperReach x.units) * 5 ^ decimalScale := by
    rw [scaled, <- Nat.mul_assoc]
    exact Nat.mul_lt_mul_of_pos_right (by omega) positive
  rw [readsAs_iff]
  split
  · exact ⟨Nat.le_of_lt low, Nat.le_of_lt high⟩
  · exact ⟨low, high⟩

theorem pos_of_readsAs {candidate : Nat} (nonzero : 0 < x.units)
    (reads : x.readsAs candidate = true) : 0 < candidate := by
  have reach := lowerReach_le x.units
  have fits : spacing x.units ≤ x.units := Nat.le_of_dvd nonzero x.representable.2
  have positive : 0 < (4 * x.units - lowerReach x.units) * 5 ^ decimalScale :=
    Nat.mul_pos (by omega) (Nat.pow_pos (by decide))
  rw [readsAs_iff] at reads
  split at reads <;> omega

end Finite

/--
The shortest digits come from the first grid with a point that is read as the double, or from the
exact value.
-/
theorem Significant.shortest_cases (tie : Tie) (x : Finite) :
    (exists count coefficient : Nat,
      Significant.shortest tie x = Significant.ofDecimal coefficient
        ((Decimal.count x.scaled - (count + 1) : Nat) - Finite.decimalScale : Int) ∧
      x.onGrid? tie (10 ^ (Decimal.count x.scaled - (count + 1))) = some coefficient ∧
      forall earlier, earlier < count ->
        x.onGrid? tie (10 ^ (Decimal.count x.scaled - (earlier + 1))) = none) ∨
    Significant.shortest tie x =
      Significant.ofDecimal x.scaled ((0 : Nat) - Finite.decimalScale : Int) := by
  rw [shortest]
  cases found : (List.range 17).findSome? fun count =>
      (x.onGrid? tie (10 ^ (Decimal.count x.scaled - (count + 1)))).map fun coefficient =>
        Significant.ofDecimal coefficient
          ((Decimal.count x.scaled - (count + 1) : Nat) - Finite.decimalScale : Int) with
  | none =>
      right
      rw [Int.natCast_zero, Int.zero_sub]
      rfl
  | some number =>
      left
      rcases List.findSome?_eq_some_iff.mp found with ⟨front, count, behind, split, hit, missed⟩
      rcases Option.map_eq_some_iff.mp hit with ⟨coefficient, onGrid, rfl⟩
      refine ⟨count, coefficient, rfl, onGrid, fun earlier before => ?_⟩
      -- the counts are tried in rising order, so an earlier one was tried before
      have inside : count < 17 := List.mem_range.mp (split ▸ by simp)
      have tried : earlier ∈ front ++ count :: behind := by
        rw [<- split]
        exact List.mem_range.mpr (Nat.lt_trans before inside)
      have rising := List.pairwise_lt_range (n := 17)
      rw [split] at rising
      rcases List.mem_append.mp tried with first | later
      · exact Option.map_eq_none_iff.mp (missed earlier first)
      · rcases List.mem_cons.mp later with rfl | later
        · exact absurd before (Nat.lt_irrefl _)
        · have behind := (List.pairwise_append.mp rising).2.1
          have after := (List.pairwise_cons.mp behind).1 earlier later
          exact absurd before (Nat.lt_asymm after)

/-- The shortest digits spell a number in the rounding interval. -/
theorem Significant.exists_shortest (tie : Tie) {x : Finite} (nonzero : 0 < x.units) :
    exists coefficient dropped : Nat,
      Significant.shortest tie x =
        Significant.ofDecimal coefficient (dropped - Finite.decimalScale : Int) ∧
      x.readsAs (coefficient * 10 ^ dropped) = true := by
  rcases shortest_cases tie x with ⟨count, coefficient, shape, hit, _⟩ | shape
  · exact ⟨coefficient, _, shape, Finite.readsAs_of_onGrid hit⟩
  · refine ⟨x.scaled, 0, shape, ?_⟩
    rw [Nat.pow_zero, Nat.mul_one]
    exact Finite.readsAs_scaled nonzero

/-! ## Reading digits -/

theorem ten_pow_decimalScale :
    10 ^ Finite.decimalScale = unitsPerOne * 5 ^ Finite.decimalScale := by
  have scale : unitExponent = Finite.decimalScale := rfl
  rw [unitsPerOne, scale, <- Nat.mul_pow]

/-- Equal quotients compare alike with every bound. -/
theorem compare_quotients {units scale candidate denominator : Nat} (positive : 0 < scale)
    (room : 0 < denominator) (same : units * scale = candidate * denominator) (bound : Nat) :
    (bound * scale ≤ 4 * candidate <-> bound * denominator ≤ 4 * units) ∧
      (4 * candidate ≤ bound * scale <-> 4 * units ≤ bound * denominator) := by
  have left : bound * scale * denominator = bound * denominator * scale :=
    Nat.mul_right_comm bound scale denominator
  have right : 4 * candidate * denominator = 4 * units * scale := by
    rw [Nat.mul_assoc, <- same, Nat.mul_assoc]
  constructor
  · rw [<- Nat.mul_le_mul_right_iff room, left, right, Nat.mul_le_mul_right_iff positive]
  · rw [<- Nat.mul_le_mul_right_iff room, left, right, Nat.mul_le_mul_right_iff positive]

/-- Digits that spell a number in the rounding interval are a quotient of units within it. -/
theorem Finite.within_of_readsAs {x : Finite} {candidate value places : Nat}
    (reads : x.readsAs candidate = true)
    (spelled : value * 10 ^ Finite.decimalScale = candidate * 10 ^ places) :
    Within (value * unitsPerOne) (10 ^ places) x.units := by
  rw [ten_pow_decimalScale, <- Nat.mul_assoc] at spelled
  have compare := compare_quotients (Nat.pow_pos (by decide)) (Nat.pow_pos (by decide)) spelled
  rw [readsAs_iff] at reads
  split at reads
  · next closed =>
      refine ⟨(compare _).1.mp reads.1, (compare _).2.mp reads.2, ?_⟩
      intro isOpen
      rw [isOpen] at closed
      cases closed
  · have low := Nat.lt_of_not_le fun le => Nat.not_le_of_lt reads.1 ((compare _).2.mpr le)
    have high := Nat.lt_of_not_le fun le => Nat.not_le_of_lt reads.2 ((compare _).1.mpr le)
    exact ⟨Nat.le_of_lt low, Nat.le_of_lt high, fun _ => ⟨low, high⟩⟩

namespace Double

theorem ofUnits_of_rounded {x : Finite} {numerator denominator : Nat}
    (rounded : roundUnits numerator denominator = x.units) :
    ofUnits x.negative numerator denominator = .finite x := by
  have bounded : roundUnits numerator denominator < overflowUnits :=
    rounded ▸ x.representable.1
  rw [ofUnits, dif_pos bounded]
  cases x
  cases rounded
  rfl

/-- Digits that spell a number in the rounding interval are never too small to be looked at. -/
theorem places_le_of_within {x : Finite} (nonzero : 0 < x.units) {value places : Nat}
    (within : Within (value * unitsPerOne) (10 ^ places) x.units) :
    3 * places ≤ value.log2 + 1081 := by
  have reach := Finite.lowerReach_le x.units
  have fits : Finite.spacing x.units ≤ x.units := Nat.le_of_dvd nonzero x.representable.2
  have two : 2 * 10 ^ places ≤ (4 * x.units - Finite.lowerReach x.units) * 10 ^ places :=
    Nat.mul_le_mul_right _ (by omega)
  have low := Nat.le_trans two within.low
  have few : 2 ^ (3 * places) < 2 ^ (value.log2 + 1 + unitExponent + 1) := by
    calc
      2 ^ (3 * places) = 8 ^ places := Nat.pow_mul 2 3 places
      _ ≤ 10 ^ places := Nat.pow_le_pow_left (by decide) places
      _ ≤ value * unitsPerOne * 2 := by omega
      _ < 2 ^ (value.log2 + 1) * unitsPerOne * 2 := by
        apply Nat.mul_lt_mul_of_pos_right _ Nat.two_pos
        exact Nat.mul_lt_mul_of_pos_right Nat.lt_log2_self (Nat.two_pow_pos _)
      _ = 2 ^ (value.log2 + 1 + unitExponent + 1) := by
        rw [unitsPerOne, <- Nat.pow_add, <- Nat.pow_succ]
  have exponents := (Nat.pow_lt_pow_iff_right (by decide)).mp few
  rw [unitExponent] at exponents
  omega

/-- Digits that spell a number in the rounding interval of a double are read as the double. -/
theorem ofDecimal_of_readsAs {x : Finite} (nonzero : 0 < x.units) {candidate value places : Nat}
    (reads : x.readsAs candidate = true)
    (spelled : value * 10 ^ Finite.decimalScale = candidate * 10 ^ places) :
    ofDecimal x.negative value (0 - places : Int) = .finite x := by
  have within := Finite.within_of_readsAs reads spelled
  have room : 0 < 10 ^ places := Nat.pow_pos (by decide)
  have rounded := within.roundUnits_eq room nonzero x.representable.2
  have present : value ≠ 0 := by
    rintro rfl
    have product := Nat.mul_pos (Finite.pos_of_readsAs nonzero reads) room
    rw [<- spelled, Nat.zero_mul] at product
    exact Nat.lt_irrefl 0 product
  rw [ofDecimal.eq_def, if_neg present]
  cases places with
  | zero =>
      change (if 310 < 0 then infinite x.negative else ofRatio x.negative (value * 10 ^ 0) 1) = _
      rw [if_neg (Nat.not_lt_zero 310), Nat.pow_zero, Nat.mul_one]
      exact ofUnits_of_rounded rounded
  | succ places =>
      have few := places_le_of_within nonzero within
      have exponent : (0 - (places + 1 : Nat) : Int) = .negSucc places := by omega
      rw [exponent]
      simp only
      rw [if_neg (Nat.not_lt.mpr few)]
      exact ofUnits_of_rounded rounded

end Double

/-! ## The plain text -/

theorem Significant.placed_shortest (tie : Tie) {x : Finite} (nonzero : 0 < x.units) :
    exists candidate, x.readsAs candidate = true ∧
      exists coefficient dropped, candidate = coefficient * 10 ^ dropped ∧
        Placed (shortest tie x).positional coefficient dropped Finite.decimalScale := by
  rcases exists_shortest tie nonzero with ⟨coefficient, dropped, shape, reads⟩
  refine ⟨_, reads, coefficient, dropped, rfl, ?_⟩
  have positive : 0 < coefficient :=
    Nat.pos_of_mul_pos_right (Finite.pos_of_readsAs nonzero reads)
  rw [shape]
  exact (spells_ofDecimal positive _).placed

namespace Finite

/-- The plain text of a double is its sign and a numeral that spells the double. -/
theorem exists_plainText (x : Finite) :
    exists whole fraction, x.plainText = x.sign ++ (whole ++ Double.pointed fraction) ∧
      whole ≠ [] ∧ Double.AreDigits whole ∧ Double.AreDigits fraction ∧
      Double.ofDigits x.negative whole fraction 0 = .finite x := by
  rw [plainText]
  split
  · next zero =>
      refine ⟨['0'], [], rfl, List.cons_ne_nil _ _, ?_, fun _ => nofun, ?_⟩
      · intro c member
        rw [List.mem_singleton.mp member]
        rfl
      · have spelled : Decimal.value (['0'] ++ []) = 0 := rfl
        have rounded : roundUnits 0 1 = x.units := zero.symm
        rw [Double.ofDigits, spelled, Double.ofDecimal.eq_def, if_pos rfl, Double.ofRatio,
          Nat.zero_mul]
        exact Double.ofUnits_of_rounded rounded
  · next nonzero =>
      have positive : 0 < x.units := Nat.pos_of_ne_zero nonzero
      rcases Significant.placed_shortest .up positive with
        ⟨candidate, reads, coefficient, dropped, rfl, placed⟩
      refine ⟨_, _, List.append_assoc x.sign _ _, placed.present, placed.whole,
        placed.fraction, ?_⟩
      exact Double.ofDecimal_of_readsAs positive reads placed.value

/-- Every finite double is read back from its plain text. -/
theorem ofText?_plainText (x : Finite) : Double.ofText? x.plainText = some (.finite x) := by
  rcases x.exists_plainText with ⟨whole, fraction, text, present, digits, digits', spelled⟩
  rw [text, sign]
  cases negative : x.negative with
  | true =>
      rw [negative] at spelled
      rw [<- spelled]
      exact Double.ofText?_of_minus present digits digits'
  | false =>
      rw [negative] at spelled
      rw [<- spelled]
      exact Double.ofText?_of_parts present digits digits'

end Finite

end ContactSearch
