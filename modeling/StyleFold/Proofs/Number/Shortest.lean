import StyleFold.Proofs.Number.Digits
import StyleFold.Proofs.Number.Nearest

/-!
Shortest decimals. The numbers that a double is the closest one to form an interval, and a decimal
reads back as the double when it lies in it. On a decimal grid the interval has a point if and
only if it has one of the two around the double, and with seventeen digits the grid is finer than
the interval. Main statement: the decimal that is found reads back, no decimal with fewer digits
does, and it ends in no zero.
-/

namespace StyleFold

open Exact

namespace Exact

section Interval

variable {units low high : ℚ} {pattern : Nat}

theorem beside_magnitude (bounded : pattern ≤ top) : Beside (magnitude pattern) pattern := by
  refine ⟨bounded, fun positive => .inl ?_, fun inside => .inl ?_⟩
  · have less : (magnitude (pattern - 1) : ℚ) < magnitude pattern :=
      Nat.cast_lt.mpr (magnitude_lt (Nat.sub_lt positive Nat.one_pos) bounded)
    rw [halfway, Nat.sub_add_cancel positive]
    push_cast
    linarith
  · have less : (magnitude pattern : ℚ) < magnitude (pattern + 1) :=
      Nat.cast_lt.mpr (magnitude_lt (Nat.lt_succ_self _) inside)
    rw [halfway]
    push_cast
    linarith

theorem Beside.between (first : Beside low pattern) (last : Beside high pattern)
    (above : low ≤ units) (below : units ≤ high) : Beside units pattern :=
  ⟨first.bounded,
    fun positive => (first.below positive).trans_le (by linarith),
    fun inside => UpTo.of_le (by linarith) (last.above inside)⟩

theorem Beside.pos (beside : Beside units pattern) (some : 0 < pattern) : 0 < units := by
  by_contra least
  have nought : Beside 0 pattern :=
    beside.between (beside_magnitude beside.bounded) (not_lt.mp least) (Nat.cast_nonneg _)
  exact some.ne (beside_zero.unique nought)

end Interval

end Exact

namespace Decimal

section Quarters

variable {pattern : Nat}

theorem high_eq (inside : pattern < top) : (intervalOf pattern).high = 2 * halfway pattern := by
  rw [halfway, magnitude_succ inside]
  simp only [intervalOf, Nat.pow_eq]
  ring

theorem place_pred (some : 0 < pattern) (inside : pattern < top) : exponentOf pattern - 1 =
    exponentOf (pattern - 1) - 1 + if fractionOf pattern = 0 ∧ 1 < exponentOf pattern then
      1 else 0 := by
  simp only [top] at inside
  split <;> simp only [fractionOf, exponentOf, Nat.pow_eq] at * <;> omega

theorem magnitude_pred (some : 0 < pattern) (inside : pattern < top) :
    magnitude (pattern - 1) + 2 ^ (exponentOf (pattern - 1) - 1) = magnitude pattern := by
  rw [← magnitude_succ (Nat.lt_of_le_of_lt (Nat.sub_le pattern 1) inside), Nat.sub_add_cancel some]

theorem low_eq (some : 0 < pattern) (inside : pattern < top) :
    (intervalOf pattern).low = 2 * halfway (pattern - 1) := by
  have step := magnitude_pred some inside
  have width : (if fractionOf pattern = 0 ∧ 1 < exponentOf pattern then 2 ^ (exponentOf pattern - 1)
      else 2 * 2 ^ (exponentOf pattern - 1)) = 2 * 2 ^ (exponentOf (pattern - 1) - 1) := by
    rw [place_pred some inside]
    split
    · rw [Nat.pow_succ, Nat.mul_comm]
    · rfl
  rw [halfway, Nat.sub_add_cancel some]
  simp only [intervalOf, Bool.and_eq_true, decide_eq_true_eq, Nat.pow_eq]
  rw [width]
  omega

theorem closed_iff : (intervalOf pattern).closed = true ↔ pattern % 2 = 0 := by
  simp only [intervalOf, fractionOf, Nat.pow_eq, beq_iff_eq]
  omega

theorem upTo_cast {closed : Prop} [Decidable closed] {a b : Nat} :
    UpTo closed a b ↔ if closed then a ≤ b else a < b := by
  rw [UpTo, Nat.cast_lt, Nat.cast_inj]
  split
  · rename_i yes
    simp only [yes, true_and]
    exact Nat.le_iff_lt_or_eq.symm
  · rename_i no
    simp only [no, false_and, or_false]

theorem contains_iff (some : 0 < pattern) (inside : pattern < top) {quotient : Nat × Nat}
    (positive : 0 < quotient.2) : (intervalOf pattern).contains quotient = true ↔
      Beside (quotient.1 / quotient.2 * one) pattern := by
  have above : (0 : ℚ) < quotient.2 := Nat.cast_pos.mpr positive
  -- The interval is in quarters of the unit and half-way points are in halves, so twice the
  -- denominator makes whole numbers of both.
  have scale : (0 : ℚ) < 2 * quotient.2 := mul_pos two_pos above
  have lower : (halfway (pattern - 1) : ℚ) * (2 * quotient.2) =
      ((intervalOf pattern).low * quotient.2 : Nat) := by
    rw [low_eq some inside]
    push_cast
    ring
  have upper : (halfway pattern : ℚ) * (2 * quotient.2) =
      ((intervalOf pattern).high * quotient.2 : Nat) := by
    rw [high_eq inside]
    push_cast
    ring
  have middle : 2 * ((quotient.1 / quotient.2 : ℚ) * one) * (2 * quotient.2) =
      (quotient.1 * (4 * one) : Nat) := by
    push_cast
    rw [show 2 * ((quotient.1 / quotient.2 : ℚ) * one) * (2 * quotient.2) =
      quotient.1 / quotient.2 * quotient.2 * (4 * one) by ring, div_mul_cancel₀ _ above.ne']
  have bounds : Beside (quotient.1 / quotient.2 * one) pattern ↔
      UpTo (pattern % 2 = 0) (halfway (pattern - 1)) (2 * (quotient.1 / quotient.2 * one)) ∧
        UpTo (pattern % 2 = 0) (2 * (quotient.1 / quotient.2 * one)) (halfway pattern) :=
    ⟨fun beside => ⟨beside.below some, beside.above inside⟩,
      fun both => ⟨inside.le, fun _ => both.1, fun _ => both.2⟩⟩
  rw [bounds, ← upTo_mul_iff scale, ← upTo_mul_iff scale (b := (halfway pattern : ℚ)),
    lower, upper, middle, upTo_cast, upTo_cast]
  simp only [Interval.contains, closed_iff]
  split <;> simp only [Bool.and_eq_true, decide_eq_true_eq]

theorem quotientOf_pos (count : Nat) (place : Int) : 0 < (quotientOf count place).2 := by
  unfold quotientOf
  split
  · exact Nat.one_pos
  · exact Nat.pow_pos (by decide)

theorem quotientOf_ratio (count : Nat) (place : Int) :
    ((quotientOf count place).1 / (quotientOf count place).2 : ℚ) = count * 10 ^ place := by
  unfold quotientOf
  split
  · rename_i up
    obtain ⟨shift, rfl⟩ := Int.eq_ofNat_of_zero_le up
    rw [Int.toNat_natCast, Nat.pow_eq, zpow_natCast]
    push_cast
    rw [div_one]
  · rename_i down
    obtain ⟨shift, rfl⟩ := Int.exists_eq_neg_ofNat (Int.not_le.mp down).le
    rw [neg_neg, Int.toNat_natCast, Nat.pow_eq, zpow_neg, zpow_natCast]
    push_cast
    rw [div_eq_mul_inv]

theorem shifted (count shift : Nat) (place : Int) :
    ((count * 10 ^ shift : Nat) : ℚ) * 10 ^ place = count * 10 ^ (place + shift) := by
  rw [zpow_add₀ (by norm_num), zpow_natCast]
  push_cast
  ring

def Reads (pattern count : Nat) (place : Int) : Prop := Beside (count * 10 ^ place * one) pattern

theorem contains_quotientOf (some : 0 < pattern) (inside : pattern < top) {count : Nat}
    {place : Int} :
    (intervalOf pattern).contains (quotientOf count place) = true ↔ Reads pattern count place := by
  rw [contains_iff some inside (quotientOf_pos count place), quotientOf_ratio, Reads]

end Quarters

section Grid

variable {pattern count : Nat} {place : Int}

def floorOf (pattern : Nat) (place : Int) : Nat := ⌊(magnitude pattern : ℚ) / one / 10 ^ place⌋₊

theorem power_pos (place : Int) : (0 : ℚ) < 10 ^ place * one :=
  mul_pos (zpow_pos (by norm_num) place) Double.one_cast_pos

theorem floorOf_le (pattern : Nat) (place : Int) :
    (floorOf pattern place : ℚ) * 10 ^ place * one ≤ magnitude pattern := by
  have scale := power_pos place
  rw [mul_assoc, ← le_div_iff₀ scale, mul_comm, ← div_div]
  exact Nat.floor_le (by positivity)

theorem lt_floorOf (pattern : Nat) (place : Int) :
    (magnitude pattern : ℚ) < ((floorOf pattern place + 1 : Nat) : ℚ) * 10 ^ place * one := by
  have scale := power_pos place
  rw [mul_assoc, ← div_lt_iff₀ scale, mul_comm, ← div_div]
  push_cast
  exact Nat.lt_floor_add_one _

theorem candidate_floor (pattern : Nat) (place : Int) :
    magnitude pattern * (quotientOf 1 place).2 / (one * (quotientOf 1 place).1) =
      floorOf pattern place := by
  have ratio := quotientOf_ratio 1 place
  rw [Nat.cast_one, one_mul] at ratio
  rw [floorOf, ← Nat.floor_div_eq_div (K := ℚ), ← ratio]
  congr 1
  push_cast
  rw [div_div, mul_div_assoc', div_div_eq_mul_div]

theorem candidate?_some {choice : Nat}
    (found : candidate? (intervalOf pattern) (magnitude pattern) place = some choice)
    (some : 0 < pattern) (inside : pattern < top) :
    Reads pattern choice place ∧
    (choice = floorOf pattern place ∨ choice = floorOf pattern place + 1) := by
  simp only [candidate?, candidate_floor] at found
  split at found
  · rename_i both
    obtain ⟨low, high⟩ := Bool.and_eq_true_iff.mp both
    rw [← Option.some.inj found]
    split
    · exact ⟨(contains_quotientOf some inside).mp low, .inl rfl⟩
    · exact ⟨(contains_quotientOf some inside).mp high, .inr rfl⟩
  · split at found
    · rename_i low
      cases found
      exact ⟨(contains_quotientOf some inside).mp low, .inl rfl⟩
    · split at found
      · rename_i high
        cases found
        exact ⟨(contains_quotientOf some inside).mp high, .inr rfl⟩
      · cases found

theorem candidate?_none (missing : candidate? (intervalOf pattern) (magnitude pattern) place = none)
    (some : 0 < pattern) (inside : pattern < top) :
    ¬ Reads pattern (floorOf pattern place) place ∧
    ¬ Reads pattern (floorOf pattern place + 1) place := by
  rw [← contains_quotientOf some inside, ← contains_quotientOf some inside]
  simp only [candidate?, candidate_floor] at missing
  split at missing
  · cases missing
  · split at missing
    · cases missing
    · rename_i low
      split at missing
      · cases missing
      · rename_i high
        exact ⟨low, high⟩

theorem reads_neighbour (reads : Reads pattern count place) :
    Reads pattern (floorOf pattern place) place ∨
    Reads pattern (floorOf pattern place + 1) place := by
  have scale := power_pos place
  have middle := beside_magnitude reads.bounded
  rcases Nat.lt_or_ge (floorOf pattern place) count with above | below
  · refine .inr (middle.between reads (lt_floorOf pattern place).le ?_)
    rw [mul_assoc, mul_assoc]
    exact mul_le_mul_of_nonneg_right (Nat.cast_le.mpr above) scale.le
  · refine .inl (reads.between middle ?_ (floorOf_le pattern place))
    rw [mul_assoc, mul_assoc]
    exact mul_le_mul_of_nonneg_right (Nat.cast_le.mpr below) scale.le

theorem isSome_candidate? (reads : Reads pattern count place) (some : 0 < pattern)
    (inside : pattern < top) :
    (candidate? (intervalOf pattern) (magnitude pattern) place).isSome = true := by
  cases found : candidate? (intervalOf pattern) (magnitude pattern) place with
  | some choice => rfl
  | none =>
      obtain ⟨low, high⟩ := candidate?_none found some inside
      exact absurd (reads_neighbour reads) (by simp only [low, high, or_self, not_false_iff])

end Grid

section Point

theorem pointOf_spec {numerator denominator : Nat} (some : numerator ≠ 0)
    (positive : 0 < denominator) :
    (10 : ℚ) ^ (pointOf numerator denominator - 1) ≤ numerator / denominator ∧
      (numerator / denominator : ℚ) < 10 ^ pointOf numerator denominator := by
  have above : (0 : ℚ) < denominator := Nat.cast_pos.mpr positive
  rw [le_div_iff₀ above, div_lt_iff₀ above, pointOf]
  split
  · rename_i large
    obtain ⟨count, digits⟩ : ∃ count, digitCount (numerator / denominator) = count + 1 :=
      Nat.exists_eq_succ_of_ne_zero (digitCount_pos _).ne'
    have least := pow_le_of_digitCount (Nat.div_pos large positive).ne'
    have most := lt_pow_digitCount (numerator / denominator)
    rw [digits] at least most ⊢
    rw [Nat.cast_succ, add_sub_cancel_right, zpow_natCast, ← Nat.cast_succ, zpow_natCast]
    have low : 10 ^ count * denominator ≤ numerator := (Nat.le_div_iff_mul_le positive).mp least
    have high : numerator < 10 ^ (count + 1) * denominator :=
      (Nat.div_lt_iff_lt_mul positive).mp most
    exact ⟨by exact_mod_cast low, by exact_mod_cast high⟩
  · rename_i small
    have fits : numerator ≤ denominator - 1 := by omega
    obtain ⟨count, digits⟩ : ∃ count, digitCount ((denominator - 1) / numerator) = count + 1 :=
      Nat.exists_eq_succ_of_ne_zero (digitCount_pos _).ne'
    have least := pow_le_of_digitCount (Nat.div_pos fits (Nat.pos_of_ne_zero some)).ne'
    have most := lt_pow_digitCount ((denominator - 1) / numerator)
    rw [digits] at least most ⊢
    have low := (Nat.le_div_iff_mul_le (Nat.pos_of_ne_zero some)).mp least
    have high := (Nat.div_lt_iff_lt_mul (Nat.pos_of_ne_zero some)).mp most
    rw [Nat.add_sub_cancel] at low
    rw [show (1 : Int) - (count + 1 : Nat) - 1 = -((count + 1 : Nat) : Int) by omega,
      show (1 : Int) - (count + 1 : Nat) =
          -(count : Int) by omega, zpow_neg, zpow_neg, zpow_natCast,
      zpow_natCast, inv_mul_le_iff₀ (by positivity), lt_inv_mul_iff₀ (by positivity)]
    have low : 10 ^ count * numerator < denominator := by omega
    have high : denominator ≤ 10 ^ (count + 1) * numerator := by omega
    exact ⟨by exact_mod_cast high, by exact_mod_cast low⟩

end Point

section Seventeen

variable {pattern : Nat} {place : Int}

/-- The distance to the previous pattern is that to the next one or, below a
power of two, half of it. -/
theorem previous_step (some : 0 < pattern) (inside : pattern < top) :
    ∃ before after : ℚ, 0 < before ∧ (halfway (pattern - 1) : ℚ) = 2 * magnitude pattern - before ∧
      (halfway pattern : ℚ) = 2 * magnitude pattern + after ∧
      (before = after ∧ (magnitude pattern : ℚ) < 2 ^ 53 * after ∨
        2 * before = after ∧ (magnitude pattern : ℚ) ≤ 2 ^ 52 * after) := by
  obtain ⟨mantissa, placed, short⟩ := exists_placed pattern inside.le
  have previous : (magnitude (pattern - 1) : ℚ) + 2 ^ (exponentOf (pattern - 1) - 1) =
      magnitude pattern := by
    exact_mod_cast magnitude_pred some inside
  refine ⟨2 ^ (exponentOf (pattern - 1) - 1), 2 ^ (exponentOf pattern - 1),
    by positivity, ?_, ?_, ?_⟩
  · rw [halfway, Nat.sub_add_cancel some]
    push_cast
    linarith
  · rw [halfway, magnitude_succ inside]
    push_cast
    ring
  · rw [placed.magnitude_eq inside.le, place_pred some inside]
    push_cast
    split
    · rename_i least
      refine .inr ⟨by ring, mul_le_mul_of_nonneg_right ?_ (by positivity)⟩
      obtain ⟨same, full, _⟩ := placed
      have exact : mantissa = 2 ^ 52 := by
        simp only [fractionOf, exponentOf, Nat.pow_eq] at least same full
        omega
      rw [exact]
      norm_num
    · exact .inl ⟨rfl, mul_lt_mul_of_pos_right (by exact_mod_cast short) (by positivity)⟩

theorem reads_fine (some : 0 < pattern) (inside : pattern < top)
    (fine : (10 : ℚ) ^ place * one * 10 ^ 16 ≤ magnitude pattern) :
    Reads pattern (floorOf pattern place) place ∨
    Reads pattern (floorOf pattern place + 1) place := by
  have low := floorOf_le pattern place
  have high := lt_floorOf pattern place
  obtain ⟨before, after, positive, start, finish, steps⟩ := previous_step some inside
  generalize grain : (10 : ℚ) ^ place * one = grid at fine
  rw [mul_assoc, grain] at low
  rw [mul_assoc, grain, Nat.cast_succ, add_one_mul] at high
  by_cases near : 2 * (floorOf pattern place * grid + grid) < 2 * magnitude pattern + after
  · refine .inr ⟨inside.le, fun _ => .inl ?_, fun _ => .inl ?_⟩
    · rw [start, mul_assoc, grain, Nat.cast_succ, add_one_mul]
      linarith
    · rw [finish, mul_assoc, grain, Nat.cast_succ, add_one_mul]
      exact near
  -- The point above is too far, so the one below is close.
  · refine .inl ⟨inside.le, fun _ => .inl ?_, fun _ => .inl ?_⟩
    · rw [start, mul_assoc, grain]
      rcases steps with ⟨rfl, size⟩ | ⟨rfl, size⟩
      · linarith
      · linarith
    · rw [finish, mul_assoc, grain]
      rcases steps with ⟨rfl, size⟩ | ⟨rfl, size⟩
      · linarith
      · linarith

end Seventeen

section Search

variable {interval : Interval} {units count tries length digits : Nat} {point place : Int}

theorem search_some (found : search interval units point tries length = some (count, place)) :
    ∃ digits, length ≤ digits ∧ digits < length + tries ∧ place = point - digits ∧
      candidate? interval units place = some count ∧
      ∀ fewer, length ≤ fewer → fewer < digits →
      candidate? interval units (point - fewer) = none := by
  induction tries generalizing length with
  | zero => cases found
  | succ tries ih =>
      rw [search] at found
      split at found
      · rename_i choice here
        cases found
        exact ⟨length, le_rfl, by omega, rfl, here,
          fun fewer least most => absurd most (Nat.not_lt.mpr least)⟩
      · rename_i missing
        obtain ⟨digits, least, most, rfl, here, before⟩ := ih found
        refine ⟨digits, by omega, by omega, rfl, here, fun fewer low high => ?_⟩
        rcases Nat.lt_or_eq_of_le low with later | rfl
        · exact before fewer later high
        · exact missing

theorem isSome_search (here : (candidate? interval units (point - digits)).isSome = true)
    (least : length ≤ digits) (most : digits < length + tries) :
    (search interval units point tries length).isSome = true := by
  induction tries generalizing length with
  | zero => exact absurd most (Nat.not_lt.mpr least)
  | succ tries ih =>
      rw [search]
      split
      · rfl
      · rename_i missing
        rcases Nat.lt_or_eq_of_le least with later | rfl
        · exact ih later (by omega)
        · rw [missing] at here
          cases here

theorem stripZeros_spec (place : Int) (some : count ≠ 0) (few : count < 10 ^ tries) :
    ∃ zeros : Nat, count = (stripZeros tries count place).1 * 10 ^ zeros ∧
      (stripZeros tries count place).2 = place + zeros ∧
      (stripZeros tries count place).1 % 10 ≠ 0 := by
  induction tries generalizing count place with
  | zero => exact absurd (Nat.lt_one_iff.mp few) some
  | succ tries ih =>
      rw [stripZeros]
      split
      · rename_i ends
        have last : count % 10 = 0 := eq_of_beq (Bool.and_eq_true_iff.mp ends).1
        have less : count / 10 ≠ 0 := by omega
        obtain ⟨zeros, same, above, bare⟩ := ih (place + 1) less (by omega)
        refine ⟨zeros + 1, ?_, by rw [above]; omega, bare⟩
        rw [Nat.pow_succ, ← Nat.mul_assoc, ← same, Nat.div_mul_cancel (Nat.dvd_of_mod_eq_zero last)]
      · rename_i stays
        refine ⟨0, (Nat.mul_one count).symm, (add_zero place).symm, fun last => stays ?_⟩
        rw [last, Bool.and_eq_true_iff]
        exact ⟨rfl, bne_iff_ne.mpr some⟩

end Search

section Found

def exponent (decimal : Decimal) : Int := decimal.point - digitCount decimal.digits

/-- A decimal reads back as a pattern, no decimal with fewer digits does, and it ends in no zero. -/
structure Shortest (pattern : Nat) (decimal : Decimal) : Prop where
  bare : decimal.digits % 10 ≠ 0
  reads : Reads pattern decimal.digits decimal.exponent
  least : ∀ count place, Reads pattern count place → digitCount decimal.digits ≤ digitCount count

variable {pattern count digits : Nat} {place : Int}

def patternPoint (pattern : Nat) : Int := pointOf (magnitude pattern) one

theorem magnitude_ne_zero (some : 0 < pattern) (inside : pattern < top) : magnitude pattern ≠ 0 :=
  (Nat.zero_lt_of_lt (magnitude_lt some inside.le)).ne'

theorem patternPoint_spec (some : 0 < pattern) (inside : pattern < top) :
    (10 : ℚ) ^ (patternPoint pattern - 1) * one ≤ magnitude pattern ∧
      (magnitude pattern : ℚ) < 10 ^ patternPoint pattern * one := by
  obtain ⟨low, high⟩ := pointOf_spec (magnitude_ne_zero some inside) Exact.one_pos
  exact ⟨(le_div_iff₀ Double.one_cast_pos).mp low, (div_lt_iff₀ Double.one_cast_pos).mp high⟩

theorem first_place (several : 0 < digits) :
    patternPoint pattern - digits + (digits - 1 : Nat) = patternPoint pattern - 1 := by
  omega

theorem Reads.ne_zero (reads : Reads pattern count place) (some : 0 < pattern) : count ≠ 0 := by
  rintro rfl
  have positive := Beside.pos reads some
  rw [Nat.cast_zero, zero_mul, zero_mul] at positive
  exact positive.false

theorem reads_shifted (shift : Nat) :
    Reads pattern (count * 10 ^ shift) place ↔ Reads pattern count (place + shift) := by
  rw [Reads, Reads, shifted]

theorem isSome_candidate?_of_reads (some : 0 < pattern) (inside : pattern < top)
    (reads : Reads pattern count place) (enough : digitCount count ≤ digits)
    (several : 0 < digits) :
    (candidate? (intervalOf pattern) (magnitude pattern) (patternPoint pattern - digits)).isSome =
      true := by
  rcases le_or_gt (patternPoint pattern - digits) place with coarse | fine
  · obtain ⟨shift, apart⟩ := Int.eq_ofNat_of_zero_le (Int.sub_nonneg_of_le coarse)
    rw [← add_sub_cancel (patternPoint pattern - digits) place, apart, ← reads_shifted] at reads
    exact isSome_candidate? reads some inside
  -- The decimal is below the power of ten at the first digit, which is a point of the grid.
  · suffices first : Reads pattern (1 * 10 ^ (digits - 1)) (patternPoint pattern - digits) from
      isSome_candidate? first some inside
    rw [reads_shifted, first_place several]
    have digit : (count : ℚ) ≤ 10 ^ (digits : Int) := by
      rw [zpow_natCast]
      exact_mod_cast (lt_pow_digitCount count).le.trans (Nat.pow_le_pow_right (by decide) enough)
    have small : (count : ℚ) * 10 ^ place ≤ 10 ^ (patternPoint pattern - 1) := by
      refine (mul_le_mul_of_nonneg_right digit (by positivity)).trans ?_
      rw [← zpow_add₀ (by norm_num)]
      exact zpow_le_zpow_right₀ (by norm_num) (by omega)
    refine Beside.between reads (beside_magnitude reads.bounded) ?_ ?_
    · rw [Nat.cast_one, one_mul]
      exact mul_le_mul_of_nonneg_right small Double.one_cast_pos.le
    · rw [Nat.cast_one, one_mul]
      exact (patternPoint_spec some inside).1

theorem floorOf_lt (some : 0 < pattern) (inside : pattern < top) (digits : Nat) :
    floorOf pattern (patternPoint pattern - digits) < 10 ^ digits := by
  have power : (0 : ℚ) < 10 ^ (patternPoint pattern - digits) := zpow_pos (by norm_num) _
  have nonneg : (0 : ℚ) ≤ magnitude pattern / one / 10 ^ (patternPoint pattern - digits) :=
    div_nonneg (div_nonneg (Nat.cast_nonneg _) Double.one_cast_pos.le) power.le
  rw [floorOf, Nat.floor_lt nonneg, div_lt_iff₀ power, div_lt_iff₀ Double.one_cast_pos]
  push_cast
  rw [← zpow_natCast, ← zpow_add₀ (by norm_num), add_sub_cancel]
  exact (patternPoint_spec some inside).2

theorem search_found (some : 0 < pattern) (inside : pattern < top) : ∃ count : Nat, ∃ digits : Nat,
    search (intervalOf pattern) (magnitude pattern) (patternPoint pattern) 17 1 =
      Option.some (count, patternPoint pattern - digits) ∧
    0 < digits ∧ digits ≤ 17 ∧ count ≤ 10 ^ digits ∧
    Reads pattern count (patternPoint pattern - digits) ∧
    ∀ count place, Reads pattern count place → digits ≤ digitCount count := by
  have fine : (10 : ℚ) ^ (patternPoint pattern - (17 : Nat)) * one * 10 ^ 16 ≤
      magnitude pattern := by
    refine le_of_eq_of_le ?_ (patternPoint_spec some inside).1
    rw [mul_right_comm,
      ← first_place (show 0 < 17 by decide), zpow_add₀ (by norm_num), zpow_natCast]
  have candidate : (candidate? (intervalOf pattern) (magnitude pattern)
      (patternPoint pattern - (17 : Nat))).isSome = true := by
    rcases reads_fine some inside fine with low | high
    · exact isSome_candidate? low some inside
    · exact isSome_candidate? high some inside
  obtain ⟨⟨count, place⟩, found⟩ := Option.isSome_iff_exists.mp
    (show (search _ _ _ 17 1).isSome = true from isSome_search candidate (by omega) (by omega))
  obtain ⟨digits, least, most, same, here, before⟩ := search_some found
  rw [same] at found here
  obtain ⟨reads, which⟩ := candidate?_some here some inside
  refine ⟨count, digits, found, least, by omega, ?_, reads, ?_⟩
  · have small := floorOf_lt some inside digits
    omega
  · intro other place readsToo
    by_contra fewer
    have none := before (digitCount other) (digitCount_pos other) (Nat.lt_of_not_le fewer)
    have some := isSome_candidate?_of_reads some inside readsToo le_rfl (digitCount_pos other)
    rw [none] at some
    cases some

theorem shortest_ofBits (some : 0 < pattern) (inside : pattern < top) :
    Shortest pattern (ofBits pattern) := by
  obtain ⟨count, digits, found, several, few, bounded, reads, least⟩ := search_found some inside
  have positive : count ≠ 0 := reads.ne_zero some
  have small : count < 10 ^ 20 := bounded.trans_lt (Nat.pow_lt_pow_right (by decide) (by omega))
  obtain ⟨zeros, same, above, bare⟩ :=
    stripZeros_spec (patternPoint pattern - digits) positive small
  have form : ofBits pattern = ⟨(stripZeros 20 count (patternPoint pattern - digits)).1,
      (stripZeros 20 count (patternPoint pattern - digits)).2 +
        digitCount (stripZeros 20 count (patternPoint pattern - digits)).1⟩ := by
    rw [ofBits, ← patternPoint, found, Option.getD_some]
  rw [form]
  generalize stripZeros 20 count (patternPoint pattern - digits) = stripped at *
  obtain ⟨last, place⟩ := stripped
  -- A power of ten that was found loses its zeros, so no digit is added by it.
  have size : digitCount last ≤ digits := by
    refine digitCount_le several (lt_of_le_of_ne ?_ ?_)
    · exact (Nat.le_mul_of_pos_right last (Nat.pow_pos (by decide))).trans (same ▸ bounded)
    · rintro rfl
      exact bare (Nat.mod_eq_zero_of_dvd (dvd_pow_self 10 several.ne'))
  refine ⟨bare, ?_, fun other place readsToo => size.trans (least other place readsToo)⟩
  rw [exponent, add_sub_cancel_right, above, ← reads_shifted, ← same]
  exact reads

end Found

end Decimal

end StyleFold
