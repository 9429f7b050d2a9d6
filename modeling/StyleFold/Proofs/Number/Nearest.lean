import StyleFold.Proofs.Number.Double

/-!
Rounding to the nearest double. Bit patterns without a sign are ordered like the numbers they stand
for, and the pattern of infinity reads as `2^1024`. A quotient belongs to the pattern that it lies
next to: not beyond the points half-way to the neighbours, and on such a point only if the pattern
is even. Main statement: `nearest` picks that pattern, so it hangs on the value of the quotient
alone and is the closest double there is.
-/

namespace StyleFold

namespace Exact

section Patterns

def top : Nat := 2047 * 2 ^ 52

/-- A pattern read as `mantissa · 2^place` units. Where a mantissa is full it may stand
at the next place too. -/
structure Placed (pattern place mantissa : Nat) : Prop where
  pattern_eq : pattern = place * 2 ^ 52 + mantissa
  full : place = 0 ∨ 2 ^ 52 ≤ mantissa
  small : mantissa ≤ 2 ^ 53

variable {pattern place mantissa : Nat}

theorem Placed.magnitude_eq (placed : Placed pattern place mantissa) (bounded : pattern ≤ top) :
    magnitude pattern = mantissa * 2 ^ place := by
  obtain ⟨rfl, full, small⟩ := placed
  simp only [top] at bounded
  rcases Nat.lt_or_eq_of_le small with below | rfl
  · by_cases subnormal : mantissa < 2 ^ 52
    · obtain rfl : place = 0 := by omega
      have exponent : exponentOf (0 * 2 ^ 52 + mantissa) = 0 := by
        simp only [exponentOf, Nat.pow_eq]
        omega
      rw [magnitude, if_pos exponent, fractionOf, Nat.pow_eq]
      omega
    · have exponent : exponentOf (place * 2 ^ 52 + mantissa) = place + 1 := by
        simp only [exponentOf, Nat.pow_eq]
        omega
      have fraction : fractionOf (place * 2 ^ 52 + mantissa) = mantissa - 2 ^ 52 := by
        simp only [fractionOf, Nat.pow_eq]
        omega
      rw [magnitude, exponent, fraction, if_neg (Nat.succ_ne_zero place),
        Nat.add_sub_cancel, Nat.pow_eq, Nat.pow_eq, Nat.add_sub_cancel' (Nat.not_lt.mp subnormal)]
  -- The mantissa has one bit more than there is room for, and carries into the exponent.
  · have exponent : exponentOf (place * 2 ^ 52 + 2 ^ 53) = place + 1 + 1 := by
      simp only [exponentOf, Nat.pow_eq]
      omega
    have fraction : fractionOf (place * 2 ^ 52 + 2 ^ 53) = 0 := by
      simp only [fractionOf, Nat.pow_eq]
      omega
    rw [magnitude, exponent, fraction, if_neg (Nat.succ_ne_zero _), Nat.add_sub_cancel, Nat.pow_eq,
      Nat.pow_eq, Nat.pow_succ 2 place]
    ring

theorem exists_placed (pattern : Nat) (bounded : pattern ≤ top) :
    ∃ mantissa, Placed pattern (exponentOf pattern - 1) mantissa ∧ mantissa < 2 ^ 53 := by
  simp only [top] at bounded
  have exponent : exponentOf pattern = pattern / 2 ^ 52 := by
    simp only [exponentOf, Nat.pow_eq]
    omega
  rw [exponent]
  exact ⟨pattern - (pattern / 2 ^ 52 - 1) * 2 ^ 52, ⟨by omega, by omega, by omega⟩, by omega⟩

theorem magnitude_succ (inside : pattern < top) :
    magnitude (pattern + 1) = magnitude pattern + 2 ^ (exponentOf pattern - 1) := by
  obtain ⟨mantissa, placed, short⟩ := exists_placed pattern inside.le
  have next : Placed (pattern + 1) (exponentOf pattern - 1) (mantissa + 1) := by
    obtain ⟨same, full, small⟩ := placed
    exact ⟨by omega, by omega, by omega⟩
  rw [placed.magnitude_eq inside.le, next.magnitude_eq inside]
  ring

theorem magnitude_lt {other : Nat} (less : pattern < other) (bounded : other ≤ top) :
    magnitude pattern < magnitude other := by
  induction other, less using Nat.le_induction with
  | base =>
      rw [magnitude_succ bounded]
      exact Nat.lt_add_of_pos_right (Nat.two_pow_pos _)
  | succ other _ ih =>
      refine (ih (Nat.le_of_succ_le bounded)).trans ?_
      rw [magnitude_succ bounded]
      exact Nat.lt_add_of_pos_right (Nat.two_pow_pos _)

theorem magnitude_le {other : Nat} (le : pattern ≤ other) (bounded : other ≤ top) :
    magnitude pattern ≤ magnitude other := by
  rcases Nat.lt_or_eq_of_le le with less | rfl
  · exact (magnitude_lt less bounded).le
  · exact le_rfl

end Patterns

section Bounds

def UpTo (closed : Prop) (value bound : ℚ) : Prop := value < bound ∨ closed ∧ value = bound

variable {closed : Prop} {a b c : ℚ}

theorem UpTo.le (upTo : UpTo closed a b) : a ≤ b := by
  rcases upTo with less | ⟨_, rfl⟩
  · exact less.le
  · exact le_rfl

theorem UpTo.trans_le (upTo : UpTo closed a b) (le : b ≤ c) : UpTo closed a c := by
  rcases upTo with less | ⟨yes, rfl⟩
  · exact .inl (less.trans_le le)
  · rcases le.lt_or_eq with less | same
    · exact .inl less
    · exact .inr ⟨yes, same⟩

theorem UpTo.of_le (le : a ≤ b) (upTo : UpTo closed b c) : UpTo closed a c := by
  rcases upTo with less | ⟨yes, rfl⟩
  · exact .inl (le.trans_lt less)
  · rcases le.lt_or_eq with less | same
    · exact .inl less
    · exact .inr ⟨yes, same⟩

theorem upTo_mul_iff (positive : 0 < c) : UpTo closed (a * c) (b * c) ↔ UpTo closed a b := by
  rw [UpTo, UpTo, mul_lt_mul_iff_of_pos_right positive, mul_left_inj' positive.ne']

theorem upTo_iff_of_iff {closed' : Prop} (same : closed ↔ closed') :
    UpTo closed a b ↔ UpTo closed' a b := by
  rw [UpTo, UpTo, same]

end Bounds

/-! The pattern that a number lies next to. -/

def halfway (pattern : Nat) : Nat := magnitude pattern + magnitude (pattern + 1)

/-- A number of units is next to a pattern: none is closer, and of two as
close it is the even one. -/
structure Beside (units : ℚ) (pattern : Nat) : Prop where
  bounded : pattern ≤ top
  below : 0 < pattern → UpTo (pattern % 2 = 0) (halfway (pattern - 1)) (2 * units)
  above : pattern < top → UpTo (pattern % 2 = 0) (2 * units) (halfway pattern)

section Beside

variable {units : ℚ} {pattern other : Nat}

theorem halfway_lt (less : pattern < other) (bounded : other < top) :
    halfway pattern < halfway other :=
  Nat.add_lt_add (magnitude_lt less bounded.le) (magnitude_lt (Nat.succ_lt_succ less) bounded)

theorem halfway_le (le : pattern ≤ other) (bounded : other < top) :
    halfway pattern ≤ halfway other := by
  rcases Nat.lt_or_eq_of_le le with less | rfl
  · exact (halfway_lt less bounded).le
  · exact le_rfl

theorem Beside.not_less (beside : Beside units pattern) (besideToo : Beside units other) :
    ¬ pattern < other := by
  intro less
  have room : other - 1 < top := by
    have bounded := besideToo.bounded
    omega
  have above := beside.above (less.trans_le besideToo.bounded)
  have below := besideToo.below (Nat.zero_lt_of_lt less)
  have order : (halfway pattern : ℚ) ≤ halfway (other - 1) :=
    Nat.cast_le.mpr (halfway_le (Nat.le_pred_of_lt less) room)
  -- Both bounds are the number itself, so the patterns are neighbours and both are even.
  rcases above with strict | ⟨even, reached⟩
  · linarith [below.le]
  · rcases below with strict | ⟨evenToo, reachedToo⟩
    · linarith
    · have same : halfway pattern = halfway (other - 1) := by
        exact_mod_cast (reached.symm.trans reachedToo.symm)
      have adjacent : ¬ pattern < other - 1 := fun apart => (halfway_lt apart room).ne same
      omega

theorem Beside.unique (beside : Beside units pattern) (besideToo : Beside units other) :
    pattern = other :=
  Nat.le_antisymm (Nat.not_lt.mp (besideToo.not_less beside))
    (Nat.not_lt.mp (beside.not_less besideToo))

theorem beside_zero : Beside 0 0 := by
  refine ⟨Nat.zero_le _, fun positive => absurd positive (lt_irrefl 0), fun _ => .inl ?_⟩
  rw [mul_zero]
  exact Nat.cast_pos.mpr (by decide)

theorem Beside.distance (beside : Beside units pattern) (bounded : other ≤ top)
    (different : other ≠ pattern) :
    UpTo (pattern % 2 = 0) |magnitude pattern - units| |magnitude other - units| := by
  rcases Nat.lt_or_gt_of_ne different with less | greater
  · have order : (magnitude other : ℚ) < magnitude pattern :=
      Nat.cast_lt.mpr (magnitude_lt less beside.bounded)
    have nearer : (magnitude other : ℚ) ≤ magnitude (pattern - 1) :=
      Nat.cast_le.mpr
        (magnitude_le (Nat.le_pred_of_lt less) (le_trans (Nat.sub_le _ _) beside.bounded))
    have below := beside.below (Nat.zero_lt_of_lt less)
    rw [halfway, Nat.sub_add_cancel (Nat.zero_lt_of_lt less)] at below
    push_cast at below
    refine UpTo.trans_le ?_ (neg_le_abs _)
    rcases le_total (magnitude pattern : ℚ) units with up | down
    · rw [abs_of_nonpos (by linarith)]
      exact .inl (by linarith)
    · rw [abs_of_nonneg (by linarith)]
      rcases below with strict | ⟨even, same⟩
      · exact .inl (by linarith)
      · exact UpTo.trans_le (.inr ⟨even, rfl⟩) (by linarith)
  · have order : (magnitude pattern : ℚ) < magnitude other :=
      Nat.cast_lt.mpr (magnitude_lt greater bounded)
    have nearer : (magnitude (pattern + 1) : ℚ) ≤ magnitude other :=
      Nat.cast_le.mpr (magnitude_le greater bounded)
    have above := beside.above (greater.trans_le bounded)
    rw [halfway] at above
    push_cast at above
    refine UpTo.trans_le ?_ (le_abs_self _)
    rcases le_total (magnitude pattern : ℚ) units with up | down
    · rw [abs_of_nonpos (by linarith)]
      rcases above with strict | ⟨even, same⟩
      · exact .inl (by linarith)
      · exact UpTo.trans_le (.inr ⟨even, rfl⟩) (by linarith)
    · rw [abs_of_nonneg (by linarith)]
      exact .inl (by linarith)

theorem Beside.distance_div {size : ℚ} (beside : Beside (size * one) pattern)
    (bounded : other ≤ top) (different : other ≠ pattern) :
    UpTo (pattern % 2 = 0) |(magnitude pattern : ℚ) / one - size| |(magnitude other : ℚ) /
      one - size| := by
  have scale := Double.one_cast_pos
  have scaled (p : Nat) : |(magnitude p : ℚ) / one - size| * one = |magnitude p - size * one| := by
    rw [← abs_of_pos scale, ← abs_mul, abs_of_pos scale, sub_mul, div_mul_cancel₀ _ scale.ne']
  rw [← upTo_mul_iff scale, scaled, scaled]
  exact beside.distance bounded different

end Beside

/-! A number that is rounded to a mantissa at its place. -/

section Placed

variable {units ratio : ℚ} {pattern place mantissa : Nat}

theorem Placed.parity (placed : Placed pattern place mantissa) :
    pattern % 2 = 0 ↔ mantissa % 2 = 0 := by
  have same := placed.pattern_eq
  omega

theorem Placed.above (placed : Placed pattern place mantissa) (inside : pattern < top)
    (above : UpTo (mantissa % 2 = 0) (2 * ratio) (2 * mantissa + 1)) :
    UpTo (pattern % 2 = 0) (2 * (ratio * 2 ^ place)) (halfway pattern) := by
  have power : (0 : ℚ) < 2 ^ place := by positivity
  have step : magnitude pattern + 2 ^ place ≤ magnitude (pattern + 1) := by
    rw [magnitude_succ inside]
    refine Nat.add_le_add_left (Nat.pow_le_pow_right Nat.two_pos ?_) _
    obtain ⟨same, wide, small⟩ := placed
    simp only [top] at inside
    simp only [exponentOf, Nat.pow_eq]
    omega
  have middle : (2 * mantissa + 1 : ℚ) * 2 ^ place ≤ halfway pattern := by
    have size := placed.magnitude_eq inside.le
    rw [size] at step
    have cast : ((mantissa * 2 ^ place + 2 ^ place : Nat) : ℚ) ≤ magnitude (pattern + 1) :=
      Nat.cast_le.mpr step
    rw [halfway, size]
    push_cast at cast ⊢
    linarith
  rw [upTo_iff_of_iff placed.parity, ← mul_assoc]
  exact UpTo.trans_le ((upTo_mul_iff power).mpr above) middle

theorem Placed.below (placed : Placed pattern place mantissa) (bounded : pattern ≤ top)
    (positive : 0 < pattern) (full : place = 0 ∨ 2 ^ 52 ≤ ratio)
    (below : UpTo (mantissa % 2 = 0) (2 * mantissa - 1) (2 * ratio)) :
    UpTo (pattern % 2 = 0) (halfway (pattern - 1)) (2 * (ratio * 2 ^ place)) := by
  have power : (0 : ℚ) < 2 ^ place := by positivity
  have size := placed.magnitude_eq bounded
  rw [upTo_iff_of_iff placed.parity, ← mul_assoc]
  by_cases room : place = 0 ∨ 2 ^ 52 < mantissa
  · have previous : Placed (pattern - 1) place (mantissa - 1) := by
      obtain ⟨same, _, small⟩ := placed
      exact ⟨by omega, by omega, by omega⟩
    have some : 1 ≤ mantissa := by
      have same := placed.pattern_eq
      omega
    have middle : (halfway (pattern - 1) : ℚ) = (2 * mantissa - 1) * 2 ^ place := by
      rw [halfway, Nat.sub_add_cancel positive, size, previous.magnitude_eq (by omega)]
      push_cast [some]
      ring
    rw [middle, upTo_mul_iff power]
    exact below
  -- Below the least full mantissa the patterns lie closer, but the number is not below it.
  · obtain ⟨high, low⟩ := not_or.mp room
    have least : mantissa = 2 ^ 52 := by
      have wide := placed.full.resolve_left high
      omega
    have smaller : (magnitude (pattern - 1) : ℚ) < magnitude pattern :=
      Nat.cast_lt.mpr (magnitude_lt (Nat.sub_lt positive Nat.one_pos) bounded)
    have reached : (magnitude pattern : ℚ) ≤ ratio * 2 ^ place := by
      rw [size, least]
      push_cast
      exact mul_le_mul_of_nonneg_right (full.resolve_left high) power.le
    left
    rw [halfway, Nat.sub_add_cancel positive]
    push_cast
    linarith

theorem placed_top : Placed top 2046 (2 ^ 52) := ⟨by unfold top; omega, .inr le_rfl, by omega⟩

theorem Placed.beyond (placed : Placed pattern place mantissa) (outside : top < pattern)
    (full : place = 0 ∨ 2 ^ 52 ≤ ratio) : Beside (ratio * 2 ^ place) top := by
  obtain ⟨last, value, placedTop⟩ : ∃ last, 2046 = last ∧ Placed top last (2 ^ 52) :=
    ⟨_, rfl, placed_top⟩
  have high : last ≤ place := by
    obtain ⟨same, _, small⟩ := placed
    simp only [top] at outside
    omega
  have wide : 2 ^ 52 ≤ ratio := full.resolve_left (by omega)
  have smaller : (magnitude (top - 1) : ℚ) < magnitude top :=
    Nat.cast_lt.mpr (magnitude_lt (by unfold top; omega) le_rfl)
  have reached : (magnitude top : ℚ) ≤ ratio * 2 ^ place := by
    have power : (2 : ℚ) ^ last ≤ 2 ^ place := pow_le_pow_right₀ one_le_two high
    rw [placedTop.magnitude_eq le_rfl]
    push_cast
    exact mul_le_mul wide power (by positivity) (le_trans (by positivity) wide)
  refine ⟨le_rfl, fun positive => .inl ?_, fun inside => absurd inside (lt_irrefl _)⟩
  rw [halfway, Nat.sub_add_cancel positive]
  push_cast
  linarith

theorem Placed.beside (placed : Placed pattern place mantissa) (full : place = 0 ∨ 2 ^ 52 ≤ ratio)
    (below : UpTo (mantissa % 2 = 0) (2 * mantissa - 1) (2 * ratio))
    (above : UpTo (mantissa % 2 = 0) (2 * ratio) (2 * mantissa + 1)) :
    Beside (ratio * 2 ^ place) (min pattern top) := by
  by_cases bounded : pattern ≤ top
  · rw [Nat.min_eq_left bounded]
    exact ⟨bounded, fun positive => placed.below bounded positive full below,
      fun inside => placed.above inside above⟩
  · rw [Nat.min_eq_right (Nat.le_of_not_le bounded)]
    exact placed.beyond (Nat.lt_of_not_le bounded) full

end Placed

end Exact

/-! What `nearest` picks. -/

namespace Double

open Exact

section Quotient

variable {numerator denominator : Nat}

theorem roundHalfEven_spec (numerator : Nat) (positive : 0 < denominator) :
    let rounded := roundHalfEven numerator denominator
    UpTo (rounded % 2 = 0) (2 * rounded - 1) (2 * (numerator / denominator : ℚ)) ∧
      UpTo (rounded % 2 = 0) (2 * (numerator / denominator : ℚ)) (2 * rounded + 1) := by
  have above : (0 : ℚ) < denominator := Nat.cast_pos.mpr positive
  have split : (denominator : ℚ) * (numerator / denominator : Nat) +
      (numerator % denominator : Nat) =
      numerator := by exact_mod_cast Nat.div_add_mod numerator denominator
  have ratio : 2 * (numerator / denominator : ℚ) * denominator = 2 * numerator := by
    rw [mul_assoc, div_mul_cancel₀ _ above.ne']
  have remainder : ((numerator % denominator : Nat) : ℚ) < denominator :=
    Nat.cast_lt.mpr (Nat.mod_lt _ positive)
  have least : (0 : ℚ) ≤ (numerator % denominator : Nat) := Nat.cast_nonneg _
  intro rounded
  rw [← upTo_mul_iff above, ← upTo_mul_iff above (a := 2 * _), ratio]
  simp only [rounded, roundHalfEven]
  split
  · rename_i low
    have low : 2 * ((numerator % denominator : Nat) : ℚ) < denominator := by exact_mod_cast low
    exact ⟨.inl (by linarith), .inl (by linarith)⟩
  · split
    · rename_i high
      have high : (denominator : ℚ) < 2 * (numerator % denominator : Nat) := by exact_mod_cast high
      push_cast
      exact ⟨.inl (by linarith), .inl (by linarith)⟩
    · rename_i notLow notHigh
      have half : 2 * ((numerator % denominator : Nat) : ℚ) = denominator := by
        exact_mod_cast Nat.le_antisymm (Nat.not_lt.mp notHigh) (Nat.not_lt.mp notLow)
      have even : (numerator / denominator + numerator / denominator % 2) % 2 = 0 := by omega
      rcases Nat.mod_two_eq_zero_or_one (numerator / denominator) with down | up
      · rw [down] at even ⊢
        push_cast
        exact ⟨.inl (by linarith), .inr ⟨even, by linarith⟩⟩
      · rw [up] at even ⊢
        push_cast
        exact ⟨.inr ⟨even, by linarith⟩, .inl (by linarith)⟩

theorem le_of_below {closed : Prop} {mantissa limit : Nat} {ratio : ℚ}
    (below : UpTo closed (2 * mantissa - 1) (2 * ratio)) (narrow : ratio < limit) :
    mantissa ≤ limit := by
  have bound : ((2 * mantissa : Nat) : ℚ) < ((2 * limit + 1 : Nat) : ℚ) := by
    push_cast
    linarith [below.le]
  have bound := Nat.cast_lt.mp bound
  omega

theorem le_of_above {closed : Prop} {mantissa limit : Nat} {ratio : ℚ}
    (above : UpTo closed (2 * ratio) (2 * mantissa + 1)) (wide : limit ≤ ratio) :
    limit ≤ mantissa := by
  have bound : ((2 * limit : Nat) : ℚ) ≤ ((2 * mantissa + 1 : Nat) : ℚ) := by
    push_cast
    linarith [above.le]
  have bound := Nat.cast_le.mp bound
  omega

theorem log2_bounds {n : Nat} (some : n ≠ 0) :
    (2 : ℚ) ^ (n.log2 : Int) ≤ n ∧ (n : ℚ) < 2 ^ ((n.log2 : Int) + 1) := by
  constructor
  · rw [zpow_natCast]
    exact_mod_cast Nat.log2_self_le some
  · rw [← Nat.cast_succ, zpow_natCast]
    exact_mod_cast Nat.lt_log2_self

/-- A power of two is reached when it is reached after multiplication by its denominator. -/
theorem reached_iff (numerator : Nat) (place : Int) (positive : 0 < denominator) :
    (if 0 ≤ place then decide (denominator * Nat.pow 2 place.toNat ≤ numerator)
      else decide (denominator ≤ numerator * Nat.pow 2 (-place).toNat)) = true ↔
      (2 : ℚ) ^ place ≤ numerator / denominator := by
  have above : (0 : ℚ) < denominator := Nat.cast_pos.mpr positive
  rw [le_div_iff₀ above]
  split
  · rename_i up
    obtain ⟨count, rfl⟩ := Int.eq_ofNat_of_zero_le up
    rw [decide_eq_true_iff, Nat.pow_eq, Int.toNat_natCast, zpow_natCast, mul_comm]
    exact_mod_cast Iff.rfl
  · rename_i down
    obtain ⟨count, rfl⟩ := Int.exists_eq_neg_ofNat (Int.not_le.mp down).le
    have power : (0 : ℚ) < 2 ^ count := by positivity
    rw [decide_eq_true_iff, Nat.pow_eq, neg_neg, Int.toNat_natCast, zpow_neg, zpow_natCast,
      inv_mul_le_iff₀ power, mul_comm _ (numerator : ℚ)]
    exact_mod_cast Iff.rfl

theorem leadingPlace_spec (some : numerator ≠ 0) (positive : 0 < denominator) :
    (2 : ℚ) ^ leadingPlace numerator denominator ≤ numerator / denominator ∧
      (numerator / denominator : ℚ) < 2 ^ (leadingPlace numerator denominator + 1) := by
  have above : (0 : ℚ) < denominator := Nat.cast_pos.mpr positive
  obtain ⟨low, high⟩ := log2_bounds some
  obtain ⟨lowToo, highToo⟩ := log2_bounds (Nat.pos_iff_ne_zero.mp positive)
  obtain ⟨guess, named⟩ : ∃ guess : Int, (numerator.log2 : Int) - denominator.log2 = guess :=
    ⟨_, rfl⟩
  have under : (numerator / denominator : ℚ) < 2 ^ (guess + 1) := by
    rw [div_lt_iff₀ above]
    refine high.trans_le ?_
    rw [show (numerator.log2 : Int) + 1 =
      guess + 1 + denominator.log2 by omega, zpow_add₀ two_ne_zero]
    exact mul_le_mul_of_nonneg_left lowToo (by positivity)
  have least : (2 : ℚ) ^ (guess - 1) ≤ numerator / denominator := by
    rw [le_div_iff₀ above]
    refine le_trans ?_ low
    rw [show (numerator.log2 : Int) =
      guess - 1 + (denominator.log2 + 1) by omega, zpow_add₀ two_ne_zero]
    exact mul_le_mul_of_nonneg_left highToo.le (by positivity)
  have reached := reached_iff numerator guess positive
  by_cases reach : (2 : ℚ) ^ guess ≤ numerator / denominator
  · have place : leadingPlace numerator denominator = guess := by
      rw [leadingPlace, named]
      exact if_pos (reached.mpr reach)
    rw [place]
    exact ⟨reach, under⟩
  · have place : leadingPlace numerator denominator = guess - 1 := by
      rw [leadingPlace, named]
      exact if_neg (mt reached.mp reach)
    rw [place, sub_add_cancel]
    exact ⟨least, not_le.mp reach⟩

theorem scaled_ratio (numerator : Nat) (place : Int) (positive : 0 < denominator) :
    ∃ upper lower : Nat, 0 < lower ∧ (upper / lower : ℚ) * 2 ^ place = numerator / denominator ∧
      (if 0 ≤ place then roundHalfEven numerator (denominator * Nat.pow 2 place.toNat)
        else roundHalfEven (numerator * Nat.pow 2 (-place).toNat) denominator) =
          roundHalfEven upper lower := by
  have above : (denominator : ℚ) ≠ 0 := Nat.cast_ne_zero.mpr (Nat.pos_iff_ne_zero.mp positive)
  split
  · rename_i up
    obtain ⟨count, rfl⟩ := Int.eq_ofNat_of_zero_le up
    refine ⟨numerator, denominator * Nat.pow 2 count,
      Nat.mul_pos positive (Nat.two_pow_pos count), ?_, rfl⟩
    rw [Nat.pow_eq, zpow_natCast]
    push_cast
    field_simp
  · rename_i down
    obtain ⟨count, rfl⟩ := Int.exists_eq_neg_ofNat (Int.not_le.mp down).le
    refine ⟨numerator * Nat.pow 2 count, denominator, positive, ?_, ?_⟩
    · rw [Nat.pow_eq, zpow_neg, zpow_natCast]
      push_cast
      field_simp
    · rw [neg_neg, Int.toNat_natCast]

/-- Scaled to the place of its mantissa a number has 53 bits before the point, or
less at the last place. -/
theorem mantissa_bounds {quotient ratio : ℚ} {leading place : Int} (low : 2 ^ leading ≤ quotient)
    (high : quotient < 2 ^ (leading + 1)) (named : max (leading - 52) (-1074) = place)
    (scaled : ratio * 2 ^ place = quotient) :
    ratio < 2 ^ 53 ∧ (place = -1074 ∨ 2 ^ 52 ≤ ratio) := by
  have power : (0 : ℚ) < 2 ^ place := by positivity
  rw [← mul_lt_mul_iff_of_pos_right power,
    ← mul_le_mul_iff_of_pos_right (b := (2 : ℚ) ^ 52) power, scaled, ← zpow_natCast, ← zpow_natCast,
    ← zpow_add₀ two_ne_zero, ← zpow_add₀ two_ne_zero]
  refine ⟨high.trans_le (zpow_le_zpow_right₀ one_le_two (by omega)), ?_⟩
  by_cases last : place = -1074
  · exact .inl last
  · exact .inr (le_trans (zpow_le_zpow_right₀ one_le_two (by omega)) low)

theorem beside_nearestPattern (numerator : Nat) (positive : 0 < denominator) :
    Beside (numerator / denominator * one) (nearestPattern numerator denominator) := by
  by_cases zero : numerator = 0
  · rw [zero, nearestPattern, if_pos rfl, Nat.cast_zero, zero_div, zero_mul]
    exact beside_zero
  obtain ⟨low, high⟩ := leadingPlace_spec zero positive
  rw [nearestPattern, if_neg zero]
  generalize leadingPlace numerator denominator = leading at low high
  obtain ⟨place, named⟩ : ∃ place : Int, max (leading - 52) (-1074) = place := ⟨_, rfl⟩
  obtain ⟨count, placed⟩ := Int.eq_ofNat_of_zero_le (show 0 ≤ place + 1074 by omega)
  obtain ⟨upper, lower, lowerPositive, scaled, same⟩ := scaled_ratio numerator place positive
  obtain ⟨narrow, full⟩ := mantissa_bounds low high named scaled
  replace full : count = 0 ∨ 2 ^ 52 ≤ (upper / lower : ℚ) := full.imp_left fun last => by omega
  have units : (numerator / denominator : ℚ) * one = upper / lower * 2 ^ count := by
    obtain ⟨total, value⟩ : ∃ total : Nat, 1074 = total := ⟨_, rfl⟩
    rw [← scaled, one_eq value, mul_assoc,
      show place = (count : Int) - total by omega, zpow_sub₀ two_ne_zero]
    push_cast
    rw [zpow_natCast, zpow_natCast, div_mul_cancel₀ _ (pow_ne_zero _ two_ne_zero)]
  obtain ⟨below, above⟩ := roundHalfEven_spec upper lowerPositive
  simp only [named]
  rw [same, units, placed, Int.toNat_natCast]
  have small : roundHalfEven upper lower ≤ 2 ^ 53 := le_of_below below (by exact_mod_cast narrow)
  have wide : count = 0 ∨ 2 ^ 52 ≤ roundHalfEven upper lower :=
    full.imp_right fun full => le_of_above above (by exact_mod_cast full)
  exact Placed.beside ⟨rfl, wide, small⟩ full below above

theorem nearestPattern_eq {pattern : Nat} (positive : 0 < denominator)
    (beside : Beside (numerator / denominator * one) pattern) :
    nearestPattern numerator denominator = pattern :=
  (beside_nearestPattern numerator positive).unique beside

end Quotient

section Rounded

/-- The double that a number is rounded to, given its sign and its distance from zero. -/
def rounded (negative : Bool) (size : ℚ) : Float := nearest negative size.num.natAbs size.den

def patternOf (size : ℚ) : Nat := nearestPattern size.num.natAbs size.den

variable {size : ℚ}

theorem beside_patternOf (nonneg : 0 ≤ size) : Beside (size * one) (patternOf size) := by
  have beside := beside_nearestPattern size.num.natAbs size.den_pos
  have quotient : (size.num.natAbs / size.den : ℚ) = size := by
    rw [Nat.cast_natAbs, abs_of_nonneg (Rat.num_nonneg.mpr nonneg)]
    exact Rat.num_div_den size
  rwa [quotient] at beside

theorem nearestPattern_eq_patternOf (numerator : Nat) {denominator : Nat}
    (positive : 0 < denominator) :
    nearestPattern numerator denominator = patternOf (numerator / denominator) :=
  nearestPattern_eq positive (beside_patternOf (by positivity))

theorem nearest_eq_rounded (negative : Bool) (numerator : Nat) {denominator : Nat}
    (positive : 0 < denominator) :
    nearest negative numerator denominator = rounded negative (numerator / denominator) := by
  rw [rounded, nearest, nearest, nearestPattern_eq_patternOf numerator positive]
  rfl

theorem ofInt_eq_rounded (i : Int) : ofInt i = rounded (decide (i < 0)) |(i : ℚ)| := by
  rw [ofInt, nearest_eq_rounded _ _ Nat.one_pos, Nat.cast_one, div_one,
    Nat.cast_natAbs, Int.cast_abs]

/-- From this number on no finite double is close enough. -/
def overflow : Nat := 2 ^ 1024 - 2 ^ 970

theorem halfway_last : halfway (top - 1) = 2 * (overflow * one) := by decide +kernel

theorem patternOf_lt_top (nonneg : 0 ≤ size) : patternOf size < top ↔ size < overflow := by
  have scale : (0 : ℚ) < one := one_cast_pos
  have last : (halfway (top - 1) : ℚ) = 2 * (overflow * one) := by exact_mod_cast halfway_last
  have beside := beside_patternOf nonneg
  constructor
  · intro inside
    by_contra far
    -- The last pattern is odd, so half-way to infinity belongs to infinity.
    have reached : (halfway (top - 1) : ℚ) ≤ 2 * (size * one) := by
      rw [last]
      exact mul_le_mul_of_nonneg_left
        (mul_le_mul_of_nonneg_right (not_lt.mp far) scale.le) zero_le_two
    have infinite : Beside (size * one) top := by
      refine ⟨le_rfl, fun _ => ?_, fun inside => absurd inside (lt_irrefl _)⟩
      exact UpTo.trans_le (.inr ⟨by decide, rfl⟩) reached
    exact inside.ne (beside.unique infinite)
  · intro near
    refine lt_of_le_of_ne beside.bounded fun infinite => ?_
    have reached := (beside.below (by rw [infinite]; decide)).le
    rw [infinite, last] at reached
    exact absurd near
      (not_lt.mpr (le_of_mul_le_mul_right (le_of_mul_le_mul_left reached two_pos) scale))

theorem rounded_infinite (negative : Bool) (nonneg : 0 ≤ size) (far : overflow ≤ size) :
    rounded negative size = infinity negative := by
  have last : patternOf size = top :=
    Nat.le_antisymm (beside_patternOf nonneg).bounded
      (Nat.not_lt.mp fun inside => absurd ((patternOf_lt_top nonneg).mp inside) (not_lt.mpr far))
  exact congrArg (ofPattern negative) last

theorem ofFloat_rounded (negative : Bool) (nonneg : 0 ≤ size) (near : size < overflow) :
    ofFloat (rounded negative size) = .finite (signed negative (magnitude (patternOf size))) :=
  ofFloat_ofPattern negative ((patternOf_lt_top nonneg).mpr near)

end Rounded

section Patterns

def pattern (x : Float) : Nat := x.toBits.toNat % Nat.pow 2 63

variable {x : Float} {units : Int}

theorem toNat_toBits (x : Float) :
    x.toBits.toNat = if signBit x then pattern x + Nat.pow 2 63 else pattern x := by
  have bound := x.toBits.toNat_lt
  simp only [signBit, Exact.isNegative, pattern, Nat.pow_eq, decide_eq_true_eq] at bound ⊢
  split <;> omega

theorem ofPattern_pattern (x : Float) : ofPattern (signBit x) (pattern x) = x := by
  rw [ofPattern, ← toNat_toBits, UInt64.ofNat_toNat, Float.ofBits_toBits]

theorem pattern_of_finite (finite : ofFloat x = .finite units) :
    pattern x < top ∧ units = signed (signBit x) (magnitude (pattern x)) := by
  have bits := toNat_toBits x
  have exponent : exponentOf x.toBits.toNat = exponentOf (pattern x) := by
    simp only [exponentOf, pattern, Nat.pow_eq]
    omega
  have fraction : fractionOf x.toBits.toNat = fractionOf (pattern x) := by
    simp only [fractionOf, pattern, Nat.pow_eq]
    omega
  rw [ofFloat, ofBits, exponent, fraction, magnitude, exponent, fraction] at finite
  split at finite
  · split at finite <;> cases finite
  · rename_i ordinary
    cases finite
    refine ⟨?_, rfl⟩
    simp only [exponentOf, pattern, Nat.pow_eq] at ordinary
    simp only [top, pattern, Nat.pow_eq]
    omega

end Patterns

section Closest

/-- A double is closest to a number: no finite one is closer, and of two as
close it is the even one. -/
structure Closest (q : ℚ) (x : Float) : Prop where
  finite : extended? x = some ↑(rational x)
  closest : ∀ y (r : ℚ), extended? y = some ↑r → |rational x - q| ≤ |r - q|
  even : ∀ y (r : ℚ), extended? y = some ↑r → r ≠ rational x → |rational x - q| = |r - q| →
    pattern x % 2 = 0

variable {x : Float} {size r : ℚ}

def withSign (negative : Bool) (size : ℚ) : ℚ := if negative then -size else size

theorem signed_cast (negative : Bool) (size : Nat) :
    ((signed negative size : Int) : ℚ) = withSign negative size := by
  cases negative
  · rfl
  · exact Int.cast_neg _

theorem abs_withSign_sub (negative : Bool) (a b : ℚ) :
    |withSign negative a - withSign negative b| = |a - b| := by
  cases negative
  · rfl
  · rw [withSign, withSign, if_pos rfl, if_pos rfl, neg_sub_neg, abs_sub_comm]

theorem abs_withSign_sub_of_ne {negative other : Bool} {a b : ℚ} (apart : other ≠ negative)
    (nonneg : 0 ≤ a) (nonnegToo : 0 ≤ b) : |withSign other a - withSign negative b| = a + b := by
  rw [← abs_of_nonneg (add_nonneg nonneg nonnegToo)]
  cases other <;> cases negative
  · exact absurd rfl apart
  · simp only [withSign, if_true, Bool.false_eq_true, if_false, sub_neg_eq_add]
  · simp only [withSign, if_true, Bool.false_eq_true, if_false]
    rw [← neg_add', abs_neg]
  · exact absurd rfl apart

theorem abs_sub_le_withSign (negative other : Bool) {a b : ℚ} (nonneg : 0 ≤ a) (nonnegToo : 0 ≤ b) :
    |a - b| ≤ |withSign other a - withSign negative b| := by
  by_cases same : other = negative
  · rw [same, abs_withSign_sub]
  · rw [abs_withSign_sub_of_ne same nonneg nonnegToo, abs_le]
    exact ⟨by linarith, by linarith⟩

theorem withSign_div (negative : Bool) (a b : ℚ) :
    withSign negative a / b = withSign negative (a / b) := by
  cases negative
  · rfl
  · exact neg_div b a

theorem rational_of_finite {units : Int} (finite : ofFloat x = .finite units) :
    extended? x = some ↑(rational x) ∧ rational x = units / one := by
  have denotes := denotes_ofFloat x
  rw [finite] at denotes
  cases denotes with
  | finite number value => exact ⟨number, value.symm⟩

theorem finite_of_extended (finite : extended? x = some ↑r) :
    ∃ units, ofFloat x = .finite units := by
  rw [← extended?_ofFloat] at finite
  cases value : ofFloat x with
  | nan =>
      rw [value] at finite
      cases finite
  | infinite negative =>
      rw [value] at finite
      cases negative <;> cases finite
  | finite units => exact ⟨units, rfl⟩

theorem eq_withSign (finite : extended? x = some ↑r) :
    pattern x < top ∧ r = withSign (signBit x) (magnitude (pattern x) / one) := by
  obtain ⟨units, value⟩ := finite_of_extended finite
  obtain ⟨inside, rfl⟩ := pattern_of_finite value
  obtain ⟨number, ratio⟩ := rational_of_finite value
  have same : r = rational x :=
    WithBotTop.coe_injective (Option.some.inj (finite.symm.trans number))
  rw [same, ratio, signed_cast, withSign_div]
  exact ⟨inside, rfl⟩

theorem natAbs_signed (negative : Bool) (size : Nat) : (signed negative size).natAbs = size := by
  cases negative
  · rfl
  · exact Int.natAbs_neg _

theorem magnitude_inj {p q : Nat} (left : p ≤ top) (right : q ≤ top)
    (same : magnitude p = magnitude q) :
    p = q := by
  rcases Nat.lt_trichotomy p q with less | equal | greater
  · exact absurd same (magnitude_lt less right).ne
  · exact equal
  · exact absurd same (magnitude_lt greater left).ne'

theorem pattern_rounded (negative : Bool) (nonneg : 0 ≤ size) (near : size < overflow) :
    pattern (rounded negative size) = patternOf size := by
  obtain ⟨inside, same⟩ := pattern_of_finite (ofFloat_rounded negative nonneg near)
  have size := congrArg Int.natAbs same
  rw [natAbs_signed, natAbs_signed] at size
  exact magnitude_inj inside.le (beside_patternOf nonneg).bounded size.symm

theorem rational_rounded (negative : Bool) (nonneg : 0 ≤ size) (near : size < overflow) :
    extended? (rounded negative size) = some ↑(rational (rounded negative size)) ∧
      rational (rounded negative size) = withSign negative (magnitude (patternOf size) / one) := by
  obtain ⟨number, ratio⟩ := rational_of_finite (ofFloat_rounded negative nonneg near)
  rw [signed_cast, withSign_div] at ratio
  exact ⟨number, ratio⟩

theorem eq_zero_of_tie {a b : ℚ} (tie : |a - b| = a + b) : a = 0 ∨ b = 0 := by
  rcases abs_cases (a - b) with ⟨same, _⟩ | ⟨same, _⟩
  · exact .inr (by linarith)
  · exact .inl (by linarith)

theorem closest_rounded (negative : Bool) (nonneg : 0 ≤ size) (near : size < overflow) :
    Closest (withSign negative size) (rounded negative size) := by
  obtain ⟨number, value⟩ := rational_rounded negative nonneg near
  have beside := beside_patternOf nonneg
  have amount (p : Nat) : (0 : ℚ) ≤ magnitude p / one :=
    div_nonneg (Nat.cast_nonneg _) one_cast_pos.le
  refine ⟨number, ?_, ?_⟩
  · intro y r finite
    obtain ⟨inside, rfl⟩ := eq_withSign finite
    rw [value, abs_withSign_sub]
    refine le_trans ?_ (abs_sub_le_withSign negative (signBit y) (amount _) nonneg)
    by_cases same : pattern y = patternOf size
    · rw [same]
    · exact (beside.distance_div inside.le same).le
  · intro y r finite different tie
    obtain ⟨inside, rfl⟩ := eq_withSign finite
    rw [value] at different tie
    rw [abs_withSign_sub] at tie
    rw [pattern_rounded negative nonneg near]
    have order := abs_sub_le_withSign negative (signBit y) (amount (pattern y)) nonneg
    by_cases same : pattern y = patternOf size
    -- The opposite double is as far away only from zero.
    · rw [same] at different tie
      have apart : signBit y ≠ negative := fun same => different (by rw [same])
      rw [abs_withSign_sub_of_ne apart (amount _) nonneg] at tie
      rcases eq_zero_of_tie tie with nought | zero
      · rw [nought] at different
        exact absurd (by cases signBit y <;> cases negative <;> simp [withSign]) different
      · rw [zero]
        rfl
    · rcases beside.distance_div inside.le same with strict | ⟨even, _⟩
      · exact absurd tie (strict.trans_le order).ne
      · exact even

end Closest

end Double

end StyleFold
