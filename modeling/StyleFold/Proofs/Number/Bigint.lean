import Mathlib.Data.Nat.Size
import Mathlib.Data.Rat.Floor
import StyleFold.Value.Operator

/-!
Operators on bigints. Division goes toward zero, a shift multiplies by a power of two and rounds
down, and a power is exact. Powers and shifts up are refused by an estimate of their bits that is
made before anything is computed. Main statement: no result has more bits than the limit or its
first operand, and whatever is within the estimate is given exactly.
-/

namespace StyleFold

namespace Refusal

def IsRange (why : Refusal) : Prop :=
  why.family = .thrown ∧ ∃ detail, why.message = "RangeError: " ++ detail

theorem isRange_divisionByZero : IsRange .divisionByZero := ⟨rfl, "Division by zero", rfl⟩

theorem isRange_negativeExponent : IsRange .negativeExponent :=
  ⟨rfl, "Exponent must be non-negative", rfl⟩

theorem isRange_bigintTooLarge : IsRange .bigintTooLarge :=
  ⟨rfl, "Maximum BigInt size exceeded", rfl⟩

end Refusal

/-! Bits of an integer. -/

namespace Bits

theorem length_eq_size (i : Int) : Bits.length i = i.natAbs.size := by
  unfold Bits.length
  split
  · rename_i zero
    rw [zero, Int.natAbs_zero, Nat.size_zero]
  · rename_i nonzero
    have size : i.natAbs ≠ 0 := Int.natAbs_ne_zero.mpr nonzero
    apply Nat.le_antisymm
    · exact Nat.lt_size.mpr (Nat.log2_self_le size)
    · exact Nat.size_le.mpr Nat.lt_log2_self

theorem size_mul_pow (i : Int) (count : Nat) :
    (i * 2 ^ count).natAbs.size ≤ i.natAbs.size + count := by
  rw [Nat.size_le, Int.natAbs_mul, Int.natAbs_pow, Nat.pow_add]
  exact Nat.mul_lt_mul_of_pos_right (Nat.lt_size_self _) (Nat.two_pow_pos count)

theorem size_pow (i : Int) {count : Nat} (positive : count ≠ 0) :
    (i ^ count).natAbs.size ≤ i.natAbs.size * count := by
  rw [Nat.size_le, Int.natAbs_pow, Nat.pow_mul]
  exact Nat.pow_lt_pow_left (Nat.lt_size_self _) positive

theorem shiftDown_eq (i : Int) (count : Nat) : shiftDown i count = i / 2 ^ count := by
  unfold shiftDown
  split
  · rename_i short
    rw [length_eq_size] at short
    have small : i.natAbs < 2 ^ count := Nat.size_le.mp (Nat.le_of_lt short)
    have below : (i.natAbs : Int) < 2 ^ count := by exact_mod_cast small
    split
    · rename_i negative
      exact (Int.ediv_eq_neg_one_of_neg_of_le negative (by omega)).symm
    · exact (Int.ediv_eq_zero_of_lt (by omega) (by omega)).symm
  · have divisor : (0 : Int) ≤ 2 ^ count := by positivity
    exact Int.fdiv_eq_ediv_of_nonneg i divisor

theorem shiftDown_eq_floor (i : Int) (count : Nat) : shiftDown i count = ⌊(i : ℚ) / 2 ^ count⌋ := by
  have floor := Rat.floor_intCast_div_natCast i (2 ^ count)
  rw [Nat.cast_pow, Nat.cast_pow] at floor
  rw [shiftDown_eq]
  exact floor.symm

theorem size_shiftDown (i : Int) (count : Nat) :
    (shiftDown i count).natAbs.size ≤ i.natAbs.size := by
  rw [shiftDown_eq]
  exact Nat.size_le_size (Int.natAbs_ediv_le_natAbs i _)

end Bits

namespace Arithmetic

def Throws (outcome : Except Refusal Value) : Prop := ∃ why, outcome = .error why ∧ why.IsRange

theorem bitLimit_eq : bitLimit = 2 ^ 20 := rfl

/-! Division. -/

/-- Division toward zero, refused for a zero divisor only. -/
structure Divides (a b : Int) (quotient rest : Except Refusal Value) : Prop where
  quotient_throws : Throws quotient ↔ b = 0
  rest_throws : Throws rest ↔ b = 0
  exact : b ≠ 0 → ∃ q r, quotient = .ok (.bigint q) ∧ rest = .ok (.bigint r) ∧
    a = b * q + r ∧ |r| < |b| ∧ (r = 0 ∨ r.sign = a.sign)

theorem throws_guarded {divisor c : Int} {outcome : Except Refusal Value}
    (guarded : outcome = (if divisor = 0 then .error Refusal.divisionByZero else .ok c :
      Except Refusal Int).map .bigint) : Throws outcome ↔ divisor = 0 := by
  rw [guarded]
  constructor
  · rintro ⟨why, failed, _⟩
    by_contra nonzero
    rw [if_neg nonzero] at failed
    cases failed
  · intro zero
    rw [if_pos zero]
    exact ⟨_, rfl, Refusal.isRange_divisionByZero⟩

theorem abs_tmod_lt (a : Int) {b : Int} (nonzero : b ≠ 0) : |a.tmod b| < |b| := by
  rw [Int.abs_eq_natAbs, Int.abs_eq_natAbs, Int.natAbs_tmod, Int.ofNat_lt]
  exact Nat.mod_lt _ (Int.natAbs_pos.mpr nonzero)

theorem sign_tmod (a b : Int) : a.tmod b = 0 ∨ (a.tmod b).sign = a.sign := by
  by_cases zero : a.tmod b = 0
  · exact .inl zero
  · right
    rw [Int.sign_tmod, if_neg]
    intro divides
    exact zero (Int.tmod_eq_zero_of_dvd divides)

theorem divides (a b : Int) :
    Divides a b (divide.apply (.bigint a) (.bigint b))
      (remainder.apply (.bigint a) (.bigint b)) where
  quotient_throws := throws_guarded rfl
  rest_throws := throws_guarded rfl
  exact nonzero := by
    refine ⟨a.tdiv b, a.tmod b, ?_, ?_, (Int.mul_tdiv_add_tmod a b).symm, abs_tmod_lt a nonzero,
      sign_tmod a b⟩
    · simp only [apply, onBigints, if_neg nonzero, Except.map]
    · simp only [apply, onBigints, if_neg nonzero, Except.map]

section Limit

/-- Refused for its size, or the integer that it stands for. -/
structure Limited (large : Prop) (c : Int) (outcome : Except Refusal Value) : Prop where
  refused : large → outcome = .error .bigintTooLarge
  given : ¬ large → outcome = .ok (.bigint c)

variable {large : Prop} {c d : Int} {outcome : Except Refusal Value}

theorem limited_of_eq [Decidable large]
    (guarded : outcome = (if large then .error Refusal.bigintTooLarge
    else .ok c : Except Refusal Int).map .bigint) : Limited large c outcome := by
  constructor
  · intro holds
    rw [guarded, if_pos holds]
    rfl
  · intro fails
    rw [guarded, if_neg fails]
    rfl

theorem Limited.exact (limited : Limited large c outcome) :
    outcome = .ok (.bigint c) ∨ Throws outcome := by
  by_cases holds : large
  · exact .inr ⟨_, limited.refused holds, Refusal.isRange_bigintTooLarge⟩
  · exact .inl (limited.given holds)

theorem Limited.result (limited : Limited large c outcome) (result : outcome = .ok (.bigint d)) :
    ¬ large ∧ d = c := by
  by_cases holds : large
  · rw [limited.refused holds] at result
    cases result
  · rw [limited.given holds] at result
    cases result
    exact ⟨holds, rfl⟩

end Limit

/-! Shifts. -/

/-- A shift of an integer up by a count, down when the count is negative. -/
structure Shifts (a count : Int) (outcome : Except Refusal Value) : Prop where
  up : 0 ≤ count → outcome = .ok (.bigint (a * 2 ^ count.natAbs)) ∨ Throws outcome
  down : count < 0 → outcome = .ok (.bigint ⌊(a : ℚ) / 2 ^ count.natAbs⌋)
  bounded : ∀ c, outcome = .ok (.bigint c) → c.natAbs.size ≤ max (2 ^ 20) a.natAbs.size
  outgrown : 0 ≤ count → 2 ^ 20 < (a * 2 ^ count.natAbs).natAbs.size →
    outcome = .error .bigintTooLarge
  fits : 0 ≤ count → a.natAbs.size + count.natAbs ≤ 2 ^ 20 → ∃ c, outcome = .ok (.bigint c)

theorem bigintShiftLeft_down (a : Int) {count : Int} (negative : count < 0) :
    bigintShiftLeft a count = .ok (Bits.shiftDown a count.natAbs) := by
  unfold bigintShiftLeft
  rw [if_pos negative]

theorem bigintShiftLeft_up (a : Int) {count : Int} (positive : 0 ≤ count) :
    bigintShiftLeft a count = if 2 ^ 20 < a.natAbs.size + count.natAbs then .error .bigintTooLarge
      else .ok (a * 2 ^ count.natAbs) := by
  unfold bigintShiftLeft
  rw [if_neg (Int.not_lt.mpr positive), Bits.length_eq_size, bitLimit_eq,
    show count.toNat = count.natAbs by omega]
  rfl

theorem shifts_down (a : Int) {count : Int} (negative : count < 0) :
    Shifts a count ((bigintShiftLeft a count).map .bigint) := by
  rw [bigintShiftLeft_down a negative]
  constructor
  · intro positive
    omega
  · intro _
    rw [← Bits.shiftDown_eq_floor]
    rfl
  · intro c result
    cases result
    exact le_max_of_le_right (Bits.size_shiftDown a _)
  · intro positive
    omega
  · intro positive
    omega

/-- A result that is not refused is within the estimate, and the estimate is at least its size. -/
theorem shifts_up (a : Int) {count : Int} (positive : 0 ≤ count) :
    Shifts a count ((bigintShiftLeft a count).map .bigint) := by
  have estimate := Bits.size_mul_pow a count.natAbs
  have limited : Limited (2 ^ 20 < a.natAbs.size + count.natAbs) (a * 2 ^ count.natAbs)
      ((bigintShiftLeft a count).map .bigint) :=
    limited_of_eq (congrArg (Except.map Value.bigint) (bigintShiftLeft_up a positive))
  constructor
  · intro _
    exact limited.exact
  · intro negative
    omega
  · intro c result
    obtain ⟨within, rfl⟩ := limited.result result
    exact le_max_of_le_left (by omega)
  · intro _ outgrown
    exact limited.refused (by omega)
  · intro _ small
    exact ⟨_, limited.given (by omega)⟩

theorem shifts (a count : Int) : Shifts a count ((bigintShiftLeft a count).map .bigint) := by
  by_cases negative : count < 0
  · exact shifts_down a negative
  · exact shifts_up a (Int.not_lt.mp negative)

/-! Powers. -/

/-- An integer to the power of another one. -/
structure Powers (a b : Int) (outcome : Except Refusal Value) : Prop where
  negative : b < 0 → Throws outcome
  exact : 0 ≤ b → outcome = .ok (.bigint (a ^ b.toNat)) ∨ Throws outcome
  bounded : ∀ c, outcome = .ok (.bigint c) → c.natAbs.size ≤ max (2 ^ 20) a.natAbs.size
  outgrown : 1 < b → 2 ^ 20 < (a ^ b.toNat).natAbs.size → outcome = .error .bigintTooLarge
  fits : 0 ≤ b → b ≤ 1 ∨ a.natAbs.size * b.toNat ≤ 2 ^ 20 → ∃ c, outcome = .ok (.bigint c)

theorem bigintPower_eq (a : Int) {b : Int} (positive : 0 ≤ b) :
    bigintPower a b = if 1 < b ∧ 2 ^ 20 < a.natAbs.size * b.toNat then .error .bigintTooLarge
      else .ok (a ^ b.toNat) := by
  have power : (if a = 0 then .ok (if b = 0 then 1 else 0) else .ok (Int.pow a b.toNat)
      : Except Refusal Int) = .ok (a ^ b.toNat) := by
    by_cases zero : a = 0
    · subst zero
      by_cases none : b = 0
      · rw [none]
        rfl
      · rw [if_pos rfl, if_neg none, zero_pow (by omega)]
    · rw [if_neg zero]
      rfl
  unfold bigintPower
  rw [if_neg (Int.not_lt.mpr positive), Bits.length_eq_size, power, bitLimit_eq]
  simp only [Bool.and_eq_true, decide_eq_true_eq]

theorem powers_negative (a : Int) {b : Int} (negative : b < 0) :
    Powers a b ((bigintPower a b).map .bigint) := by
  have refused : bigintPower a b = .error .negativeExponent := by
    unfold bigintPower
    rw [if_pos negative]
  rw [refused]
  constructor
  · intro _
    exact ⟨_, rfl, Refusal.isRange_negativeExponent⟩
  · intro positive
    omega
  · intro c result
    cases result
  · intro several
    omega
  · intro positive
    omega

theorem size_power_le (a : Int) {b : Int} (positive : 0 ≤ b)
    (within : ¬ (1 < b ∧ 2 ^ 20 < a.natAbs.size * b.toNat)) :
    (a ^ b.toNat).natAbs.size ≤ max (2 ^ 20) a.natAbs.size ∧
      (1 < b → (a ^ b.toNat).natAbs.size ≤ 2 ^ 20) := by
  by_cases several : 1 < b
  · have estimate := Bits.size_pow a (show b.toNat ≠ 0 by omega)
    have small : (a ^ b.toNat).natAbs.size ≤ 2 ^ 20 := by omega
    exact ⟨le_max_of_le_left small, fun _ => small⟩
  · refine ⟨?_, fun more => absurd more several⟩
    obtain rfl | rfl : b = 0 ∨ b = 1 := by omega
    · rw [Int.toNat_zero, pow_zero]
      exact le_max_of_le_left (by decide)
    · rw [Int.toNat_one, pow_one]
      exact le_max_right _ _

theorem powers_positive (a : Int) {b : Int} (positive : 0 ≤ b) :
    Powers a b ((bigintPower a b).map .bigint) := by
  have limited : Limited (1 < b ∧ 2 ^ 20 < a.natAbs.size * b.toNat) (a ^ b.toNat)
      ((bigintPower a b).map .bigint) :=
    limited_of_eq (congrArg (Except.map Value.bigint) (bigintPower_eq a positive))
  constructor
  · intro negative
    omega
  · intro _
    exact limited.exact
  · intro c result
    obtain ⟨within, rfl⟩ := limited.result result
    exact (size_power_le a positive within).1
  · intro several outgrown
    apply limited.refused
    by_contra within
    exact absurd ((size_power_le a positive within).2 several) (Nat.not_le.mpr outgrown)
  · intro _ small
    exact ⟨_, limited.given (by omega)⟩

theorem powers (a b : Int) : Powers a b ((bigintPower a b).map .bigint) := by
  by_cases negative : b < 0
  · exact powers_negative a negative
  · exact powers_positive a (Int.not_lt.mp negative)

/-- What the operators give for any two bigints, and what they refuse. A shift to the right is a
shift by the opposite count. -/
theorem bigint_operators (a b : Int) :
    Divides a b (divide.apply (.bigint a) (.bigint b)) (remainder.apply (.bigint a) (.bigint b)) ∧
    Shifts a b (shiftLeft.apply (.bigint a) (.bigint b)) ∧
    Shifts a (-b) (shiftRight.apply (.bigint a) (.bigint b)) ∧
    Powers a b (power.apply (.bigint a) (.bigint b)) :=
  ⟨divides a b, shifts a b, shifts a (-b), powers a b⟩

/-- The shift of one by the limit needs one bit more than the limit. -/
theorem bigint_operators_at_limit :
    shiftLeft.apply (.bigint 1) (.bigint bitLimit) = .error .bigintTooLarge ∧
    Throws (divide.apply (.bigint (-7)) (.bigint 0)) ∧
    ∃ q r, divide.apply (.bigint (-7)) (.bigint 2) = .ok (.bigint q) ∧
      remainder.apply (.bigint (-7)) (.bigint 2) = .ok (.bigint r) ∧
      -7 = 2 * q + r ∧ |r| < 2 ∧ (r = 0 ∨ r.sign = -1) := by
  have size : 2 ^ 20 < (1 * 2 ^ (bitLimit : Int).natAbs : Int).natAbs.size := by
    rw [one_mul, Int.natAbs_pow, Int.natAbs_natCast,
      show (2 : Int).natAbs = 2 from rfl, Nat.size_pow]
    exact Nat.lt_succ_self _
  refine ⟨?_, ?_, ?_⟩
  · exact (bigint_operators 1 bitLimit).2.1.outgrown (Int.natCast_nonneg _) size
  · exact (bigint_operators (-7) 0).1.quotient_throws.mpr rfl
  · exact (bigint_operators (-7) 2).1.exact (by decide)

end Arithmetic

end StyleFold
