import Mathlib.Data.List.Induction
import Mathlib.Data.Nat.Digits.Lemmas
import Mathlib.Tactic.IntervalCases
import StyleFold.Number.Numeral
import StyleFold.Number.Shortest

/-!
Rows of digits. A row denotes the sum of its digits, each times the power of the radix at its
place. The digits that are written for a number are digits of the radix and denote it, and their
count is the number's size.
-/

namespace StyleFold

section Characters

variable {radix : Nat} {c : Char}

theorem digitValue_eq (c : Char) : digitValue c =
    if 48 ≤ c.toNat ∧ c.toNat ≤ 57 then c.toNat - 48
    else if 97 ≤ c.toNat ∧ c.toNat ≤ 102 then c.toNat - 87
    else if 65 ≤ c.toNat ∧ c.toNat ≤ 70 then c.toNat - 55
    else 16 := by
  simp only [digitValue, Bool.and_eq_true, decide_eq_true_eq]
  rfl

theorem isDecimalDigit_eq : isDecimalDigit = isDigitIn 10 := by
  funext c
  have codes : isDecimalDigit c = true ↔ 48 ≤ c.toNat ∧ c.toNat ≤ 57 := by
    rw [isDecimalDigit, Bool.and_eq_true, decide_eq_true_iff, decide_eq_true_iff]
    rfl
  rw [Bool.eq_iff_iff, codes, isDigitIn, decide_eq_true_iff, digitValue_eq]
  split
  · omega
  · split
    · omega
    · split <;> omega

theorem not_blank_of_digit (digit : isDigitIn radix c = true) (most : radix ≤ 16) :
    Text.isScriptBlank c = false := by
  by_contra blank
  simp only [Bool.not_eq_false, Text.isScriptBlank, Bool.or_eq_true, Bool.and_eq_true,
    decide_eq_true_eq, beq_iff_eq] at blank
  have none : digitValue c = 16 := by
    rw [digitValue_eq, if_neg (by omega), if_neg (by omega), if_neg (by omega)]
  have small : digitValue c < radix := of_decide_eq_true digit
  omega

end Characters

section Value

variable (radix : Nat)

theorem digitsValue_singleton (c : Char) : digitsValue radix [c] = digitValue c := by
  simp [digitsValue]

theorem digitsValue_eq_ofDigits (row : List Char) :
    digitsValue radix row = Nat.ofDigits radix (row.reverse.map digitValue) := by
  induction row using List.reverseRecOn with
  | nil => rfl
  | append_singleton rest c ih =>
      rw [List.reverse_append, List.reverse_singleton, List.singleton_append, List.map_cons,
        Nat.ofDigits_cons, ← ih, digitsValue, List.foldl_append]
      simp only [List.foldl_cons, List.foldl_nil, digitsValue]
      ring

theorem digitsValue_append (row rest : List Char) :
    digitsValue radix (row ++ rest) =
      digitsValue radix row * radix ^ rest.length + digitsValue radix rest := by
  simp only [digitsValue_eq_ofDigits, List.reverse_append, List.map_append, Nat.ofDigits_append,
    List.length_map, List.length_reverse]
  ring

theorem digitsValue_zeros (count : Nat) : digitsValue radix (List.replicate count '0') = 0 := by
  induction count with
  | zero => rfl
  | succ count ih =>
      rw [List.replicate_succ', digitsValue_append, ih, Nat.zero_mul, digitsValue_singleton]
      rfl

end Value

section Written

variable {radix n : Nat}

theorem digitValue_digitChar {digit : Nat} (small : digit < 16) :
    digitValue digit.digitChar = digit := by
  interval_cases digit <;> rfl

theorem digitsValue_toDigits (several : 1 < radix) (most : radix ≤ 16) (n : Nat) :
    digitsValue radix (Nat.toDigits radix n) = n := by
  induction n using Nat.base_induction radix several with
  | single m small =>
      rw [Nat.toDigits_of_lt_base small, digitsValue_singleton,
        digitValue_digitChar (small.trans_le most)]
  | digit m k small positive ih =>
      rw [← Nat.toDigits_append_toDigits several positive small, digitsValue_append, ih,
        Nat.toDigits_of_lt_base small, digitsValue_singleton,
        digitValue_digitChar (small.trans_le most), List.length_singleton, pow_one, Nat.mul_comm]

theorem isDigitIn_digitChar {digit : Nat} (small : digit < radix) (most : radix ≤ 16) :
    isDigitIn radix digit.digitChar = true := by
  rw [isDigitIn, digitValue_digitChar (small.trans_le most)]
  exact decide_eq_true small

theorem isDigitIn_of_mem_toDigits (several : 1 < radix) (most : radix ≤ 16) (n : Nat) :
    ∀ c ∈ Nat.toDigits radix n, isDigitIn radix c = true := by
  induction n using Nat.base_induction radix several with
  | single m small =>
      intro c member
      rw [Nat.toDigits_of_lt_base small, List.mem_singleton] at member
      rw [member]
      exact isDigitIn_digitChar small most
  | digit m k small positive ih =>
      intro c member
      rw [← Nat.toDigits_append_toDigits several positive small, List.mem_append,
        Nat.toDigits_of_lt_base small, List.mem_singleton] at member
      rcases member with front | rfl
      · exact ih c front
      · exact isDigitIn_digitChar small most

theorem getLast?_toDigits (several : 1 < radix) (n : Nat) :
    (Nat.toDigits radix n).getLast? = some (n % radix).digitChar := by
  rw [Nat.toDigits_eq_if several]
  split
  · rename_i small
    rw [Nat.mod_eq_of_lt small]
    rfl
  · exact List.getLast?_concat

end Written

/-! How many digits a number has. -/

namespace Decimal

variable {n count : Nat}

theorem digitCount_pos (n : Nat) : 0 < digitCount n := Nat.length_toDigits_pos

theorem lt_pow_digitCount (n : Nat) : n < 10 ^ digitCount n :=
  (Nat.length_toDigits_le_iff (by decide) (digitCount_pos n)).mp le_rfl

theorem digitCount_le (positive : 0 < count) (small : n < 10 ^ count) : digitCount n ≤ count :=
  (Nat.length_toDigits_le_iff (by decide) positive).mpr small

theorem pow_le_of_digitCount (some : n ≠ 0) : 10 ^ (digitCount n - 1) ≤ n := by
  rcases Nat.eq_zero_or_pos (digitCount n - 1) with single | several
  · rw [single, pow_zero]
    exact Nat.one_le_iff_ne_zero.mpr some
  · by_contra small
    have fewer := digitCount_le several (Nat.lt_of_not_le small)
    omega

end Decimal

theorem isOverlong_iff {i : Int} : isOverlong i = true ↔ 10 ^ digitLimit ≤ i.natAbs := by
  have short :=
    Nat.length_toDigits_le_iff (n := i.natAbs) (by decide : 1 < 10) (by decide : 0 < digitLimit)
  rw [isOverlong, decide_eq_true_iff, ← Nat.not_le, short, Nat.not_lt]

end StyleFold
