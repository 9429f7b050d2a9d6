import Mathlib
import StyleFold.Number.Double

/-!
What doubles stand for. Unpacked, a double is infinite, not a number, or `± mantissa · 2^exponent`,
and that is its value here. The exact value that is read off the bits, in units of `2^-1074`, is the
same one. From it: whole numbers up to `2^53` are doubles, and the whole part of a double is its
value rounded toward zero.
-/

namespace StyleFold

open Float.Model (UnpackedFloat)
open Float.Model.UnpackedFloat (Sign)

/-! The value of an unpacked double. -/

namespace Double

def rationalOf : UnpackedFloat → ℚ
  | .finite sign mantissa exponent _ => sign.apply mantissa * 2 ^ exponent
  | _ => 0

def extendedOf? : UnpackedFloat → Option (WithBotTop ℚ)
  | .notANumber => none
  | .infinity .negative => some ⊥
  | .infinity .positive => some ⊤
  | unpacked => some ↑(rationalOf unpacked)

def rational (x : Float) : ℚ := rationalOf x.toModel.unpack

/-- What a double stands for; nothing when it is not a number. -/
def extended? (x : Float) : Option (WithBotTop ℚ) := extendedOf? x.toModel.unpack

def truncated (x : Float) : Int := if 0 ≤ rational x then ⌊rational x⌋ else ⌈rational x⌉

end Double

/-! The value that is read off the bits. -/

namespace Exact

/-- What an exact value is in ones, rather than in units. -/
def extended? : Exact → Option (WithBotTop ℚ)
  | .nan => none
  | .infinite negative => some (if negative then ⊥ else ⊤)
  | .finite units => some ↑((units : ℚ) / one)

def signOf (bits : Nat) : Sign := if isNegative bits then .negative else .positive

section Fields

variable (bits : BitVec 64)

theorem exponentOf_toNat :
    exponentOf bits.toNat = (@UnpackedFloat.unpackExponent .binary64 bits).toNat := by
  rw [UnpackedFloat.unpackExponent_def, BitVec.extractLsb'_toNat, Nat.shiftRight_eq_div_pow]
  rfl

theorem fractionOf_toNat :
    fractionOf bits.toNat = (@UnpackedFloat.unpackMantissa .binary64 bits).toNat := by
  rw [UnpackedFloat.unpackMantissa_def, BitVec.extractLsb'_toNat, Nat.shiftRight_zero]
  rfl

theorem signOf_toNat :
    Sign.ofBitVec (@UnpackedFloat.unpackSign .binary64 bits) = signOf bits.toNat := by
  have bound := bits.isLt
  have sign : @UnpackedFloat.unpackSign .binary64 bits = 0#1 ↔
      isNegative bits.toNat = false := by
    rw [UnpackedFloat.unpackSign_def, isNegative, decide_eq_false_iff_not, ← BitVec.toNat_inj,
      BitVec.extractLsb'_toNat, Nat.shiftRight_eq_div_pow]
    simp
    omega
  unfold Sign.ofBitVec signOf
  split
  · rename_i positive
    rw [sign.mp positive]
    rfl
  · rename_i negative
    rw [Bool.eq_true_of_not_eq_false (mt sign.mpr negative)]
    rfl

theorem mantissa_toNat :
    (1#1 ++ @UnpackedFloat.unpackMantissa .binary64 bits).toNat =
      Nat.pow 2 52 + fractionOf bits.toNat := by
  have small : fractionOf bits.toNat < 2 ^ 52 := Nat.mod_lt _ (Nat.two_pow_pos 52)
  rw [BitVec.toNat_append, ← fractionOf_toNat, ← Nat.shiftLeft_add_eq_or_of_lt small]
  rfl

end Fields

section Units

theorem one_eq {places : Nat} (total : 1074 = places) : one = 2 ^ places := by
  unfold one
  rw [total, Nat.pow_eq]

theorem units_ratio (mantissa place : Nat) :
    ((mantissa * Nat.pow 2 place : Nat) : ℚ) / one = mantissa * 2 ^ ((place : Int) - 1074) := by
  obtain ⟨total, places⟩ : ∃ total : Nat, 1074 = total := ⟨_, rfl⟩
  have offset : (1074 : Int) = total := by omega
  rw [one_eq places, offset, zpow_sub₀ two_ne_zero, zpow_natCast, zpow_natCast, mul_div_assoc',
    Nat.pow_eq]
  push_cast
  rfl

theorem signed_ratio (bits : Nat) {size mantissa : Nat} {scale power : ℚ}
    (ratio : (size : ℚ) / scale = mantissa * power) :
    ((signed (isNegative bits) size : Int) : ℚ) / scale =
      ((signOf bits).apply mantissa : Int) * power := by
  unfold signOf
  cases isNegative bits
  · exact ratio
  · have negated := congrArg Neg.neg ratio
    rw [← neg_div, ← neg_mul] at negated
    simpa [signed, Sign.apply] using negated

theorem signed_units (bits mantissa place : Nat) :
    ((signed (isNegative bits) (mantissa * Nat.pow 2 place) : Int) : ℚ) / one =
      ((signOf bits).apply mantissa : Int) * 2 ^ ((place : Int) - 1074) :=
  signed_ratio bits (units_ratio mantissa place)

end Units

inductive Denotes : Exact → UnpackedFloat → Prop where
  | nan : Denotes .nan .notANumber
  | infinite (bits : Nat) : Denotes (.infinite (isNegative bits)) (.infinity (signOf bits))
  | finite {units : Int} {unpacked : UnpackedFloat}
    (number : Double.extendedOf? unpacked = some ↑(Double.rationalOf unpacked))
    (value : (units : ℚ) / one = Double.rationalOf unpacked) : Denotes (.finite units) unpacked

theorem denotes (bits : BitVec 64) :
    Denotes (ofBits bits.toNat) (UnpackedFloat.unpack .binary64 bits) := by
  have special : @UnpackedFloat.unpackExponent .binary64 bits = -1#11 ↔
      exponentOf bits.toNat = 2047 := by
    rw [exponentOf_toNat, ← BitVec.toNat_inj]
    rfl
  have small : @UnpackedFloat.unpackExponent .binary64 bits = 0#11 ↔
      exponentOf bits.toNat = 0 := by
    rw [exponentOf_toNat, ← BitVec.toNat_inj]
    rfl
  have round : @UnpackedFloat.unpackMantissa .binary64 bits = 0#52 ↔
      fractionOf bits.toNat = 0 := by
    rw [fractionOf_toNat, ← BitVec.toNat_inj]
    rfl
  unfold UnpackedFloat.unpack ofBits
  simp only [special, small, round, signOf_toNat, ← exponentOf_toNat, ← fractionOf_toNat]
  split
  · split
    · exact .infinite _
    · exact .nan
  · split
    -- Below the least exponent the fraction is the mantissa, and zero is one of these doubles.
    · rename_i subnormal
      have units := signed_units bits.toNat (fractionOf bits.toNat) 0
      rw [Nat.pow_eq, Nat.pow_zero, Nat.mul_one] at units
      rw [magnitude, if_pos subnormal]
      split
      · rename_i zero
        refine .finite rfl (units.trans ?_)
        rw [zero]
        unfold signOf
        cases isNegative bits.toNat <;> simp [Double.rationalOf, Sign.apply]
      · refine .finite rfl (units.trans ?_)
        rw [Double.rationalOf, subnormal]
        rfl
    · rename_i normal
      have places : ((exponentOf bits.toNat - 1 : Nat) : Int) - 1074 =
          exponentOf bits.toNat - (1023 + 52) := by omega
      have mantissa := mantissa_toNat bits
      rw [magnitude, if_neg normal]
      refine .finite rfl ((signed_units _ _ _).trans ?_)
      rw [Double.rationalOf, places]
      simp only [mantissa]
      rfl

theorem denotes_ofFloat (x : Float) : Denotes (ofFloat x) x.toModel.unpack :=
  denotes x.toBits.toBitVec

theorem Denotes.extended?_eq {value : Exact} {unpacked : UnpackedFloat}
    (denotes : Denotes value unpacked) : value.extended? = Double.extendedOf? unpacked := by
  cases denotes with
  | nan => rfl
  | infinite bits =>
      unfold signOf
      cases isNegative bits <;> rfl
  | finite number value => rw [number, Exact.extended?, value]

theorem extended?_ofFloat (x : Float) : (ofFloat x).extended? = Double.extended? x :=
  (denotes_ofFloat x).extended?_eq

end Exact

namespace Double

open Exact

section Patterns

theorem toBits_ofBits {bits : UInt64} (finite : exponentOf bits.toNat ≠ 2047) :
    (Float.ofBits bits).toBits = bits := by
  have number : @UnpackedFloat.isNaNBits .binary64 bits.toBitVec = false := by
    rw [UnpackedFloat.isNaNBits, decide_eq_false_iff_not]
    rintro ⟨special, -⟩
    refine finite ((exponentOf_toNat bits.toBitVec).trans ?_)
    rw [special]
    rfl
  have same := @UnpackedFloat.pack_unpack .binary64 bits.toBitVec (by decide)
  rw [number] at same
  exact UInt64.toBitVec_inj.mp same

variable {pattern : Nat}

theorem toNat_signed (negative : Bool) (finite : pattern < 2047 * Nat.pow 2 52) :
    (UInt64.ofNat (if negative then pattern + Nat.pow 2 63 else pattern)).toNat =
      if negative then pattern + Nat.pow 2 63 else pattern := by
  simp only [Nat.pow_eq] at finite ⊢
  rw [UInt64.toNat_ofNat']
  cases negative <;> simp <;> omega

theorem ofFloat_ofPattern (negative : Bool) (finite : pattern < 2047 * Nat.pow 2 52) :
    ofFloat (ofPattern negative pattern) = .finite (signed negative (magnitude pattern)) := by
  have bits := toNat_signed negative finite
  simp only [Nat.pow_eq] at finite
  have exponent : exponentOf (if negative then pattern + Nat.pow 2 63 else pattern) =
      exponentOf pattern := by
    simp only [exponentOf, Nat.pow_eq]
    cases negative <;> simp
    omega
  have fraction : fractionOf (if negative then pattern + Nat.pow 2 63 else pattern) =
      fractionOf pattern := by
    simp only [fractionOf, Nat.pow_eq]
    cases negative <;> simp
    omega
  have sign : Exact.isNegative (if negative then pattern + Nat.pow 2 63 else pattern) =
      negative := by
    simp only [Exact.isNegative, Nat.pow_eq]
    cases negative <;> simp
    omega
  have ordinary : exponentOf pattern ≠ 2047 := by
    simp only [exponentOf, Nat.pow_eq]
    omega
  rw [ofFloat, ofPattern, toBits_ofBits (by rw [bits, exponent]; exact ordinary), bits,
    ofBits, exponent, if_neg ordinary, sign, magnitude, magnitude, exponent, fraction]

theorem magnitude_pattern {place mantissa : Nat} (full : 2 ^ 52 ≤ mantissa)
    (below : mantissa < 2 ^ 53) (range : place < 2046) :
    magnitude (place * 2 ^ 52 + mantissa) = mantissa * 2 ^ place := by
  have exponent : exponentOf (place * 2 ^ 52 + mantissa) = place + 1 := by
    simp only [exponentOf, Nat.pow_eq]
    omega
  have fraction : fractionOf (place * 2 ^ 52 + mantissa) = mantissa - 2 ^ 52 := by
    simp only [fractionOf, Nat.pow_eq]
    omega
  rw [magnitude, exponent, fraction, if_neg (Nat.succ_ne_zero place),
    Nat.add_sub_cancel, Nat.pow_eq, Nat.pow_eq, Nat.add_sub_cancel' full]

end Patterns

section Whole

theorem roundHalfEven_one (numerator : Nat) : roundHalfEven numerator 1 = numerator := by
  simp [roundHalfEven, Nat.mod_one]

variable {n : Nat}

theorem leadingPlace_one (positive : n ≠ 0) : leadingPlace n 1 = n.log2 := by
  have whole : Nat.log2 1 = 0 := by decide
  have reached : 2 ^ n.log2 ≤ n := Nat.log2_self_le positive
  simp [leadingPlace, whole, reached]

theorem scaled_bounds (positive : n ≠ 0) (short : n.log2 ≤ 52) :
    2 ^ 52 ≤ n * 2 ^ (52 - n.log2) ∧ n * 2 ^ (52 - n.log2) < 2 ^ 53 := by
  constructor
  · calc 2 ^ 52 = 2 ^ n.log2 * 2 ^ (52 - n.log2) := by rw [← Nat.pow_add, Nat.add_sub_cancel' short]
      _ ≤ n * 2 ^ (52 - n.log2) := Nat.mul_le_mul_right _ (Nat.log2_self_le positive)
  · calc n * 2 ^ (52 - n.log2) < 2 ^ (n.log2 + 1) * 2 ^ (52 - n.log2) :=
          Nat.mul_lt_mul_of_pos_right Nat.lt_log2_self (Nat.two_pow_pos _)
      _ = 2 ^ 53 := by rw [← Nat.pow_add]; congr 1; omega

/-- A whole number of at most 53 bits is shifted up to its mantissa, and nothing is rounded. -/
theorem nearestPattern_one (positive : n ≠ 0) (short : n.log2 ≤ 52) :
    nearestPattern n 1 = (n.log2 + 1022) * 2 ^ 52 + n * 2 ^ (52 - n.log2) := by
  have place : max ((n.log2 : Int) - 52) (-1074) = n.log2 - 52 := by omega
  have biased : ((n.log2 : Int) - 52 + 1074).toNat = n.log2 + 1022 := by omega
  have mantissa : (if 0 ≤ (n.log2 : Int) - 52 then
        roundHalfEven n (1 * 2 ^ ((n.log2 : Int) - 52).toNat)
      else roundHalfEven (n * 2 ^ (-((n.log2 : Int) - 52)).toNat) 1) = n * 2 ^ (52 - n.log2) := by
    split
    · have full : n.log2 = 52 := by omega
      simp [full, roundHalfEven_one]
    · have rest : (-((n.log2 : Int) - 52)).toNat = 52 - n.log2 := by omega
      rw [roundHalfEven_one, rest]
  have below := (scaled_bounds positive short).2
  rw [nearestPattern, if_neg positive, leadingPlace_one positive]
  simp only [place, Nat.pow_eq]
  rw [mantissa, biased]
  omega

theorem magnitude_nearest (small : n ≤ 2 ^ 53) :
    nearestPattern n 1 < 2047 * Nat.pow 2 52 ∧ magnitude (nearestPattern n 1) = n * one := by
  rcases Nat.eq_zero_or_pos n with rfl | positive
  · exact ⟨by decide +kernel, by decide +kernel⟩
  rcases Nat.eq_or_lt_of_le small with rfl | below
  · exact ⟨by decide +kernel, by decide +kernel⟩
  have positive : n ≠ 0 := Nat.ne_of_gt positive
  have short : n.log2 ≤ 52 := Nat.le_of_lt_succ ((Nat.log2_lt positive).mpr below)
  obtain ⟨full, under⟩ := scaled_bounds positive short
  rw [nearestPattern_one positive short]
  constructor
  · rw [Nat.pow_eq]
    omega
  · have places : 1074 = 52 - n.log2 + (n.log2 + 1022) := by omega
    rw [one_eq places, magnitude_pattern full under (by omega), Nat.mul_assoc, ← Nat.pow_add]

theorem signed_natAbs (i : Int) (scale : Nat) :
    signed (decide (i < 0)) (i.natAbs * scale) = i * scale := by
  rw [signed, Int.natCast_mul, Int.natCast_natAbs]
  by_cases negative : i < 0
  · rw [if_pos (decide_eq_true negative), abs_of_neg negative, Int.neg_mul, Int.neg_neg]
  · rw [if_neg (by simpa using negative), abs_of_nonneg (Int.not_lt.mp negative)]

theorem ofFloat_ofInt {i : Int} (small : i.natAbs ≤ 2 ^ 53) :
    ofFloat (Double.ofInt i) = Exact.ofInt i := by
  obtain ⟨finite, size⟩ := magnitude_nearest small
  rw [Double.ofInt, nearest, ofFloat_ofPattern _ finite, size, signed_natAbs]
  rfl

end Whole

section Values

theorem one_cast_pos : (0 : ℚ) < one := Nat.cast_pos.mpr Exact.one_pos

theorem extended?_of_whole (i : Int) : (Exact.ofInt i).extended? = some ↑(i : ℚ) := by
  rw [Exact.ofInt, Exact.extended?, Int.cast_mul, Int.cast_natCast,
    mul_div_cancel_right₀ _ one_cast_pos.ne']

theorem extended?_eq_none (x : Float) : extended? x = none ↔ x.isNaN = true := by
  unfold extended? Float.isNaN Float.Model.isNaN
  cases x.toModel.unpack with
  | notANumber => exact ⟨fun _ => rfl, fun _ => rfl⟩
  | infinity sign => cases sign <;> simp [extendedOf?, UnpackedFloat.isNaN]
  | _ => simp [extendedOf?, UnpackedFloat.isNaN]

theorem extended?_ofInt {i : Int} (small : i.natAbs ≤ 2 ^ 53) :
    extended? (Double.ofInt i) = some ↑(i : ℚ) := by
  rw [← extended?_ofFloat, ofFloat_ofInt small, extended?_of_whole]

theorem tdiv_eq_truncated (units : Int) {scale : Nat} (positive : 0 < scale) :
    units.tdiv scale =
      if 0 ≤ (units : ℚ) / scale then ⌊(units : ℚ) / scale⌋ else ⌈(units : ℚ) / scale⌉ := by
  have above : (0 : ℚ) < scale := Nat.cast_pos.mpr positive
  by_cases nonneg : 0 ≤ units
  · rw [if_pos (div_nonneg (Int.cast_nonneg nonneg) above.le), Rat.floor_intCast_div_natCast,
      Int.tdiv_eq_ediv_of_nonneg nonneg]
  · have negative : (units : ℚ) < 0 := Int.cast_lt_zero.mpr (Int.not_le.mp nonneg)
    have mirrored : ⌈(units : ℚ) / scale⌉ = -⌊((-units : Int) : ℚ) / scale⌋ := by
      rw [Int.cast_neg, neg_div, Int.floor_neg, neg_neg]
    rw [if_neg (not_le.mpr (div_neg_of_neg_of_pos negative above)), mirrored,
      Rat.floor_intCast_div_natCast, ← Int.tdiv_eq_ediv_of_nonneg (by omega), Int.neg_tdiv, neg_neg]

theorem whole?_of_denotes {value : Exact} {unpacked : UnpackedFloat}
    (denotes : Denotes value unpacked) :
    value.whole?.getD 0 =
      if 0 ≤ rationalOf unpacked then ⌊rationalOf unpacked⌋ else ⌈rationalOf unpacked⌉ := by
  cases denotes with
  | nan | infinite => rfl
  | finite number value =>
      rw [← value]
      exact tdiv_eq_truncated _ Exact.one_pos

theorem whole?_ofFloat (x : Float) : (ofFloat x).whole?.getD 0 = truncated x :=
  whole?_of_denotes (denotes_ofFloat x)

end Values

end Double

end StyleFold
