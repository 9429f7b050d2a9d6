import StyleFold.Proofs.Number.Numeral

/-!
Doubles as a script writes them. The shortest decimal is laid out in one of four ways, by the place
of its point, and in each of them it is the same number. Main statement: what is written for a
double is the spelling of its shortest decimal, with a power of ten for large and small ones only,
and it is read as the double.
-/

namespace StyleFold

open Double (withSign)
open Spelling (Mark Row Power)

namespace Decimal

def value (decimal : Decimal) : ℚ := decimal.digits * 10 ^ decimal.exponent

variable {decimal : Decimal}

theorem value_bounds (some : decimal.digits ≠ 0) :
    (10 : ℚ) ^ (decimal.point - 1) ≤ decimal.value ∧ decimal.value < 10 ^ decimal.point := by
  have point : (digitCount decimal.digits : Int) + decimal.exponent = decimal.point :=
    add_sub_cancel _ _
  have low := Numeral.power_le decimal.exponent some
  have high := Numeral.lt_power decimal.digits decimal.exponent
  rw [point] at low high
  exact ⟨low, high⟩

theorem far_iff (some : decimal.digits ≠ 0) : decimal.point ≤ -6 ∨ 21 < decimal.point ↔
    (10 : ℚ) ^ 21 ≤ decimal.value ∨ decimal.value < 10 ^ (-6 : Int) := by
  obtain ⟨low, high⟩ := value_bounds some
  have several : (1 : ℚ) < 10 := by norm_num
  constructor
  · rintro (small | large)
    · exact .inr (high.trans_le (zpow_le_zpow_right₀ several.le small))
    · refine .inl (le_trans ?_ low)
      rw [← zpow_natCast]
      exact zpow_le_zpow_right₀ several.le (by omega)
  · rintro (large | small)
    · right
      have above := large.trans_lt high
      rw [← zpow_natCast, zpow_lt_zpow_iff_right₀ several] at above
      omega
    · left
      have below := low.trans_lt small
      rw [zpow_lt_zpow_iff_right₀ several] at below
      omega

end Decimal

/-! The four layouts. -/

namespace Layout

def powerOf (exponent : Int) : Power where
  mark := 'e'
  marked := .inl rfl
  sign := if 0 ≤ exponent then .plus else .minus
  row := .ofNat exponent.natAbs
  present := Row.ofNat_ne_nil _

theorem value_powerOf (exponent : Int) : (powerOf exponent).value = exponent := by
  rw [Power.value, powerOf, Row.value_ofNat]
  split
  · rename_i up
    exact Int.natAbs_of_nonneg up
  · rename_i down
    exact (congrArg Neg.neg (Int.ofNat_natAbs_of_nonpos (by omega))).trans (Int.neg_neg _)

theorem exponentText_eq (exponent : Int) :
    scriptLayout.exponentText exponent = (powerOf exponent).chars := by
  have several : 0 < (Nat.toDigits 10 exponent.natAbs).length := Nat.length_toDigits_pos
  have width : scriptLayout.exponentWidth - (Nat.toDigits 10 exponent.natAbs).length = 0 :=
    Nat.sub_eq_zero_of_le several
  rw [exponentText, width]
  by_cases up : 0 ≤ exponent
  · rw [if_pos up, Power.chars, powerOf, if_pos up]
    rfl
  · rw [if_neg up, Power.chars, powerOf, if_neg up]
    rfl

/-- A spelling of a decimal as it should be written. -/
structure Writes (decimal : Decimal) (negative : Bool) (spelling : Spelling.Decimal) : Prop where
  sign : spelling.sign.negative = negative
  value : spelling.value = withSign negative decimal.value
  last : ∀ row, spelling.fraction = some row → ∃ c, row.chars.getLast? = some c ∧ c ≠ '0'
  power : spelling.power.isSome = true ↔ (10 : ℚ) ^ 21 ≤ decimal.value ∨
    decimal.value < 10 ^ (-6 : Int)

section Cases

variable {decimal : Decimal}

def digitRow (decimal : Decimal) : Row 10 := .ofNat decimal.digits

def zeroRow (count : Nat) : Row 10 :=
  ⟨zeros count, fun c member => by rw [List.eq_of_mem_replicate member]; decide⟩

theorem length_digitRow (decimal : Decimal) :
    ((digitRow decimal).chars.length : Int) = decimal.point - decimal.exponent :=
  (sub_sub_cancel decimal.point _).symm

theorem digitsValue_digitRow (decimal : Decimal) :
    digitsValue 10 (digitRow decimal).chars = decimal.digits :=
  digitsValue_toDigits (by decide) (by decide) _

theorem last_of_bare (bare : decimal.digits % 10 ≠ 0) :
    ∃ c, (digitRow decimal).chars.getLast? = some c ∧ c ≠ '0' := by
  refine ⟨_, getLast?_toDigits (by decide) _, fun zero => bare ?_⟩
  rw [← digitValue_digitChar ((Nat.mod_lt decimal.digits (by decide : 0 < 10)).trans
    (by decide)), zero]
  rfl

theorem digitRow_ne_nil (decimal : Decimal) : (digitRow decimal).chars ≠ [] := Row.ofNat_ne_nil _

theorem length_digitRow_pos (decimal : Decimal) : 0 < (digitRow decimal).chars.length :=
  List.length_pos_of_ne_nil (digitRow_ne_nil decimal)

def Spelt (decimal : Decimal) (sign : Mark) (text : List Char) : Prop :=
  ∃ spelling : Spelling.Decimal, spelling.chars = sign.chars ++ text ∧
  Writes decimal sign.negative spelling

/-- A text is put together from digits before the point and after it, which are those of the decimal
with as many zeros as the place of the last one asks for. -/
theorem spelt_of_parts (sign : Mark) (bare : decimal.digits % 10 ≠ 0) (whole fraction : Row 10)
    (power : Option Power) (shift : Nat) (present : whole.chars ≠ [])
    (digits : digitsValue 10 (whole.chars ++ fraction.chars) = decimal.digits * 10 ^ shift)
    (place : power.elim 0 Power.value - fraction.chars.length + shift = decimal.exponent)
    (last : fraction.chars ≠ [] → fraction.chars.getLast? = (digitRow decimal).chars.getLast?)
    (far : power.isSome = true ↔ decimal.point ≤ -6 ∨ 21 < decimal.point) {text : List Char}
    (form : text = whole.chars ++
      ((if fraction.chars = [] then [] else '.' :: fraction.chars) ++ power.elim [] Power.chars)) :
    Spelt decimal sign text := by
  rw [form]
  have limits := far.trans (Decimal.far_iff fun none => bare (by rw [none]))
  -- A point is written only if there are digits behind it.
  by_cases pointless : fraction.chars = []
  · let spelling : Spelling.Decimal := ⟨sign, whole, none, power, .inl present⟩
    refine ⟨spelling,
      by rw [if_pos pointless]; rfl, rfl, ?_, fun row point => (nomatch point), limits⟩
    rw [pointless] at digits place
    rw [spelling.value_eq, Decimal.value, ← place, ← Decimal.shifted, ← digits]
    rfl
  · let spelling : Spelling.Decimal := ⟨sign, whole, some fraction, power, .inl present⟩
    refine ⟨spelling, by rw [if_neg pointless]; rfl, rfl, ?_, ?_, limits⟩
    · rw [spelling.value_eq, Decimal.value, ← place, ← Decimal.shifted, ← digits]
      rfl
    · intro row point
      cases point
      rw [last pointless]
      exact last_of_bare bare

theorem layout_far :
    (decide (decimal.point ≤ scriptLayout.below) || decide (scriptLayout.above < decimal.point)) =
      true ↔ decimal.point ≤ -6 ∨ 21 < decimal.point := by
  rw [Bool.or_eq_true, decide_eq_true_iff, decide_eq_true_iff]
  rfl

theorem decimalText_far {first : Char} {rest : List Char}
    (far : decimal.point ≤ -6 ∨ 21 < decimal.point)
    (form : (digitRow decimal).chars = first :: rest) : scriptLayout.decimalText decimal =
      [first] ++
        ((if rest = [] then [] else '.' :: rest) ++ (powerOf (decimal.point - 1)).chars) := by
  have form : Nat.toDigits 10 decimal.digits = first :: rest := form
  rw [decimalText, form, if_pos (layout_far.mpr far), exponentText_eq]
  cases rest <;> rfl

theorem decimalText_near (near : ¬ (decimal.point ≤ -6 ∨ 21 < decimal.point)) :
    scriptLayout.decimalText decimal =
    if decimal.point ≤ 0 then
      '0' :: '.' :: (zeros (-decimal.point).toNat ++ (digitRow decimal).chars)
    else if ((digitRow decimal).chars.length : Int) ≤ decimal.point then
      (digitRow decimal).chars ++ zeros (decimal.point.toNat - (digitRow decimal).chars.length)
    else (digitRow decimal).chars.take decimal.point.toNat ++
      '.' :: (digitRow decimal).chars.drop decimal.point.toNat := by
  rw [decimalText, if_neg (mt layout_far.mp near)]
  refine if_congr Iff.rfl rfl (if_congr Iff.rfl ?_ rfl)
  exact List.append_nil _

theorem spelt_power (sign : Mark) (bare : decimal.digits % 10 ≠ 0)
    (far : decimal.point ≤ -6 ∨ 21 < decimal.point) :
    Spelt decimal sign (scriptLayout.decimalText decimal) := by
  have length := length_digitRow decimal
  have value := digitsValue_digitRow decimal
  have member := (digitRow decimal).digits
  obtain ⟨first, rest, form⟩ := List.exists_cons_of_ne_nil (digitRow_ne_nil decimal)
  rw [form] at length value member
  refine spelt_of_parts sign bare
    ⟨[first], fun c one => member c (List.mem_cons.mpr (.inl (List.mem_singleton.mp one)))⟩
    ⟨rest, fun c later => member c (List.mem_cons_of_mem first later)⟩
      (some (powerOf (decimal.point - 1))) 0
    (List.cons_ne_nil _ _) (value.trans (Nat.mul_one _).symm) ?_ ?_ ⟨fun _ => far, fun _ => rfl⟩
    (decimalText_far far form)
  · rw [Option.elim_some, value_powerOf]
    change decimal.point - 1 - (rest.length : Int) + (0 : Nat) = decimal.exponent
    rw [List.length_cons] at length
    omega
  · intro several
    rw [form, List.getLast?_cons_of_ne_nil several]

theorem spelt_small (sign : Mark) (bare : decimal.digits % 10 ≠ 0)
    (near : ¬ (decimal.point ≤ -6 ∨ 21 < decimal.point)) (small : decimal.point ≤ 0) :
    Spelt decimal sign (scriptLayout.decimalText decimal) := by
  have length := length_digitRow decimal
  have several : zeros (-decimal.point).toNat ++ (digitRow decimal).chars ≠ [] :=
    List.append_ne_nil_of_right_ne_nil _ (digitRow_ne_nil decimal)
  refine spelt_of_parts sign bare (zeroRow 1)
    ((zeroRow (-decimal.point).toNat).append (digitRow decimal))
    none 0 (List.cons_ne_nil _ _) ?_ ?_ ?_ ⟨fun power => (nomatch power),
      fun far => absurd far near⟩ ?_
  · change digitsValue 10 (zeros 1 ++ (zeros _ ++ (digitRow decimal).chars)) = _
    rw [digitsValue_append, digitsValue_append, zeros, zeros, digitsValue_zeros, digitsValue_zeros,
      digitsValue_digitRow, Nat.zero_mul, Nat.zero_add, Nat.zero_mul, Nat.zero_add,
      pow_zero, Nat.mul_one]
  · change (0 : Int) - (zeros _ ++ (digitRow decimal).chars).length + (0 : Nat) = decimal.exponent
    rw [List.length_append, zeros, List.length_replicate]
    omega
  · intro _
    change (zeros _ ++ (digitRow decimal).chars).getLast? = _
    rw [List.getLast?_append_of_ne_nil _ (digitRow_ne_nil decimal)]
  · rw [decimalText_near near, if_pos small, if_neg (by exact several)]
    exact congrArg _ (congrArg _ (List.append_nil _).symm)

theorem spelt_whole (sign : Mark) (bare : decimal.digits % 10 ≠ 0)
    (near : ¬ (decimal.point ≤ -6 ∨ 21 < decimal.point)) (large : 0 ≤ decimal.exponent) :
    Spelt decimal sign (scriptLayout.decimalText decimal) := by
  have length := length_digitRow decimal
  have several := length_digitRow_pos decimal
  refine spelt_of_parts sign bare
    ((digitRow decimal).append (zeroRow decimal.exponent.toNat)) .empty none
    decimal.exponent.toNat (List.append_ne_nil_of_left_ne_nil (digitRow_ne_nil decimal) _) ?_ ?_
    (fun some => absurd rfl some) ⟨fun power => (nomatch power), fun far => absurd far near⟩ ?_
  · change digitsValue 10 ((digitRow decimal).chars ++ zeros _ ++ []) = _
    rw [List.append_nil, digitsValue_append, zeros, digitsValue_zeros, List.length_replicate,
      digitsValue_digitRow, Nat.add_zero]
  · change (0 : Int) - (0 : Nat) + decimal.exponent.toNat = decimal.exponent
    omega
  · have places : decimal.point.toNat - (digitRow decimal).chars.length = decimal.exponent.toNat :=
      by omega
    rw [decimalText_near near, if_neg (by omega), if_pos (by omega), places]
    exact (List.append_nil _).symm

theorem spelt_pointed (sign : Mark) (bare : decimal.digits % 10 ≠ 0)
    (near : ¬ (decimal.point ≤ -6 ∨ 21 < decimal.point)) (large : 0 < decimal.point)
    (pointed : decimal.exponent < 0) : Spelt decimal sign (scriptLayout.decimalText decimal) := by
  have length := length_digitRow decimal
  have value := digitsValue_digitRow decimal
  have member := (digitRow decimal).digits
  have text := decimalText_near near
  rw [if_neg (by omega), if_neg (by omega)] at text
  generalize named : (digitRow decimal).chars = digits at length value member text
  have inside : decimal.point.toNat < digits.length := by omega
  have more : digits.drop decimal.point.toNat ≠ [] := by
    rw [Ne, List.drop_eq_nil_iff]
    omega
  refine spelt_of_parts sign bare
    ⟨digits.take decimal.point.toNat, fun c front => member c (List.mem_of_mem_take front)⟩
    ⟨digits.drop decimal.point.toNat, fun c back => member c (List.mem_of_mem_drop back)⟩
    none 0 ?_ ?_ ?_ ?_ ⟨fun power => (nomatch power), fun far => absurd far near⟩ ?_
  · apply List.ne_nil_of_length_pos
    change 0 < (digits.take decimal.point.toNat).length
    rw [List.length_take]
    omega
  · change digitsValue 10 (digits.take _ ++ digits.drop _) = _
    rw [List.take_append_drop, value, pow_zero, Nat.mul_one]
  · change (0 : Int) - (digits.drop decimal.point.toNat).length + (0 : Nat) = decimal.exponent
    rw [List.length_drop]
    omega
  · intro _
    rw [named]
    exact List.getLast?_drop.trans (if_neg (Nat.not_le.mpr inside))
  · rw [if_neg (by exact more), text]
    exact congrArg _ (congrArg _ (List.append_nil _).symm)

theorem spelt_decimalText (sign : Mark) (bare : decimal.digits % 10 ≠ 0) :
    Spelt decimal sign (scriptLayout.decimalText decimal) := by
  by_cases far : decimal.point ≤ -6 ∨ 21 < decimal.point
  · exact spelt_power sign bare far
  · rcases le_or_gt decimal.point 0 with small | large
    · exact spelt_small sign bare far small
    · rcases le_or_gt 0 decimal.exponent with whole | pointed
      · exact spelt_whole sign bare far whole
      · exact spelt_pointed sign bare far large pointed

end Cases

end Layout

/-! The text of a double. -/

namespace Double

variable {x : Float} {q : ℚ}

theorem pattern_infinity (negative : Bool) : pattern (infinity negative) = Exact.top := by
  cases negative <;> decide

/-- A decimal is rounded to a finite double if and only if it reads back as its pattern. -/
theorem rounded_iff (finite : extended? x = some ↑q) {count : Nat} {place : Int} :
    rounded (signBit x) (count * 10 ^ place) = x ↔ Decimal.Reads (pattern x) count place := by
  have nonneg : (0 : ℚ) ≤ count * 10 ^ place := by positivity
  constructor
  · intro same
    rcases lt_or_ge ((count : ℚ) * 10 ^ place) overflow with near | far
    · rw [Decimal.Reads, ← same, pattern_rounded _ nonneg near]
      exact beside_patternOf nonneg
    · rw [rounded_infinite _ nonneg far] at same
      have inside := (eq_withSign finite).1
      rw [← same, pattern_infinity] at inside
      exact absurd inside (lt_irrefl _)
  · intro reads
    exact (congrArg (ofPattern (signBit x)) (patternOf_eq nonneg reads)).trans (ofPattern_pattern x)

theorem sign_of_finite (finite : extended? x = some ↑q) (some : q ≠ 0) :
    0 < pattern x ∧ pattern x < Exact.top ∧ signBit x = decide (q < 0) := by
  obtain ⟨inside, rfl⟩ := eq_withSign finite
  have positive : 0 < pattern x := by
    refine Nat.pos_of_ne_zero fun zero => some ?_
    have nought : Exact.magnitude 0 = 0 := by decide
    rw [zero, nought, Nat.cast_zero, zero_div]
    cases signBit x
    · rfl
    · exact neg_zero
  have size : (0 : ℚ) < Exact.magnitude (pattern x) / Exact.one :=
    div_pos (Nat.cast_pos.mpr (Nat.zero_lt_of_lt (Exact.magnitude_lt positive inside.le)))
      one_cast_pos
  refine ⟨positive, inside, ?_⟩
  cases signBit x
  · exact (decide_eq_false (not_lt.mpr size.le)).symm
  · exact (decide_eq_true (neg_lt_zero.mpr size)).symm

theorem units_of_finite (finite : extended? x = some ↑q) :
    ∃ units : Int, Exact.ofFloat x = .finite units ∧ (units = 0 ↔ q = 0) ∧ (units < 0 ↔ q < 0) := by
  obtain ⟨units, value⟩ := finite_of_extended finite
  obtain ⟨number, ratio⟩ := rational_of_finite value
  have same : q = units / Exact.one := by
    rw [← ratio]
    exact WithBotTop.coe_injective (Option.some.inj (finite.symm.trans number))
  refine ⟨units, value, ?_, ?_⟩
  · rw [same, div_eq_zero_iff, or_iff_left one_cast_pos.ne', Int.cast_eq_zero]
  · rw [same, div_lt_iff₀ one_cast_pos, zero_mul, Int.cast_lt_zero]

end Double

section Text

open Double

variable {x : Float} {q : ℚ}

theorem toList_numberText (finite : extended? x = some ↑q) (some : q ≠ 0) : (numberText x).toList =
    (if q < 0 then Mark.minus else .none).chars ++ scriptLayout.decimalText
    (Decimal.ofFloat x) := by
  obtain ⟨units, value, zero, negative⟩ := units_of_finite finite
  rw [numberText, Layout.text, String.toList_ofList, Layout.chars, value]
  dsimp only
  rw [if_neg (mt zero.mp some)]
  by_cases down : q < 0
  · rw [if_pos down, if_pos (negative.mpr down)]
    rfl
  · rw [if_neg down, if_neg (mt negative.mp down)]
    rfl

theorem shortest_ofFloat (finite : extended? x = some ↑q) (some : q ≠ 0) :
    Decimal.Shortest (pattern x) (Decimal.ofFloat x) := by
  obtain ⟨positive, inside, _⟩ := sign_of_finite finite some
  exact Decimal.shortest_ofBits positive inside

theorem exists_spelling (finite : extended? x = some ↑q) (some : q ≠ 0) :
    ∃ spelling : Spelling.Decimal, spelling.chars = (numberText x).toList ∧
    Layout.Writes (Decimal.ofFloat x) (decide (q < 0)) spelling := by
  have spelt := Layout.spelt_decimalText (if q < 0 then Mark.minus else .none)
    (shortest_ofFloat finite some).bare
  have negative : (if q < 0 then Mark.minus else .none).negative = decide (q < 0) := by
    split <;> rename_i sign
    · exact (decide_eq_true sign).symm
    · exact (decide_eq_false sign).symm
  rw [toList_numberText finite some, ← negative]
  exact spelt

theorem numberOfText_numberText (finite : extended? x = some ↑q) (some : q ≠ 0) :
    numberOfText (numberText x) = .ok x := by
  obtain ⟨spelling, chars, writes⟩ := exists_spelling finite some
  have nonneg : 0 ≤ (Decimal.ofFloat x).value := mul_nonneg (Nat.cast_nonneg _) (by positivity)
  have around := (Spelling.decimal spelling).around_self
  rw [numberOfText_decimal spelling (by rw [← chars]; exact around), writes.sign, writes.value,
    abs_withSign _ nonneg, ← (sign_of_finite finite some).2.2]
  exact congrArg Except.ok ((rounded_iff finite).mpr (shortest_ofFloat finite some).reads)

/-- A double other than zero is written as a spelling of the shortest decimal that is rounded to it,
with a power of ten if and only if the decimal is that far from one, and with no zero at the end of
its fraction. The text is read as the double, so no other double is written like it. -/
theorem numberText_spelt (finite : extended? x = some ↑q) (some : q ≠ 0) :
    (∃ spelling : Spelling.Decimal, spelling.chars = (numberText x).toList ∧
      Numeral.readDecimal? (numberText x).toList = Option.some spelling.numeral ∧
      spelling.numeral.value = ↑spelling.value ∧
      Layout.Writes (Decimal.ofFloat x) (decide (q < 0)) spelling) ∧
    (∀ (count : Nat) (place : Int), rounded (decide (q < 0)) (count * 10 ^ place) = x →
      Decimal.digitCount (Decimal.ofFloat x).digits ≤ Decimal.digitCount count) ∧
    numberOfText (numberText x) = .ok x ∧
    ∀ y (r : ℚ), extended? y = Option.some ↑r → r ≠ 0 → numberText x = numberText y → x = y := by
  obtain ⟨spelling, chars, writes⟩ := exists_spelling finite some
  have read := numberOfText_numberText finite some
  refine ⟨⟨spelling, chars, ?_, spelling.value_numeral, writes⟩,
    fun count place back => ?_, read, ?_⟩
  · rw [← chars]
    exact spelling.readDecimal?_chars
  · rw [← (sign_of_finite finite some).2.2, rounded_iff finite] at back
    exact (shortest_ofFloat finite some).least count place back
  · intro y r finiteToo someToo alike
    rw [alike, numberOfText_numberText finiteToo someToo] at read
    exact (Except.ok.inj read).symm

theorem numberText_spelt_minus_1500 :
    (∃ spelling : Spelling.Decimal, spelling.chars = (numberText (Double.ofInt (-1500))).toList) ∧
      numberOfText (numberText (Double.ofInt (-1500))) = .ok (Double.ofInt (-1500)) := by
  have finite := extended?_ofInt (i := -1500) (by decide)
  obtain ⟨⟨spelling, chars, _⟩, _, read, _⟩ := numberText_spelt finite (by norm_num)
  exact ⟨⟨spelling, chars⟩, read⟩

end Text

end StyleFold
