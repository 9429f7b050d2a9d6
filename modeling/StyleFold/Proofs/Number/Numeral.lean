import StyleFold.Proofs.Number.Shortest
import StyleFold.Proofs.Number.Spelling

/-!
Numerals as doubles. A numeral is rounded to the double closest to what it denotes, and powers of
ten that are not formed would not change that. A decimal becomes infinite from half the last place
beyond the greatest double on; a whole number with the letter of its radix has no double there.
Main statement: a text is not a number if and only if nothing spells it, and any other text is
rounded from what it denotes.
-/

namespace StyleFold

open Exact Double

/-! What a numeral denotes. -/

namespace Numeral

def value : Numeral → WithBotTop ℚ
  | .infinite negative => if negative then ⊥ else ⊤
  | .whole value => ↑(value : ℚ)
  | .decimal negative digits exponent => ↑(withSign negative (digits * 10 ^ exponent))

end Numeral

namespace Spelling

theorem Decimal.value_eq (spelling : Decimal) : spelling.value = withSign spelling.sign.negative
    (digitsValue 10 (spelling.whole.chars ++ spelling.fractionRow.chars) *
      10 ^ (spelling.power.elim 0 Power.value - spelling.fractionRow.chars.length)) := by
  have fraction : spelling.fractionValue =
      spelling.fractionRow.value / 10 ^ spelling.fractionRow.chars.length := by
    rw [fractionValue, fractionRow]
    cases spelling.fraction with
    | none => exact (zero_div _).symm
    | some row => rfl
  have power : (10 : ℚ) ^ spelling.fractionRow.chars.length ≠ 0 := by positivity
  rw [value, fraction, digitsValue_append, Row.digitsValue_chars, Row.digitsValue_chars,
    zpow_sub₀ (by norm_num), zpow_natCast]
  congr 1
  push_cast
  field_simp

theorem Decimal.value_numeral (spelling : Decimal) : spelling.numeral.value = ↑spelling.value := by
  rw [spelling.value_eq]
  rfl

theorem value_numeral (spelling : Spelling) : spelling.numeral.value = spelling.value := by
  cases spelling with
  | empty => exact congrArg (fun q : ℚ => (↑q : WithBotTop ℚ)) Nat.cast_zero
  | infinite sign => rfl
  | whole spelling => rfl
  | decimal spelling => exact spelling.value_numeral

end Spelling

/-! Rounding. -/

namespace Double

variable {size : ℚ}

theorem patternOf_eq {pattern : Nat} (nonneg : 0 ≤ size) (beside : Beside (size * one) pattern) :
    patternOf size = pattern :=
  (beside_patternOf nonneg).unique beside

theorem rounded_zero (negative : Bool) : rounded negative 0 = zero negative := by
  have nought : patternOf 0 = 0 := patternOf_eq le_rfl (by rw [zero_mul]; exact beside_zero)
  exact congrArg (ofPattern negative) nought

theorem rounded_tiny (negative : Bool) (nonneg : 0 ≤ size) (tiny : 2 * (size * one) < 1) :
    rounded negative size = zero negative := by
  have unit : halfway 0 = 1 := by decide
  refine congrArg (ofPattern negative) (patternOf_eq nonneg ⟨Nat.zero_le _, fun some => ?_,
    fun _ => .inl ?_⟩)
  · exact absurd some (lt_irrefl 0)
  · rwa [unit, Nat.cast_one]

end Double

namespace Numeral

variable {digits : Nat} {exponent : Int}

theorem power_le (exponent : Int) (some : digits ≠ 0) :
    (10 : ℚ) ^ ((Decimal.digitCount digits : Int) + exponent - 1) ≤ digits * 10 ^ exponent := by
  have positive := Decimal.digitCount_pos digits
  have least : (10 : ℚ) ^ (Decimal.digitCount digits - 1) ≤ digits := by
    exact_mod_cast Decimal.pow_le_of_digitCount some
  have place : (Decimal.digitCount digits : Int) + exponent - 1 =
      (Decimal.digitCount digits - 1 : Nat) + exponent := by omega
  rw [place, zpow_add₀ (by norm_num), zpow_natCast]
  exact mul_le_mul_of_nonneg_right least (by positivity)

theorem lt_power (digits : Nat) (exponent : Int) :
    (digits : ℚ) * 10 ^ exponent < 10 ^ ((Decimal.digitCount digits : Int) + exponent) := by
  have most : (digits : ℚ) < 10 ^ Decimal.digitCount digits := by
    exact_mod_cast Decimal.lt_pow_digitCount digits
  rw [zpow_add₀ (by norm_num), zpow_natCast]
  exact mul_lt_mul_of_pos_right most (by positivity)

theorem rounded_large (negative : Bool) (some : digits ≠ 0)
    (large : 400 < (Decimal.digitCount digits : Int) + exponent) :
    rounded negative (digits * 10 ^ exponent) = Double.infinity negative := by
  have limit : overflow ≤ 10 ^ 400 := by decide +kernel
  refine rounded_infinite negative (by positivity) (le_trans ?_ (power_le exponent some))
  calc (overflow : ℚ) ≤ (10 : ℚ) ^ (400 : Int) := by exact_mod_cast limit
    _ ≤ 10 ^ ((Decimal.digitCount digits : Int) + exponent - 1) :=
        zpow_le_zpow_right₀ (by norm_num) (by omega)

theorem rounded_small (negative : Bool)
    (small : (Decimal.digitCount digits : Int) + exponent < -400) :
    rounded negative (digits * 10 ^ exponent) = Double.zero negative := by
  have limit : 2 * one < 10 ^ 400 := by decide +kernel
  have power : (digits : ℚ) * 10 ^ exponent ≤ 10 ^ (-400 : Int) :=
    (lt_power digits exponent).le.trans (zpow_le_zpow_right₀ (by norm_num) (by omega))
  refine rounded_tiny negative (by positivity) ?_
  generalize one = scale at limit
  calc 2 * ((digits : ℚ) * 10 ^ exponent * scale) = digits * 10 ^ exponent * (2 * scale : Nat) := by
        push_cast
        ring
    _ ≤ 10 ^ (-400 : Int) * (2 * scale : Nat) :=
  mul_le_mul_of_nonneg_right power (Nat.cast_nonneg _)
    _ < 10 ^ (-400 : Int) * (10 ^ 400 : Nat) :=
  mul_lt_mul_of_pos_left (Nat.cast_lt.mpr limit) (by positivity)
    _ = 1 := by norm_num

theorem roundDecimal_eq (negative : Bool) (digits : Nat) (exponent : Int) :
    roundDecimal negative digits exponent = rounded negative (digits * 10 ^ exponent) := by
  unfold roundDecimal
  dsimp only
  split
  · rename_i none
    rw [none, Nat.cast_zero, zero_mul, rounded_zero]
  · rename_i some
    split
    · rename_i large
      exact (rounded_large negative some large).symm
    · split
      · rename_i small
        exact (rounded_small negative small).symm
      · rw [← Decimal.quotientOf_ratio,
          ← nearest_eq_rounded _ _ (Decimal.quotientOf_pos digits exponent), Decimal.quotientOf]
        split <;> rfl

end Numeral

/-! What a double is to the number it was rounded from. -/

namespace Double

/-- Infinite like its number or beyond the range, and the closest double otherwise. -/
inductive Rounds : WithBotTop ℚ → Float → Prop where
  | infinite (negative : Bool) : Rounds (if negative then ⊥ else ⊤) (infinity negative)
  | beyond (negative : Bool) {size : ℚ} (far : overflow ≤ size) :
      Rounds ↑(withSign negative size) (infinity negative)
  | closest {q : ℚ} {x : Float} (near : |q| < overflow) (closest : Closest q x) : Rounds ↑q x

theorem isNaN_infinity (negative : Bool) : (infinity negative).isNaN = false := by
  cases negative <;> decide

theorem Rounds.isNaN {value : WithBotTop ℚ} {x : Float} (rounds : Rounds value x) :
    x.isNaN = false := by
  cases rounds with
  | infinite negative | beyond negative far => exact isNaN_infinity negative
  | closest near closest =>
      rw [← Bool.not_eq_true, ← extended?_eq_none, closest.finite]
      exact Option.some_ne_none _

theorem abs_withSign (negative : Bool) {size : ℚ} (nonneg : 0 ≤ size) :
    |withSign negative size| = size := by
  cases negative
  · exact abs_of_nonneg nonneg
  · exact (abs_neg size).trans (abs_of_nonneg nonneg)

theorem rounds_rounded (negative : Bool) {size : ℚ} (nonneg : 0 ≤ size) :
    Rounds ↑(withSign negative size) (rounded negative size) := by
  rcases lt_or_ge size overflow with near | far
  · exact .closest ((abs_withSign negative nonneg).trans_lt near)
      (closest_rounded negative nonneg near)
  · rw [rounded_infinite negative nonneg far]
    exact .beyond negative far

theorem ofInt_natCast (n : Nat) : ofInt n = rounded false n := by
  rw [ofInt_eq_rounded, decide_eq_false (Int.not_lt.mpr (Int.natCast_nonneg n))]
  congr 1
  exact abs_of_nonneg (Nat.cast_nonneg n)

theorem ofInt_infinite {n : Nat} (far : overflow ≤ n) : ofInt n = infinity false := by
  rw [ofInt_natCast]
  exact rounded_infinite false (Nat.cast_nonneg n) (Nat.cast_le.mpr far)

theorem ofInt?_natCast (n : Nat) : ofInt? n = if n < overflow then some (ofInt n) else none := by
  have inside : nearestPattern n 1 < 2047 * Nat.pow 2 52 ↔ n < overflow := by
    have limit := patternOf_lt_top (show (0 : ℚ) ≤ n from Nat.cast_nonneg n)
    rw [Nat.cast_lt] at limit
    rw [nearestPattern_eq_patternOf n Nat.one_pos, Nat.cast_one, div_one]
    exact limit
  rw [ofInt?, Int.natAbs_natCast]
  exact if_congr inside rfl rfl

end Double

namespace Numeral

theorem rounds_of_toFloat? {numeral : Numeral} {x : Float} (rounded : numeral.toFloat? = some x) :
    Rounds numeral.value x := by
  cases numeral with
  | infinite negative =>
      cases rounded
      exact .infinite negative
  | whole value =>
      rw [toFloat?, ofInt?_natCast] at rounded
      split at rounded
      · rw [← Option.some.inj rounded, ofInt_natCast]
        exact rounds_rounded false (Nat.cast_nonneg value)
      · cases rounded
  | decimal negative digits exponent =>
      rw [← Option.some.inj rounded, roundDecimal_eq]
      exact rounds_rounded negative (by positivity)

theorem toFloat?_eq_none {numeral : Numeral} :
    numeral.toFloat? = none ↔ ∃ value, numeral = .whole value ∧ overflow ≤ value := by
  cases numeral with
  | infinite negative => exact ⟨fun none => (nomatch none), fun ⟨_, same, _⟩ => (nomatch same)⟩
  | decimal negative digits exponent =>
      exact ⟨fun none => (nomatch none), fun ⟨_, same, _⟩ => (nomatch same)⟩
  | whole value =>
      rw [toFloat?, ofInt?_natCast]
      split
      · rename_i near
        refine ⟨fun none => (nomatch none), ?_⟩
        rintro ⟨other, same, far⟩
        cases same
        exact absurd near (Nat.not_lt.mpr far)
      · rename_i far
        exact ⟨fun _ => ⟨value, rfl, Nat.not_lt.mp far⟩, fun _ => rfl⟩

end Numeral

/-! Texts that are read as numbers. -/

namespace Spelling

/-- A whole number with the letter of its radix that has no double. -/
def Beyond : Spelling → Prop
  | .whole spelling => overflow ≤ spelling.value
  | _ => False

theorem beyond_iff (spelling : Spelling) : spelling.numeral.toFloat? = none ↔ spelling.Beyond := by
  rw [Numeral.toFloat?_eq_none]
  constructor
  · rintro ⟨value, same, far⟩
    cases spelling with
    | empty =>
        cases same
        exact absurd far (by decide +kernel)
    | infinite sign => cases same
    | decimal spelling => cases same
    | whole spelling =>
        cases same
        exact far
  · intro far
    cases spelling with
    | whole spelling => exact ⟨_, rfl, far⟩
    | _ => exact far.elim

end Spelling

section Texts

variable {s : String} {body : List Char}

theorem read?_spelled (spelling : Spelling)
    (around : Text.Around Text.isScriptBlank s.toList spelling.chars) :
    Numeral.read? s.toList = some spelling.numeral :=
  Spelling.read?_iff.mpr ⟨spelling, around.trim_eq.symm, rfl⟩

theorem numberOfText_spelled {spelling : Spelling}
    (around : Text.Around Text.isScriptBlank s.toList spelling.chars) :
    spelling.Beyond ∧ numberOfText s = .error .outOfRange ∨
      ¬ spelling.Beyond ∧ ∃ x, numberOfText s = .ok x ∧ spelling.numeral.toFloat? = some x := by
  rw [numberOfText, read?_spelled spelling around, ← spelling.beyond_iff]
  dsimp only
  cases rounded : spelling.numeral.toFloat? with
  | none => exact .inl ⟨rfl, rfl⟩
  | some x => exact .inr ⟨Option.some_ne_none x, x, rfl, rfl⟩

theorem numberOfText_decimal (spelling : Spelling.Decimal)
    (around : Text.Around Text.isScriptBlank s.toList spelling.chars) :
    numberOfText s = .ok (rounded spelling.sign.negative |spelling.value|) := by
  rw [spelling.value_eq, abs_withSign _ (by positivity), numberOfText,
    read?_spelled (.decimal spelling) around, Spelling.numeral]
  dsimp only [Numeral.toFloat?, Spelling.Decimal.numeral]
  rw [Numeral.roundDecimal_eq]

theorem numberOfText_row (sign : Spelling.Mark) (row : Spelling.Row 10) (present : row.chars ≠ [])
    (around : Text.Around Text.isScriptBlank s.toList (sign.chars ++ row.chars)) :
    numberOfText s = .ok (rounded sign.negative row.value) := by
  have value : (Spelling.Decimal.ofRow sign row present).value =
      withSign sign.negative row.value := by
    refine congrArg (withSign sign.negative) ?_
    change ((row.value : ℚ) + 0) * 10 ^ (0 : Int) = row.value
    rw [add_zero, zpow_zero, mul_one]
  rw [← Spelling.Decimal.chars_ofRow sign row present] at around
  rw [numberOfText_decimal _ around, value, abs_withSign _ (Nat.cast_nonneg _)]
  rfl

theorem numberOfText_toDigits (n : Nat) :
    numberOfText (String.ofList (Nat.toDigits 10 n)) = .ok (Double.ofInt n) := by
  have present := Spelling.Row.ofNat_ne_nil n
  have around := (Spelling.decimal (.ofRow .none _ present)).around_self
  rw [Spelling.chars, Spelling.Decimal.chars_ofRow] at around
  have read := numberOfText_row (s := String.ofList (Nat.toDigits 10 n)) .none _ present
    (by rw [String.toList_ofList]; exact around)
  rw [Spelling.Row.value_ofNat] at read
  rw [ofInt_natCast]
  exact read

theorem numberOfText_whole (whole : Spelling.Whole)
    (around : Text.Around Text.isScriptBlank s.toList whole.chars) :
    numberOfText s =
      if whole.value < overflow then .ok (Double.ofInt whole.value) else .error .outOfRange := by
  rw [numberOfText, read?_spelled (.whole whole) around, Spelling.numeral]
  dsimp only [Numeral.toFloat?]
  rw [ofInt?_natCast]
  by_cases near : whole.value < overflow
  · rw [if_pos near, if_pos near]
  · rw [if_neg near, if_neg near]

theorem numberOfText_unspelled (around : Text.Around Text.isScriptBlank s.toList body)
    (unspelled : ¬ ∃ spelling : Spelling, spelling.chars = body) :
    numberOfText s = .ok notANumber := by
  cases read : Numeral.read? s.toList with
  | none => rw [numberOfText, read]
  | some numeral =>
      obtain ⟨spelling, chars, _⟩ := Spelling.read?_iff.mp read
      exact absurd ⟨spelling, chars.trans around.trim_eq⟩ unspelled

theorem numberOfText_error_iff {why : Refusal} : numberOfText s = .error why ↔ why = .outOfRange ∧
    ∃ whole : Spelling.Whole, Text.Around Text.isScriptBlank s.toList whole.chars ∧
      overflow ≤ whole.value := by
  constructor
  · intro failed
    have around := Text.around_trim Text.isScriptBlank s.toList
    by_cases spelled : ∃ spelling : Spelling, spelling.chars = Text.trim Text.isScriptBlank s.toList
    · obtain ⟨spelling, same⟩ := spelled
      rw [← same] at around
      rcases numberOfText_spelled around with ⟨beyond, refused⟩ | ⟨_, x, read, _⟩
      · rw [refused] at failed
        cases failed
        cases spelling with
        | whole whole => exact ⟨rfl, whole, around, beyond⟩
        | _ => exact beyond.elim
      · rw [read] at failed
        cases failed
    · rw [numberOfText_unspelled around spelled] at failed
      cases failed
  · rintro ⟨rfl, whole, around, far⟩
    rw [numberOfText_whole whole around, if_neg (Nat.not_lt.mpr far)]

/-- A text without its blanks is not a number if and only if no spelling gives it. Any other one is
read as what its spelling denotes, and rounded if it is not beyond the range. -/
theorem numberOfText_grammar (around : Text.Around Text.isScriptBlank s.toList body) :
    ((∃ x, numberOfText s = .ok x ∧ x.isNaN = true) ↔ ¬ ∃ spelling : Spelling,
      spelling.chars = body) ∧
      ∀ spelling : Spelling, spelling.chars = body →
        (∃ numeral, Numeral.read? s.toList = some numeral ∧ numeral.value = spelling.value) ∧
        (spelling.Beyond → numberOfText s = .error .outOfRange) ∧
        (¬ spelling.Beyond → ∃ x, numberOfText s = .ok x ∧ Rounds spelling.value x) := by
  refine ⟨⟨?_, fun unspelled => ?_⟩, ?_⟩
  · rintro ⟨x, read, nan⟩ ⟨spelling, rfl⟩
    rcases numberOfText_spelled around with ⟨_, failed⟩ | ⟨_, y, same, rounded⟩
    · rw [failed] at read
      cases read
    · rw [same] at read
      cases read
      rw [(Numeral.rounds_of_toFloat? rounded).isNaN] at nan
      cases nan
  · exact ⟨notANumber, numberOfText_unspelled around unspelled, by decide⟩
  · rintro spelling rfl
    refine ⟨⟨_, read?_spelled spelling around, spelling.value_numeral⟩, fun beyond => ?_,
      fun inside => ?_⟩
    · rcases numberOfText_spelled around with ⟨_, failed⟩ | ⟨inside, _⟩
      · exact failed
      · exact absurd beyond inside
    · rcases numberOfText_spelled around with ⟨beyond, _⟩ | ⟨_, x, read, rounded⟩
      · exact absurd beyond inside
      · refine ⟨x, read, ?_⟩
        rw [← spelling.value_numeral]
        exact Numeral.rounds_of_toFloat? rounded

theorem numberOfText_grammar_minus_five :
    ∃ x, numberOfText "\t-.5e1 " = .ok x ∧ Rounds ↑(-5 : ℚ) x := by
  let spelling : Spelling := .decimal {
    sign := .minus
    whole := .empty
    fraction := some (.ofAll ['5'] rfl)
    power := some ⟨'e', .inl rfl, .none, .ofAll ['1'] rfl, List.cons_ne_nil _ _⟩
    present := .inr ⟨_, rfl, List.cons_ne_nil _ _⟩ }
  have value : spelling.value = ↑(-5 : ℚ) := by
    have five : (Spelling.Row.ofAll ['5'] rfl : Spelling.Row 10).value = 5 :=
      (Spelling.Row.digitsValue_chars _).symm.trans rfl
    have one : (Spelling.Row.ofAll ['1'] rfl : Spelling.Row 10).value = 1 :=
      (Spelling.Row.digitsValue_chars _).symm.trans rfl
    refine congrArg WithBotTop.coe ?_
    change withSign true
      (((0 : Nat) + (Spelling.Row.value _ : Nat) / 10 ^ 1) * 10 ^
        ((Spelling.Row.value _ : Nat) : Int)) = -5
    rw [five, one]
    norm_num [withSign]
  have around := spelling.around ['\t'] [' '] (List.all_eq_true.mp rfl) (List.all_eq_true.mp rfl)
  rw [← value]
  exact ((numberOfText_grammar (s := "\t-.5e1 ") around).2 spelling rfl).2.2 id

/-- The numerals of a number in all radices are read as one double, while there is one;
without a double, the decimal numeral is infinite, and that of another radix is the
only text that is refused. -/
theorem numberOfText_numerals (n : Nat) (front back : List Char)
    (before : ∀ c ∈ front, Text.isScriptBlank c = true)
    (after : ∀ c ∈ back, Text.isScriptBlank c = true) :
    (∀ row : Spelling.Row 10, row.chars ≠ [] → row.value = n →
      numberOfText (String.ofList (front ++ row.chars ++ back)) = .ok (Double.ofInt n)) ∧
    (∀ whole : Spelling.Whole, whole.value = n →
      numberOfText (String.ofList (front ++ whole.chars ++ back)) =
        if n < overflow then .ok (Double.ofInt n) else .error .outOfRange) ∧
    (n < overflow → Closest n (Double.ofInt n)) ∧ (overflow ≤ n → Double.ofInt n = infinity false) ∧
    ∀ s why, numberOfText s = .error why ↔ why = .outOfRange ∧
      ∃ whole : Spelling.Whole, Text.Around Text.isScriptBlank s.toList whole.chars ∧
      overflow ≤ whole.value := by
  refine ⟨fun row present same => ?_, fun whole same => ?_, fun near => ?_,
    ofInt_infinite, fun s why =>
    numberOfText_error_iff⟩
  · rw [numberOfText_row .none row present, same, ofInt_natCast]
    · rfl
    · have around := (Spelling.decimal (.ofRow .none row present)).around front back before after
      rwa [Spelling.chars, Spelling.Decimal.chars_ofRow,
        ← String.toList_ofList (l := front ++ _ ++ back)] at around
  · rw [numberOfText_whole whole, same]
    rw [String.toList_ofList]
    exact (Spelling.whole whole).around front back before after
  · rw [ofInt_natCast]
    exact closest_rounded false (Nat.cast_nonneg n) (Nat.cast_lt.mpr near)

theorem numberOfText_numerals_255 :
    numberOfText "\n0255 " = .ok (Double.ofInt 255) ∧
      numberOfText "\n0XfF " = .ok (Double.ofInt 255) := by
  have numerals :=
    numberOfText_numerals 255 ['\n'] [' '] (List.all_eq_true.mp rfl) (List.all_eq_true.mp rfl)
  have near : 255 < overflow := by decide +kernel
  have row := numerals.1 (.ofAll ['0', '2', '5', '5'] rfl) (List.cons_ne_nil _ _)
    ((Spelling.Row.digitsValue_chars _).symm.trans rfl)
  have whole := numerals.2.1 ⟨.hexadecimal true, .ofAll ['f', 'F'] rfl, List.cons_ne_nil _ _⟩
    ((Spelling.Row.digitsValue_chars _).symm.trans rfl)
  rw [if_pos near] at whole
  exact ⟨row, whole⟩

/-- The hexadecimal numeral of `2^1024`. -/
def farNumeral : Spelling.Whole where
  letter := .hexadecimal false
  row := .ofAll ('1' :: List.replicate 256 '0') (by decide +kernel)
  present := List.cons_ne_nil _ _

theorem value_farNumeral : farNumeral.value = 2 ^ 1024 :=
  (Spelling.Row.digitsValue_chars _).symm.trans (by decide +kernel)

/-- The decimal numeral of `2^1024` is infinite, and the hexadecimal one is refused. -/
theorem numerals_disagree :
    numberOfText (String.ofList (Nat.toDigits 10 (2 ^ 1024))) = .ok (infinity false) ∧
      numberOfText (String.ofList farNumeral.chars) = .error .outOfRange := by
  have far : overflow ≤ 2 ^ 1024 := by decide +kernel
  refine ⟨(numberOfText_toDigits _).trans (congrArg _ (ofInt_infinite far)), ?_⟩
  rw [numberOfText_whole farNumeral, value_farNumeral, if_neg (Nat.not_lt.mpr far)]
  rw [String.toList_ofList]
  exact (Spelling.whole farNumeral).around_self

end Texts

end StyleFold
