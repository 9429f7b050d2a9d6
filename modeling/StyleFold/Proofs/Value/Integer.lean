import StyleFold.Proofs.Number.Numeral
import StyleFold.Proofs.Value.Equality

/-!
Integers as they are read from text. A text is an integer when it is empty, a whole number with the
letter of its radix, or digits with an optional sign, all with blanks around it. What is written for
a bigint is read as the bigint, up to the number of digits that are written and read at all. Main
statement: an integer up to `2^53` that is read from a text is also the number in the text, and the
bigint, the number and the text are equal to one another.
-/

namespace StyleFold

open Double

section Spelled

open Spelling (Mark Row Whole)

inductive Integral : List Char → Int → Prop where
  | empty : Integral [] 0
  | whole (whole : Whole) : Integral whole.chars whole.value
  | row (sign : Mark) (row : Row 10) (present : row.chars ≠ [])
      (short : row.chars.length ≤ digitLimit) :
      Integral (sign.chars ++ row.chars) (Exact.signed sign.negative row.value)

variable {text : List Char} {s : String} {i : Int}

theorem integerOfText_row (sign : Mark) (row : Row 10) (present : row.chars ≠ [])
    (body : Text.trim Text.isScriptBlank s.toList = sign.chars ++ row.chars) : integerOfText s =
      if digitLimit < row.chars.length then .error .tooManyDigits
      else .ok (some (Exact.signed sign.negative row.value)) := by
  -- Digits with a sign are a decimal, and no decimal has the letter of a radix.
  have decimal := Spelling.Decimal.chars_ofRow sign row present
  have digits := Row.exists_iff.mpr ⟨row, rfl, present⟩
  simp only [Bool.and_eq_true, Bool.not_eq_true'] at digits
  unfold integerOfText
  rw [body, ← decimal, if_neg (by rw [Spelling.Decimal.isEmpty_chars]; exact Bool.false_ne_true),
    Spelling.readRadix?_decimal, decimal, sign.splitSign_chars row.plain]
  dsimp only
  rw [isDecimalDigit_eq, digits.1, digits.2, row.digitsValue_chars]
  rfl

theorem integerOfText_eq_some : integerOfText s = .ok (some i) ↔
    Integral (Text.trim Text.isScriptBlank s.toList) i := by
  constructor
  · intro found
    unfold integerOfText at found
    generalize Text.trim Text.isScriptBlank s.toList = body at found
    dsimp only at found
    split at found
    · rename_i empty
      cases found
      rw [List.isEmpty_iff.mp empty]
      exact .empty
    · split at found
      · rename_i value whole
        obtain ⟨spelling, rfl, rfl⟩ := Spelling.exists_of_readRadix? whole
        cases found
        exact .whole spelling
      · obtain ⟨sign, signed, negative⟩ := Mark.exists_of_splitSign body
        split at found
        · cases found
        · rename_i digits
          obtain ⟨row, same, present⟩ :=
            Row.exists_iff.mp (by simpa [isDecimalDigit_eq] using digits)
          rw [← same] at signed found
          split at found
          · cases found
          · rename_i short
            cases found
            rw [← negative, row.digitsValue_chars, ← signed]
            exact .row sign row present (Nat.le_of_not_lt short)
  · intro spelled
    generalize same : Text.trim Text.isScriptBlank s.toList = body at spelled
    cases spelled with
    | empty =>
        rw [integerOfText, same]
        rfl
    | whole spelling =>
        rw [integerOfText, same, Spelling.readRadix?_chars]
        rfl
    | row sign row present short =>
        rw [integerOfText_row sign row present same, if_neg (Nat.not_lt.mpr short)]

theorem Integral.read {body : List Char} (spelled : Integral body i)
    (around : Text.Around Text.isScriptBlank text body) :
    integerOfText (String.ofList text) = .ok (some i) := by
  rw [integerOfText_eq_some, String.toList_ofList, around.trim_eq]
  exact spelled

/-! What is written for a bigint. -/

theorem integerText_short (short : i.natAbs < 10 ^ digitLimit) : integerText i = .ok (toString i) :=
  if_neg fun overlong => Nat.not_le.mpr short (isOverlong_iff.mp overlong)

theorem integerText_long (long : 10 ^ digitLimit ≤ i.natAbs) :
    integerText i = .error .tooManyDigits :=
  if_pos (isOverlong_iff.mpr long)

theorem toList_toString (i : Int) : ∃ sign : Mark,
    (toString i).toList = sign.chars ++ (Row.ofNat i.natAbs).chars ∧
      Exact.signed sign.negative (Row.ofNat i.natAbs).value = i := by
  cases i with
  | ofNat n =>
      refine ⟨.none, Nat.toList_repr, ?_⟩
      rw [Row.value_ofNat]
      rfl
  | negSucc n =>
      have sign : toString (Int.negSucc n) = "-" ++ Nat.repr (n + 1) := rfl
      refine ⟨.minus, ?_, ?_⟩
      · rw [sign, String.toList_append, Nat.toList_repr]
        rfl
      · rw [Row.value_ofNat]
        rfl

theorem integral_toString (short : i.natAbs < 10 ^ digitLimit) :
    Integral (toString i).toList i := by
  obtain ⟨sign, same, value⟩ := toList_toString i
  have spelled := Integral.row sign _ (Row.ofNat_ne_nil i.natAbs)
    ((Nat.length_toDigits_le_iff (by decide) (by decide)).mpr short)
  rwa [← same, value] at spelled

theorem signed_not_blank (sign : Mark) (row : Row 10) :
    ∀ c ∈ sign.chars ++ row.chars, Text.isScriptBlank c = false := by
  intro c member
  rcases List.mem_append.mp member with mark | digit
  · exact sign.not_blank mark
  · exact row.not_blank (by decide) digit

theorem Integral.not_blank {body : List Char} (spelled : Integral body i) :
    ∀ c ∈ body, Text.isScriptBlank c = false := by
  cases spelled with
  | empty => simp
  | whole whole => exact fun c member => (Spelling.whole whole).not_blank member
  | row sign row present short => exact signed_not_blank sign row

theorem integerOfText_long {front back : List Char} (long : 10 ^ digitLimit ≤ i.natAbs)
    (before : ∀ c ∈ front, Text.isScriptBlank c = true)
    (after : ∀ c ∈ back, Text.isScriptBlank c = true) :
    integerOfText (String.ofList (front ++ (toString i).toList ++ back)) =
      .error .tooManyDigits := by
  obtain ⟨sign, same, _⟩ := toList_toString i
  have around := Text.around_of_plain (signed_not_blank sign (Row.ofNat i.natAbs)) before after
  have many : digitLimit < (Row.ofNat i.natAbs).chars.length := by
    by_contra few
    exact absurd long (Nat.not_le.mpr
      ((Nat.length_toDigits_le_iff (by decide) (by decide)).mp (Nat.le_of_not_lt few)))
  rw [same, integerOfText_row sign _ (Row.ofNat_ne_nil i.natAbs)
    (by rw [String.toList_ofList, around.trim_eq]), if_pos many]

theorem integerOfText_toString_long (long : 10 ^ digitLimit ≤ i.natAbs) :
    integerOfText (toString i) = .error .tooManyDigits := by
  have read := integerOfText_long long (List.forall_mem_nil _) (List.forall_mem_nil _)
  rwa [List.nil_append, List.append_nil, String.ofList_toList] at read

end Spelled

section Exact

variable {s : String} {body : List Char} {i : Int} {n : Nat}

theorem two_pow_lt_overflow : 2 ^ 53 < overflow := by decide +kernel

theorem Integral.number (spelled : Integral body i) (small : i.natAbs ≤ 2 ^ 53)
    (around : Text.Around Text.isScriptBlank s.toList body) :
    ∃ negative n, i = Exact.signed negative n ∧ numberOfText s = .ok (rounded negative n) := by
  cases spelled with
  | empty =>
      refine ⟨false, 0, rfl, ?_⟩
      rw [numberOfText, read?_spelled .empty around, Spelling.numeral]
      dsimp only [Numeral.toFloat?]
      rw [ofInt?_natCast, if_pos ((Nat.zero_le _).trans_lt two_pow_lt_overflow), ofInt_natCast]
  | whole whole =>
      rw [Int.natAbs_natCast] at small
      refine ⟨false, whole.value, rfl, ?_⟩
      rw [numberOfText_whole whole around, if_pos (small.trans_lt two_pow_lt_overflow),
        ofInt_natCast]
  | row sign row present short => exact ⟨_, _, rfl, numberOfText_row sign row present around⟩

theorem signed_mul (negative : Bool) (n scale : Nat) :
    Exact.signed negative (n * scale) = Exact.signed negative n * scale := by
  unfold Exact.signed
  split
  · rw [Int.natCast_mul, Int.neg_mul]
  · rw [Int.natCast_mul]

theorem ofFloat_rounded_natCast (negative : Bool) (small : n ≤ 2 ^ 53) :
    Exact.ofFloat (rounded negative n) = Exact.ofInt (Exact.signed negative n) := by
  have near : (n : ℚ) < overflow := Nat.cast_lt.mpr (small.trans_lt two_pow_lt_overflow)
  have pattern := nearestPattern_eq_patternOf n Nat.one_pos
  rw [Nat.cast_one, div_one] at pattern
  rw [ofFloat_rounded negative (Nat.cast_nonneg n) near, ← pattern,
    (magnitude_nearest small).2, Exact.ofInt, signed_mul]

end Exact

/-! Equal to one another. -/

namespace Value

/-- Loosely equal from either side. -/
def LooselyEqual (a b : Value) : Prop :=
  ∀ same, looseEquals same a b = .ok true ∧ looseEquals same b a = .ok true

variable {s : String} {i : Int} {x : Float}

theorem looselyEqual_of_left {a b : Value} (left : ∀ same, looseEquals same a b = .ok true) :
    LooselyEqual a b :=
  fun same => ⟨left same, (looseEquals_comm same b a).trans (left same)⟩

theorem looselyEqual_bigint_text (read : integerOfText s = .ok (some i)) :
    LooselyEqual (.bigint i) (.string s) := by
  refine looselyEqual_of_left fun same => ?_
  have equal : looseEquals same (.bigint i) (.string s) = (integerOfText s).map (· == some i) := rfl
  rw [equal, read]
  exact congrArg Except.ok (beq_self_eq_true (some i))

theorem looselyEqual_bigint_number (exact : Exact.ofFloat x = Exact.ofInt i) :
    LooselyEqual (.bigint i) (.number x) := by
  refine looselyEqual_of_left fun _ => congrArg Except.ok ?_
  rw [exact, Exact.same_ofInt]
  exact beq_self_eq_true i

theorem looselyEqual_number_text (read : numberOfText s = .ok x)
    (exact : Exact.ofFloat x = Exact.ofInt i) :
    LooselyEqual (.number x) (.string s) := by
  refine looselyEqual_of_left fun same => ?_
  have read : looseEquals same (.number x) (.string s) =
      .ok (Exact.same (Exact.ofFloat x) (Exact.ofFloat x)) :=
    congrArg (Except.map _) read
  rw [read, exact, Exact.same_ofInt]
  exact congrArg Except.ok (beq_self_eq_true i)

open Spelling (Whole)

/-- What is written for a bigint is read as it, and so are its numerals with the letter of a
radix. If the integer that is read from a text is at most `2^53`, the number in the text is the
same, and the three are equal to one another. Nothing is written for a bigint with too many
digits, and its numeral is not read. -/
theorem integers_level {front back : List Char}
    (before : ∀ c ∈ front, Text.isScriptBlank c = true)
    (after : ∀ c ∈ back, Text.isScriptBlank c = true) :
    (∀ i : Int, i.natAbs < 10 ^ digitLimit →
      ∃ text, Value.text (.bigint i) = .ok text ∧
        integerOfText (String.ofList (front ++ text.toList ++ back)) = .ok (some i) ∧
        LooselyEqual (.bigint i) (.string (String.ofList (front ++ text.toList ++ back)))) ∧
    (∀ whole : Whole,
      integerOfText (String.ofList (front ++ whole.chars ++ back)) = .ok (some ↑whole.value) ∧
      LooselyEqual (.bigint whole.value) (.string (String.ofList (front ++ whole.chars ++ back)))) ∧
    (∀ (s : String) (i : Int), integerOfText s = .ok (some i) → i.natAbs ≤ 2 ^ 53 →
      ∃ x, numberOfText s = .ok x ∧ extended? x = some ↑(i : ℚ) ∧
        LooselyEqual (.bigint i) (.number x) ∧ LooselyEqual (.number x) (.string s) ∧
        LooselyEqual (.bigint i) (.string s)) ∧
    ∀ i : Int, 10 ^ digitLimit ≤ i.natAbs → Value.text (.bigint i) = .error .tooManyDigits ∧
      integerOfText (String.ofList (front ++ (toString i).toList ++ back)) =
        .error .tooManyDigits := by
  have padded {body : List Char} {i : Int} (spelled : Integral body i) :
      integerOfText (String.ofList (front ++ body ++ back)) = .ok (some i) :=
    spelled.read (Text.around_of_plain spelled.not_blank before after)
  refine ⟨fun i short => ?_, fun whole => ?_, fun s i read small => ?_,
    fun i long => ⟨by rw [Value.text, integerText_long long],
      integerOfText_long long before after⟩⟩
  · have read := padded (integral_toString short)
    exact ⟨toString i,
      by rw [Value.text, integerText_short short], read, looselyEqual_bigint_text read⟩
  · have read := padded (.whole whole)
    exact ⟨read, looselyEqual_bigint_text read⟩
  · obtain ⟨negative, n, rfl, number⟩ :=
      (integerOfText_eq_some.mp read).number small (Text.around_trim Text.isScriptBlank s.toList)
    rw [natAbs_signed] at small
    have exact := ofFloat_rounded_natCast negative small
    refine ⟨_, number, ?_, looselyEqual_bigint_number exact, looselyEqual_number_text number exact,
      looselyEqual_bigint_text read⟩
    rw [← Exact.extended?_ofFloat, exact, extended?_of_whole]

theorem integers_level_minus_two :
    ((∀ c ∈ ['\t'], Text.isScriptBlank c = true) ∧ ∀ c ∈ [' '], Text.isScriptBlank c = true) ∧
    integerOfText "\t-2 " = .ok (some (-2)) ∧
    ∃ x, numberOfText "\t-2 " = .ok x ∧ extended? x = some ↑((-2 : Int) : ℚ) ∧
      LooselyEqual (.bigint (-2)) (.number x) ∧ LooselyEqual (.number x) (.string "\t-2 ") ∧
      LooselyEqual (.bigint (-2)) (.string "\t-2 ") := by
  have tab : ∀ c ∈ ['\t'], Text.isScriptBlank c = true := List.all_eq_true.mp rfl
  have space : ∀ c ∈ [' '], Text.isScriptBlank c = true := List.all_eq_true.mp rfl
  have short : (-2 : Int).natAbs < 10 ^ digitLimit :=
    (by decide : 2 < 10 ^ 1).trans_le (Nat.pow_le_pow_right (by decide) (by decide))
  obtain ⟨shortly, _, numbers, _⟩ := integers_level tab space
  obtain ⟨text, written, read, _⟩ := shortly (-2) short
  cases written
  exact ⟨⟨tab, space⟩, read, numbers "\t-2 " (-2) read (by decide)⟩

/-- The least integer with too many digits is not read from its numeral,
and not told equal to it. -/
theorem overlong_unread :
    integerOfText (toString ((10 ^ digitLimit : Nat) : Int)) = .error .tooManyDigits ∧
    ∀ same, looseEquals same (.bigint (10 ^ digitLimit : Nat))
      (.string (toString ((10 ^ digitLimit : Nat) : Int))) = .error .tooManyDigits := by
  have unread : integerOfText (toString ((10 ^ digitLimit : Nat) : Int)) = .error .tooManyDigits :=
    integerOfText_toString_long (le_of_eq (Int.natAbs_natCast _).symm)
  have compared (same : Bool) (s : String) (i : Int) :
      looseEquals same (.bigint i) (.string s) = (integerOfText s).map (· == some i) := rfl
  exact ⟨unread, fun same => by rw [compared, unread]; rfl⟩

end Value

end StyleFold
