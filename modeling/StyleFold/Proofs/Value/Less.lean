import StyleFold.Proofs.Number.Double
import StyleFold.Proofs.Value.Order

/-!
The order of values of comparable kinds. Texts are ordered by their 16-bit units, which is the order
of the bytes that write the units with the high one first. Numbers and bigints are ordered by the
rational numbers that they stand for, between the two infinities. Main statement: both orders are
total, up to the equality of values.
-/

namespace StyleFold

/-! Order of units and of their bytes. -/

namespace Text

theorem precedes_iff (left right : List Nat) : precedes left right = true ↔ left < right := by
  induction left generalizing right with
  | nil => cases right <;> simp [precedes]
  | cons first rest ih =>
      cases right with
      | nil => simp [precedes]
      | cons other others =>
          rw [List.cons_lt_cons_iff, ← ih others]
          rcases Nat.lt_trichotomy first other with less | rfl | greater
          · simp [precedes, less]
          · simp [precedes]
          · simp [precedes, greater, Nat.lt_asymm greater, Nat.ne_of_gt greater]

def bigEndian (unit : Nat) : List UInt8 := [.ofNat (unit / 256), .ofNat (unit % 256)]

def encoded (text : List Char) : List UInt8 := (units text).flatMap bigEndian

theorem unit_lt {text : List Char} {unit : Nat} (member : unit ∈ units text) : unit < 0x10000 := by
  obtain ⟨c, _, part⟩ := List.mem_flatMap.mp member
  have valid := c.valid
  simp only [UInt32.isValidChar, Nat.isValidChar] at valid
  change c.toNat < _ ∨ _ < c.toNat ∧ c.toNat < _ at valid
  simp only [unitsOf] at part
  split at part
  · rw [List.mem_singleton.mp part]
    assumption
  · rcases List.mem_pair.mp part with high | low <;> omega

/-- Of two units the one with the lower high byte comes first, and the low byte decides between
units that share the high one. -/
theorem bigEndian_append_lt_iff {left right : Nat} {lefts rights : List UInt8}
    (bound : left < 0x10000) (boundToo : right < 0x10000) :
    bigEndian left ++ lefts < bigEndian right ++ rights ↔
      left < right ∨ left = right ∧ lefts < rights := by
  have byte {n : Nat} (small : n < 256) : (UInt8.ofNat n).toNat = n := Nat.mod_eq_of_lt small
  simp only [bigEndian, List.cons_append, List.nil_append, List.cons_lt_cons_iff,
    UInt8.lt_iff_toNat_lt, ← UInt8.toNat_inj]
  rw [byte (by omega), byte (by omega), byte (by omega), byte (by omega)]
  by_cases later : lefts < rights <;> simp only [later, and_true, and_false, or_false] <;> omega

theorem flatMap_bigEndian_lt_iff {left right : List Nat} (bound : ∀ unit ∈ left, unit < 0x10000)
    (boundToo : ∀ unit ∈ right, unit < 0x10000) :
    left.flatMap bigEndian < right.flatMap bigEndian ↔ left < right := by
  induction left generalizing right with
  | nil => cases right <;> simp [bigEndian]
  | cons first rest ih =>
      cases right with
      | nil => simp [bigEndian]
      | cons other others =>
          simp only [List.forall_mem_cons] at bound boundToo
          rw [List.flatMap_cons, List.flatMap_cons, bigEndian_append_lt_iff bound.1 boundToo.1,
            List.cons_lt_cons_iff, ih bound.2 boundToo.2]

theorem encoded_lt_iff (left right : List Char) :
    encoded left < encoded right ↔ units left < units right :=
  flatMap_bigEndian_lt_iff (fun _ => unit_lt) fun _ => unit_lt

end Text

/-! Order of exact values. -/

namespace Exact

def limit (low : Bool) : WithBotTop ℚ := if low then ⊥ else ⊤

theorem limit_lt_limit (low lowToo : Bool) :
    limit low < limit lowToo ↔ (low && !lowToo) = true := by
  cases low <;> cases lowToo <;> simp [limit]

theorem limit_lt_coe (low : Bool) (r : ℚ) : limit low < ↑r ↔ low = true := by
  cases low with
  | true => simpa [limit] using bot_lt_iff_ne_bot.mpr (WithBotTop.coe_ne_bot r)
  | false => simp [limit]

theorem coe_lt_limit (low : Bool) (r : ℚ) : ↑r < limit low ↔ (!low) = true := by
  cases low with
  | true => simp [limit]
  | false => simpa [limit] using lt_top_iff_ne_top.mpr (WithBotTop.coe_ne_top r)

theorem units_lt (units others : Int) :
    (↑((units : ℚ) / one) : WithBotTop ℚ) < ↑((others : ℚ) / one) ↔ units < others := by
  rw [WithBotTop.coe_lt_coe, div_lt_div_iff_of_pos_right Double.one_cast_pos, Int.cast_lt]

variable {x y : Exact} {p q : WithBotTop ℚ}

theorem less?_extended (left : x.extended? = some p) (right : y.extended? = some q) :
    less? x y = some (decide (p < q)) := by
  have answer {truth : Bool} (ahead : p < q ↔ truth = true) : some truth = some (decide (p < q)) :=
    congrArg some (Bool.eq_iff_iff.mpr (ahead.symm.trans decide_eq_true_iff.symm))
  cases x with
  | nan => cases left
  | infinite low =>
      cases left
      cases y with
      | nan => cases right
      | infinite lowToo =>
          cases right
          exact answer (limit_lt_limit low lowToo)
      | finite units =>
          cases right
          exact answer (limit_lt_coe low _)
  | finite units =>
      cases left
      cases y with
      | nan => cases right
      | infinite low =>
          cases right
          exact answer (coe_lt_limit low _)
      | finite others =>
          cases right
          exact answer ((units_lt units others).trans decide_eq_true_iff.symm)

theorem same_extended (left : x.extended? = some p) (right : y.extended? = some q) :
    same x y = decide (p = q) := by
  rw [Bool.eq_iff_iff, ← level_iff_same, Level, less?_extended left right,
    less?_extended right left]
  simp only [Option.some.injEq, decide_eq_false_iff_not, decide_eq_true_eq, not_lt]
  rw [and_comm]
  exact le_antisymm_iff.symm

theorem eq_of_extended (left : x.extended? = some p) (right : y.extended? = some p) : x = y := by
  have level : same x y = true := by
    rw [same_extended left right]
    exact decide_eq_true rfl
  cases x with
  | nan => cases left
  | _ =>
      cases y with
      | nan => cases right
      | _ => exact of_decide_eq_true level

end Exact

namespace Value

section Amounts

variable {same : Bool} {a b c : Value} {p q r : WithBotTop ℚ}

/-- What a number or a bigint stands for; nothing when it is not a number. A number that is still
written as a whole stands for it if it is the double that it is rounded to. -/
def amount? : Value → Option (WithBotTop ℚ)
  | .number x => Double.extended? x
  | .bigint i => some ↑(i : ℚ)
  | .whole i => ((Double.ofInt? i).bind Double.extended?).filter (· = ↑(i : ℚ))
  | _ => none

/-- A value with an amount, as it is read by the order and by loose equality. -/
structure Amounts (v : Value) (p : WithBotTop ℚ) (m : Numeric) : Prop where
  operand : Operand v
  textless : ∀ s, v ≠ .string s
  fits : Unrounded v
  read : v.toNumeric = .ok m
  stands : m.exact.extended? = some p

theorem amounts (amount : a.amount? = some p) : ∃ m, Amounts a p m := by
  cases a with
  | number x =>
      refine ⟨.number x, .number x, by simp, ?_, rfl, (Exact.extended?_ofFloat x).trans amount⟩
      rintro i y ⟨⟩
  | bigint i =>
      cases amount
      refine ⟨.bigint i, .bigint i, by simp, ?_, rfl, Double.extended?_of_whole i⟩
      rintro j y ⟨⟩
  | whole i =>
      obtain ⟨extended, whole⟩ := Option.filter_eq_some_iff.mp amount
      obtain ⟨x, rounded, stands⟩ := Option.bind_eq_some_iff.mp extended
      cases of_decide_eq_true whole
      have read : numberOfWhole i = .ok x := by rw [numberOfWhole, rounded]
      have stands := (Exact.extended?_ofFloat x).trans stands
      refine ⟨.number x, .whole i, by simp, ?_, congrArg (Except.map Numeric.number) read, stands⟩
      rintro j y ⟨⟩ again
      cases read.symm.trans again
      exact Exact.eq_of_extended stands (Double.extended?_of_whole i)
  | _ => cases amount

theorem Operand.single (operand : Operand a) : a.isContainer = false := by
  cases operand <;> rfl

theorem Operand.ordinary (operand : Operand a) : Ordinary a := by
  cases operand <;> exact ⟨rfl, by simp⟩

theorem Operand.unboolean (operand : Operand a) : a.unboolean = a := by
  cases operand <;> rfl

theorem lessPrimitive_textless (left : ∀ s, a ≠ .string s) (right : ∀ s, b ≠ .string s) :
    lessPrimitive a b = byNumbers a b := by
  unfold lessPrimitive
  split
  · exact absurd rfl (left _)
  · exact absurd rfl (right _)
  · exact absurd rfl (left _)
  · rfl

theorem keepsText_textless (left : ∀ s, a ≠ .string s) (right : ∀ s, b ≠ .string s) :
    keepsText a b = false := by
  unfold keepsText
  split
  · exact absurd rfl (left _)
  · exact absurd rfl (right _)
  · exact absurd rfl (left _)
  · rfl

theorem less?_amounts (left : a.amount? = some p) (right : b.amount? = some q) :
    less? a b = .ok (some (decide (p < q))) := by
  obtain ⟨m, first⟩ := amounts left
  obtain ⟨n, second⟩ := amounts right
  rw [less?_ok]
  refine ⟨a, b, primitive_of_single first.operand.single,
    primitive_of_single second.operand.single, ?_⟩
  rw [lessPrimitive_textless first.textless second.textless, byNumbers_ok]
  exact ⟨m, n, first.read, second.read, Exact.less?_extended first.stands second.stands⟩

theorem looseEquals_amounts (left : a.amount? = some p) (right : b.amount? = some q) :
    looseEquals same a b = .ok (decide (p = q)) := by
  obtain ⟨m, first⟩ := amounts left
  obtain ⟨n, second⟩ := amounts right
  have single := first.operand.single
  rw [looseEquals_ladder same first.operand.ordinary second.operand.ordinary (by simp [single])
      (primitive_of_single single) (primitive_of_single second.operand.single),
    first.operand.unboolean, second.operand.unboolean,
    loosePrimitive_numeric first.operand second.operand
      (keepsText_textless first.textless second.textless) first.fits second.fits
        first.read second.read,
    Exact.same_extended first.stands second.stands]

theorem amounts_total (same : Bool) (left : a.amount? = some p) (right : b.amount? = some q) :
    less? a b = .ok (some true) ∨ looseEquals same a b = .ok true ∨
      less? b a = .ok (some true) := by
  rw [less?_amounts left right, less?_amounts right left, looseEquals_amounts left right]
  simpa using lt_trichotomy p q

theorem less?_trans (left : a.amount? = some p) (middle : b.amount? = some q)
    (right : c.amount? = some r) (first : less? a b = .ok (some true))
    (second : less? b c = .ok (some true)) : less? a c = .ok (some true) := by
  rw [less?_amounts left middle] at first
  rw [less?_amounts middle right] at second
  rw [less?_amounts left right]
  simp only [Except.ok.injEq, Option.some.injEq, decide_eq_true_eq] at first second ⊢
  exact first.trans second

end Amounts

section Texts

variable (same : Bool) (s t : String)

theorem less?_texts : less? (.string s) (.string t) =
    .ok (some (decide (Text.units s.toList < Text.units t.toList))) := by
  have answer : textLess s t = decide (Text.units s.toList < Text.units t.toList) := by
    rw [Bool.eq_iff_iff, decide_eq_true_iff]
    exact Text.precedes_iff _ _
  rw [← answer]
  rfl

def TextBefore : Prop := less? (.string s) (.string t) = .ok (some true)

theorem textBefore_iff : TextBefore s t ↔ Text.units s.toList < Text.units t.toList := by
  rw [TextBefore, less?_texts]
  simp

def unitsEmbedding : TextBefore ↪r ((· < ·) : List Nat → List Nat → Prop) where
  toFun s := Text.units s.toList
  inj' _ _ equal := String.toList_inj.mp (Text.units_inj equal)
  map_rel_iff' := (textBefore_iff _ _).symm

/-- How two texts compare. -/
structure ComparesTexts : Prop where
  units : less? (.string s) (.string t) =
    .ok (some (decide (Text.units s.toList < Text.units t.toList)))
  bytes : less? (.string s) (.string t) =
    .ok (some (decide (Text.encoded s.toList < Text.encoded t.toList)))
  level : (less? (.string s) (.string t) = .ok (some false) ∧
    less? (.string t) (.string s) = .ok (some false)) ↔
      strictEquals same (.string s) (.string t) = true

theorem comparesTexts : ComparesTexts same s t where
  units := less?_texts s t
  bytes := by
    rw [less?_texts]
    simp only [Text.encoded_lt_iff]
  level := by
    have level := text_level_iff s t
    simp only [Level, Option.some.injEq] at level
    simpa [strictEquals, isContainer, less?, lessPrimitive, primitive, bind,
      Except.bind] using level

-- The first text has the higher character and the lower unit.
example : textLess "😀" "ﬀ" = true := by decide +kernel

end Texts

/-- How values compare that stand for rational numbers or infinities. -/
structure ComparesAmounts (same : Bool) (a b : Value) (p q : WithBotTop ℚ) : Prop where
  less : less? a b = .ok (some (decide (p < q)))
  level : looseEquals same a b = .ok (decide (p = q))
  total : less? a b = .ok (some true) ∨ looseEquals same a b = .ok true ∨
    less? b a = .ok (some true)
  trans : ∀ c r, c.amount? = some r → less? a b = .ok (some true) → less? b c = .ok (some true) →
    less? a c = .ok (some true)

theorem number_of_folded {table : ScopeTable} {tree : Data} {span : Option Span} {v : Value}
    (form : Fold.Formed .full .expression tree)
    (run : Fold.evaluate table tree = .ok (.value v span)) (number : v.type = .number) :
    ∃ x, v = .number x := by
  have clean := Fold.clean_of_folded table form run
  cases v with
  | number x => exact ⟨x, rfl⟩
  | whole => cases clean
  | _ => cases number

/-- The order of the kinds that have one. Texts compare by their units and as well by their bytes,
which is a strict total order. Numbers and bigints compare by what they stand for, in any mix, so
that the order is transitive, and total up to loose equality. All doubles take part but those that
are not a number, and a number that a formed expression is folded to is a double. -/
theorem comparable_kinds_ordered (same : Bool) :
    (∀ s t, ComparesTexts same s t) ∧
    IsStrictTotalOrder String (fun s t => less? (.string s) (.string t) = .ok (some true)) ∧
    (∀ a b p q, a.amount? = some p → b.amount? = some q → ComparesAmounts same a b p q) ∧
    (∀ x, amount? (.number x) = none ↔ x.isNaN = true) ∧
    (∀ table tree v span, Fold.Formed .full .expression tree →
      Fold.evaluate table tree = .ok (.value v span) → v.type = .number → ∃ x, v = .number x) := by
  refine ⟨comparesTexts same, unitsEmbedding.isStrictTotalOrder, ?_, ?_, ?_⟩
  · intro a b p q left right
    exact {
      less := less?_amounts left right
      level := looseEquals_amounts left right
      total := amounts_total same left right
      trans := fun c r => less?_trans left right }
  · intro x
    exact Double.extended?_eq_none x
  · intro table tree v span form run number
    exact number_of_folded form run number

/-- The bigint after `2^53` comes after the double `2^53`, to which it would be rounded. -/
theorem bigint_after_double :
    less? (.number (Double.ofInt (2 ^ 53))) (.bigint (2 ^ 53 + 1)) = .ok (some true) := by
  have double : amount? (.number (Double.ofInt (2 ^ 53))) = some ↑((2 ^ 53 : Int) : ℚ) :=
    Double.extended?_ofInt (by decide)
  have bigint : amount? (.bigint (2 ^ 53 + 1)) = some ↑((2 ^ 53 + 1 : Int) : ℚ) := rfl
  have compares := (comparable_kinds_ordered false).2.2.1 _ _ _ _ double bigint
  have less : (↑((2 ^ 53 : Int) : ℚ) : WithBotTop ℚ) < ↑((2 ^ 53 + 1 : Int) : ℚ) :=
    WithBotTop.coe_lt_coe.mpr (Int.cast_lt.mpr (by decide))
  rw [compares.less, decide_eq_true less]

end Value

end StyleFold
