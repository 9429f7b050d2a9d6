import StyleFold.Proofs.Number.Digits
import StyleFold.Proofs.Style.Hyphen

/-!
Line breaks in style sheet text. A line that is put together from texts without breaks has
none of its own, as long as the steps in between make none: small letters, hyphens and
numbers are no line breaks.
-/

namespace StyleFold

namespace Text

section Breaks

variable {s t : String} {names : List String}

/-- No line ends within a text. -/
def Unbroken (s : String) : Prop := '\n' ∉ s.toList

instance (s : String) : Decidable (Unbroken s) := inferInstanceAs (Decidable (_ ∉ _))

@[simp] theorem unbroken_append : Unbroken (s ++ t) ↔ Unbroken s ∧ Unbroken t := by simp [Unbroken]

theorem unbroken_join (each : ∀ name ∈ names, Unbroken name) : Unbroken (String.join names) := by
  simpa [Unbroken] using each

theorem ofNat_ne_break {n : Nat} (large : 10 < n) : Char.ofNat n ≠ '\n' := by
  intro same
  by_cases valid : n.isValidChar
  · have here : Char.ofNatAux n valid = '\n' := (dif_pos valid).symm.trans same
    have code : n = 10 := congrArg Char.toNat here
    omega
  · have here : Char.ofNat 0 = '\n' := (dif_neg valid).symm.trans same
    cases here

theorem lowerChar_ne_break {c : Char} (plain : c ≠ '\n') : lowerChar c ≠ '\n' := by
  have small : ∀ run ∈ capitals, (10 : Int) < run.1 + run.2.2.2 := by decide +kernel
  unfold lowerChar
  dsimp only
  split
  · rename_i ascii
    exact ascii_cases (fun c => c ≠ '\n' → c.toLower ≠ '\n') (by decide) ascii plain
  · split
    · rename_i run found
      have among := small run (List.mem_of_find?_eq_some found)
      have range := List.find?_some found
      simp only [Bool.and_eq_true, decide_eq_true_eq] at range
      exact ofNat_ne_break (by omega)
    · exact plain

theorem mem_lowerFrom {before text : List Char} (member : '\n' ∈ lowerFrom before text) :
    '\n' ∈ text := by
  induction text generalizing before with
  | nil => exact member
  | cons c rest ih =>
      rw [lowerFrom] at member
      rcases List.mem_append.mp member with here | later
      · by_contra absent
        rw [List.mem_cons, not_or] at absent
        revert here
        split
        · split <;> decide
        · split
          · decide
          · simpa using (lowerChar_ne_break (Ne.symm absent.1)).symm
      · exact List.mem_cons_of_mem _ (ih later)

end Breaks

end Text

namespace Css

section Names

theorem unbroken_dashify {name : String} (unbroken : Text.Unbroken name) :
    Text.Unbroken (dashify name) := by
  intro broken
  rw [dashify, String.toList_ofList, dashifyChars] at broken
  split at broken
  · exact unbroken broken
  · rcases mem_hyphenateName (Text.mem_lowerFrom broken) with inside | hyphen
    · exact unbroken inside
    · cases hyphen

theorem unbroken_toDigits (n : Nat) : '\n' ∉ Nat.toDigits 10 n := by
  intro member
  have blank :=
    not_blank_of_digit (isDigitIn_of_mem_toDigits (by decide) (by decide) n _ member) (by decide)
  revert blank
  decide

theorem unbroken_decimalText (layout : Layout) (decimal : Decimal) :
    '\n' ∉ layout.decimalText decimal := by
  have digits := unbroken_toDigits
  have zeros (n : Nat) : '\n' ∉ Layout.zeros n := by simp [Layout.zeros]
  have exponent (e : Int) : '\n' ∉ layout.exponentText e := by
    unfold Layout.exponentText
    split <;> simp [digits, zeros]
  have row := digits decimal.digits
  unfold Layout.decimalText
  generalize Nat.toDigits 10 decimal.digits = written at row
  dsimp only
  split
  · split
    · simp
    · simp_all
    · simp_all
  · split
    · simp [zeros, row]
    · split
      · split <;> simp [zeros, row]
      · have front : '\n' ∉ written.take decimal.point.toNat :=
          fun member => row (List.mem_of_mem_take member)
        have back : '\n' ∉ written.drop decimal.point.toNat :=
          fun member => row (List.mem_of_mem_drop member)
        simp [front, back]

theorem unbroken_layout {layout : Layout} (nan : '\n' ∉ layout.nan.toList)
    (infinity : '\n' ∉ layout.infinity.toList) (x : Float) : Text.Unbroken (layout.text x) := by
  rw [Text.Unbroken, Layout.text, String.toList_ofList]
  unfold Layout.chars
  split
  · exact nan
  · split <;> simp [infinity]
  · split
    · split <;> split <;> simp
    · split <;> simp [unbroken_decimalText]

theorem unbroken_numberText (x : Float) : Text.Unbroken (numberText x) :=
  unbroken_layout (by decide) (by decide) x

theorem unbroken_numberValue (settings : Settings) (property : String) (x : Float) :
    Text.Unbroken (numberValue settings property x) := by
  have number := unbroken_numberText
  unfold numberValue
  dsimp only
  split
  · exact number x
  · split
    · split
      · decide
      · exact Text.unbroken_append.mpr ⟨number x, by decide⟩
    · split
      · decide
      · split
        · exact Text.unbroken_append.mpr ⟨number _, by decide⟩
        · exact Text.unbroken_append.mpr ⟨number x, by decide⟩

end Names

end Css

end StyleFold
