import Mathlib.Data.List.Forall2
import StyleFold.Proofs.Fold.Clean
import StyleFold.Proofs.Number.Digits

/-!
The text of a value. A container is written out entry by entry, and whatever is not known on the way
there leaves the whole text open. Main statement: the text of a value of the script is refused
exactly when it comes to an entry that is not a value, to an object with a conversion of its own, or
to an integer that is too long, and for no other reason.
-/

namespace StyleFold.Value

section Parts

/-- An entry of an array, or of an array that is the value of an entry, and so on. -/
inductive HasEntry : Value → Result → Prop where
  | here {entries : List Result} {result : Result} (member : result ∈ entries) :
      HasEntry (.array entries) result
  | inside {entries : List Result} {v : Value} {span : Option Span} {result : Result}
      (member : .value v span ∈ entries) (onward : HasEntry v result) :
      HasEntry (.array entries) result

/-- The value itself, and those of its entries. -/
def Involves (v w : Value) : Prop := v = w ∨ ∃ span, v.HasEntry (.value w span)

/-- The text of a value hangs on something that is not known. -/
inductive Undetermined (v : Value) : Prop where
  | entry {result : Result} (there : v.HasEntry result)
      (unknown : ∀ w span, result ≠ .value w span) : Undetermined v
  | object {members : Members} (there : v.Involves (.object members))
      (own : members.has "toString" = true ∨ members.has "valueOf" = true) : Undetermined v

/-- The text of a value comes to an integer that has too many digits to be written. -/
def TooLong (v : Value) : Prop := ∃ i, v.Involves (.bigint i) ∧ isOverlong i = true

/-- A value that a script can have: no data as it was written, and no number beyond the doubles. -/
structure Scripted (v : Value) : Prop where
  native : ∀ data, v ≠ .foreign data
  rounds : v.rounds = true

/-- The text of an entry in the text of its array. -/
inductive EntryText : Result → String → Prop where
  | empty {v : Value} (span : Option Span) (nullish : v.isNullish = true) :
      EntryText (.value v span) ""
  | text {v : Value} {s : String} (span : Option Span) (present : v.isNullish = false)
      (read : v.text = .ok s) : EntryText (.value v span) s

variable {v w u : Value} {entries : List Result} {span : Option Span}

theorem Involves.within (member : .value w span ∈ entries) (there : w.Involves u) :
    (Value.array entries).Involves u := by
  rcases there with rfl | ⟨place, there⟩
  · exact .inr ⟨span, .here member⟩
  · exact .inr ⟨place, .inside member there⟩

theorem Undetermined.within (member : .value w span ∈ entries) (undetermined : w.Undetermined) :
    (Value.array entries).Undetermined := by
  cases undetermined with
  | entry there unknown => exact .entry (.inside member there) unknown
  | object there own => exact .object (there.within member) own

theorem TooLong.within (member : .value w span ∈ entries) (long : w.TooLong) :
    (Value.array entries).TooLong := by
  obtain ⟨i, there, overlong⟩ := long
  exact ⟨i, there.within member, overlong⟩

theorem cleanResult_of_hasEntry {result : Result} (there : v.HasEntry result)
    (clean : Fold.cleanValue v = true) : Fold.cleanResult result = true := by
  induction there with
  | here member =>
      rw [Fold.cleanValue] at clean
      exact Fold.cleanResults_iff.mp clean _ member
  | inside member _ ih =>
      rw [Fold.cleanValue] at clean
      exact ih (Fold.cleanResults_iff.mp clean _ member)

/-- Formed expressions are folded to clean values, and these are values of the script throughout. -/
theorem scripted_of_clean (clean : Fold.cleanValue v = true) (w : Value) (there : v.Involves w) :
    w.Scripted := by
  have inside : Fold.cleanValue w = true := by
    rcases there with rfl | ⟨span, there⟩
    · exact clean
    · exact cleanResult_of_hasEntry there clean
  cases w with
  | whole i | foreign data => simp [Fold.cleanValue] at inside
  | _ => exact ⟨by simp, rfl⟩

end Parts

section Entries

variable {result : Result} {entries : List Result} {s : String} {why : Refusal}

theorem elementText_value {v : Value} (span : Option Span) (present : v.isNullish = false) :
    elementText (.value v span) = v.text := by
  cases v <;> first | rfl | cases present

theorem elementText_nullish {v : Value} (span : Option Span) (nullish : v.isNullish = true) :
    elementText (.value v span) = .ok "" := by
  cases v with
  | undefined | null => rfl
  | _ => cases nullish

theorem elementText_ok : elementText result = .ok s ↔ EntryText result s := by
  constructor
  · intro read
    cases result with
    | nonStatic | reference | bare => simp [elementText] at read
    | value v span =>
        cases nullish : v.isNullish with
        | false => exact .text span nullish (by rwa [elementText_value span nullish] at read)
        | true =>
            rw [elementText_nullish span nullish] at read
            cases read
            exact .empty span nullish
  · intro entry
    cases entry with
    | empty span nullish => exact elementText_nullish span nullish
    | text span present read => rwa [elementText_value span present]

theorem elementText_error (failed : elementText result = .error why) :
    (why = .unknownElement ∧ ∀ v span, result ≠ .value v span) ∨
      ∃ v span, result = .value v span ∧ v.text = .error why := by
  cases result with
  | nonStatic | reference | bare =>
      simp only [elementText, Except.error.injEq] at failed
      exact .inl ⟨failed.symm, by simp⟩
  | value v span =>
      refine .inr ⟨v, span, rfl, ?_⟩
      cases nullish : v.isNullish with
      | false => rwa [elementText_value span nullish] at failed
      | true =>
          rw [elementText_nullish span nullish] at failed
          cases failed

theorem elementTexts_ok {texts : List String} :
    elementTexts entries = .ok texts ↔ List.Forall₂ EntryText entries texts := by
  induction entries generalizing texts with
  | nil => simp [elementTexts, eq_comm]
  | cons result rest ih =>
      rw [elementTexts, List.forall₂_cons_left_iff]
      constructor
      · intro read
        split at read
        · cases read
        · rename_i first here
          split at read
          · rename_i others later
            cases read
            exact ⟨first, others, elementText_ok.mp here, ih.mp later, rfl⟩
          · cases read
      · rintro ⟨first, others, here, later, rfl⟩
        rw [elementText_ok.mpr here, ih.mpr later]

theorem elementTexts_error (failed : elementTexts entries = .error why) :
    ∃ result ∈ entries, elementText result = .error why := by
  induction entries with
  | nil => simp [elementTexts] at failed
  | cons result rest ih =>
      rw [elementTexts] at failed
      split at failed
      · rename_i cause here
        cases failed
        exact ⟨result, List.mem_cons_self, here⟩
      · split at failed
        · cases failed
        · rename_i cause later
          cases failed
          obtain ⟨other, member, here⟩ := ih later
          exact ⟨other, List.mem_cons_of_mem _ member, here⟩

theorem text_array : (array entries).text = (elementTexts entries).map (",".intercalate ·) := by
  rw [text]
  cases elementTexts entries <;> rfl

theorem entryText_of_mem {texts : List String} (each : List.Forall₂ EntryText entries texts)
    (member : result ∈ entries) : ∃ s, EntryText result s := by
  induction each with
  | nil => cases member
  | cons here _ ih =>
      rcases List.mem_cons.mp member with rfl | later
      · exact ⟨_, here⟩
      · exact ih later

theorem text_array_refused (member : result ∈ entries) (failed : elementText result = .error why) :
    ∃ cause, (array entries).text = .error cause := by
  rw [text_array]
  cases read : elementTexts entries with
  | error cause => exact ⟨cause, rfl⟩
  | ok texts =>
      obtain ⟨s, entry⟩ := entryText_of_mem (elementTexts_ok.mp read) member
      simp [elementText_ok.mpr entry] at failed

end Entries

section Texts

variable {v : Value} {why : Refusal}

theorem text_error : ∀ {v : Value} {why : Refusal}, v.text = .error why →
    (why.family = .indeterminate ∧ v.Undetermined) ∨ (why = .tooManyDigits ∧ v.TooLong) ∨
      ∃ w, v.Involves w ∧ ¬ w.Scripted
  | .array entries, why, failed => by
      rw [text_array] at failed
      cases read : elementTexts entries with
      | ok texts => simp [read, Except.map] at failed
      | error cause =>
          simp only [read, Except.map, Except.error.injEq] at failed
          subst failed
          obtain ⟨result, member, refused⟩ := elementTexts_error read
          rcases elementText_error refused with ⟨rfl, unknown⟩ | ⟨w, span, rfl, read⟩
          · exact .inl ⟨rfl, .entry (.here member) unknown⟩
          · have smaller : sizeOf w < 1 + sizeOf entries := by
              have := List.sizeOf_lt_of_mem member
              simp only [Result.value.sizeOf_spec] at this
              omega
            rcases text_error read with ⟨family, undetermined⟩ | ⟨rfl, long⟩ | ⟨u, there, strange⟩
            · exact .inl ⟨family, undetermined.within member⟩
            · exact .inr (.inl ⟨rfl, long.within member⟩)
            · exact .inr (.inr ⟨u, there.within member, strange⟩)
  | .object members, why, failed => by
      rw [text] at failed
      split at failed
      · rename_i own
        cases failed
        exact .inl ⟨rfl, .object (.inl rfl) (by simpa using own)⟩
      · cases failed
  | .whole i, why, failed => by
      refine .inr (.inr ⟨_, .inl rfl, fun scripted => ?_⟩)
      obtain ⟨x, read⟩ := Option.isSome_iff_exists.mp scripted.rounds
      simp [text, numberOfWhole, read, Except.map] at failed
  | .foreign data, _, _ => .inr (.inr ⟨_, .inl rfl, fun scripted => scripted.native data rfl⟩)
  | .bigint i, why, failed => by
      rw [text, integerText] at failed
      split at failed
      · rename_i overlong
        cases failed
        exact .inr (.inl ⟨rfl, i, .inl rfl, overlong⟩)
      · cases failed
  | .undefined, _, failed | .null, _, failed | .bool _, _, failed | .number _, _, failed
  | .string _, _, failed | .regexp _ _, _, failed => by simp [text] at failed

/-- What an entry is refused for, however deep it is, the whole value is refused for. -/
theorem text_refused_of_entry {result : Result} (there : v.HasEntry result)
    (failed : elementText result = .error why) : ∃ cause, v.text = .error cause := by
  induction there generalizing why with
  | here member => exact text_array_refused member failed
  | @inside _ v span _ member onward ih =>
      obtain ⟨cause, refused⟩ := ih failed
      have present : v.isNullish = false := by
        cases onward <;> rfl
      exact text_array_refused member ((elementText_value span present).trans refused)

theorem text_object {members : Members}
    (own : members.has "toString" = true ∨ members.has "valueOf" = true) :
    (object members).text = .error .ownConversion := by
  rw [text, if_pos (by simpa using own)]

theorem Undetermined.refused (undetermined : v.Undetermined) : ∃ why, v.text = .error why := by
  cases undetermined with
  | @entry result there unknown =>
      have refused : elementText result = .error .unknownElement := by
        cases result with
        | value w span => exact absurd rfl (unknown w span)
        | _ => rfl
      exact text_refused_of_entry there refused
  | object there own =>
      rcases there with rfl | ⟨span, there⟩
      · exact ⟨_, text_object own⟩
      · exact text_refused_of_entry there ((elementText_value span rfl).trans (text_object own))

theorem TooLong.refused (long : v.TooLong) : ∃ why, v.text = .error why := by
  obtain ⟨i, there, overlong⟩ := long
  have unwritten : (bigint i).text = .error .tooManyDigits := by
    rw [text, integerText, if_pos overlong]
  rcases there with rfl | ⟨span, there⟩
  · exact ⟨_, unwritten⟩
  · exact text_refused_of_entry there ((elementText_value span rfl).trans unwritten)

theorem text_primitive (v : Value) : (v.primitive >>= text) = v.text := by
  unfold primitive
  split
  · cases v.text <;> rfl
  · rfl

/-- The text of a value of the script is refused, as text and as a key, just when it hangs on an
entry that is not a value or on an object with a conversion of its own, and it is refused for
nothing else, unless it comes to an integer that is too long: then it is refused for the one or the
other. Otherwise the text of an array is that of its entries, joined by commas, where null and
undefined leave no text. -/
theorem text_of_scripted (scripted : ∀ w, v.Involves w → w.Scripted) :
    (¬ v.TooLong → ((∃ why, v.text = .error why ∧ why.family = .indeterminate) ↔ v.Undetermined) ∧
      ∀ why, v.text = .error why → why.family = .indeterminate) ∧
    (∀ why, v.text = .error why →
      why.family = .indeterminate ∧ v.Undetermined ∨ why = .tooManyDigits ∧ v.TooLong) ∧
    (v.TooLong → ∃ why, v.text = .error why) ∧
    v.propertyKey = v.text ∧ (v.primitive >>= text) = v.text ∧
    ∀ entries, v = .array entries → ¬ v.Undetermined → ¬ v.TooLong →
      ∃ texts, List.Forall₂ EntryText entries texts ∧ v.text = .ok (",".intercalate texts) := by
  have cause (why : Refusal) (failed : v.text = .error why) :
      why.family = .indeterminate ∧ v.Undetermined ∨ why = .tooManyDigits ∧ v.TooLong := by
    rcases text_error failed with found | found | ⟨w, there, strange⟩
    · exact .inl found
    · exact .inr found
    · exact absurd (scripted w there) strange
  have known (short : ¬ v.TooLong) {why : Refusal} (failed : v.text = .error why) :
      why.family = .indeterminate ∧ v.Undetermined :=
    (cause why failed).resolve_right fun long => short long.2
  refine ⟨fun short => ⟨⟨?_, ?_⟩, fun why failed => (known short failed).1⟩, cause,
    TooLong.refused, rfl, text_primitive v, ?_⟩
  · rintro ⟨why, failed, -⟩
    exact (known short failed).2
  · intro undetermined
    obtain ⟨why, failed⟩ := undetermined.refused
    exact ⟨why, failed, (known short failed).1⟩
  · rintro entries rfl determined short
    cases read : elementTexts entries with
    | ok texts => exact ⟨texts, elementTexts_ok.mp read, by rw [text_array, read]; rfl⟩
    | error why =>
        have failed : (array entries).text = .error why := by rw [text_array, read]; rfl
        exact absurd (known short failed).2 determined

/-- An array in an array, with a key of its object known or not. -/
def rows (key : String) : Value :=
  .array [.value .null none, .value (.array [.value (.string "a") none,
    .value (.object [(.text key, .nonStatic)]) none]) none]

/-- An object is written out whatever its members are, unless one of them is a conversion. -/
theorem text_of_rows :
    (∀ w, (rows "x").Involves w → w.Scripted) ∧ (rows "x").text = .ok ",a,[object Object]" ∧
      ¬ (rows "x").Undetermined ∧ ¬ (rows "x").TooLong ∧ (rows "toString").Undetermined := by
  have scripted : ∀ w, (rows "x").Involves w → w.Scripted := scripted_of_clean rfl
  have written : (rows "x").text = .ok ",a,[object Object]" := rfl
  have short : ¬ (rows "x").TooLong := by
    intro long
    obtain ⟨why, failed⟩ := long.refused
    cases failed
  refine ⟨scripted, written, fun undetermined => ?_, short, ?_⟩
  · obtain ⟨why, failed, -⟩ := ((text_of_scripted scripted).1 short).1.mpr undetermined
    cases failed
  · have refused : (rows "toString").text = .error .ownConversion := rfl
    rcases (text_of_scripted (scripted_of_clean rfl)).2.1 _ refused with
        ⟨-, undetermined⟩ | ⟨other, -⟩
    · exact undetermined
    · cases other

/-- There is nothing unknown in the least integer with too many digits, and yet it has no text. -/
theorem text_of_overlong : ¬ (bigint (10 ^ digitLimit : Nat)).Undetermined ∧
    (bigint (10 ^ digitLimit : Nat)).text = .error .tooManyDigits := by
  constructor
  · rintro (there | ⟨same | ⟨span, there⟩, -⟩)
    · cases there
    · cases same
    · cases there
  · have overlong : isOverlong (10 ^ digitLimit : Nat) = true := by
      rw [isOverlong_iff, Int.natAbs_natCast]
    rw [text, integerText, if_pos overlong]

end Texts

end StyleFold.Value
