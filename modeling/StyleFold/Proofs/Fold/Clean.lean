import StyleFold.Proofs.Fold.Shape

/-!
Clean values: they hold nothing that a tree wrote where a script has no value. Evaluation of formed
expressions builds no others. On clean values every conversion and operator is refused only for a
reason that a script gives, or because an operand is read as a numeral out of the range of doubles.
-/

namespace StyleFold.Fold

section Clean

mutual

def cleanValue : Value → Bool
  | .whole _ => false
  | .foreign _ => false
  | .array entries => cleanResults entries
  | .object members => cleanMembers members
  | _ => true

def cleanResult : Result → Bool
  | .value v _ => cleanValue v
  | .bare _ => false
  | _ => true

def cleanResults : List Result → Bool
  | [] => true
  | result :: rest => cleanResult result && cleanResults rest

def cleanMembers : Members → Bool
  | [] => true
  | (_, result) :: rest => cleanResult result && cleanMembers rest

end

theorem cleanResults_iff {entries : List Result} :
    cleanResults entries = true ↔ ∀ result ∈ entries, cleanResult result = true := by
  induction entries with
  | nil => simp [cleanResults]
  | cons result rest ih => simp [cleanResults, ih]

theorem cleanMembers_iff {members : Members} :
    cleanMembers members = true ↔ ∀ entry ∈ members, cleanResult entry.2 = true := by
  induction members with
  | nil => simp [cleanMembers]
  | cons entry rest ih => simp [cleanMembers, ih]

theorem cleanResult_respan {result : Result} (span : Option Span)
    (clean : cleanResult result = true) :
    cleanResult (result.respan span) = true := by
  cases result <;> simp_all [Result.respan, cleanResult]

theorem cleanMembers_put {members : Members} {result : Result} (name : Label)
    (first : cleanMembers members = true) (clean : cleanResult result = true) :
    cleanMembers (Members.put name result members) = true := by
  rw [cleanMembers_iff] at first ⊢
  exact Assoc.forall_put (cleanResult · = true) first clean

theorem cleanMembers_putAll {members additions : Members} (first : cleanMembers members = true)
    (second : cleanMembers additions = true) :
    cleanMembers (Members.putAll members additions) = true := by
  rw [cleanMembers_iff] at first second ⊢
  exact Assoc.forall_putAll (cleanResult · = true) first second

theorem cleanResults_charResults (s : String) (span : Option Span) :
    cleanResults (charResults s span) = true := by
  rw [cleanResults_iff]
  intro result member
  obtain ⟨c, _, rfl⟩ := List.mem_map.mp member
  rfl

theorem cleanResults_spreadEntries {result : Result} (clean : cleanResult result = true) :
    cleanResults (spreadEntries result) = true := by
  unfold spreadEntries
  split
  · exact clean
  · exact cleanResults_charResults _ _
  · rfl

theorem cleanMembers_indexed {entries : List Result} (clean : cleanResults entries = true) :
    cleanMembers (indexed entries) = true := by
  rw [cleanMembers_iff]
  intro entry member
  obtain ⟨index, bound, rfl⟩ := List.mem_mapIdx.mp member
  exact cleanResults_iff.mp clean _ (List.getElem_mem bound)

theorem cleanMembers_spreadMembers {result : Result} (clean : cleanResult result = true) :
    cleanMembers (spreadMembers result) = true := by
  unfold spreadMembers
  split
  · exact clean
  · exact cleanMembers_indexed clean
  · exact cleanMembers_indexed (cleanResults_charResults _ _)
  · rfl

end Clean

section Conversions

mutual

/-- The text of a clean value is refused only where it hangs on something
unknown, or would be too long. -/
theorem text_clean : ∀ {v : Value} {why : Refusal}, cleanValue v = true → v.text = .error why →
    why.family = .indeterminate ∨ why = .tooManyDigits
  | .array entries, why, clean, failed => by
      simp only [Value.text] at failed
      split at failed
      · cases failed
      · rename_i cause texts
        cases failed
        exact elementTexts_clean (by simpa [cleanValue] using clean) texts
  | .object members, why, _, failed => by
      simp only [Value.text] at failed
      split at failed
      · cases failed
        exact .inl rfl
      · cases failed
  | .bigint _, _, _, failed => .inr (integerText_error (by rwa [Value.text] at failed))
  | .undefined, _, _, failed | .null, _, _, failed | .bool _, _, _, failed | .number _, _, _, failed
  | .string _, _, _, failed | .regexp _ _, _, _, failed => by
      simp [Value.text] at failed
  | .whole _, _, clean, _ | .foreign _, _, clean, _ => by simp [cleanValue] at clean

theorem elementText_clean : ∀ {result : Result} {why : Refusal}, cleanResult result = true →
    Value.elementText result = .error why → why.family = .indeterminate ∨ why = .tooManyDigits
  | .value v span, why, clean, failed => by
      simp only [cleanResult] at clean
      unfold Value.elementText at failed
      split at failed
      · cases failed
      · cases failed
      · rename_i same
        cases same
        exact text_clean clean failed
      all_goals rename_i same; cases same
  | .reference _ _, _, _, failed | .nonStatic, _, _, failed => by
      simp only [Value.elementText] at failed
      cases failed
      exact .inl rfl
  | .bare _, _, clean, _ => by simp [cleanResult] at clean

theorem elementTexts_clean : ∀ {entries : List Result} {why : Refusal},
    cleanResults entries = true → Value.elementTexts entries = .error why →
    why.family = .indeterminate ∨ why = .tooManyDigits
  | [], _, _, failed => by simp [Value.elementTexts] at failed
  | result :: rest, why, clean, failed => by
      simp only [cleanResults, Bool.and_eq_true] at clean
      simp only [Value.elementTexts] at failed
      split at failed
      · rename_i cause first
        cases failed
        exact elementText_clean clean.1 first
      · split at failed
        · cases failed
        · rename_i cause others
          cases failed
          exact elementTexts_clean clean.2 others

end

/-- The text that a value is read as where a number is wanted is a numeral out of range. -/
def Oversized (v : Value) : Prop :=
  ∃ text, (v = .string text ∨ v.isContainer = true ∧ v.text = .ok text) ∧
    numberOfText text = .error .outOfRange

/-- A clean value that may be blamed for a numeral out of range. -/
structure Fair (blame : Prop) (v : Value) : Prop where
  clean : cleanValue v = true
  blamed : Oversized v → blame

/-- An answer with a property, or a refusal that comes to an end. A numeral out of range is
to blame on something. -/
def Tame {α : Type} (blame : Prop) (good : α → Prop) : Except Refusal α → Prop
  | .ok a => good a
  | .error why => why ≠ .endless ∧ (why = .outOfRange → blame)

variable {α β : Type} {blame : Prop} {good : α → Prop} {better : β → Prop}

theorem tame_map {outcome : Except Refusal α} {f : α → β} (tame : Tame blame good outcome)
    (keeps : ∀ a, good a → better (f a)) : Tame blame better (outcome.map f) := by
  cases outcome with
  | ok a => exact keeps a tame
  | error why => exact tame

theorem tame_bind {outcome : Except Refusal α} {next : α → Except Refusal β}
    (tame : Tame blame good outcome) (onward : ∀ a, good a → Tame blame better (next a)) :
    Tame blame better (outcome >>= next) := by
  cases outcome with
  | ok a => exact onward a tame
  | error why => exact tame

theorem tame_tooManyDigits : Tame blame good (.error .tooManyDigits) := ⟨by simp, by simp⟩

def Any (_ : α) : Prop := True

theorem tame_integerOfText (s : String) : Tame blame Any (integerOfText s) := by
  cases read : integerOfText s with
  | ok i => trivial
  | error why =>
      cases integerOfText_error read
      exact tame_tooManyDigits

theorem tame_indexOfText (s : String) : Tame blame Any (indexOfText s) := by
  cases read : indexOfText s with
  | ok index => trivial
  | error why =>
      cases indexOfText_error read
      exact tame_tooManyDigits

theorem tame_numberOfText {s : String} (blamed : numberOfText s = .error .outOfRange → blame) :
    Tame blame Any (numberOfText s) := by
  cases run : numberOfText s with
  | ok x => trivial
  | error why =>
      refine ⟨?_, fun same => blamed (same ▸ run)⟩
      rintro rfl
      unfold numberOfText at run
      split at run
      · cases run
      · split at run <;> cases run

variable {v a b : Value}

theorem tame_text (clean : cleanValue v = true) : Tame blame Any v.text := by
  cases run : v.text with
  | ok s => trivial
  | error why =>
      rcases text_clean clean run with family | rfl
      · constructor <;> rintro rfl <;> cases family
      · exact tame_tooManyDigits

theorem test_clean (clean : cleanValue v = true) : v.test = .ok v.truthy := by
  cases v with
  | whole i => simp [cleanValue] at clean
  | _ => rfl

theorem fair_string {s : String} (blamed : numberOfText s = .error .outOfRange → blame) :
    Fair blame (.string s) := by
  refine ⟨rfl, ?_⟩
  rintro ⟨text, same | ⟨container, _⟩, failed⟩
  · cases same
    exact blamed failed
  · cases container

theorem tame_primitive (fair : Fair blame v) : Tame blame (Fair blame) v.primitive := by
  unfold Value.primitive
  split
  · rename_i container
    have text : Tame blame Any v.text := tame_text fair.clean
    cases run : v.text with
    | ok s => exact fair_string fun failed => fair.blamed ⟨s, .inr ⟨container, run⟩, failed⟩
    | error why =>
        rw [run] at text
        exact text
  · exact fair

theorem tame_toNumber (fair : Fair blame v) : Tame blame Any v.toNumber := by
  have text : Tame blame Any v.text := tame_text fair.clean
  cases v with
  | undefined | null | bool | number => trivial
  | bigint => exact ⟨by simp, by simp⟩
  | string s => exact tame_numberOfText fun failed => fair.blamed ⟨s, .inl rfl, failed⟩
  | whole | foreign => exact absurd fair.clean (by simp [cleanValue])
  | regexp | array | object =>
      simp only [Value.toNumber]
      split
      · rename_i s read
        exact tame_numberOfText fun failed => fair.blamed ⟨s, .inr ⟨rfl, read⟩, failed⟩
      · rename_i why failed
        rw [failed] at text
        exact text

theorem tame_toNumeric (fair : Fair blame v) : Tame blame Any v.toNumeric := by
  unfold Value.toNumeric
  split
  · trivial
  · exact tame_map (tame_toNumber fair) fun _ _ => trivial

end Conversions

section Operators

variable {blame : Prop} {v a b : Value}

theorem tame_loosePrimitive (left : Fair blame a) (right : Fair blame b) :
    Tame blame Any (Value.loosePrimitive a b) := by
  have whole {i : Int} (fair : Fair blame (.whole i)) : False := by
    simpa [cleanValue] using fair.clean
  unfold Value.loosePrimitive
  -- A number beside a text, either way round; then a bigint beside a text; then a whole number,
  -- which is not clean, beside a bigint.
  split
  case h_1 | h_3 =>
    exact tame_map (tame_numberOfText fun failed => right.blamed ⟨_, .inl rfl, failed⟩)
      fun _ _ => trivial
  case h_2 | h_4 =>
    exact tame_map (tame_numberOfText fun failed => left.blamed ⟨_, .inl rfl, failed⟩)
      fun _ _ => trivial
  case h_5 | h_6 => exact tame_map (tame_integerOfText _) fun _ _ => trivial
  case h_9 => exact (whole right).elim
  case h_10 => exact (whole left).elim
  all_goals trivial

theorem unboolean_fair (fair : Fair blame v) : Fair blame v.unboolean := by
  cases v with
  | bool b =>
      refine ⟨rfl, ?_⟩
      rintro ⟨text, same | ⟨container, _⟩, _⟩
      · cases same
      · cases container
  | _ => exact fair

theorem tame_looseEquals (same : Bool) (left : Fair blame a) (right : Fair blame b) :
    Tame blame Any (Value.looseEquals same a b) := by
  unfold Value.looseEquals
  split
  · trivial
  · split
    · trivial
    · exact tame_bind (tame_primitive (unboolean_fair left)) fun _ first =>
        tame_bind (tame_primitive (unboolean_fair right)) fun _ second =>
          tame_loosePrimitive first second

theorem tame_lessPrimitive (left : Fair blame a) (right : Fair blame b) :
    Tame blame Any (Value.lessPrimitive a b) := by
  unfold Value.lessPrimitive
  split
  · trivial
  · exact tame_map (tame_integerOfText _) fun _ _ => trivial
  · exact tame_map (tame_integerOfText _) fun _ _ => trivial
  · exact tame_bind (tame_toNumeric left) fun _ _ =>
      tame_bind (tame_toNumeric right) fun _ _ => trivial

theorem tame_less? (left : Fair blame a) (right : Fair blame b) :
    Tame blame Any (Value.less? a b) :=
  tame_bind (tame_primitive left) fun _ first =>
    tame_bind (tame_primitive right) fun _ second => tame_lessPrimitive first second

theorem tame_compare (same : Bool) (comparison : Comparison) (left : Fair blame a)
    (right : Fair blame b) : Tame blame Any (Value.compare same comparison a b) := by
  cases comparison with
  | looseEqual => exact tame_looseEquals same left right
  | looseDiffers => exact tame_map (tame_looseEquals same left right) fun _ _ => trivial
  | strictEqual | strictDiffers => trivial
  | less | greaterOrEqual => exact tame_map (tame_less? left right) fun _ _ => trivial
  | greater | lessOrEqual => exact tame_map (tame_less? right left) fun _ _ => trivial

theorem tame_bigintShiftLeft (i j : Int) : Tame blame Any (Arithmetic.bigintShiftLeft i j) := by
  unfold Arithmetic.bigintShiftLeft
  split
  · trivial
  · split
    · simp [Tame]
    · trivial

theorem tame_bigintPower (i j : Int) : Tame blame Any (Arithmetic.bigintPower i j) := by
  unfold Arithmetic.bigintPower
  split
  · simp [Tame]
  · split
    · simp [Tame]
    · split <;> trivial

theorem tame_onBigints (i j : Int) (operator : Arithmetic) :
    Tame blame Any (operator.onBigints i j) := by
  cases operator with
  | divide | remainder =>
      simp only [Arithmetic.onBigints]
      split
      · simp [Tame]
      · trivial
  | power => exact tame_bigintPower i j
  | shiftLeft => exact tame_bigintShiftLeft i j
  | shiftRight => exact tame_bigintShiftLeft i (-j)
  | shiftRightUnsigned => simp [Arithmetic.onBigints, Tame]
  | _ => trivial

theorem tame_onTexts (s t : String) (operator : Arithmetic) (left : Fair blame (.string s))
    (right : Fair blame (.string t)) : Tame blame (cleanValue · = true) (operator.onTexts s t) := by
  unfold Arithmetic.onTexts
  split
  · rfl
  · exact tame_bind (tame_toNumber left) fun _ _ => tame_bind (tame_toNumber right) fun _ _ => rfl

theorem tame_apply (operator : Arithmetic) (left : Fair blame a) (right : Fair blame b) :
    Tame blame (cleanValue · = true) (operator.apply a b) := by
  unfold Arithmetic.apply
  split
  · rfl
  · exact tame_map (tame_onBigints _ _ operator) fun _ _ => rfl
  · exact tame_onTexts _ _ operator left right
  · split
    · exact tame_bind (tame_toNumber left) fun _ _ =>
        tame_bind (tame_toNumber right) fun _ _ => rfl
    · rfl

theorem tame_hasProperty (left : cleanValue a = true) : Tame blame Any (Value.hasProperty a b) := by
  unfold Value.hasProperty
  split
  · refine tame_bind (tame_text left) fun name _ => ?_
    split
    · split
      · trivial
      · exact tame_map (tame_indexOfText name) fun _ _ => trivial
    · trivial
    · trivial
  · simp [Tame]

theorem tame_throwIsFalse {outcome : Except Refusal Bool} (tame : Tame blame Any outcome) :
    Tame blame (cleanValue · = true) (throwIsFalse outcome) := by
  unfold throwIsFalse
  split
  · rfl
  · split
    · rfl
    · exact tame

theorem tame_unary (operator : Unary) (fair : Fair blame v) :
    Tame blame (cleanValue · = true) (operator.apply v) := by
  cases operator with
  | plus => exact tame_map (tame_toNumber fair) fun _ _ => rfl
  | minus | complement =>
      exact tame_map (tame_toNumeric fair) fun numeric _ => by cases numeric <;> rfl
  | negate =>
      rw [Unary.apply, test_clean fair.clean]
      rfl
  | typeOf | void => rfl

end Operators

end StyleFold.Fold
