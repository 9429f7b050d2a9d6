import StyleFold.Proofs.Fold.Reading

/-!
Results ordered by what is known. The unknown result is below every other; else results differ
only inside arrays and objects, where some entry is known on one side only. Main statement:
conversions and operators on values that are known better answer the same, unless they were
refused because something was not known.
-/

namespace StyleFold.Fold

section Order

mutual

/-- Equal, up to what the entries of arrays and objects are known to be. -/
inductive BelowValue : Value → Value → Prop where
  | same (v : Value) : BelowValue v v
  | array {entries others : List Result} (each : BelowResults entries others) :
      BelowValue (.array entries) (.array others)
  | object {members others : Members} (each : BelowMembers members others) :
      BelowValue (.object members) (.object others)

/-- Spans do not count. -/
inductive BelowResult : Result → Result → Prop where
  | unknown (result : Result) : BelowResult .nonStatic result
  | reference (id : Label) (span other : Option Span) :
      BelowResult (.reference id span) (.reference id other)
  | value {v w : Value} (below : BelowValue v w) (span other : Option Span) :
      BelowResult (.value v span) (.value w other)
  | bare (v : Value) : BelowResult (.bare v) (.bare v)

inductive BelowResults : List Result → List Result → Prop where
  | nil : BelowResults [] []
  | cons {result other : Result} {rest others : List Result} (first : BelowResult result other)
      (later : BelowResults rest others) : BelowResults (result :: rest) (other :: others)

inductive BelowMembers : Members → Members → Prop where
  | nil : BelowMembers [] []
  | cons {name : Label} {result other : Result} {rest others : Members}
      (first : BelowResult result other) (later : BelowMembers rest others) :
      BelowMembers ((name, result) :: rest) ((name, other) :: others)

end

theorem belowResult_refl (result : Result) : BelowResult result result := by
  cases result with
  | nonStatic => exact .unknown _
  | reference id span => exact .reference id span span
  | value v span => exact .value (.same v) span span
  | bare v => exact .bare v

theorem belowResults_refl (entries : List Result) : BelowResults entries entries := by
  induction entries with
  | nil => exact .nil
  | cons result rest ih => exact .cons (belowResult_refl result) ih

theorem BelowResults.length {entries others : List Result} (below : BelowResults entries others) :
    entries.length = others.length := by
  induction entries generalizing others with
  | nil =>
      cases below
      rfl
  | cons result rest ih =>
      cases below with
      | cons first later => simp [ih later]

theorem BelowResults.append {entries others more further : List Result}
    (first : BelowResults entries others) (second : BelowResults more further) :
    BelowResults (entries ++ more) (others ++ further) := by
  induction entries generalizing others with
  | nil =>
      cases first
      exact second
  | cons result rest ih =>
      cases first with
      | cons here later => exact .cons here (ih later)

theorem BelowResults.reverse {entries others : List Result} (below : BelowResults entries others) :
    BelowResults entries.reverse others.reverse := by
  induction entries generalizing others with
  | nil =>
      cases below
      exact .nil
  | cons result rest ih =>
      cases below with
      | cons first later =>
          simp only [List.reverse_cons]
          exact (ih later).append (.cons first .nil)

theorem BelowResults.get? {entries others : List Result} (below : BelowResults entries others)
    (index : Nat) : (entries[index]? = none ∧ others[index]? = none) ∨
      ∃ result other, entries[index]? = some result ∧ others[index]? = some other ∧
        BelowResult result other := by
  induction entries generalizing others index with
  | nil =>
      cases below
      exact .inl ⟨rfl, rfl⟩
  | cons result rest ih =>
      cases below with
      | cons first later =>
          cases index with
          | zero => exact .inr ⟨_, _, rfl, rfl, first⟩
          | succ index => simpa using ih later index

theorem BelowMembers.get? {members others : Members} (below : BelowMembers members others)
    (name : Label) : (Members.get? members name = none ∧ Members.get? others name = none) ∨
      ∃ result other, Members.get? members name = some result ∧
        Members.get? others name = some other ∧ BelowResult result other := by
  induction members generalizing others with
  | nil =>
      cases below
      exact .inl ⟨rfl, rfl⟩
  | cons entry rest ih =>
      cases below with
      | @cons key result other _ further first later =>
          simp only [Members.get?, List.lookup_cons]
          cases name == key with
          | true => exact .inr ⟨_, _, rfl, rfl, first⟩
          | false => exact ih later

theorem BelowMembers.has {members others : Members} (below : BelowMembers members others)
    (name : Label) : Members.has members name = Members.has others name := by
  unfold Members.has
  rcases below.get? name with ⟨left, right⟩ | ⟨result, other, left, right, _⟩ <;> rw [left, right]
  rfl

theorem BelowMembers.put {members others : Members} {result other : Result} (name : Label)
    (below : BelowMembers members others) (fresh : BelowResult result other) :
    BelowMembers (Members.put name result members) (Members.put name other others) := by
  induction members generalizing others with
  | nil =>
      cases below
      exact .cons fresh .nil
  | cons entry rest ih =>
      cases below with
      | @cons key old new _ further first later =>
          simp only [Members.put, Assoc.put]
          split
          · exact .cons fresh later
          · exact .cons first (ih later)

theorem BelowResult.respan {result other : Result} (below : BelowResult result other)
    (span further : Option Span) : BelowResult (result.respan span) (other.respan further) := by
  cases below with
  | unknown other => exact .unknown _
  | reference id => exact .reference id span further
  | value below => exact .value below span further
  | bare v => exact .unknown _

end Order

section Conversions

variable {α β : Type}

def Vaguer (first second : Except Refusal α) : Prop :=
  first = second ∨ ∃ why, first = .error why ∧ why.family = .indeterminate

theorem vaguer_refl (outcome : Except Refusal α) : Vaguer outcome outcome := .inl rfl

theorem vaguer_map {first second : Except Refusal α} (f : α → β) (vague : Vaguer first second) :
    Vaguer (first.map f) (second.map f) := by
  rcases vague with rfl | ⟨why, rfl, family⟩
  · exact .inl rfl
  · exact .inr ⟨why, rfl, family⟩

theorem vaguer_bind {first second : Except Refusal α} {next after : α → Except Refusal β}
    (vague : Vaguer first second) (onward : ∀ a, Vaguer (next a) (after a)) :
    Vaguer (first >>= next) (second >>= after) := by
  rcases vague with rfl | ⟨why, rfl, family⟩
  · cases first with
    | ok a => exact onward a
    | error why => exact .inl rfl
  · exact .inr ⟨why, rfl, family⟩

mutual

theorem text_vaguer : ∀ {v w : Value}, BelowValue v w → Vaguer v.text w.text
  | _, _, .same v => vaguer_refl v.text
  | _, _, .array each => by
      simp only [Value.text]
      rcases elementTexts_vaguer each with same | ⟨why, failed, family⟩
      · rw [same]
        exact vaguer_refl _
      · rw [failed]
        exact .inr ⟨why, rfl, family⟩
  | _, _, .object each => by
      -- Whether an object brings its own conversion hangs on its keys alone.
      simp only [Value.text, each.has]
      exact vaguer_refl _

theorem elementText_vaguer : ∀ {result other : Result}, BelowResult result other →
    Vaguer (Value.elementText result) (Value.elementText other)
  | _, _, .unknown _ => .inr ⟨.unknownElement, by simp [Value.elementText], rfl⟩
  | _, _, .reference _ _ _ => by
      simp only [Value.elementText]
      exact vaguer_refl _
  | _, _, .value (.same v) span other => by
      refine .inl ?_
      cases v <;> simp only [Value.elementText]
  | _, _, .value (.array each) span other => by
      simp only [Value.elementText]
      exact text_vaguer (.array each)
  | _, _, .value (.object each) span other => by
      simp only [Value.elementText]
      exact text_vaguer (.object each)
  | _, _, .bare v => vaguer_refl _

theorem elementTexts_vaguer : ∀ {entries others : List Result}, BelowResults entries others →
    Vaguer (Value.elementTexts entries) (Value.elementTexts others)
  | _, _, .nil => vaguer_refl _
  | _, _, .cons first later => by
      simp only [Value.elementTexts]
      rcases elementText_vaguer first with same | ⟨why, failed, family⟩
      · rw [same]
        split
        · exact vaguer_refl _
        · rcases elementTexts_vaguer later with sameRest | ⟨why, failed, family⟩
          · rw [sameRest]
            exact vaguer_refl _
          · rw [failed]
            exact .inr ⟨why, rfl, family⟩
      · rw [failed]
        exact .inr ⟨why, rfl, family⟩

end

variable {v w a b c d : Value}

theorem eq_or_container (below : BelowValue v w) :
    v = w ∨ (v.isContainer = true ∧ w.isContainer = true) := by
  cases below with
  | same => exact .inl rfl
  | array | object => exact .inr ⟨rfl, rfl⟩

theorem type_below (below : BelowValue v w) : v.type = w.type := by
  cases below <;> rfl

theorem isNull_below (below : BelowValue v w) : v.isNull = w.isNull := by
  cases below <;> rfl

theorem isNullish_below (below : BelowValue v w) : v.isNullish = w.isNullish := by
  cases below <;> rfl

theorem test_below (below : BelowValue v w) : v.test = w.test := by
  cases below <;> rfl

theorem unboolean_below (below : BelowValue v w) : BelowValue v.unboolean w.unboolean := by
  cases below with
  | same => exact .same _
  | array each => exact .array each
  | object each => exact .object each

theorem primitive_vaguer (below : BelowValue v w) : Vaguer v.primitive w.primitive := by
  rcases eq_or_container below with rfl | ⟨left, right⟩
  · exact vaguer_refl _
  · rw [Value.primitive, Value.primitive, if_pos left, if_pos right]
    exact vaguer_map Value.string (text_vaguer below)

theorem toNumber_container (container : v.isContainer = true) :
    v.toNumber = v.text >>= numberOfText := by
  cases v with
  | regexp | array | object =>
      simp only [Value.toNumber]
      cases Value.text _ <;> rfl
  | _ => cases container

theorem toNumber_vaguer (below : BelowValue v w) : Vaguer v.toNumber w.toNumber := by
  rcases eq_or_container below with rfl | ⟨left, right⟩
  · exact vaguer_refl _
  · rw [toNumber_container left, toNumber_container right]
    exact vaguer_bind (text_vaguer below) fun s => vaguer_refl (numberOfText s)

theorem toNumeric_vaguer (below : BelowValue v w) : Vaguer v.toNumeric w.toNumeric := by
  have number := toNumber_vaguer below
  cases below with
  | same => exact vaguer_refl _
  | array | object => exact vaguer_map Numeric.number number

end Conversions

section Operators

variable {v w a b c d : Value}

theorem isShared_below (left : BelowValue a b) (right : BelowValue c d) :
    a.isShared c = b.isShared d := by
  have empty {v w : Value} (below : BelowValue v w) : v = .array [] ↔ w = .array [] := by
    cases below with
    | same => rfl
    | array each => cases each <;> simp
    | object => simp
  rw [Bool.eq_iff_iff, Value.isShared_iff, Value.isShared_iff, empty left, empty right]

theorem strictEquals_below (same : Bool) (left : BelowValue a b) (right : BelowValue c d) :
    Value.strictEquals same a c = Value.strictEquals same b d := by
  -- Whether two containers are one does not hang on what is known of them.
  rcases eq_or_container left with rfl | ⟨first, second⟩
  · rcases eq_or_container right with rfl | ⟨third, fourth⟩
    · rfl
    · simp [Value.strictEquals, third, fourth]
  · simp [Value.strictEquals, first, second]

theorem looseEquals_vaguer (same : Bool) (left : BelowValue a b) (right : BelowValue c d) :
    Vaguer (Value.looseEquals same a c) (Value.looseEquals same b d) := by
  unfold Value.looseEquals
  rw [type_below left, type_below right, isNull_below left, isNull_below right,
    isNullish_below left, isNullish_below right, strictEquals_below same left right]
  split
  · exact vaguer_refl _
  · split
    · exact vaguer_refl _
    · exact vaguer_bind (primitive_vaguer (unboolean_below left)) fun x =>
        vaguer_bind (primitive_vaguer (unboolean_below right)) fun y => vaguer_refl _

theorem less?_vaguer (left : BelowValue a b) (right : BelowValue c d) :
    Vaguer (Value.less? a c) (Value.less? b d) :=
  vaguer_bind (primitive_vaguer left) fun _ =>
    vaguer_bind (primitive_vaguer right) fun _ => vaguer_refl _

theorem compare_vaguer (same : Bool) (comparison : Comparison) (left : BelowValue a b)
    (right : BelowValue c d) :
    Vaguer (Value.compare same comparison a c) (Value.compare same comparison b d) := by
  cases comparison with
  | looseEqual => exact looseEquals_vaguer same left right
  | looseDiffers => exact vaguer_map _ (looseEquals_vaguer same left right)
  | strictEqual | strictDiffers =>
      simp only [Value.compare, strictEquals_below same left right]
      exact vaguer_refl _
  | less | greaterOrEqual => exact vaguer_map _ (less?_vaguer left right)
  | greater | lessOrEqual => exact vaguer_map _ (less?_vaguer right left)

theorem apply_container (operator : Arithmetic)
    (container : a.isContainer = true ∨ b.isContainer = true) :
    operator.apply a b = .ok .undefined := by
  cases a <;> cases b <;> simp_all [Value.isContainer, Arithmetic.apply, Value.isNumber]

theorem apply_below (operator : Arithmetic) (left : BelowValue a b) (right : BelowValue c d) :
    operator.apply a c = operator.apply b d := by
  rcases eq_or_container left with rfl | ⟨first, second⟩
  · rcases eq_or_container right with rfl | ⟨third, fourth⟩
    · rfl
    · rw [apply_container operator (.inr third), apply_container operator (.inr fourth)]
  · rw [apply_container operator (.inl first), apply_container operator (.inl second)]

theorem hasProperty_vaguer (left : BelowValue a b) (right : BelowValue c d) :
    Vaguer (Value.hasProperty a c) (Value.hasProperty b d) := by
  cases right with
  | same =>
      unfold Value.hasProperty
      split
      · exact vaguer_bind (text_vaguer left) fun name => vaguer_refl _
      · exact vaguer_refl _
  | array each =>
      simp only [Value.hasProperty, Value.isContainer, if_true, each.length]
      exact vaguer_bind (text_vaguer left) fun name => vaguer_refl _
  | object each =>
      simp only [Value.hasProperty, Value.isContainer, if_true]
      refine vaguer_bind (text_vaguer left) fun name => ?_
      rw [each.has]
      exact vaguer_refl _

theorem throwIsFalse_vaguer {first second : Except Refusal Bool} (vague : Vaguer first second) :
    Vaguer (throwIsFalse first) (throwIsFalse second) := by
  rcases vague with rfl | ⟨why, rfl, family⟩
  · exact vaguer_refl _
  · exact .inr ⟨why, by simp [throwIsFalse, family], family⟩

theorem unary_vaguer (operator : Unary) (below : BelowValue v w) :
    Vaguer (operator.apply v) (operator.apply w) := by
  cases operator with
  | plus => exact vaguer_map _ (toNumber_vaguer below)
  | minus | complement => exact vaguer_map _ (toNumeric_vaguer below)
  | negate =>
      simp only [Unary.apply, test_below below]
      exact vaguer_refl _
  | typeOf =>
      simp only [Unary.apply, type_below below]
      exact vaguer_refl _
  | void => exact vaguer_refl _

theorem decides_below (operator : Logical) (below : BelowValue v w) :
    operator.decides v = operator.decides w := by
  cases operator <;> simp only [Logical.decides, test_below below, isNullish_below below]

end Operators

section Outcomes

variable {α β γ δ : Type} {v w a b c d : Value} {span other : Option Span}

def Both (relation : α → β → Prop) (first : Except Fault α) (second : Except Fault β) : Prop :=
  ∀ a b, first = .ok a → second = .ok b → relation a b

theorem both_ok {relation : α → β → Prop} {a : α} {b : β} (related : relation a b) :
    Both relation (.ok a) (.ok b) := by
  intro x y left right
  cases left
  cases right
  exact related

theorem both_refl {relation : α → α → Prop} (reflexive : ∀ a, relation a a)
    (outcome : Except Fault α) : Both relation outcome outcome := by
  intro x y left right
  rw [left] at right
  cases right
  exact reflexive x

theorem both_bind {relation : α → β → Prop} {further : γ → δ → Prop} {first : Except Fault α}
    {second : Except Fault β} {next : α → Except Fault γ} {after : β → Except Fault δ}
    (both : Both relation first second)
    (onward : ∀ a b, relation a b → Both further (next a) (after b)) :
    Both further (first >>= next) (second >>= after) := by
  cases first with
  | error fault => exact fun _ _ left => by cases left
  | ok a =>
      cases second with
      | error fault => exact fun _ _ _ right => by cases right
      | ok b => exact onward a b (both a b rfl rfl)

def Rises (first second : Except Fault Result) : Prop := Both BelowResult first second

theorem rises_refl (outcome : Except Fault Result) : Rises outcome outcome :=
  both_refl belowResult_refl outcome

theorem rises_unknown (outcome : Except Fault Result) : Rises (.ok .nonStatic) outcome := by
  intro x y left _
  cases left
  exact .unknown y

theorem rises_value (below : BelowValue v w) : Rises (.ok (.value v span)) (.ok (.value w other)) :=
  both_ok (.value below span other)

theorem rises_refused (why : Refusal) (outcome : Except Fault Result) :
    Rises (orNonStatic span (.error why)) outcome := by
  simp only [orNonStatic]
  split
  · exact rises_unknown _
  · exact fun _ _ left => by cases left

theorem rises_orNonStatic {first second : Except Refusal Value} (vague : Vaguer first second) :
    Rises (orNonStatic span first) (orNonStatic other second) := by
  rcases vague with rfl | ⟨why, rfl, family⟩
  · cases first with
    | ok v => exact rises_value (.same v)
    | error why => exact rises_refused why _
  · exact rises_refused why _

theorem unknown_fails (shown : String) (v : Value) : Arithmetic.unknown shown a b ≠ .ok v := by
  unfold Arithmetic.unknown
  cases (Arithmetic.operands a b).mapError Fault.refused <;> simp [bind, Except.bind]

theorem rises_binary (symbol : String) (left : BelowValue a b) (right : BelowValue c d) :
    Rises (binary symbol a c span) (binary symbol b d other) := by
  unfold binary
  split
  · rw [isShared_below left right]
    exact rises_orNonStatic (vaguer_map _ (compare_vaguer _ _ left right))
  · split
    · exact rises_orNonStatic (throwIsFalse_vaguer (hasProperty_vaguer left right))
    · split
      · exact rises_orNonStatic (throwIsFalse_vaguer (vaguer_refl _))
      · unfold Arithmetic.applySymbol
        cases Arithmetic.ofSymbol? symbol with
        | some operator =>
            dsimp only
            rw [apply_below operator left right]
            cases operator.apply b d with
            | ok v => exact rises_value (.same v)
            | error why => exact rises_orNonStatic (vaguer_refl _)
        | none =>
            dsimp only
            split
            · rename_i v found
              exact absurd found (unknown_fails _ v)
            · exact rises_refused _ _
            · exact fun _ _ first => by cases first

theorem rises_binaryResults (symbol : String) {left right further again : Result}
    (first : BelowResult left further) (second : BelowResult right again) :
    Rises (binaryResults symbol left right span) (binaryResults symbol further again other) := by
  unfold binaryResults
  cases first with
  | value below =>
      cases second with
      | value after => exact rises_binary symbol below after
      | _ => exact rises_unknown _
  | _ => exact rises_unknown _

theorem rises_unary (symbol : String) (below : BelowValue v w) :
    Rises (unary symbol v span) (unary symbol w other) := by
  unfold unary
  split
  · exact fun _ _ left => by cases left
  · rename_i operator _
    rcases unary_vaguer operator below with same | ⟨why, failed, family⟩
    · rw [same]
      split
      · split
        · exact rises_value (.same _)
        · exact rises_orNonStatic (vaguer_refl _)
      · exact rises_orNonStatic (vaguer_refl _)
    · rw [failed]
      have unknown : orNonStatic span (.error why) = .ok .nonStatic := by
        simp [orNonStatic, Refusal.isScripted, family]
      simp only [family, unknown]
      exact rises_unknown _

theorem rises_logical (operator : Logical) {left further : Result}
    {right second : Except Fault Result} (below : BelowResult left further)
    (rises : Rises right second) :
    Rises (operator.fold left right span) (operator.fold further second other) := by
  unfold Logical.fold
  cases below with
  | value below =>
      dsimp only
      rw [decides_below operator below]
      refine both_bind (both_refl (fun _ => rfl) _) fun decided same agree => ?_
      subst agree
      split
      · exact rises_value below
      · refine both_bind rises fun x y known => ?_
        cases known with
        | value inner => exact rises_value inner
        | _ => exact rises_unknown _
  | _ => exact rises_unknown _

def Fuller (first second : Option α) : Prop := first = none ∨ first = second

theorem fuller_refl (answer : Option α) : Fuller answer answer := .inr rfl

theorem fuller_none (outcome : Except Fault (Option α)) : Both Fuller (.ok none) outcome := by
  intro x y left _
  cases left
  exact .inl rfl

theorem fuller_keyOf {result further : Result} (below : BelowResult result further) :
    Both Fuller (keyOf result) (keyOf further) := by
  cases below with
  | @value v w below =>
      simp only [keyOf, Value.propertyKey]
      rcases text_vaguer below with same | ⟨why, failed, family⟩
      · rw [same]
        exact both_refl fuller_refl _
      · simp only [failed, family, if_true]
        exact fuller_none _
  | _ => exact fuller_none _

theorem fuller_insertion {result further : Result} (below : BelowResult result further) :
    Both Fuller (insertion result) (insertion further) := by
  cases below with
  | @value v w below =>
      simp only [insertion]
      rcases text_vaguer below with same | ⟨why, failed, family⟩
      · rw [same]
        exact both_refl fuller_refl _
      · simp only [failed, family, if_true]
        exact fuller_none _
  | reference id => exact both_refl fuller_refl _
  | unknown | bare => exact fuller_none _

theorem rises_readMember (below : BelowValue v w) (key : String) (span : Option Span) :
    Rises ((readMember v key span).mapError Fault.refused)
      ((readMember w key span).mapError Fault.refused) := by
  cases below with
  | same => exact rises_refl _
  | array each =>
      simp only [readMember, each.length]
      split
      · exact rises_refl _
      · cases indexOfText key with
        | error why => exact rises_refl _
        | ok place =>
            refine both_ok ?_
            cases place with
            | none => exact .unknown _
            | some index =>
                rcases each.get? index with ⟨left, right⟩ | ⟨result, further, left, right, below⟩
                · simp only [left, right]
                  exact belowResult_refl _
                · simp only [left, right]
                  exact below.respan span span
  | object each =>
      simp only [readMember]
      rcases each.get? key with ⟨left, right⟩ | ⟨result, further, left, right, below⟩
      · rw [left, right]
        exact rises_refl _
      · rw [left, right]
        exact both_ok (below.respan span span)

theorem rises_readLabel (below : BelowValue v w) (label : Label) (span : Option Span) :
    Rises (readLabel v label span) (readLabel w label span) := by
  cases label with
  | text key => exact rises_readMember below key span
  | _ =>
      cases below with
      | same => exact rises_refl _
      | array => exact rises_refl _
      | object each =>
          simp only [readLabel]
          refine both_bind (both_refl (fun _ => rfl) _) fun key again same => ?_
          subst same
          rcases each.get? key with ⟨left, right⟩ | ⟨result, further, left, right, below⟩
          · rw [left, right]
            exact rises_refl _
          · rw [left, right]
            exact both_ok (below.respan span span)

theorem rises_readResult {base further : Result} (below : BelowResult base further) (key : Label)
    (span : Option Span) : Rises (readResult base key span) (readResult further key span) := by
  cases below with
  | unknown => exact rises_unknown _
  | reference => exact rises_refl _
  | value below => exact rises_readLabel below key span
  | bare => exact rises_refl _

end Outcomes

end StyleFold.Fold
