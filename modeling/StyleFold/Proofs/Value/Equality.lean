import StyleFold.Proofs.Value.Order

/-!
Laws of the two equalities. Loose equality is specified as a ladder: a call looks at the kinds of
its operands in a fixed order, and settles or calls itself on operands of which one was
converted. Main statement: both equalities are symmetric, refusals included, the strict one is
never refused and implies the loose one, and the ladder comes to an end with the answer of the
conversion that is done at once.
-/

namespace StyleFold

namespace Value

variable {same : Bool} {a b : Value}

section Symmetry

theorem sameNumber_comm (a b : Value) : sameNumber a b = sameNumber b a := by
  unfold sameNumber
  cases a.exactly with
  | none => cases b.exactly <;> rfl
  | some x =>
      cases b.exactly with
      | none => rfl
      | some y => exact Exact.same_comm x y

theorem strictEquals_comm (same : Bool) (a b : Value) :
    strictEquals same a b = strictEquals same b a := by
  by_cases container : a.isContainer || b.isContainer
  · unfold strictEquals
    rw [if_pos container, Bool.or_comm, if_pos container]
  · unfold strictEquals
    rw [if_neg container, Bool.or_comm, if_neg container]
    -- Values of one kind are compared, and others are level only as numbers.
    cases a with
    | bool x =>
        cases b with
        | bool y => exact Bool.beq_comm
        | _ => rfl
    | number | whole =>
        cases b with
        | number | whole => exact sameNumber_comm _ _
        | _ => rfl
    | bigint i =>
        cases b with
        | bigint j => exact BEq.comm
        | _ => rfl
    | string s =>
        cases b with
        | string t => exact BEq.comm
        | _ => rfl
    | foreign data =>
        cases b with
        | foreign other => exact BEq.comm
        | _ => rfl
    | _ => cases b <;> rfl

theorem loosePrimitive_comm (a b : Value) : loosePrimitive a b = loosePrimitive b a := by
  cases a with
  | number x =>
      cases b with
      | string t => simp only [loosePrimitive, sameNumber_comm]
      | bigint j => rfl
      | _ => exact congrArg Except.ok (strictEquals_comm false _ _)
  | whole i =>
      cases b with
      | string t => simp only [loosePrimitive, sameNumber_comm]
      | bigint j => rfl
      | _ => exact congrArg Except.ok (strictEquals_comm false _ _)
  | bigint i =>
      cases b with
      | string | number | whole => rfl
      | _ => exact congrArg Except.ok (strictEquals_comm false _ _)
  | string s =>
      cases b with
      | number y => simp only [loosePrimitive, sameNumber_comm]
      | whole j => simp only [loosePrimitive, sameNumber_comm]
      | bigint j => rfl
      | _ => exact congrArg Except.ok (strictEquals_comm false _ _)
  | _ => cases b <;> exact congrArg Except.ok (strictEquals_comm false _ _)

def byPrimitives (a b : Value) : Except Refusal Bool := do
  let left ← a.primitive
  let right ← b.primitive
  loosePrimitive left right

/-- One operand at most can be refused, so it does not matter which one is converted first. -/
theorem byPrimitives_comm (single : a.isContainer = false ∨ b.isContainer = false) :
    byPrimitives a b = byPrimitives b a := by
  unfold byPrimitives
  rcases single with single | single
  · rw [primitive_of_single single]
    cases b.primitive with
    | ok right => exact loosePrimitive_comm a right
    | error why => rfl
  · rw [primitive_of_single single]
    cases a.primitive with
    | ok left => exact loosePrimitive_comm left b
    | error why => rfl

/-- Operands that are compared strictly. -/
def Alike (a b : Value) : Prop := a.type = b.type ∧ a.isNull = b.isNull

instance : Decidable (Alike a b) := inferInstanceAs (Decidable (_ ∧ _))

theorem Alike.symm (alike : Alike a b) : Alike b a := ⟨alike.1.symm, alike.2.symm⟩

theorem alike_of_containers (left : a.isContainer = true) (right : b.isContainer = true) :
    Alike a b := by
  cases a <;> cases left <;> cases b <;> cases right <;> exact ⟨rfl, rfl⟩

theorem looseEquals_eq (same : Bool) (a b : Value) :
    looseEquals same a b = if Alike a b then .ok (strictEquals same a b)
      else if a.isNullish || b.isNullish then .ok (a.isNullish && b.isNullish)
      else byPrimitives a.unboolean b.unboolean := rfl

theorem looseEquals_alike (alike : Alike a b) :
    looseEquals same a b = .ok (strictEquals same a b) :=
  if_pos alike

theorem looseEquals_nullish (apart : ¬ Alike a b) (absent : (a.isNullish || b.isNullish) = true) :
    looseEquals same a b = .ok (a.isNullish && b.isNullish) := by
  rw [looseEquals_eq, if_neg apart, if_pos absent]

theorem looseEquals_apart (apart : ¬ Alike a b) (present : (a.isNullish || b.isNullish) = false) :
    looseEquals same a b = byPrimitives a.unboolean b.unboolean := by
  rw [looseEquals_eq, if_neg apart, present]
  rfl

theorem unboolean_isContainer (a : Value) : a.unboolean.isContainer = a.isContainer := by
  cases a <;> rfl

theorem single_of_apart (apart : ¬ Alike a b) : a.isContainer = false ∨ b.isContainer = false := by
  cases left : a.isContainer with
  | false => exact .inl rfl
  | true =>
      cases right : b.isContainer with
      | false => exact .inr rfl
      | true => exact absurd (alike_of_containers left right) apart

theorem looseEquals_comm (same : Bool) (a b : Value) :
    looseEquals same a b = looseEquals same b a := by
  by_cases alike : Alike a b
  · rw [looseEquals_alike alike, looseEquals_alike alike.symm, strictEquals_comm]
  · have apart : ¬ Alike b a := fun other => alike other.symm
    cases absent : a.isNullish || b.isNullish with
    | true =>
        rw [looseEquals_nullish alike absent, looseEquals_nullish apart (Bool.or_comm _ _ ▸ absent),
          Bool.and_comm]
    | false =>
        rw [looseEquals_apart alike absent, looseEquals_apart apart (Bool.or_comm _ _ ▸ absent)]
        apply byPrimitives_comm
        rw [unboolean_isContainer, unboolean_isContainer]
        exact single_of_apart alike

end Symmetry

/-! Strict equality implies loose equality. -/

theorem sameNumber_type (equal : sameNumber a b = true) : Alike a b := by
  cases a with
  | number | whole =>
      cases b with
      | number | whole => exact ⟨rfl, rfl⟩
      | _ => cases equal
  | _ => cases b <;> cases equal

theorem alike_of_strictEquals (identity : same = true → a = b)
    (equal : strictEquals same a b = true) : Alike a b := by
  unfold strictEquals at equal
  split at equal
  · rw [identity equal]
    exact ⟨rfl, rfl⟩
  · split at equal
    · exact ⟨rfl, rfl⟩
    · exact ⟨rfl, rfl⟩
    · exact ⟨rfl, rfl⟩
    · exact ⟨rfl, rfl⟩
    · exact ⟨rfl, rfl⟩
    · exact ⟨rfl, rfl⟩
    · exact sameNumber_type equal

section Ladder

/-- What one call does: it answers, or it calls on with other operands. -/
inductive Rung where
  | answer (outcome : Except Refusal Bool)
  | call (a b : Value)

def Rung.convert {α : Type} (outcome : Except Refusal α) (next : α → Rung) : Rung :=
  match outcome with
  | .ok result => next result
  | .error why => .answer (.error why)

def mixedEquals (a b : Value) : Except Refusal Bool :=
  match a, b with
  | .bigint i, .number y => .ok (Exact.same (.ofInt i) (.ofFloat y))
  | .number x, .bigint j => .ok (Exact.same (.ofInt j) (.ofFloat x))
  | .bigint i, .whole j => (numberOfWhole j).map fun y => Exact.same (.ofInt i) (.ofFloat y)
  | .whole i, .bigint j => (numberOfWhole i).map fun x => Exact.same (.ofInt j) (.ofFloat x)
  | _, _ => .ok false

def lowRung (a b : Value) : Rung :=
  if a.isContainer then .convert a.primitive (.call · b)
  else if b.isContainer then .convert b.primitive (.call a ·)
  else .answer (mixedEquals a b)

def midRung (a b : Value) : Rung :=
  match a, b with
  | .number _, .string t | .whole _, .string t =>
      .convert (numberOfText t) fun y => .call a (.number y)
  | .string s, .number _ | .string s, .whole _ =>
      .convert (numberOfText s) fun x => .call (.number x) b
  | .bigint i, .string t => .answer ((integerOfText t).map (· == some i))
  | .string _, .bigint _ => .call b a
  | .bool _, _ => .call a.unboolean b
  | _, .bool _ => .call a b.unboolean
  | _, _ => lowRung a b

def rung (same : Bool) (a b : Value) : Rung :=
  if Alike a b then .answer (.ok (strictEquals same a b))
  else if a.isNullish || b.isNullish then .answer (.ok (a.isNullish && b.isNullish))
  else midRung a b

/-- The ladder with a limit on the number of calls; nothing when the limit is too low. -/
def climb (same : Bool) : Nat → Value → Value → Option (Except Refusal Bool)
  | 0, _, _ => none
  | calls + 1, a, b =>
      match rung same a b with
      | .answer outcome => some outcome
      | .call c d => climb same calls c d

/-- Conversions left for an operand: a container becomes a text and a text a number. -/
def weight : Value → Nat
  | .regexp _ _ | .array _ | .object _ => 2
  | .bool _ | .string _ => 1
  | _ => 0

/-- Calls left after this one. A bigint in front of a text answers, a text in
front calls once more. -/
def height (a b : Value) : Nat :=
  match a, b with
  | .bigint _, .string _ => 0
  | a, b => a.weight + b.weight

/-- A rung is sound: it answers with loose equality, or calls on with operands that are closer to an
answer and have the same one. -/
def Rung.Sound (same : Bool) (a b : Value) : Rung → Prop
  | .answer outcome => outcome = looseEquals same a b
  | .call c d => looseEquals same c d = looseEquals same a b ∧ height c d < height a b

theorem Rung.sound_convert {α : Type} {outcome : Except Refusal α} {next : α → Rung}
    {equals : α → Except Refusal Bool} (loose : looseEquals same a b = outcome >>= equals)
    (onward : ∀ result, outcome = .ok result → looseEquals same a b = equals result →
      (next result).Sound same a b) : (Rung.convert outcome next).Sound same a b := by
  cases outcome with
  | ok result => exact onward result rfl loose
  | error why => exact loose.symm

theorem Rung.sound_read {s : String} {next : Float → Rung} {equals : Float → Bool}
    (reads : looseEquals same a b = (numberOfText s).map equals)
    (onward : ∀ x, looseEquals same a b = .ok (equals x) → (next x).Sound same a b) :
    (Rung.convert (numberOfText s) next).Sound same a b := by
  have loose : looseEquals same a b = numberOfText s >>= fun x => .ok (equals x) := by
    rw [reads]
    cases numberOfText s <;> rfl
  exact Rung.sound_convert loose fun x _ equal => onward x equal

theorem looseEquals_text (s : String) (single : b.isContainer = false)
    (present : b.isNullish = false) :
    looseEquals same (.string s) b = loosePrimitive (.string s) b.unboolean := by
  cases b with
  | undefined | null => cases present
  | regexp | array | object => cases single
  | _ => rfl

theorem height_text_lt (s : String) (container : a.isContainer = true) :
    height (.string s) b < height a b ∧ height b (.string s) < height b a := by
  cases a <;> cases container <;> cases b <;> simp [height, weight]

/-- A container that meets no container is level with what its text is level with, and
refused when it has no text. -/
theorem looseEquals_container (apart : ¬ Alike a b) (present : (a.isNullish || b.isNullish) = false)
    (container : a.isContainer = true) : looseEquals same a b =
      a.primitive >>= fun left => looseEquals same left b := by
  have single : b.isContainer = false :=
    (single_of_apart apart).resolve_left fun single => by simp [container] at single
  have unchanged : a.unboolean = a := by cases a <;> cases container <;> rfl
  rw [looseEquals_apart apart present, byPrimitives, unchanged,
    primitive_of_single ((unboolean_isContainer b).trans single)]
  cases read : a.primitive with
  | error why => rfl
  | ok left =>
      obtain ⟨s, rfl⟩ := string_of_primitive container read
      exact (looseEquals_text s single (Bool.or_eq_false_iff.mp present).2).symm

theorem lowRung_sound (apart : ¬ Alike a b) (present : (a.isNullish || b.isNullish) = false)
    (settles : a.isContainer = false → b.isContainer = false → mixedEquals a b =
      looseEquals same a b) :
    (lowRung a b).Sound same a b := by
  unfold lowRung
  split
  · rename_i container
    apply Rung.sound_convert (looseEquals_container apart present container)
    intro left read loose
    obtain ⟨s, rfl⟩ := string_of_primitive container read
    exact ⟨loose.symm, (height_text_lt s container).1⟩
  · rename_i single
    split
    · rename_i container
      have back : looseEquals same b a = b.primitive >>= fun right => looseEquals same right a :=
        looseEquals_container (fun alike => apart alike.symm) (Bool.or_comm _ _ ▸ present) container
      apply Rung.sound_convert ((looseEquals_comm same a b).trans back)
      intro right read loose
      obtain ⟨s, rfl⟩ := string_of_primitive container read
      exact ⟨(looseEquals_comm same a _).trans loose.symm, (height_text_lt s container).2⟩
    · rename_i singleToo
      exact settles (Bool.eq_false_iff.mpr single) (Bool.eq_false_iff.mpr singleToo)

theorem unboolean_sound (x : Bool) (apart : ¬ Alike (.bool x) b) (present : b.isNullish = false) :
    (Rung.call (unboolean (.bool x)) b).Sound same (.bool x) b ∧
    (Rung.call b (unboolean (.bool x))).Sound same b (.bool x) := by
  have loose : looseEquals same (unboolean (.bool x)) b = looseEquals same (.bool x) b := by
    cases b with
    | undefined | null => cases present
    | bool => exact absurd ⟨rfl, rfl⟩ apart
    | _ => rfl
  have lower : height (unboolean (.bool x)) b < height (.bool x) b ∧
      height b (unboolean (.bool x)) < height b (.bool x) := by
    cases b <;> simp [height, weight, unboolean]
  refine ⟨⟨loose, lower.1⟩, ?_, lower.2⟩
  rw [looseEquals_comm same b, loose, looseEquals_comm same b]

theorem midRung_sound (apart : ¬ Alike a b) (present : (a.isNullish || b.isNullish) = false) :
    (midRung a b).Sound same a b := by
  have low := @lowRung_sound same a b apart present
  have back : ¬ Alike b a := fun alike => apart alike.symm
  -- Truth values are read as numbers and numbers meet texts here; what is left is for the low rung.
  cases a with
  | undefined | null => cases present
  | bool x => exact (unboolean_sound x apart present).1
  | number | whole =>
      cases b with
      | undefined | null => cases present
      | bool y => exact (unboolean_sound y back rfl).2
      | number | whole => exact absurd ⟨rfl, rfl⟩ apart
      | string t => exact Rung.sound_read rfl fun y reads => ⟨reads.symm, Nat.one_pos⟩
      | regexp | array | object => exact low fun _ single => nomatch single
      | bigint | foreign => exact low fun _ _ => rfl
  | bigint i =>
      cases b with
      | undefined | null => cases present
      | bool y => exact (unboolean_sound y back rfl).2
      | bigint => exact absurd ⟨rfl, rfl⟩ apart
      | string t => exact rfl
      | regexp | array | object => exact low fun _ single => nomatch single
      | number | whole | foreign => exact low fun _ _ => rfl
  | string s =>
      cases b with
      | undefined | null => cases present
      | bool y => exact (unboolean_sound y back rfl).2
      | number | whole => exact Rung.sound_read rfl fun y reads => ⟨reads.symm, Nat.one_pos⟩
      | bigint j => exact ⟨looseEquals_comm same _ _, Nat.one_pos⟩
      | string => exact absurd ⟨rfl, rfl⟩ apart
      | regexp | array | object => exact low fun _ single => nomatch single
      | foreign => exact low fun _ _ => rfl
  | regexp | array | object =>
      cases b with
      | undefined | null => cases present
      | bool y => exact (unboolean_sound y back rfl).2
      | regexp | array | object | foreign => exact absurd ⟨rfl, rfl⟩ apart
      | _ => exact low fun single => nomatch single
  | foreign data =>
      cases b with
      | undefined | null => cases present
      | bool y => exact (unboolean_sound y back rfl).2
      | regexp | array | object | foreign => exact absurd ⟨rfl, rfl⟩ apart
      | _ => exact low fun _ _ => rfl

theorem rung_sound (same : Bool) (a b : Value) : (rung same a b).Sound same a b := by
  unfold rung
  split
  · rename_i alike
    exact (looseEquals_alike alike).symm
  · rename_i apart
    split
    · rename_i absent
      exact (looseEquals_nullish apart absent).symm
    · rename_i present
      exact midRung_sound apart (Bool.eq_false_iff.mpr present)

theorem climb_eq {calls : Nat} (enough : height a b < calls) :
    climb same calls a b = some (looseEquals same a b) := by
  -- Whatever a call calls on with is lower, so one call fewer is enough for it.
  induction calls generalizing a b with
  | zero => omega
  | succ calls ih =>
      have sound := rung_sound same a b
      unfold climb
      cases step : rung same a b with
      | answer outcome =>
          rw [step] at sound
          exact congrArg some sound
      | call c d =>
          rw [step] at sound
          rw [← sound.1]
          exact ih (Nat.lt_of_lt_of_le sound.2 (Nat.le_of_lt_succ enough))

theorem height_le (a b : Value) : height a b ≤ 4 := by
  have bound (v : Value) : v.weight ≤ 2 := by cases v <;> simp [weight]
  have left := bound a
  have right := bound b
  unfold height
  split <;> omega

end Ladder

section Refusals

mutual

/-- Data that no script has a value for is nowhere in a value, however deep in its arrays. -/
def native : Value → Bool
  | .foreign _ => false
  | .array entries => nativeEntries entries
  | _ => true

def nativeEntry : Result → Bool
  | .value v _ => v.native
  | _ => true

def nativeEntries : List Result → Bool
  | [] => true
  | result :: rest => nativeEntry result && nativeEntries rest

end

mutual

/-- The text of an array is made of the texts of its elements, and that comes to an end. -/
theorem text_ends : ∀ {v : Value}, v.native = true → v.text ≠ .error .endless
  | .array entries, native, failed => by
      simp only [text] at failed
      split at failed
      · cases failed
      · rename_i cause texts
        cases failed
        exact elementTexts_end (by simpa [Value.native] using native) texts
  | .object members, _, failed => by
      simp only [text] at failed
      split at failed <;> cases failed
  | .whole i, _, failed => by
      simp only [text, numberOfWhole] at failed
      split at failed <;> cases failed
  | .bigint i, _, failed => by
      rw [text] at failed
      cases integerText_error failed
  | .undefined, _, failed | .null, _, failed | .bool _, _, failed | .number _, _, failed
  | .string _, _, failed | .regexp _ _, _, failed => by
      simp [text] at failed
  | .foreign _, native, _ => by simp [Value.native] at native

theorem elementText_ends : ∀ {result : Result}, nativeEntry result = true →
    elementText result ≠ .error .endless
  | .value v span, native, failed => by
      unfold elementText at failed
      split at failed
      · cases failed
      · cases failed
      · rename_i same
        cases same
        exact text_ends (by simpa [nativeEntry] using native) failed
      all_goals rename_i same; cases same
  | .reference _ _, _, failed | .nonStatic, _, failed | .bare _, _, failed => by
      simp only [elementText] at failed
      cases failed

theorem elementTexts_end : ∀ {entries : List Result}, nativeEntries entries = true →
    elementTexts entries ≠ .error .endless
  | [], _, failed => by simp [elementTexts] at failed
  | result :: rest, native, failed => by
      simp only [nativeEntries, Bool.and_eq_true] at native
      simp only [elementTexts] at failed
      split at failed
      · rename_i cause first
        cases failed
        exact elementText_ends native.1 first
      · split at failed
        · cases failed
        · rename_i cause others
          cases failed
          exact elementTexts_end native.2 others

end

mutual

theorem native_of_clean : ∀ {v : Value}, Fold.cleanValue v = true → v.native = true
  | .array entries, clean => by
      simp only [Fold.cleanValue] at clean
      simpa only [native] using native_of_cleanResults clean
  | .undefined, _ | .null, _ | .bool _, _ | .number _, _ | .whole _, _ | .bigint _, _
  | .string _, _ | .regexp _ _, _ | .object _, _ => by simp only [native]
  | .foreign _, clean => by simp [Fold.cleanValue] at clean

theorem native_of_cleanResult : ∀ {result : Result}, Fold.cleanResult result = true →
    nativeEntry result = true
  | .value v span, clean => by
      simp only [Fold.cleanResult] at clean
      simpa only [nativeEntry] using native_of_clean clean
  | .reference _ _, _ | .nonStatic, _ | .bare _, _ => by simp only [nativeEntry]

theorem native_of_cleanResults : ∀ {entries : List Result}, Fold.cleanResults entries = true →
    nativeEntries entries = true
  | [], _ => by simp only [nativeEntries]
  | result :: rest, clean => by
      simp only [Fold.cleanResults, Bool.and_eq_true] at clean
      simp only [nativeEntries, Bool.and_eq_true]
      exact ⟨native_of_cleanResult clean.1, native_of_cleanResults clean.2⟩

end

theorem map_ends {α β : Type} {f : α → β} {outcome : Except Refusal α}
    (ends : outcome ≠ .error .endless) : outcome.map f ≠ .error .endless := by
  cases outcome with
  | ok result => simp [Except.map]
  | error why => simpa [Except.map] using ends

theorem bind_ends {α β : Type} {outcome : Except Refusal α} {next : α → Except Refusal β}
    (ends : outcome ≠ .error .endless) (onward : ∀ result, next result ≠ .error .endless) :
    (outcome >>= next) ≠ .error .endless := by
  cases outcome with
  | ok result => exact onward result
  | error why => simpa [bind, Except.bind] using ends

theorem numberOfText_ends (s : String) : numberOfText s ≠ .error .endless := by
  unfold numberOfText
  split
  · simp
  · split <;> simp

theorem numberOfWhole_ends (i : Int) : numberOfWhole i ≠ .error .endless := by
  unfold numberOfWhole
  split <;> simp

theorem integerOfText_ends (s : String) : integerOfText s ≠ .error .endless :=
  fun failed => nomatch integerOfText_error failed

theorem loosePrimitive_ends (a b : Value) : loosePrimitive a b ≠ .error .endless := by
  unfold loosePrimitive
  split
  case h_1 | h_2 | h_3 | h_4 => exact map_ends (numberOfText_ends _)
  case h_5 | h_6 => exact map_ends (integerOfText_ends _)
  case h_9 | h_10 => exact map_ends (numberOfWhole_ends _)
  all_goals simp

theorem primitive_ends (native : a.native = true) : a.unboolean.primitive ≠ .error .endless := by
  cases a with
  | regexp | array | object => exact map_ends (text_ends native)
  | _ => simp [unboolean, primitive, isContainer]

theorem looseEquals_ends (same : Bool) (native : a.native = true) (nativeToo : b.native = true) :
    looseEquals same a b ≠ .error .endless := by
  rw [looseEquals_eq]
  split
  · simp
  · split
    · simp
    · exact bind_ends (primitive_ends native) fun left =>
        bind_ends (primitive_ends nativeToo) fun right => loosePrimitive_ends left right

end Refusals

/-- The two equalities. Loose equality answers the same in both directions, refusals included.
Strict equality does too, it is never refused, and with containers that are equal only to themselves
it implies the loose one. The ladder needs five calls at most, and the texts that it reads of
containers come to an end however deep these are, with nothing but native values in them. Formed
expressions are folded to no others. -/
theorem equality_laws (same : Bool) (a b : Value) :
    looseEquals same a b = looseEquals same b a ∧
    compare same .strictEqual a b = .ok (strictEquals same a b) ∧
    strictEquals same a b = strictEquals same b a ∧
    ((same = true → a = b) → strictEquals same a b = true → looseEquals same a b = .ok true) ∧
    (∀ calls, 4 < calls → climb same calls a b = some (looseEquals same a b)) ∧
    (a.native = true → b.native = true → looseEquals same a b ≠ .error .endless) ∧
    (∀ table tree span, Fold.Formed .full .expression tree →
      Fold.evaluate table tree = .ok (.value a span) → a.native = true) := by
  refine ⟨looseEquals_comm same a b, rfl, strictEquals_comm same a b, ?_, ?_, looseEquals_ends same,
    fun table _ _ form run => native_of_clean (Fold.clean_of_folded table form run)⟩
  · intro identity equal
    rw [looseEquals_alike (alike_of_strictEquals identity equal), equal]
  · intro calls enough
    exact climb_eq (Nat.lt_of_le_of_lt (height_le a b) enough)

/-- Arrays of arrays around one text. -/
def nest : Nat → Value
  | 0 => .string "1"
  | depth + 1 => .array [.value (nest depth) none]

/-- A bigint is level with the numeral in a nested array, in either direction
and within five calls. -/
theorem nest_equals_bigint :
    looseEquals false (nest 3) (.bigint 1) = looseEquals false (.bigint 1) (nest 3) ∧
      looseEquals true (nest 3) (nest 3) = .ok true ∧
      climb false 5 (nest 3) (.bigint 1) = some (.ok true) ∧
      looseEquals false (nest 3) (.bigint 1) ≠ .error .endless := by
  have laws := equality_laws false (nest 3) (.bigint 1)
  have equal : looseEquals false (nest 3) (.bigint 1) = .ok true := rfl
  refine ⟨laws.1, ?_, ?_, ?_⟩
  · exact (equality_laws true (nest 3) (nest 3)).2.2.2.1 (fun _ => rfl) rfl
  · rw [← equal]
    exact laws.2.2.2.2.1 5 (by decide)
  · exact laws.2.2.2.2.2.1 (by decide) rfl

end Value

end StyleFold
