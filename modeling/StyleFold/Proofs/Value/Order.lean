import StyleFold.Proofs.Fold.Totality

/-!
Equality and order of values. The two are read off different conversions of their operands: equality
makes truth values numbers and texts what the other operand is, order makes everything but two texts
a number. Main statement: they agree all the same. Operands are loosely equal exactly when neither
comes before the other, two operands never come before each other, and they are either ordered in
both directions or in none.
-/

namespace StyleFold

theorem map_eq_ok {ε α β : Type} {f : α → β} {outcome : Except ε α} {b : β} :
    outcome.map f = .ok b ↔ ∃ a, outcome = .ok a ∧ f a = b := by
  cases outcome <;> simp [Except.map]

/-! Two answers to the question what comes first, one for each order of the operands. -/

section Directions

def Level (forward backward : Option Bool) : Prop := forward = some false ∧ backward = some false

structure Opposed (forward backward : Option Bool) : Prop where
  notBoth : ¬ (forward = some true ∧ backward = some true)
  unordered : forward = none ↔ backward = none

theorem opposed_of_asymm {left right : Bool} (asymm : ¬ (left = true ∧ right = true)) :
    Opposed (some left) (some right) := by
  constructor
  · simpa using asymm
  · simp

end Directions

/-! Texts, by their units. -/

namespace Text

theorem precedes_asymm (left right : List Nat) :
    ¬ (precedes left right = true ∧ precedes right left = true) := by
  induction left generalizing right with
  | nil => cases right <;> simp [precedes]
  | cons first rest ih =>
      cases right with
      | nil => simp [precedes]
      | cons other others =>
          rcases Nat.lt_trichotomy first other with less | rfl | greater
          · simp [precedes, less, Nat.lt_asymm less]
          · simpa [precedes] using ih others
          · simp [precedes, greater, Nat.lt_asymm greater]

theorem eq_of_level {left right : List Nat} (forward : precedes left right = false)
    (backward : precedes right left = false) : left = right := by
  induction left generalizing right with
  | nil => cases right <;> simp_all [precedes]
  | cons first rest ih =>
      cases right with
      | nil => simp [precedes] at backward
      | cons other others =>
          rcases Nat.lt_trichotomy first other with less | rfl | greater
          · simp [precedes, less] at forward
          · rw [ih (by simpa [precedes] using forward) (by simpa [precedes] using backward)]
          · simp [precedes, greater] at backward

/-- Characters are no halves of pairs, so the units in front tell the first character. -/
theorem unitsOf_append {c d : Char} {rest others : List Nat}
    (same : unitsOf c ++ rest = unitsOf d ++ others) : c = d ∧ rest = others := by
  have left := c.valid
  have right := d.valid
  simp only [UInt32.isValidChar, Nat.isValidChar] at left right
  change c.toNat < _ ∨ _ < c.toNat ∧ c.toNat < _ at left
  change d.toNat < _ ∨ _ < d.toNat ∧ d.toNat < _ at right
  simp only [unitsOf] at same
  -- The first unit is a character of its own or the first half of a pair, and no character is a
  -- half.
  by_cases short : c.toNat < 0x10000
  · by_cases shortToo : d.toNat < 0x10000
    · simp only [short, shortToo, if_true, List.cons_append, List.nil_append,
        List.cons.injEq] at same
      exact ⟨Char.toNat_inj.mp same.1, same.2⟩
    · simp only [short, shortToo, if_true, if_false, List.cons_append, List.cons.injEq] at same
      omega
  · by_cases shortToo : d.toNat < 0x10000
    · simp only [short, shortToo, if_true, if_false, List.cons_append, List.cons.injEq] at same
      omega
    · simp only [short, shortToo, if_false, List.cons_append, List.nil_append,
        List.cons.injEq] at same
      exact ⟨Char.toNat_inj.mp (by omega), same.2.2⟩

theorem unitsOf_ne_nil (c : Char) : unitsOf c ≠ [] := by
  simp only [unitsOf]
  split <;> simp

theorem units_inj {left right : List Char} (same : units left = units right) : left = right := by
  induction left generalizing right with
  | nil =>
      cases right with
      | nil => rfl
      | cons d others => simp [units, unitsOf_ne_nil] at same
  | cons c rest ih =>
      cases right with
      | nil => simp [units, unitsOf_ne_nil] at same
      | cons d others =>
          simp only [units, List.flatMap_cons] at same
          obtain ⟨rfl, later⟩ := unitsOf_append same
          rw [ih later]

end Text

theorem textLess_opposed (s t : String) :
    Opposed (some (Value.textLess s t)) (some (Value.textLess t s)) :=
  opposed_of_asymm (Text.precedes_asymm _ _)

theorem text_level_iff (s t : String) :
    Level (some (Value.textLess s t)) (some (Value.textLess t s)) ↔ s = t := by
  simp only [Level, Option.some.injEq, Value.textLess]
  constructor
  · rintro ⟨forward, backward⟩
    exact String.toList_inj.mp (Text.units_inj (Text.eq_of_level forward backward))
  · rintro rfl
    exact ⟨Text.precedes_irrefl _, Text.precedes_irrefl _⟩

/-! Numbers, by their exact values. -/

namespace Exact

theorem less?_opposed (x y : Exact) : Opposed (less? x y) (less? y x) := by
  cases x with
  | nan => constructor <;> cases y <;> simp [less?]
  | infinite left =>
      cases y with
      | infinite right => cases left <;> cases right <;> constructor <;> simp [less?]
      | _ => constructor <;> simp [less?]
  | finite left =>
      cases y with
      | finite right => exact opposed_of_asymm (by simp; omega)
      | _ => constructor <;> simp [less?]

/-- Zeros of either sign are level, and what is not a number is not even level with itself. -/
theorem level_iff_same (x y : Exact) : Level (less? x y) (less? y x) ↔ same x y = true := by
  cases x with
  | nan => cases y <;> simp [Level, less?, same]
  | infinite left =>
      cases y with
      | infinite right => cases left <;> cases right <;> simp [Level, less?, same]
      | _ => cases left <;> simp [Level, less?, same]
  | finite left =>
      cases y with
      | finite right =>
          simp only [Level, less?, same, Option.some.injEq, decide_eq_false_iff_not,
            decide_eq_true_eq, Exact.finite.injEq]
          omega
      | infinite right => cases right <;> simp [Level, less?, same]
      | nan => simp [Level, less?, same]

theorem same_comm (x y : Exact) : same x y = same y x := by
  rw [Bool.eq_iff_iff, ← level_iff_same, ← level_iff_same]
  exact And.comm

theorem same_ofInt (i j : Int) : same (ofInt i) (ofInt j) = (i == j) := by
  have scale : (one : Int) ≠ 0 := Int.natCast_ne_zero.mpr (Nat.ne_of_gt one_pos)
  rw [Bool.eq_iff_iff]
  simp only [same, ofInt, decide_eq_true_eq, beq_iff_eq, finite.injEq]
  exact Int.mul_eq_mul_right_iff scale

end Exact

namespace Value

section Primitives

def byNumbers (a b : Value) : Except Refusal (Option Bool) := do
  let left ← a.toNumeric
  let right ← b.toNumeric
  return Exact.less? left.exact right.exact

theorem byNumbers_ok {a b : Value} {answer : Option Bool} :
    byNumbers a b = .ok answer ↔ ∃ m n, a.toNumeric = .ok m ∧ b.toNumeric = .ok n ∧
      Exact.less? m.exact n.exact = answer := by
  unfold byNumbers
  cases a.toNumeric <;> cases b.toNumeric <;> simp [bind, Except.bind, pure, Except.pure]

def keepsText : Value → Value → Bool
  | .string _, .string _ | .bigint _, .string _ | .string _, .bigint _ => true
  | _, _ => false

inductive Meeting : Value → Value → Prop where
  | texts (s t : String) : Meeting (.string s) (.string t)
  | bigintText (i : Int) (t : String) : Meeting (.bigint i) (.string t)
  | textBigint (s : String) (j : Int) : Meeting (.string s) (.bigint j)
  | numbers {a b : Value} (apart : keepsText a b = false)
      (forward : lessPrimitive a b = byNumbers a b)
      (backward : lessPrimitive b a = byNumbers b a) : Meeting a b

theorem meeting (a b : Value) : Meeting a b := by
  cases a with
  | string s =>
      cases b with
      | string t => exact .texts s t
      | bigint j => exact .textBigint s j
      | _ => exact .numbers rfl rfl rfl
  | bigint i =>
      cases b with
      | string t => exact .bigintText i t
      | _ => exact .numbers rfl rfl rfl
  | _ => exact .numbers rfl rfl (by cases b <;> rfl)

variable {a b : Value} {forward backward : Option Bool}

theorem integers_opposed (i j : Int) : Opposed (some (decide (i < j))) (some (decide (j < i))) :=
  opposed_of_asymm (by simp; omega)

theorem lessPrimitive_opposed (first : lessPrimitive a b = .ok forward)
    (second : lessPrimitive b a = .ok backward) : Opposed forward backward := by
  cases meeting a b with
  | texts s t =>
      cases first
      cases second
      exact textLess_opposed s t
  | bigintText i t =>
      obtain ⟨read, found, rfl⟩ := map_eq_ok.mp first
      obtain ⟨_, again, rfl⟩ := map_eq_ok.mp second
      cases found.symm.trans again
      cases read with
      | none => constructor <;> simp
      | some j => exact integers_opposed i j
  | textBigint s j =>
      obtain ⟨read, found, rfl⟩ := map_eq_ok.mp first
      obtain ⟨_, again, rfl⟩ := map_eq_ok.mp second
      cases found.symm.trans again
      cases read with
      | none => constructor <;> simp
      | some i => exact integers_opposed i j
  | numbers _ ahead behind =>
      rw [ahead] at first
      rw [behind] at second
      obtain ⟨m, n, left, right, rfl⟩ := byNumbers_ok.mp first
      obtain ⟨n', m', right', left', rfl⟩ := byNumbers_ok.mp second
      cases left.symm.trans left'
      cases right.symm.trans right'
      exact Exact.less?_opposed m.exact n.exact

theorem less?_ok : less? a b = .ok forward ↔ ∃ left right, a.primitive = .ok left ∧
    b.primitive = .ok right ∧ lessPrimitive left right = .ok forward := by
  unfold less?
  cases a.primitive <;> cases b.primitive <;> simp [bind, Except.bind]

/-- Two operands never come before each other, and they are ordered both ways or neither way. -/
theorem less?_opposed (first : less? a b = .ok forward) (second : less? b a = .ok backward) :
    Opposed forward backward := by
  obtain ⟨left, right, here, there, ran⟩ := less?_ok.mp first
  obtain ⟨right', left', there', here', ranToo⟩ := less?_ok.mp second
  cases here.symm.trans here'
  cases there.symm.trans there'
  exact lessPrimitive_opposed ran ranToo

end Primitives

section Equality

/-- A number that is written as a whole is exactly the double that it is rounded to. -/
def Unrounded (v : Value) : Prop :=
  ∀ i x, v = .whole i → numberOfWhole i = .ok x → Exact.ofFloat x = .ofInt i

/-- What is compared once truth values are numbers and containers are texts. -/
inductive Operand : Value → Prop where
  | number (x : Float) : Operand (.number x)
  | whole (i : Int) : Operand (.whole i)
  | bigint (i : Int) : Operand (.bigint i)
  | string (s : String) : Operand (.string s)

theorem number_of_text {s : String} {m : Numeric} (read : (string s).toNumeric = .ok m) :
    ∃ x, numberOfText s = .ok x ∧ m = .number x := by
  obtain ⟨x, run, rfl⟩ := map_eq_ok.mp read
  exact ⟨x, run, rfl⟩

theorem number_of_whole {i : Int} {m : Numeric} (read : (whole i).toNumeric = .ok m) :
    ∃ x, numberOfWhole i = .ok x ∧ m = .number x := by
  obtain ⟨x, run, rfl⟩ := map_eq_ok.mp read
  exact ⟨x, run, rfl⟩

theorem Unrounded.exact_of_toNumeric {i : Int} {m : Numeric} (fits : Unrounded (.whole i))
    (read : (whole i).toNumeric = .ok m) : m.exact = .ofInt i := by
  obtain ⟨x, rounded, rfl⟩ := number_of_whole read
  exact fits i x rfl rounded

variable {a b : Value} {m n : Numeric}

/-- Operands that are both read as numbers are loosely equal when these are the same. -/
theorem loosePrimitive_numeric (left : Operand a) (right : Operand b)
    (apart : keepsText a b = false) (fits : Unrounded a) (fitsToo : Unrounded b)
    (read : a.toNumeric = .ok m) (readToo : b.toNumeric = .ok n) :
    loosePrimitive a b = .ok (Exact.same m.exact n.exact) := by
  cases left with
  | number x =>
      cases read
      cases right with
      | number y =>
          cases readToo
          rfl
      | whole j =>
          rw [fitsToo.exact_of_toNumeric readToo]
          rfl
      | bigint j =>
          -- A bigint comes first in the comparison, on whichever side it is written.
          cases readToo
          rw [Exact.same_comm]
          rfl
      | string t =>
          obtain ⟨y, run, rfl⟩ := number_of_text readToo
          simp [loosePrimitive, run, Except.map, sameNumber, exactly, Numeric.exact]
  | whole i =>
      cases right with
      | number y =>
          cases readToo
          rw [fits.exact_of_toNumeric read]
          rfl
      | whole j =>
          rw [fits.exact_of_toNumeric read, fitsToo.exact_of_toNumeric readToo]
          rfl
      | bigint j =>
          obtain ⟨x, run, rfl⟩ := number_of_whole read
          cases readToo
          rw [Exact.same_comm]
          simp [loosePrimitive, run, Except.map, Numeric.exact]
      | string t =>
          obtain ⟨y, run, rfl⟩ := number_of_text readToo
          rw [fits.exact_of_toNumeric read]
          simp [loosePrimitive, run, Except.map, sameNumber, exactly, Numeric.exact]
  | bigint i =>
      cases read
      cases right with
      | number y =>
          cases readToo
          rfl
      | whole j =>
          obtain ⟨y, run, rfl⟩ := number_of_whole readToo
          simp [loosePrimitive, run, Except.map, Numeric.exact]
      | bigint j =>
          cases readToo
          exact congrArg Except.ok (Exact.same_ofInt i j).symm
      | string t => cases apart
  | string s =>
      cases right with
      | number y =>
          obtain ⟨x, run, rfl⟩ := number_of_text read
          cases readToo
          simp [loosePrimitive, run, Except.map, sameNumber, exactly, Numeric.exact]
      | whole j =>
          obtain ⟨x, run, rfl⟩ := number_of_text read
          rw [fitsToo.exact_of_toNumeric readToo]
          simp [loosePrimitive, run, Except.map, sameNumber, exactly, Numeric.exact]
      | bigint j => cases apart
      | string t => cases apart

theorem loosePrimitive_level {equal : Bool} {forward backward : Option Bool} (left : Operand a)
    (right : Operand b) (fits : Unrounded a) (fitsToo : Unrounded b)
    (equals : loosePrimitive a b = .ok equal) (first : lessPrimitive a b = .ok forward)
    (second : lessPrimitive b a = .ok backward) : equal = true ↔ Level forward backward := by
  -- Equality and order compare these operands by the same reading, one way for each meeting.
  cases meeting a b with
  | texts s t =>
      cases equals
      cases first
      cases second
      rw [text_level_iff]
      simp [strictEquals, isContainer]
  | bigintText i t =>
      obtain ⟨read, found, rfl⟩ := map_eq_ok.mp equals
      obtain ⟨_, again, rfl⟩ := map_eq_ok.mp first
      cases found.symm.trans again
      obtain ⟨_, again, rfl⟩ := map_eq_ok.mp second
      cases found.symm.trans again
      cases read with
      | none => simp [Level]
      | some j =>
          simp [Level]
          omega
  | textBigint s j =>
      obtain ⟨read, found, rfl⟩ := map_eq_ok.mp equals
      obtain ⟨_, again, rfl⟩ := map_eq_ok.mp first
      cases found.symm.trans again
      obtain ⟨_, again, rfl⟩ := map_eq_ok.mp second
      cases found.symm.trans again
      cases read with
      | none => simp [Level]
      | some i =>
          simp [Level]
          omega
  | numbers apart ahead behind =>
      rw [ahead] at first
      rw [behind] at second
      obtain ⟨m, n, read, readToo, rfl⟩ := byNumbers_ok.mp first
      obtain ⟨n', m', again, againToo, rfl⟩ := byNumbers_ok.mp second
      cases read.symm.trans againToo
      cases readToo.symm.trans again
      rw [loosePrimitive_numeric left right apart fits fitsToo read readToo] at equals
      cases equals
      exact (Exact.level_iff_same m.exact n.exact).symm

theorem same_truth (x y : Bool) :
    sameNumber (unboolean (.bool x)) (unboolean (.bool y)) = (x == y) := by
  cases x <;> cases y <;> decide +kernel

end Equality

section Agreement

variable {a b p q : Value} {forward backward : Option Bool}

/-- A value that is not there has no place in the order, and a foreign one no number. -/
structure Ordinary (v : Value) : Prop where
  present : v.isNullish = false
  native : ∀ data, v ≠ .foreign data

theorem Ordinary.container_iff (ordinary : Ordinary a) :
    a.isContainer = true ↔ a.type = .object := by
  cases a with
  | null => exact absurd ordinary.present (by simp [isNullish])
  | foreign data => exact absurd rfl (ordinary.native data)
  | _ => simp [isContainer, type]

theorem toNumeric_foreign (data : Data) (m : Numeric) : (foreign data).toNumeric ≠ .ok m := by
  simp [toNumeric, toNumber, text, Except.map]

theorem native_of_less? (ran : less? a b = .ok forward) :
    (∀ data, a ≠ .foreign data) ∧ ∀ data, b ≠ .foreign data := by
  obtain ⟨left, right, here, there, ran⟩ := less?_ok.mp ran
  constructor
  · rintro data rfl
    cases here
    obtain ⟨m, _, read, _⟩ := byNumbers_ok.mp ran
    exact toNumeric_foreign data m read
  · rintro data rfl
    cases there
    have numbers : lessPrimitive left (.foreign data) = byNumbers left (.foreign data) := by
      cases left <;> rfl
    rw [numbers] at ran
    obtain ⟨_, n, _, read, _⟩ := byNumbers_ok.mp ran
    exact toNumeric_foreign data n read

theorem primitive_of_single (single : a.isContainer = false) : a.primitive = .ok a := by
  unfold primitive
  rw [single]
  rfl

theorem string_of_primitive (container : a.isContainer = true) (read : a.primitive = .ok p) :
    ∃ s, p = .string s := by
  rw [primitive, if_pos container] at read
  obtain ⟨s, _, rfl⟩ := map_eq_ok.mp read
  exact ⟨s, rfl⟩

theorem unboolean_primitive (read : a.primitive = .ok p) :
    a.unboolean.primitive = .ok p.unboolean := by
  by_cases container : a.isContainer = true
  · obtain ⟨s, rfl⟩ := string_of_primitive container read
    cases a with
    | regexp | array | object => exact read
    | _ => cases container
  · cases a with
    | regexp | array | object => exact absurd rfl container
    | _ =>
        cases read
        rfl

theorem operand_of_primitive (ordinary : Ordinary a) (read : a.primitive = .ok p) :
    Operand p.unboolean := by
  by_cases container : a.isContainer = true
  · obtain ⟨s, rfl⟩ := string_of_primitive container read
    exact .string s
  · cases a with
    | regexp | array | object => exact absurd rfl container
    | undefined | null => exact absurd ordinary.present (by simp [isNullish])
    | foreign data => exact absurd rfl (ordinary.native data)
    | _ =>
        cases read
        constructor

theorem Unrounded.of_primitive (fits : Unrounded a) (read : a.primitive = .ok p) :
    Unrounded p.unboolean := by
  intro i x whole rounded
  by_cases container : a.isContainer = true
  · obtain ⟨s, rfl⟩ := string_of_primitive container read
    cases whole
  · rw [primitive, if_neg container] at read
    cases read
    cases a with
    | whole j =>
        cases whole
        exact fits i x rfl rounded
    | _ => cases whole

theorem lessPrimitive_unboolean (p q : Value) :
    lessPrimitive p.unboolean q.unboolean = lessPrimitive p q := by
  cases p <;> cases q <;> rfl

/-- Operands of one type are compared as they are, which is no other way of comparing them. -/
theorem strictEquals_ladder (same : Bool) (ordinary : Ordinary a) (ordinaryToo : Ordinary b)
    (alike : a.type = b.type) (single : a.isContainer = false) :
    loosePrimitive a.unboolean b.unboolean = .ok (strictEquals same a b) := by
  cases a with
  | undefined | null => exact absurd ordinary.present (by simp [isNullish])
  | foreign data => exact absurd rfl (ordinary.native data)
  | regexp | array | object => cases single
  | bool x =>
      cases b with
      | bool y => exact congrArg Except.ok (same_truth x y)
      | _ => cases alike
  | number | whole =>
      cases b with
      | number | whole => rfl
      | _ => cases alike
  | bigint =>
      cases b with
      | bigint => rfl
      | _ => cases alike
  | string =>
      cases b with
      | string => rfl
      | _ => cases alike

theorem looseEquals_ladder (same : Bool) (ordinary : Ordinary a) (ordinaryToo : Ordinary b)
    (notBoth : ¬ (a.isContainer = true ∧ b.isContainer = true)) (read : a.primitive = .ok p)
    (readToo : b.primitive = .ok q) :
    looseEquals same a b = loosePrimitive p.unboolean q.unboolean := by
  unfold looseEquals
  split
  -- Operands of one type are no containers here: there would be two of them.
  · rename_i alike
    have single : a.isContainer = false := by
      rw [← Bool.not_eq_true]
      intro container
      have object := ordinary.container_iff.mp container
      exact notBoth ⟨container, ordinaryToo.container_iff.mpr (alike.1 ▸ object)⟩
    have singleToo : b.isContainer = false := by
      rw [← Bool.not_eq_true]
      intro container
      have object := ordinaryToo.container_iff.mp container
      exact notBoth ⟨ordinary.container_iff.mpr (alike.1.trans object), container⟩
    simp only [primitive, single, singleToo] at read readToo
    cases read
    cases readToo
    exact (strictEquals_ladder same ordinary ordinaryToo alike.1 single).symm
  · rw [ordinary.present, ordinaryToo.present, unboolean_primitive read,
      unboolean_primitive readToo]
    rfl

theorem Unrounded.of_folded {table : ScopeTable} {tree : Data} {span : Option Span}
    (form : Fold.Formed .full .expression tree)
    (run : Fold.evaluate table tree = .ok (.value a span)) : Unrounded a := by
  have clean := Fold.clean_of_folded table form run
  rintro i x rfl
  cases clean

/-- Loose equality and order agree. Of two values that are there and are not both containers, they
are equal exactly when each is at most the other; and of any two values the order forwards and
backwards is consistent. A number that is still written as a whole takes part if it is the double it
is rounded to, but no formed expression is folded to one. -/
theorem equality_agrees_with_order (a b : Value) :
    (∀ same equal below above, a.isNullish = false → b.isNullish = false →
      ¬ (a.isContainer = true ∧ b.isContainer = true) → Unrounded a → Unrounded b →
      compare same .looseEqual a b = .ok equal → compare same .lessOrEqual a b = .ok below →
      compare same .greaterOrEqual a b = .ok above →
      (equal = true ↔ below = true ∧ above = true)) ∧
    (∀ table tree span, Fold.Formed .full .expression tree →
      Fold.evaluate table tree = .ok (.value a span) → Unrounded a) ∧
    ∀ forward backward, less? a b = .ok forward → less? b a = .ok backward →
      ¬ (forward = some true ∧ backward = some true) ∧ (forward = none ↔ backward = none) := by
  refine ⟨?_, fun _ _ _ form run => .of_folded form run, ?_⟩
  · intro same equal below above present presentToo notBoth fits fitsToo equals atMost atLeast
    obtain ⟨backward, second, rfl⟩ := map_eq_ok.mp atMost
    obtain ⟨forward, first, rfl⟩ := map_eq_ok.mp atLeast
    obtain ⟨native, nativeToo⟩ := native_of_less? first
    have ordinary : Ordinary a := ⟨present, native⟩
    have ordinaryToo : Ordinary b := ⟨presentToo, nativeToo⟩
    obtain ⟨p, q, read, readToo, ran⟩ := less?_ok.mp first
    obtain ⟨q', p', readToo', read', ranToo⟩ := less?_ok.mp second
    cases read.symm.trans read'
    cases readToo.symm.trans readToo'
    rw [← lessPrimitive_unboolean] at ran ranToo
    have loose : loosePrimitive p.unboolean q.unboolean = .ok equal :=
      (looseEquals_ladder same ordinary ordinaryToo notBoth read readToo).symm.trans equals
    rw [loosePrimitive_level (operand_of_primitive ordinary read)
      (operand_of_primitive ordinaryToo readToo) (fits.of_primitive read)
      (fitsToo.of_primitive readToo) loose ran ranToo]
    simp only [Level, beq_iff_eq]
    exact And.comm
  · intro forward backward first second
    have opposed := less?_opposed first second
    exact ⟨opposed.notBoth, opposed.unordered⟩

/-- An array of one numeral, with a radix mark and blanks around it. -/
def paddedNumeral : Value := .array [.value (.string " 0x10 ") none]

/-- Sixteen is at most the array and at least the array, and so it is equal to the array. -/
theorem paddedNumeral_equals_bigint :
    compare false .lessOrEqual paddedNumeral (.bigint 16) = .ok true ∧
      compare false .greaterOrEqual paddedNumeral (.bigint 16) = .ok true ∧
      (∃ equal, compare false .looseEqual paddedNumeral (.bigint 16) = .ok equal ∧ equal = true) ∧
      ∃ forward backward, less? paddedNumeral (.bigint 17) = .ok forward ∧
        less? (.bigint 17) paddedNumeral = .ok backward ∧
        ¬ (forward = some true ∧ backward = some true) ∧ (forward = none ↔ backward = none) := by
  have fits (v : Value) (notWhole : ∀ i, v ≠ .whole i) : Unrounded v :=
    fun i _ whole _ => absurd whole (notWhole i)
  refine ⟨rfl, rfl, ⟨true, rfl, ?_⟩, some true, some false, rfl, rfl, ?_⟩
  · have agrees := (equality_agrees_with_order paddedNumeral (.bigint 16)).1 false true true true
    exact (agrees rfl rfl (by simp [isContainer]) (fits _ (by simp [paddedNumeral]))
      (fits _ (by simp)) rfl rfl rfl).mpr ⟨rfl, rfl⟩
  · exact (equality_agrees_with_order paddedNumeral (.bigint 17)).2.2 _ _ rfl rfl

end Agreement

end Value

end StyleFold
