import StyleFold.Text.Units
import StyleFold.Value.Conversion

/-!
Equality and order of folded values. Containers are equal to themselves only, so every
equality takes a flag `same` that says whether both operands are one container.
Numbers and bigints compare by their exact values, foreign values by how they are written.
-/

namespace StyleFold

inductive Comparison where
  | looseEqual
  | looseDiffers
  | strictEqual
  | strictDiffers
  | less
  | lessOrEqual
  | greater
  | greaterOrEqual
  deriving DecidableEq, Repr

namespace Comparison

def ofSymbol? (symbol : String) : Option Comparison :=
  match symbol with
  | "==" => some .looseEqual
  | "!=" => some .looseDiffers
  | "===" => some .strictEqual
  | "!==" => some .strictDiffers
  | "<" => some .less
  | "<=" => some .lessOrEqual
  | ">" => some .greater
  | ">=" => some .greaterOrEqual
  | _ => none

end Comparison

namespace Value

/-- Operands that were made apart are one container all the same: there is only one empty array. -/
def isShared (a b : Value) : Bool :=
  match a, b with
  | .array [], .array [] => true
  | _, _ => false

theorem isShared_iff {a b : Value} : a.isShared b = true ↔ a = .array [] ∧ b = .array [] := by
  unfold isShared
  split <;> simp_all

def exactly : Value → Option Exact
  | .number x => some (.ofFloat x)
  | .whole i => some (.ofInt i)
  | _ => none

def sameNumber (a b : Value) : Bool :=
  match a.exactly, b.exactly with
  | some x, some y => Exact.same x y
  | _, _ => false

def strictEquals (same : Bool) (a b : Value) : Bool :=
  if a.isContainer || b.isContainer then same
  else match a, b with
    | .undefined, .undefined => true
    | .null, .null => true
    | .bool x, .bool y => x == y
    | .bigint i, .bigint j => i == j
    | .string s, .string t => s == t
    | .foreign data, .foreign other => data.shown == other.shown
    | a, b => sameNumber a b

def unboolean : Value → Value
  | .bool b => .number (Double.ofInt (if b then 1 else 0))
  | other => other

def loosePrimitive (a b : Value) : Except Refusal Bool :=
  match a, b with
  | .number x, .string t => (numberOfText t).map fun y => sameNumber (.number x) (.number y)
  | .string s, .number y => (numberOfText s).map fun x => sameNumber (.number x) (.number y)
  | .whole i, .string t => (numberOfText t).map fun y => sameNumber (.whole i) (.number y)
  | .string s, .whole j => (numberOfText s).map fun x => sameNumber (.number x) (.whole j)
  | .bigint i, .string t => (integerOfText t).map (· == some i)
  | .string s, .bigint j => (integerOfText s).map (· == some j)
  | .bigint i, .number y => .ok (Exact.same (.ofInt i) (.ofFloat y))
  | .number x, .bigint j => .ok (Exact.same (.ofInt j) (.ofFloat x))
  | .bigint i, .whole j => (numberOfWhole j).map fun y => Exact.same (.ofInt i) (.ofFloat y)
  | .whole i, .bigint j => (numberOfWhole i).map fun x => Exact.same (.ofInt j) (.ofFloat x)
  | a, b => .ok (strictEquals false a b)

/-- Operands of one type compare strictly and null equals undefined. Otherwise truth values become
numbers, a container becomes its text, and texts are read as the other operand's kind. -/
def looseEquals (same : Bool) (a b : Value) : Except Refusal Bool :=
  if a.type = b.type ∧ a.isNull = b.isNull then .ok (strictEquals same a b)
  else if a.isNullish || b.isNullish then .ok (a.isNullish && b.isNullish)
  else do
    let left ← a.unboolean.primitive
    let right ← b.unboolean.primitive
    loosePrimitive left right

def textLess (s t : String) : Bool :=
  Text.precedes (Text.units s.toList) (Text.units t.toList)

def lessPrimitive (a b : Value) : Except Refusal (Option Bool) :=
  match a, b with
  | .string s, .string t => .ok (some (textLess s t))
  | .bigint i, .string t => (integerOfText t).map (·.map fun j => decide (i < j))
  | .string s, .bigint j => (integerOfText s).map (·.map fun i => decide (i < j))
  | a, b => do
      let left ← a.toNumeric
      let right ← b.toNumeric
      return Exact.less? left.exact right.exact

def less? (a b : Value) : Except Refusal (Option Bool) := do
  let left ← a.primitive
  let right ← b.primitive
  lessPrimitive left right

def compare (same : Bool) (comparison : Comparison) (a b : Value) : Except Refusal Bool :=
  match comparison with
  | .looseEqual => looseEquals same a b
  | .looseDiffers => (looseEquals same a b).map (!·)
  | .strictEqual => .ok (strictEquals same a b)
  | .strictDiffers => .ok (!strictEquals same a b)
  | .less => (less? a b).map (· == some true)
  | .greater => (less? b a).map (· == some true)
  | .lessOrEqual => (less? b a).map (· == some false)
  | .greaterOrEqual => (less? a b).map (· == some false)

end Value

end StyleFold
