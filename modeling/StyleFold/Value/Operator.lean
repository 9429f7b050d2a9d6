import StyleFold.Number.Word
import StyleFold.Value.Comparison

/-!
Arithmetic, membership and unary operators on folded values. Arithmetic wants two numbers,
two bigints or two texts; any other pair has no static value and answers undefined.
-/

namespace StyleFold

inductive Arithmetic where
  | add
  | subtract
  | multiply
  | divide
  | remainder
  | power
  | shiftLeft
  | shiftRight
  | shiftRightUnsigned
  | and
  | or
  | xor
  deriving DecidableEq, Repr

namespace Arithmetic

def ofSymbol? (symbol : String) : Option Arithmetic :=
  match symbol with
  | "+" => some .add
  | "-" => some .subtract
  | "*" => some .multiply
  | "/" => some .divide
  | "%" => some .remainder
  | "**" => some .power
  | "<<" => some .shiftLeft
  | ">>" => some .shiftRight
  | ">>>" => some .shiftRightUnsigned
  | "&" => some .and
  | "|" => some .or
  | "^" => some .xor
  | _ => none

def onNumbers (a b : Float) : Arithmetic → Float
  | .add => a + b
  | .subtract => a - b
  | .multiply => a * b
  | .divide => a / b
  | .remainder => Double.remainder a b
  | .power => Double.power a b
  | .shiftLeft => Double.ofInt (Word.shiftLeft a b)
  | .shiftRight => Double.ofInt (Word.shiftRight a b)
  | .shiftRightUnsigned => Double.ofInt (Word.shiftRightUnsigned a b)
  | .and => Double.ofInt (Word.and a b)
  | .or => Double.ofInt (Word.or a b)
  | .xor => Double.ofInt (Word.xor a b)

/-- Results of powers and left shifts may not need more bits than this. -/
def bitLimit : Nat := Nat.pow 2 20

def bigintShiftLeft (a b : Int) : Except Refusal Int :=
  if b < 0 then .ok (Bits.shiftDown a b.natAbs)
  else if bitLimit < Bits.length a + b.toNat then .error .bigintTooLarge
  else .ok (a * Int.pow 2 b.toNat)

def bigintPower (a b : Int) : Except Refusal Int :=
  if b < 0 then .error .negativeExponent
  else if 1 < b && bitLimit < Bits.length a * b.toNat then .error .bigintTooLarge
  else if a = 0 then .ok (if b = 0 then 1 else 0)
  else .ok (Int.pow a b.toNat)

def onBigints (a b : Int) : Arithmetic → Except Refusal Int
  | .add => .ok (a + b)
  | .subtract => .ok (a - b)
  | .multiply => .ok (a * b)
  | .divide => if b = 0 then .error .divisionByZero else .ok (a.tdiv b)
  | .remainder => if b = 0 then .error .divisionByZero else .ok (a.tmod b)
  | .power => bigintPower a b
  | .shiftLeft => bigintShiftLeft a b
  | .shiftRight => bigintShiftLeft a (-b)
  | .shiftRightUnsigned => .error .noUnsignedShift
  | .and => .ok (Bits.and a b)
  | .or => .ok (Bits.or a b)
  | .xor => .ok (Bits.xor a b)

/-- Texts are joined by `+` and read as numbers by every other operator. -/
def onTexts (s t : String) (operator : Arithmetic) : Except Refusal Value :=
  if operator = .add then .ok (.string (s ++ t))
  else do
    let a ← numberOfText s
    let b ← numberOfText t
    return .number (operator.onNumbers a b)

def apply (operator : Arithmetic) (a b : Value) : Except Refusal Value :=
  match a, b with
  | .number x, .number y => .ok (.number (operator.onNumbers x y))
  | .bigint i, .bigint j => (operator.onBigints i j).map .bigint
  | .string s, .string t => operator.onTexts s t
  | a, b =>
      if a.isNumber && b.isNumber then do
        let x ← a.toNumber
        let y ← b.toNumber
        return .number (operator.onNumbers x y)
      else .ok .undefined

def operands (a b : Value) : Except Refusal Unit := do
  if a.type = b.type ∧ (a.type = .number ∨ a.type = .string) then
    let _ ← a.toNumber
    let _ ← b.toNumber

/-- No operator: two texts or numbers are read before that is noticed. -/
def unknown (shown : String) (a b : Value) : Except Fault Value := do
  (operands a b).mapError Fault.refused
  .error (.unknownBinary shown)

def applySymbol (symbol : String) (a b : Value) : Except Fault Value :=
  match ofSymbol? symbol with
  | some operator => (operator.apply a b).mapError .refused
  | none => unknown (Text.quoted symbol) a b

end Arithmetic

inductive Unary where
  | plus
  | minus
  | negate
  | complement
  | typeOf
  | void
  deriving DecidableEq, Repr

namespace Unary

def ofSymbol? (symbol : String) : Option Unary :=
  match symbol with
  | "+" => some .plus
  | "-" => some .minus
  | "!" => some .negate
  | "~" => some .complement
  | "typeof" => some .typeOf
  | "void" => some .void
  | _ => none

def apply (operator : Unary) (v : Value) : Except Refusal Value :=
  match operator with
  | .plus => v.toNumber.map .number
  | .minus =>
      v.toNumeric.map fun
        | .bigint i => .bigint (-i)
        | .number x => .number (-x)
  | .negate => v.test.map fun b => .bool !b
  | .complement =>
      v.toNumeric.map fun
        | .bigint i => .bigint (Bits.complement i)
        | .number x => .number (Double.ofInt (Word.complement x))
  | .typeOf => .ok (.string v.type.word)
  | .void => .ok .undefined

end Unary

namespace Value

/-- The operator `in`, for the properties that a folded container has itself. -/
def hasProperty (key container : Value) : Except Refusal Bool :=
  if container.isContainer then do
    let name ← key.propertyKey
    match container with
    | .array entries =>
        if name == "length" then .ok true
        else (indexOfText name).map fun
          | some index => decide (index < entries.length)
          | none => false
    | .object members => .ok (Members.has members name)
    | _ => .ok (name == "lastIndex")
  else .error .notContainer

/-- No folded value can be called, so nothing is an instance of one. -/
def instanceOf (_ _ : Value) : Except Refusal Bool := .error .notCallable

end Value

end StyleFold
