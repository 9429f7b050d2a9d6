import StyleFold.Fault
import StyleFold.Number.Numeral
import StyleFold.Value.Basic

/-!
Conversions of folded values. The text of an array is that of its elements, joined by
commas; it is refused when an element is not a static value. The text of an object
is refused when the object may bring its own conversion. A foreign value is converted by
converting it again, which has no end.
-/

namespace StyleFold

def numberOfText (s : String) : Except Refusal Float :=
  match Numeral.read? s.toList with
  | none => .ok Double.notANumber
  | some numeral =>
      match numeral.toFloat? with
      | some x => .ok x
      | none => .error .outOfRange

def numberOfWhole (i : Int) : Except Refusal Float :=
  match Double.ofInt? i with
  | some x => .ok x
  | none => .error .outOfRange

def numberText (x : Float) : String := scriptLayout.text x

def integerText (i : Int) : Except Refusal String :=
  if isOverlong i then .error .tooManyDigits else .ok (toString i)

/-- The integer that a text is, blanks around it apart: empty, with a radix mark, or decimal digits
with an optional sign. -/
def integerOfText (s : String) : Except Refusal (Option Int) :=
  let body := Text.trim Text.isScriptBlank s.toList
  if body.isEmpty then .ok (some 0)
  else match readRadix? body with
    | some value => .ok (some value)
    | none =>
        let (negative, digits) := splitSign body
        if digits.isEmpty || !digits.all isDecimalDigit then .ok none
        else if digitLimit < digits.length then .error .tooManyDigits
        else .ok (some (Exact.signed negative (digitsValue 10 digits)))

/-- The index that a property name stands for: a decimal numeral without leading
zeros, below `2^32 - 1`. -/
def indexOfText (s : String) : Except Refusal (Option Nat) :=
  let digits := s.toList
  if digits.isEmpty || !digits.all isDecimalDigit ||
      (digits != ['0'] && digits.head? == some '0') then
    .ok none
  else if digitLimit < digits.length then .error .tooManyDigits
  else
    let index := digitsValue 10 digits
    .ok (if index < Nat.pow 2 32 - 1 then some index else none)

section Limit

variable {i : Int} {s : String} {why : Refusal}

theorem integerText_error (failed : integerText i = .error why) : why = .tooManyDigits := by
  unfold integerText at failed
  split at failed <;> cases failed
  rfl

theorem integerOfText_error (failed : integerOfText s = .error why) : why = .tooManyDigits := by
  unfold integerOfText at failed
  dsimp only at failed
  split at failed
  · cases failed
  · split at failed
    · cases failed
    · split at failed
      · cases failed
      · split at failed <;> cases failed
        rfl

theorem indexOfText_error (failed : indexOfText s = .error why) : why = .tooManyDigits := by
  unfold indexOfText at failed
  dsimp only at failed
  split at failed
  · cases failed
  · split at failed <;> cases failed
    rfl

end Limit

namespace Value

def rounds : Value → Bool
  | .whole i => (Double.ofInt? i).isSome
  | _ => true

def truthy : Value → Bool
  | .undefined => false
  | .null => false
  | .bool b => b
  | .bigint i => decide (i ≠ 0)
  | .whole i => decide (i ≠ 0)
  | .number x =>
      match Exact.ofFloat x with
      | .nan => false
      | value => !value.isZero
  | .string s => !s.isEmpty
  | _ => true

/-- The truth of a value that something hangs on. A number has to be a double for that. -/
def test (v : Value) : Except Refusal Bool :=
  match v with
  | .whole i => (numberOfWhole i).map fun _ => v.truthy
  | _ => .ok v.truthy

mutual

def text : Value → Except Refusal String
  | .undefined => .ok "undefined"
  | .null => .ok "null"
  | .bool b => .ok (if b then "true" else "false")
  | .number x => .ok (numberText x)
  | .whole i => (numberOfWhole i).map numberText
  | .bigint i => integerText i
  | .string s => .ok s
  | .regexp pattern flags => .ok ("/" ++ pattern.plain ++ "/" ++ flags.plain)
  | .array entries =>
      match elementTexts entries with
      | .ok texts => .ok (",".intercalate texts)
      | .error why => .error why
  | .object members =>
      if Members.has members "toString" || Members.has members "valueOf" then .error .ownConversion
      else .ok "[object Object]"
  | .foreign _ => .error .endless

def elementText : Result → Except Refusal String
  | .value .undefined _ => .ok ""
  | .value .null _ => .ok ""
  | .value v _ => v.text
  | .reference _ _ => .error .unknownElement
  | .nonStatic => .error .unknownElement
  | .bare _ => .error .unknownElement

def elementTexts : List Result → Except Refusal (List String)
  | [] => .ok []
  | result :: rest =>
      match elementText result with
      | .error why => .error why
      | .ok first =>
          match elementTexts rest with
          | .ok others => .ok (first :: others)
          | .error why => .error why

end

def primitive (v : Value) : Except Refusal Value :=
  if v.isContainer then v.text.map .string else .ok v

def propertyKey (v : Value) : Except Refusal String := v.text

def toNumber (v : Value) : Except Refusal Float :=
  match v with
  | .undefined => .ok Double.notANumber
  | .null => .ok (Double.zero false)
  | .bool b => .ok (Double.ofInt (if b then 1 else 0))
  | .number x => .ok x
  | .whole i => numberOfWhole i
  | .bigint _ => .error .bigintToNumber
  | .string s => numberOfText s
  | container =>
      match container.text with
      | .ok s => numberOfText s
      | .error why => .error why

end Value

/-- A number or a bigint. -/
inductive Numeric where
  | number (x : Float)
  | bigint (i : Int)

namespace Numeric

def exact : Numeric → Exact
  | .number x => .ofFloat x
  | .bigint i => .ofInt i

end Numeric

def Value.toNumeric (v : Value) : Except Refusal Numeric :=
  match v with
  | .bigint i => .ok (.bigint i)
  | other => other.toNumber.map .number

end StyleFold
