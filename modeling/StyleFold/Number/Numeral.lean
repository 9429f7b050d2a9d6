import StyleFold.Number.Double
import StyleFold.Text.Blank

/-!
Numerals as a script reads them from text. `Numeral.read?` is the grammar: a
decimal with an optional sign, point and exponent, an unsigned numeral in radix
sixteen, eight or two, a signed infinity, or nothing at all. `Numeral` keeps the
value before rounding; `toFloat?` rounds it.
-/

namespace StyleFold

def isDecimalDigit (c : Char) : Bool := '0' ≤ c && c ≤ '9'

def digitValue (c : Char) : Nat :=
  if '0' ≤ c && c ≤ '9' then c.toNat - 48
  else if 'a' ≤ c && c ≤ 'f' then c.toNat - 87
  else if 'A' ≤ c && c ≤ 'F' then c.toNat - 55
  else 16

def isDigitIn (radix : Nat) (c : Char) : Bool := digitValue c < radix

def digitsValue (radix : Nat) (digits : List Char) : Nat :=
  digits.foldl (fun total c => total * radix + digitValue c) 0

/-- Decimal digits that an integer may have where it is read from text or written as text. -/
def digitLimit : Nat := 4300

def isOverlong (i : Int) : Bool := decide (digitLimit < (Nat.toDigits 10 i.natAbs).length)

/-- The number of the digits in front, as many as there are up to `most` and `least` at least,
and the text after them. -/
def takeDigits? (least most : Nat) (text : List Char) : Option (Nat × List Char) :=
  let digits := (text.takeWhile isDecimalDigit).take most
  if least ≤ digits.length then some (digitsValue 10 digits, text.drop digits.length) else none

def splitSign : List Char → Bool × List Char
  | '-' :: rest => (true, rest)
  | '+' :: rest => (false, rest)
  | text => (false, text)

def radixOf? (mark : Char) : Option Nat :=
  if mark == 'x' || mark == 'X' then some 16
  else if mark == 'o' || mark == 'O' then some 8
  else if mark == 'b' || mark == 'B' then some 2
  else none

def readRadix? : List Char → Option Nat
  | '0' :: mark :: digits =>
      match radixOf? mark with
      | some radix =>
          if !digits.isEmpty && digits.all (isDigitIn radix) then some (digitsValue radix digits)
          else none
      | none => none
  | _ => none

/-- A number in text before it is rounded. -/
inductive Numeral where
  | infinite (negative : Bool)
  | whole (value : Nat)
  | decimal (negative : Bool) (digits : Nat) (exponent : Int)
  deriving DecidableEq, Repr

namespace Numeral

def readExponent? : List Char → Option Int
  | [] => some 0
  | mark :: rest =>
      if mark == 'e' || mark == 'E' then
        let (negative, digits) := splitSign rest
        if !digits.isEmpty && digits.all isDecimalDigit then
          some (Exact.signed negative (digitsValue 10 digits))
        else none
      else none

def splitFraction : List Char → List Char × List Char
  | '.' :: rest => (rest.takeWhile isDecimalDigit, rest.dropWhile isDecimalDigit)
  | text => ([], text)

def readDecimal? (text : List Char) : Option Numeral :=
  let (negative, body) := splitSign text
  let whole := body.takeWhile isDecimalDigit
  let (fraction, rest) := splitFraction (body.dropWhile isDecimalDigit)
  if whole.isEmpty && fraction.isEmpty then none
  else match readExponent? rest with
    | some exponent =>
        some (.decimal negative (digitsValue 10 (whole ++ fraction)) (exponent - fraction.length))
    | none => none

def readInfinity? (text : List Char) : Option Numeral :=
  let (negative, body) := splitSign text
  if body = "Infinity".toList then some (.infinite negative) else none

def read? (text : List Char) : Option Numeral :=
  let body := Text.trim Text.isScriptBlank text
  if body.isEmpty then some (.whole 0)
  else match readInfinity? body with
    | some numeral => some numeral
    | none =>
        match readRadix? body with
        | some value => some (.whole value)
        | none => readDecimal? body

/-- Rounds `± digits · 10^exponent`. Far outside the range the power of ten is not formed. -/
def roundDecimal (negative : Bool) (digits : Nat) (exponent : Int) : Float :=
  let size : Int := (Nat.toDigits 10 digits).length + exponent
  if digits = 0 then Double.zero negative
  else if 400 < size then Double.infinity negative
  else if size < -400 then Double.zero negative
  else if 0 ≤ exponent then Double.nearest negative (digits * Nat.pow 10 exponent.toNat) 1
  else Double.nearest negative digits (Nat.pow 10 (-exponent).toNat)

/-- The double of a numeral; a whole numeral out of range has none. -/
def toFloat? : Numeral → Option Float
  | .infinite negative => some (Double.infinity negative)
  | .whole value => Double.ofInt? value
  | .decimal negative digits exponent => some (roundDecimal negative digits exponent)

end Numeral

end StyleFold
