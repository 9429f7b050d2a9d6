import StyleFold.Number.Numeral
import StyleFold.Text.Lowercase

/-!
Numerals written for people: in literals, spans, offsets and settings. Single
underscores may group digits, and decimal digits of every script count.
-/

namespace StyleFold

namespace Grouped

/-- Zeros of the decimal digits beyond ASCII; the nine other digits follow each. -/
def zeros : List Nat :=
  [0x660, 0x6F0, 0x7C0, 0x966, 0x9E6, 0xA66, 0xAE6, 0xB66, 0xBE6, 0xC66, 0xCE6, 0xD66, 0xDE6,
   0xE50, 0xED0, 0xF20, 0x1040, 0x1090, 0x17E0, 0x1810, 0x1946, 0x19D0, 0x1A80, 0x1A90, 0x1B50,
   0x1BB0, 0x1C40, 0x1C50, 0xA620, 0xA8D0, 0xA900, 0xA9D0, 0xA9F0, 0xAA50, 0xABF0, 0xFF10,
   0x104A0, 0x10D30, 0x11066, 0x110F0, 0x11136, 0x111D0, 0x112F0, 0x11450, 0x114D0, 0x11650,
   0x116C0, 0x11730, 0x118E0, 0x11950, 0x11C50, 0x11D50, 0x11DA0, 0x16A60, 0x16AC0, 0x16B50,
   0x1D7CE, 0x1D7D8, 0x1D7E2, 0x1D7EC, 0x1D7F6, 0x1E140, 0x1E2F0, 0x1E950, 0x1FBF0]

/-- A digit or blank beyond ASCII as its ASCII one; ASCII itself stays, so the information
separators are no blanks here. -/
def plainChar (c : Char) : Char :=
  let n := c.toNat
  if n < 0x80 then c
  else if Text.isBlank c then ' '
  else match zeros.find? (fun nought => nought ≤ n && n < nought + 10) with
    | some nought => Char.ofNat (48 + (n - nought))
    | none => c

def plain (text : List Char) : List Char := Text.trim Text.isPlainBlank (text.map plainChar)

/-- Removes underscores that stand between two digits; any other underscore is a fault. -/
def ungroup? (digit : Char → Bool) (afterDigit : Bool) : List Char → Option (List Char)
  | [] => some []
  | c :: rest =>
      if c == '_' then
        match rest with
        | next :: _ => if afterDigit && digit next then ungroup? digit false rest else none
        | [] => none
      else (ungroup? digit (digit c) rest).map (c :: ·)

/-- The number that digits denote. Only decimal ones can be too many. -/
def readDigits? (radix : Nat) (afterDigit : Bool) (text : List Char) : Option Nat :=
  match ungroup? (isDigitIn radix) afterDigit text with
  | some digits =>
      if digits.isEmpty || !digits.all (isDigitIn radix) then none
      else if radix = 10 ∧ digitLimit < digits.length then none
      else some (digitsValue radix digits)
  | none => none

def readInt? (text : String) : Option Int :=
  let (negative, body) := splitSign (plain text.toList)
  (readDigits? 10 false body).map (Exact.signed negative)

def readIn? (radix : Nat) (text : List Char) : Option Int :=
  let (negative, body) := splitSign (plain text)
  let size? : Option Nat :=
    match body with
    | '0' :: mark :: digits =>
        if radixOf? mark = some radix then readDigits? radix true digits
        else readDigits? radix false body
    | _ => readDigits? radix false body
  size?.map (Exact.signed negative)

def readLiteral? (text : List Char) : Option Int :=
  let (negative, body) := splitSign (plain text)
  let size? : Option Nat :=
    match body with
    | '0' :: mark :: digits =>
        match radixOf? mark with
        | some radix => readDigits? radix true digits
        | none =>
            match readDigits? 10 false body with
            | some 0 => some 0
            | _ => none
    | _ => readDigits? 10 false body
  size?.map (Exact.signed negative)

/-- A decimal number, or one of the words for infinity and not-a-number in any case. -/
def readFloat? (text : String) : Option Float :=
  let body := plain text.toList
  let (negative, bare) := splitSign body
  let word := Text.lower bare
  if word = "inf".toList || word = "infinity".toList then some (Double.infinity negative)
  else if word = "nan".toList then some Double.notANumber
  else match ungroup? isDecimalDigit false body with
    | some digits => (Numeral.readDecimal? digits).bind Numeral.toFloat?
    | none => none

end Grouped

end StyleFold
