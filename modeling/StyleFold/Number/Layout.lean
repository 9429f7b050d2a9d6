import StyleFold.Number.Shortest

/-!
How a double is written. The digits are the shortest ones; a `Layout` decides
where positional notation ends and how the special values are spelled.
-/

namespace StyleFold

structure Layout where
  /-- Points up to this one need an exponent. -/
  below : Int
  /-- Points above this one need an exponent. -/
  above : Int
  /-- Least number of exponent digits. -/
  exponentWidth : Nat
  /-- Whole numbers end in a point and a zero. -/
  pointedWhole : Bool
  /-- A negative zero shows its sign. -/
  signedZero : Bool
  nan : String
  infinity : String

namespace Layout

def zeros (n : Nat) : List Char := List.replicate n '0'

def exponentText (layout : Layout) (exponent : Int) : List Char :=
  let digits := Nat.toDigits 10 exponent.natAbs
  'e' :: (if 0 ≤ exponent then '+' else '-') ::
    (zeros (layout.exponentWidth - digits.length) ++ digits)

def decimalText (layout : Layout) (decimal : Decimal) : List Char :=
  let digits := Nat.toDigits 10 decimal.digits
  let count := digits.length
  let point := decimal.point
  if point ≤ layout.below || layout.above < point then
    match digits with
    | [] => []
    | [first] => first :: layout.exponentText (point - 1)
    | first :: rest => first :: '.' :: (rest ++ layout.exponentText (point - 1))
  else if point ≤ 0 then '0' :: '.' :: (zeros (-point).toNat ++ digits)
  else if (count : Int) ≤ point then
    digits ++ zeros (point.toNat - count) ++ (if layout.pointedWhole then ['.', '0'] else [])
  else digits.take point.toNat ++ '.' :: digits.drop point.toNat

def chars (layout : Layout) (x : Float) : List Char :=
  match Exact.ofFloat x with
  | .nan => layout.nan.toList
  | .infinite negative => (if negative then ['-'] else []) ++ layout.infinity.toList
  | .finite units =>
      if units = 0 then
        (if layout.signedZero && Double.signBit x then ['-'] else []) ++
          (if layout.pointedWhole then ['0', '.', '0'] else ['0'])
      else (if units < 0 then ['-'] else []) ++ layout.decimalText (Decimal.ofFloat x)

def text (layout : Layout) (x : Float) : String := String.ofList (layout.chars x)

end Layout

/-- Numbers as a script writes them: positional from `10^-6` up to `10^21`. -/
def scriptLayout : Layout :=
  { below := -6, above := 21, exponentWidth := 1, pointedWhole := false, signedZero := false
    nan := "NaN", infinity := "Infinity" }

/-- Numbers in quoted notation: positional from `10^-4` up to `10^16`, always with a point. -/
def quotedLayout : Layout :=
  { below := -4, above := 16, exponentWidth := 2, pointedWhole := true, signedZero := true
    nan := "nan", infinity := "inf" }

end StyleFold
