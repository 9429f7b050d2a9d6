/-!
The 16-bit units of texts and the order by them. A character above `FFFF` counts as two
units, both of which lie below `E000`, so this is not the order of code points.
-/

namespace StyleFold.Text

def unitsOf (c : Char) : List Nat :=
  let n := c.toNat
  if n < 0x10000 then [n]
  else [0xD800 + (n - 0x10000) / 0x400, 0xDC00 + (n - 0x10000) % 0x400]

def units (text : List Char) : List Nat :=
  text.flatMap unitsOf

section Halves

def isHigh (unit : Nat) : Bool := 0xD800 ≤ unit && unit < 0xDC00

def isLow (unit : Nat) : Bool := 0xDC00 ≤ unit && unit < 0xE000

def joinHalves (high low : Nat) : Char :=
  Char.ofNat (0x10000 + (high - 0xD800) * 0x400 + (low - 0xDC00))

def ofUnit (unit : Nat) : Char :=
  if isHigh unit || isLow unit then Char.ofNat 0xFFFD else Char.ofNat unit

end Halves

def precedes : List Nat → List Nat → Bool
  | [], [] => false
  | [], _ :: _ => true
  | _ :: _, [] => false
  | left :: lefts, right :: rights =>
      if left < right then true
      else if right < left then false
      else precedes lefts rights

theorem precedes_irrefl (row : List Nat) : precedes row row = false := by
  induction row with
  | nil => rfl
  | cons first rest ih => simp [precedes, ih]

end StyleFold.Text
