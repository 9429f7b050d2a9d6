/-!
Doubles read exactly. Every finite double is a whole multiple of `2^-1074`, so its
value is an integer in that unit; order, truncation and remainder are integer
arithmetic on it. The other direction, `nearest`, rounds a quotient to the
closest double and takes the even one of two that are equally close.
-/

namespace StyleFold

/-- What a double stands for. A zero of either sign is `finite 0`. -/
inductive Exact where
  | nan
  | infinite (negative : Bool)
  | finite (units : Int)
  deriving DecidableEq, Repr

namespace Exact

def one : Nat := Nat.pow 2 1074

theorem one_pos : 0 < one := by decide +kernel

def isNegative (bits : Nat) : Bool := Nat.pow 2 63 ≤ bits

def exponentOf (bits : Nat) : Nat := bits / Nat.pow 2 52 % Nat.pow 2 11

def fractionOf (bits : Nat) : Nat := bits % Nat.pow 2 52

def magnitude (bits : Nat) : Nat :=
  if exponentOf bits = 0 then fractionOf bits
  else (Nat.pow 2 52 + fractionOf bits) * Nat.pow 2 (exponentOf bits - 1)

def signed (negative : Bool) (size : Nat) : Int :=
  if negative then -(size : Int) else size

def ofBits (bits : Nat) : Exact :=
  if exponentOf bits = 2047 then
    if fractionOf bits = 0 then .infinite (isNegative bits) else .nan
  else .finite (signed (isNegative bits) (magnitude bits))

def ofFloat (x : Float) : Exact := ofBits x.toBits.toNat

def ofInt (i : Int) : Exact := .finite (i * one)

def less? : Exact → Exact → Option Bool
  | .nan, _ => none
  | _, .nan => none
  | .infinite left, .infinite right => some (left && !right)
  | .infinite left, .finite _ => some left
  | .finite _, .infinite right => some (!right)
  | .finite left, .finite right => some (decide (left < right))

def same : Exact → Exact → Bool
  | .nan, _ => false
  | _, .nan => false
  | left, right => decide (left = right)

def whole? : Exact → Option Int
  | .finite units => some (units.tdiv one)
  | _ => none

def isZero (value : Exact) : Bool := decide (value = .finite 0)

end Exact

namespace Double

def signBit (x : Float) : Bool := Exact.isNegative x.toBits.toNat

def ofPattern (negative : Bool) (pattern : Nat) : Float :=
  Float.ofBits (UInt64.ofNat (if negative then pattern + Nat.pow 2 63 else pattern))

def infinity (negative : Bool) : Float := ofPattern negative (2047 * Nat.pow 2 52)

def zero (negative : Bool) : Float := ofPattern negative 0

def notANumber : Float := ofPattern false (2047 * Nat.pow 2 52 + Nat.pow 2 51)

def roundHalfEven (numerator denominator : Nat) : Nat :=
  let quotient := numerator / denominator
  let rest := 2 * (numerator % denominator)
  if rest < denominator then quotient
  else if denominator < rest then quotient + 1
  else quotient + quotient % 2

def leadingPlace (numerator denominator : Nat) : Int :=
  let guess : Int := (numerator.log2 : Int) - denominator.log2
  let reached :=
    if 0 ≤ guess then decide (denominator * Nat.pow 2 guess.toNat ≤ numerator)
    else decide (denominator ≤ numerator * Nat.pow 2 (-guess).toNat)
  if reached then guess else guess - 1

/-- The bit pattern, sign apart, of the double closest to a quotient. Adding the rounded
mantissa to the shifted exponent carries into the exponent where it has to. -/
def nearestPattern (numerator denominator : Nat) : Nat :=
  if numerator = 0 then 0
  else
    let place : Int := max (leadingPlace numerator denominator - 52) (-1074)
    let mantissa :=
      if 0 ≤ place then roundHalfEven numerator (denominator * Nat.pow 2 place.toNat)
      else roundHalfEven (numerator * Nat.pow 2 (-place).toNat) denominator
    min ((place + 1074).toNat * Nat.pow 2 52 + mantissa) (2047 * Nat.pow 2 52)

/-- The double closest to a signed quotient; infinite beyond the range. -/
def nearest (negative : Bool) (numerator denominator : Nat) : Float :=
  ofPattern negative (nearestPattern numerator denominator)

def ofInt (i : Int) : Float := nearest (decide (i < 0)) i.natAbs 1

def ofInt? (i : Int) : Option Float :=
  if nearestPattern i.natAbs 1 < 2047 * Nat.pow 2 52 then some (ofInt i) else none

/-- The remainder of a division toward zero: exact, with the sign of the dividend.
Without a remainder to speak of the answer is not a number. -/
def remainder (a b : Float) : Float :=
  match Exact.ofFloat a, Exact.ofFloat b with
  | .finite dividend, .finite divisor =>
      if divisor = 0 then notANumber
      else if dividend = 0 then a
      else nearest (signBit a) (dividend.tmod divisor).natAbs Exact.one
  | .finite _, .infinite _ => a
  | _, _ => notANumber

def isOddWhole (x : Float) : Bool :=
  match Exact.ofFloat x with
  | .finite units => units.tmod Exact.one == 0 && units.tdiv Exact.one % 2 == 1
  | _ => false

def isUnit (x : Float) : Bool :=
  match Exact.ofFloat x with
  | .finite units => units.natAbs == Exact.one
  | _ => false

def isInfinite (x : Float) : Bool :=
  match Exact.ofFloat x with
  | .infinite _ => true
  | _ => false

def isNegative (x : Float) : Bool :=
  Exact.less? (Exact.ofFloat x) (.finite 0) == some true

/-- Powers: a zero exponent gives one whatever the base, a base of size one
raised to an infinite exponent is not a number. -/
def power (a b : Float) : Float :=
  let base := Exact.ofFloat a
  let exponent := Exact.ofFloat b
  if exponent = .nan then notANumber
  else if exponent.isZero then ofInt 1
  else if base = .nan then notANumber
  else if isUnit a && isInfinite b then notANumber
  else if base.isZero && isNegative b then infinity (signBit a && isOddWhole b)
  else Float.pow a b

end Double

end StyleFold
