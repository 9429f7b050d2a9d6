import StyleFold.Number.Double

/-!
Shortest decimal digits of a double: the fewest digits that read back as the same
double, and of those the closest to its value. For one digit, two digits and so
on the two neighbours of the value on that decimal grid are tested against the
interval of numbers that round to the double. The interval contains its ends
when the mantissa is even.
-/

namespace StyleFold

/-- A positive decimal `0.d₁d₂… · 10^point` with the digits as one whole number. -/
structure Decimal where
  digits : Nat
  point : Int
  deriving DecidableEq, Repr

namespace Decimal

def digitCount (n : Nat) : Nat := (Nat.toDigits 10 n).length

/-- Numbers that round to a double, in quarters of the unit. -/
structure Interval where
  low : Nat
  high : Nat
  closed : Bool

/-- The neighbours of a double lie one mantissa step away, below a power of two half a step. -/
def intervalOf (bits : Nat) : Interval :=
  let step := Nat.pow 2 (Exact.exponentOf bits - 1)
  let value := 4 * Exact.magnitude bits
  let below := if Exact.fractionOf bits = 0 && 1 < Exact.exponentOf bits then step else 2 * step
  ⟨value - below, value + 2 * step, Exact.fractionOf bits % 2 == 0⟩

def pointOf (numerator denominator : Nat) : Int :=
  if denominator ≤ numerator then digitCount (numerator / denominator)
  else 1 - digitCount ((denominator - 1) / numerator)

def quotientOf (count : Nat) (place : Int) : Nat × Nat :=
  if 0 ≤ place then (count * Nat.pow 10 place.toNat, 1) else (count, Nat.pow 10 (-place).toNat)

/-- The interval, in quarters of the unit, contains a quotient. -/
def Interval.contains (interval : Interval) (quotient : Nat × Nat) : Bool :=
  let scaled := quotient.1 * (4 * Exact.one)
  let low := interval.low * quotient.2
  let high := interval.high * quotient.2
  if interval.closed then low ≤ scaled && scaled ≤ high else low < scaled && scaled < high

/-- The candidate of a grid: of the neighbours that lie in the interval the nearer one. -/
def candidate? (interval : Interval) (units : Nat) (place : Int) : Option Nat :=
  let scale := quotientOf 1 place
  let numerator := units * scale.2
  let denominator := Exact.one * scale.1
  let floor := numerator / denominator
  let rest := numerator % denominator
  let lowFits := interval.contains (quotientOf floor place)
  let highFits := interval.contains (quotientOf (floor + 1) place)
  let lowNearer := 2 * rest < denominator || (2 * rest == denominator && floor % 2 == 0)
  if lowFits && highFits then some (if lowNearer then floor else floor + 1)
  else if lowFits then some floor
  else if highFits then some (floor + 1)
  else none

def search (interval : Interval) (units : Nat) (point : Int) : Nat → Nat → Option (Nat × Int)
  | 0, _ => none
  | tries + 1, length =>
      let place := point - length
      match candidate? interval units place with
      | some count => some (count, place)
      | none => search interval units point tries (length + 1)

def stripZeros : Nat → Nat → Int → Nat × Int
  | 0, count, place => (count, place)
  | tries + 1, count, place =>
      if count % 10 == 0 && count != 0 then stripZeros tries (count / 10) (place + 1)
      else (count, place)

/-- The shortest decimal of a positive finite bit pattern. Seventeen digits always suffice. -/
def ofBits (bits : Nat) : Decimal :=
  let units := Exact.magnitude bits
  let point := pointOf units Exact.one
  let found := (search (intervalOf bits) units point 17 1).getD (units / Exact.one, 0)
  let bare := stripZeros 20 found.1 found.2
  ⟨bare.1, bare.2 + digitCount bare.1⟩

def ofFloat (x : Float) : Decimal := ofBits (x.toBits.toNat % Nat.pow 2 63)

end Decimal

end StyleFold
