import StyleFold.Number.Double

/-!
Thirty-two bit arithmetic on doubles and bitwise arithmetic on integers of any
size. A double is truncated and wrapped to the word; an integer is taken in
two's complement with its sign extended for ever.
-/

namespace StyleFold

namespace Bits

def without (m n : Nat) : Nat := m - (m &&& n)

def and : Int → Int → Int
  | .ofNat m, .ofNat n => .ofNat (m &&& n)
  | .ofNat m, .negSucc n => .ofNat (without m n)
  | .negSucc m, .ofNat n => .ofNat (without n m)
  | .negSucc m, .negSucc n => .negSucc (m ||| n)

def or : Int → Int → Int
  | .ofNat m, .ofNat n => .ofNat (m ||| n)
  | .ofNat m, .negSucc n => .negSucc (without n m)
  | .negSucc m, .ofNat n => .negSucc (without m n)
  | .negSucc m, .negSucc n => .negSucc (m &&& n)

def xor : Int → Int → Int
  | .ofNat m, .ofNat n => .ofNat (m ^^^ n)
  | .ofNat m, .negSucc n => .negSucc (m ^^^ n)
  | .negSucc m, .ofNat n => .negSucc (m ^^^ n)
  | .negSucc m, .negSucc n => .ofNat (m ^^^ n)

def complement (i : Int) : Int := -i - 1

def length (i : Int) : Nat := if i = 0 then 0 else i.natAbs.log2 + 1

def shiftDown (i : Int) (count : Nat) : Int :=
  if length i < count then (if i < 0 then -1 else 0) else i.fdiv (Int.pow 2 count)

end Bits

namespace Word

def size : Int := Int.pow 2 32

def unsigned (i : Int) : Int := i % size

def signed (i : Int) : Int :=
  let word := unsigned i
  if size / 2 ≤ word then word - size else word

def wholeOf (x : Float) : Int := ((Exact.ofFloat x).whole?).getD 0

def toUnsigned (x : Float) : Int := unsigned (wholeOf x)

def toSigned (x : Float) : Int := signed (wholeOf x)

def shiftCount (x : Float) : Nat := (toUnsigned x % 32).toNat

def shiftLeft (a b : Float) : Int := signed (toSigned a * Int.pow 2 (shiftCount b))

def shiftRight (a b : Float) : Int := (toSigned a).fdiv (Int.pow 2 (shiftCount b))

def shiftRightUnsigned (a b : Float) : Int := (toUnsigned a).fdiv (Int.pow 2 (shiftCount b))

def and (a b : Float) : Int := signed (Bits.and (toSigned a) (toSigned b))

def or (a b : Float) : Int := signed (Bits.or (toSigned a) (toSigned b))

def xor (a b : Float) : Int := signed (Bits.xor (toSigned a) (toSigned b))

def complement (a : Float) : Int := signed (Bits.complement (toSigned a))

end Word

end StyleFold
