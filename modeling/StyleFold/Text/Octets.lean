import StyleFold.Text.Quoted

/-!
Rows of bytes: their quoted notation, and the sixty-four signs in which text files write them.
Each sign stands for six bits; signs that stand for none are passed over.
-/

namespace StyleFold.Text

section Shown

def quoteOctet (quote : Char) (octet : Nat) : List Char :=
  if 0x20 ≤ octet && octet < 0x7F || octet == 9 || octet == 10 || octet == 13 then
    quoteChar quote (Char.ofNat octet)
  else '\\' :: 'x' :: hexDigits 2 octet

def quotedOctets (octets : List Nat) : String :=
  let quote := quoteOf (octets.map Char.ofNat)
  String.ofList ('b' :: quote :: octets.flatMap (quoteOctet quote) ++ [quote])

def ofAscii? (octets : List Nat) : Option String :=
  if octets.all (· < 0x80) then some (String.ofList (octets.map Char.ofNat)) else none

end Shown

section Sixtets

def sixtet? (c : Char) : Option Nat :=
  if 'A' ≤ c && c ≤ 'Z' then some (c.toNat - 65)
  else if 'a' ≤ c && c ≤ 'z' then some (c.toNat - 71)
  else if '0' ≤ c && c ≤ '9' then some (c.toNat + 4)
  else if c == '+' then some 62
  else if c == '/' then some 63
  else none

/-- Reads signs in groups of four. `held` is what earlier signs of the group leave over, and
`filled` how many there were; `pads` counts the filling marks since the last sign. Filling that
completes a group ends the text, and a group that is begun has to be completed. -/
def octetsFrom? : List Char → (filled held pads : Nat) → Option (List Nat)
  | [], filled, _, _ => if filled == 0 then some [] else none
  | c :: rest, filled, held, pads =>
      if c == '=' then
        if 2 ≤ filled then
          if 4 ≤ filled + (pads + 1) then some [] else octetsFrom? rest filled held (pads + 1)
        else octetsFrom? rest filled held pads
      else match sixtet? c with
        | none => octetsFrom? rest filled held pads
        | some bits =>
            match filled with
            | 0 => octetsFrom? rest 1 bits 0
            | 1 => (octetsFrom? rest 2 (bits % 16) 0).map ((held * 4 + bits / 16) :: ·)
            | 2 => (octetsFrom? rest 3 (bits % 4) 0).map ((held * 16 + bits / 4) :: ·)
            | _ => (octetsFrom? rest 0 0 0).map ((held * 64 + bits) :: ·)

def octets? (text : List Char) : Option (List Nat) := octetsFrom? text 0 0 0

end Sixtets

end StyleFold.Text
