/-!
Bytes to text, with repair or without. Every longest run of bytes that begins a character and
cannot go on is repaired to one replacement character.
-/

namespace StyleFold.Text

/-- What the first byte of a character promises: how many bytes follow, the bounds of the
first of them, and the payload of the first byte. -/
structure Lead where
  following : Nat
  low : Nat
  high : Nat
  payload : Nat

def lead? (byte : Nat) : Option Lead :=
  if 0xC2 ≤ byte && byte ≤ 0xDF then some ⟨1, 0x80, 0xBF, byte % 0x20⟩
  else if byte == 0xE0 then some ⟨2, 0xA0, 0xBF, 0⟩
  else if byte == 0xED then some ⟨2, 0x80, 0x9F, byte % 0x10⟩
  else if 0xE1 ≤ byte && byte ≤ 0xEF then some ⟨2, 0x80, 0xBF, byte % 0x10⟩
  else if byte == 0xF0 then some ⟨3, 0x90, 0xBF, 0⟩
  else if 0xF1 ≤ byte && byte ≤ 0xF3 then some ⟨3, 0x80, 0xBF, byte % 8⟩
  else if byte == 0xF4 then some ⟨3, 0x80, 0x8F, 4⟩
  else none

/-- A character whose first bytes have been read. -/
structure Pending where
  following : Nat
  low : Nat
  high : Nat
  code : Nat

def replacement : Char := Char.ofNat 0xFFFD

def start (byte : Nat) : Option Pending × List Char :=
  if byte < 0x80 then (none, [Char.ofNat byte])
  else match lead? byte with
    | some lead => (some ⟨lead.following, lead.low, lead.high, lead.payload⟩, [])
    | none => (none, [replacement])

def feed (pending : Option Pending) (byte : Nat) : Option Pending × List Char :=
  match pending with
  | none => start byte
  | some p =>
      if p.low ≤ byte && byte ≤ p.high then
        let code := p.code * 0x40 + byte % 0x40
        if p.following == 1 then (none, [Char.ofNat code])
        else (some ⟨p.following - 1, 0x80, 0xBF, code⟩, [])
      else
        let next := start byte
        (next.1, replacement :: next.2)

def repairFrom (pending : Option Pending) : List Nat → List Char
  | [] => if pending.isSome then [replacement] else []
  | byte :: rest =>
      let next := feed pending byte
      next.2 ++ repairFrom next.1 rest

def decodeFrom? (pending : Option Pending) : List Nat → Option (List Char)
  | [] => if pending.isSome then none else some []
  | byte :: rest =>
      match pending with
      | none =>
          if byte < 0x80 then (decodeFrom? none rest).map (Char.ofNat byte :: ·)
          else match lead? byte with
            | some lead =>
                decodeFrom? (some ⟨lead.following, lead.low, lead.high, lead.payload⟩) rest
            | none => none
      | some p =>
          if p.low ≤ byte && byte ≤ p.high then
            let code := p.code * 0x40 + byte % 0x40
            if p.following == 1 then (decodeFrom? none rest).map (Char.ofNat code :: ·)
            else decodeFrom? (some ⟨p.following - 1, 0x80, 0xBF, code⟩) rest
          else none

def decode? (bytes : List Nat) : Option (List Char) := decodeFrom? none bytes

def repair (bytes : List Nat) : String :=
  String.ofList (repairFrom none bytes)

end StyleFold.Text
