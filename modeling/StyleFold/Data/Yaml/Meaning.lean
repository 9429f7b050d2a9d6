import StyleFold.Data.Basic
import StyleFold.Data.Failure
import StyleFold.Data.Yaml.Tag
import StyleFold.Number.Grouped

/-!
The data that a YAML scalar stands for under its tag. The tag may be written on any text, so every
notation is read here from arbitrary text.
-/

namespace StyleFold.Yaml

section Numbers

def undivided (text : List Char) : List Char := text.filter (· != '_')

def readable {α : Type} : Option α → Except Failure α
  | some a => .ok a
  | none => .error .unreadable

def sixties (parts : List Int) : Int := parts.foldl (fun total part => total * 60 + part) 0

/-- A whole number after its sign: in base two, eight, ten or sixteen, or in sixties. -/
def magnitude : List Char → Except Failure Int
  | [] => .error .emptyNumeral
  | ['0'] => .ok 0
  | '0' :: 'b' :: digits => readable (Grouped.readIn? 2 digits)
  | '0' :: 'x' :: digits => readable (Grouped.readIn? 16 digits)
  | '0' :: rest => readable (Grouped.readIn? 8 ('0' :: rest))
  | body =>
      match (splitColons body).mapM fun part => Grouped.readInt? (String.ofList part) with
      | some parts => .ok (sixties parts)
      | none => .error .unreadable

def wholeOf (text : List Char) : Except Failure Int :=
  match undivided text with
  | [] => .error .emptyNumeral
  | digits =>
      let (negative, body) := splitSign digits
      (magnitude body).map fun size => if negative then -size else size

/-- Adds up parts, of which each counts sixty of the one before, by floating addition. -/
def sixtiesSum (sum : Float) (weight : Nat) : List Float → Except Failure Float
  | [] => .ok sum
  | part :: rest =>
      match Double.ofInt? weight with
      | some unit => sixtiesSum (sum + part * unit) (weight * 60) rest
      | none => .error .outOfRange

def decimalSize (body : List Char) : Except Failure Float :=
  let word := String.ofList body
  if word == ".inf" then .ok (Double.infinity false)
  else if word == ".nan" then .ok Double.notANumber
  else if body.contains ':' then
    match (splitColons body).mapM fun part => Grouped.readFloat? (String.ofList part) with
    | some parts => sixtiesSum (Double.zero false) 1 parts.reverse
    | none => .error .unreadable
  else readable (Grouped.readFloat? word)

def decimalOf (text : List Char) : Except Failure Float :=
  match Text.lower (undivided text) with
  | [] => .error .emptyNumeral
  | digits =>
      let (negative, body) := splitSign digits
      (decimalSize body).map fun size => if negative then -size else size

end Numbers

section Moments

def Zone.minutes? : Zone → Option Int
  | .universal => some 0
  | .offset behind hours minutes => Offset.of? behind hours minutes

def Written.moment? (written : Written) : Option Moment := do
  let day ← Day.of? written.year written.month written.day
  match written.clock with
  | none => return .date day
  | some clock =>
      let offset ← match clock.zone with
        | none => some none
        | some zone => zone.minutes?.map some
      let time ← Clock.of? clock.hour clock.minute clock.second (Clock.microOf clock.fraction)
      return .stamp day time offset

def momentOf (text : List Char) : Except Failure Moment :=
  match written? (withoutFinalBreak text) with
  | none => .error .notMoment
  | some written => readable written.moment?

end Moments

def truthOf (text : List Char) : Except Failure Bool :=
  let word := String.ofList (Text.lower text)
  if ["yes", "true", "on"].contains word then .ok true
  else if ["no", "false", "off"].contains word then .ok false
  else .error .unknownWord

def bytesOf (text : List Char) : Except Failure (List Nat) :=
  if text.all fun c => c.toNat < 0x80 then
    match Text.octets? text with
    | some octets => .ok octets
    | none => .error .malformed
  else .error .malformed

/-- The data of a text under a tag; tags of lists and mappings and tags that stand
for nothing give none. -/
def Tag.scalar (tag : Tag) (text : String) : Except Failure Data :=
  let chars := text.toList
  match tag with
  | .null => .ok .null
  | .bool => (truthOf chars).map .bool
  | .int => (wholeOf chars).map .int
  | .float => (decimalOf chars).map .float
  | .bytes => (bytesOf chars).map .bytes
  | .moment => (momentOf chars).map .moment
  | .text => .ok (.text text)
  | _ => .error .malformed

end StyleFold.Yaml
