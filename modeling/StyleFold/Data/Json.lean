import StyleFold.Data.Basic
import StyleFold.Number.Numeral
import StyleFold.Text.Begin
import StyleFold.Text.Units

/-!
JSON text to data and back. The reader keeps the order of keys and the difference
between whole and decimal numbers, and knows the words `NaN`, `Infinity` and
`-Infinity`. A repeated key keeps its first place and takes its last value. Every
step of the reader uses up a character, so the length of the text bounds the steps.
-/

namespace StyleFold.Json

abbrev Read (α : Type) := Option (α × List Char)

def isJsonBlank (c : Char) : Bool := c == ' ' || c == '\t' || c == '\n' || c == '\r'

def skip (text : List Char) : List Char := text.dropWhile isJsonBlank

section Strings

def hexCode? : List Char → Read Nat
  | a :: b :: c :: d :: rest =>
      let digits := [a, b, c, d]
      if digits.all (isDigitIn 16) then some (digitsValue 16 digits, rest) else none
  | _ => none

def shortEscape? (c : Char) : Option Char :=
  if c == '"' || c == '\\' || c == '/' then some c
  else if c == 'b' then some (Char.ofNat 8)
  else if c == 'f' then some (Char.ofNat 12)
  else if c == 'n' then some '\n'
  else if c == 'r' then some '\r'
  else if c == 't' then some '\t'
  else none

def codeEscape? (text : List Char) : Read Char :=
  match hexCode? text with
  | none => none
  | some (code, rest) =>
      if Text.isHigh code then
        match rest with
        | '\\' :: 'u' :: more =>
            match hexCode? more with
            | some (low, after) =>
                if Text.isLow low then some (Text.joinHalves code low, after)
                else some (Text.ofUnit code, rest)
            | none => some (Text.ofUnit code, rest)
        | _ => some (Text.ofUnit code, rest)
      else some (Text.ofUnit code, rest)

def stringBody : Nat → List Char → List Char → Read String
  | 0, _, _ => none
  | fuel + 1, seen, text =>
      match text with
      | [] => none
      | '"' :: rest => some (String.ofList seen.reverse, rest)
      | '\\' :: 'u' :: rest =>
          match codeEscape? rest with
          | some (c, after) => stringBody fuel (c :: seen) after
          | none => none
      | '\\' :: c :: rest =>
          match shortEscape? c with
          | some plain => stringBody fuel (plain :: seen) rest
          | none => none
      | c :: rest => if c.toNat < 0x20 || c == '\\' then none else stringBody fuel (c :: seen) rest

end Strings

section Scalars

def wholeDigits? (text : List Char) : Read (List Char) :=
  match text with
  | '0' :: rest => some (['0'], rest)
  | _ =>
      let digits := text.takeWhile isDecimalDigit
      if digits.isEmpty then none else some (digits, text.dropWhile isDecimalDigit)

def fractionPart (text : List Char) : List Char × List Char :=
  match text with
  | '.' :: rest =>
      let digits := rest.takeWhile isDecimalDigit
      if digits.isEmpty then ([], text) else (digits, rest.dropWhile isDecimalDigit)
  | _ => ([], text)

def exponentPart (text : List Char) : Option Int × List Char :=
  match text with
  | mark :: rest =>
      if mark == 'e' || mark == 'E' then
        let (negative, body) := splitSign rest
        let digits := body.takeWhile isDecimalDigit
        if digits.isEmpty then (none, text)
        else (some (Exact.signed negative (digitsValue 10 digits)), body.dropWhile isDecimalDigit)
      else (none, text)
  | [] => (none, text)

def number? (text : List Char) : Read Data :=
  let (negative, body) := match text with
    | '-' :: rest => (true, rest)
    | _ => (false, text)
  match wholeDigits? body with
  | none => none
  | some (whole, rest) =>
      let (fraction, rest) := fractionPart rest
      let (exponent, rest) := exponentPart rest
      if fraction.isEmpty && exponent.isNone then
        some (.int (Exact.signed negative (digitsValue 10 whole)), rest)
      else
        let digits := digitsValue 10 (whole ++ fraction)
        some (.float
          (Numeral.roundDecimal negative digits (exponent.getD 0 - fraction.length)), rest)

def words : List (String × Data) :=
  [("null", .null), ("true", .bool true), ("false", .bool false), ("NaN", .float Double.notANumber),
   ("Infinity", .float (Double.infinity false)), ("-Infinity", .float (Double.infinity true))]

def scalar? (text : List Char) : Read Data :=
  match words.findSome? (fun word => (Text.after? word.1 text).map (word.2, ·)) with
  | some result => some result
  | none => number? text

end Scalars

section Values

mutual

def value? : Nat → List Char → Read Data
  | 0, _ => none
  | fuel + 1, text =>
      match text with
      | '"' :: rest => (stringBody fuel [] rest).map fun read => (.text read.1, read.2)
      | '[' :: rest =>
          match skip rest with
          | ']' :: rest => some (.list [], rest)
          | rest => (items? fuel rest).map fun read => (.list read.1, read.2)
      | '\x7b' :: rest =>
          match skip rest with
          | '\x7d' :: rest => some (.map [], rest)
          | rest => (members? fuel rest).map fun read => (.map (Data.ofPairs read.1), read.2)
      | text => scalar? text

def items? : Nat → List Char → Read (List Data)
  | 0, _ => none
  | fuel + 1, text =>
      match value? fuel text with
      | none => none
      | some (item, rest) =>
          match skip rest with
          | ']' :: rest => some ([item], rest)
          | ',' :: rest => (items? fuel (skip rest)).map fun read => (item :: read.1, read.2)
          | _ => none

def members? : Nat → List Char → Read Entries
  | 0, _ => none
  | fuel + 1, text =>
      match text with
      | '"' :: rest =>
          match stringBody fuel [] rest with
          | none => none
          | some (key, rest) =>
              match skip rest with
              | ':' :: rest =>
                  match value? fuel (skip rest) with
                  | none => none
                  | some (value, rest) =>
                      match skip rest with
                      | '\x7d' :: rest => some ([(.text key, value)], rest)
                      | ',' :: rest =>
                          (members? fuel (skip rest)).map fun read =>
                            ((.text key, value) :: read.1, read.2)
                      | _ => none
              | _ => none
      | _ => none

end

def read? (text : String) : Option Data :=
  let chars := text.toList
  match value? (chars.length + 1) (skip chars) with
  | some (value, rest) => if (skip rest).isEmpty then some value else none
  | none => none

end Values

section Writing

def escapeChar (c : Char) : List Char :=
  if c == '"' || c == '\\' then ['\\', c]
  else if c.toNat < 0x20 || c.toNat == 0x7F then '\\' :: 'u' :: Text.hexDigits 4 c.toNat
  else [c]

def writeString (s : String) : String :=
  "\"" ++ String.ofList (s.toList.flatMap escapeChar) ++ "\""

def numberLayout : Layout := { quotedLayout with nan := "NaN", infinity := "Infinity" }

mutual

/-- Writes data; what the format has no notation for is written as its notation in messages. -/
def write : Data → String
  | .null => "null"
  | .bool b => if b then "true" else "false"
  | .int i => toString i
  | .float x => numberLayout.text x
  | .text s => writeString s
  | .list items => "[" ++ ",".intercalate (writeItems items) ++ "]"
  | .pair key value => "[" ++ write key ++ "," ++ write value ++ "]"
  | .map entries => "\x7b" ++ ",".intercalate (writeMembers entries) ++ "\x7d"
  | .bytes octets => writeString (Data.bytes octets).shown
  | .moment m => writeString m.shown
  | .set members => writeString (Data.set members).shown
  | .cycle isMapping => writeString (Data.cycle isMapping).shown

def writeItems : List Data → List String
  | [] => []
  | item :: rest => write item :: writeItems rest

def writeMembers : Entries → List String
  | [] => []
  | (key, value) :: rest => (writeString key.plain ++ ":" ++ write value) :: writeMembers rest

end

end Writing

end StyleFold.Json
