import StyleFold.Data.Basic
import StyleFold.Number.Numeral
import StyleFold.Text.Begin

/-!
Strings, numbers, moments and words of TOML text.
-/

namespace StyleFold.Toml

abbrev Read (α : Type) := Option (α × List Char)

def isTomlBlank (c : Char) : Bool := c == ' ' || c == '\t'

def skipBlanks (text : List Char) : List Char := text.dropWhile isTomlBlank

def isControl (c : Char) : Bool := (c.toNat < 0x20 && c != '\t') || c.toNat == 0x7F

section Strings

def shortEscape? (c : Char) : Option Char :=
  if c == '"' || c == '\\' then some c
  else if c == 'b' then some '\x08'
  else if c == 't' then some '\t'
  else if c == 'n' then some '\n'
  else if c == 'f' then some '\x0c'
  else if c == 'r' then some '\r'
  else none

def codeEscape? (width : Nat) (text : List Char) : Read Char :=
  let digits := text.take width
  let code := digitsValue 16 digits
  if digits.length == width && digits.all (isDigitIn 16) && decide code.isValidChar then
    some (Char.ofNat code, text.drop width)
  else none

def lineEscape? (text : List Char) : Option (List Char) :=
  match skipBlanks text with
  | [] => some []
  | '\n' :: rest => some (rest.dropWhile fun c => isTomlBlank c || c == '\n')
  | _ => none

def escape? (multiline : Bool) : List Char → Read (List Char)
  | [] => none
  | 'u' :: rest => (codeEscape? 4 rest).map fun read => ([read.1], read.2)
  | 'U' :: rest => (codeEscape? 8 rest).map fun read => ([read.1], read.2)
  | c :: rest =>
      if multiline && (isTomlBlank c || c == '\n') then
        (lineEscape? (c :: rest)).map fun rest => ([], rest)
      else (shortEscape? c).map fun plain => ([plain], rest)

def basicRest? (multiline : Bool) : Nat → List Char → List Char → Read (List Char)
  | 0, _, _ => none
  | fuel + 1, text, seen =>
      match text with
      | [] => none
      | '"' :: rest =>
          if !multiline then some (seen.reverse, rest)
          else match rest with
            | '"' :: '"' :: rest => some (seen.reverse, rest)
            | _ => basicRest? multiline fuel rest ('"' :: seen)
      | '\\' :: rest =>
          match escape? multiline rest with
          | some (chars, rest) => basicRest? multiline fuel rest (chars.reverse ++ seen)
          | none => none
      | c :: rest =>
          if isControl c && !(multiline && c == '\n') then none
          else basicRest? multiline fuel rest (c :: seen)

def literalRest? (multiline : Bool) : List Char → List Char → Read (List Char)
  | [], _ => none
  | '\'' :: '\'' :: '\'' :: rest, seen =>
      if multiline then some (seen.reverse, rest) else some (seen.reverse, '\'' :: '\'' :: rest)
  | '\'' :: rest, seen =>
      if multiline then literalRest? multiline rest ('\'' :: seen) else some (seen.reverse, rest)
  | c :: rest, seen =>
      if isControl c && !(multiline && c == '\n') then none
      else literalRest? multiline rest (c :: seen)

def extraQuotes (quote : Char) (text : List Char) : List Char × List Char :=
  let count := min 2 (text.takeWhile (· == quote)).length
  (text.take count, text.drop count)

def dropFirstBreak : List Char → List Char
  | '\n' :: rest => rest
  | text => text

def string? (mayBreak : Bool) (text : List Char) : Read String :=
  let finish (quote : Char) (read : List Char × List Char) : String × List Char :=
    let (extra, rest) := extraQuotes quote read.2
    (String.ofList (read.1 ++ extra), rest)
  match text with
  | '"' :: '"' :: '"' :: rest =>
      if mayBreak then
        (basicRest? true (rest.length + 1) (dropFirstBreak rest) []).map (finish '"')
      else some ("", '"' :: rest)
  | '"' :: rest =>
      (basicRest? false (rest.length + 1) rest []).map fun read => (String.ofList read.1, read.2)
  | '\'' :: '\'' :: '\'' :: rest =>
      if mayBreak then (literalRest? true (dropFirstBreak rest) []).map (finish '\'')
      else some ("", '\'' :: rest)
  | '\'' :: rest =>
      (literalRest? false rest []).map fun read => (String.ofList read.1, read.2)
  | _ => none

end Strings

section Numbers

def grouped (isDigit : Char → Bool) : List Char → List Char × List Char
  | [] => ([], [])
  | [c] => if isDigit c then ([c], []) else ([], [c])
  | c :: d :: rest =>
      if isDigit c then
        let (digits, rest) := grouped isDigit (d :: rest)
        (c :: digits, rest)
      else if c == '_' && isDigit d then
        let (digits, rest) := grouped isDigit rest
        (d :: digits, rest)
      else ([], c :: d :: rest)

def digits? (isDigit : Char → Bool) (text : List Char) : Read (List Char) :=
  if (text.head?.map isDigit).getD false then some (grouped isDigit text) else none

def based? (base : Nat) (text : List Char) : Read Data :=
  (digits? (isDigitIn base) text).map fun read => (.int (digitsValue base read.1), read.2)

def wholeDigits? : List Char → Read (List Char)
  | '0' :: rest => some (['0'], rest)
  | text => digits? isDecimalDigit text

def fractionPart (text : List Char) : List Char × List Char :=
  match text with
  | '.' :: rest => (digits? isDecimalDigit rest).getD ([], text)
  | _ => ([], text)

def exponentPart (text : List Char) : Option Int × List Char :=
  match text with
  | mark :: rest =>
      if mark == 'e' || mark == 'E' then
        let (negative, body) := splitSign rest
        match digits? isDecimalDigit body with
        | some (digits, rest) => (some (Exact.signed negative (digitsValue 10 digits)), rest)
        | none => (none, text)
      else (none, text)
  | [] => (none, text)

def decimal? (text : List Char) : Read Data :=
  let (negative, body) := splitSign text
  match wholeDigits? body with
  | none => none
  | some (whole, rest) =>
      let (fraction, rest) := fractionPart rest
      let (exponent, rest) := exponentPart rest
      if fraction.isEmpty && exponent.isNone then
        some (.int (Exact.signed negative (digitsValue 10 whole)), rest)
      else
        some (.float (Numeral.roundDecimal negative (digitsValue 10 (whole ++ fraction))
          (exponent.getD 0 - fraction.length)), rest)

def number? (text : List Char) : Read Data :=
  let marked := match text with
    | '0' :: 'x' :: rest => based? 16 rest
    | '0' :: 'o' :: rest => based? 8 rest
    | '0' :: 'b' :: rest => based? 2 rest
    | _ => none
  match marked with
  | some read => some read
  | none => decimal? text

end Numbers

/-! Moments: a day, a time of day, or a day and a time with or without an offset. A part that is
not complete is not read. -/

section Moments

def before? (mark : Char) (bound : Nat) (text : List Char) : Read Nat :=
  match takeDigits? 2 2 text with
  | some (number, c :: rest) => if c == mark && number < bound then some (number, rest) else none
  | _ => none

def last? (bound : Nat) (text : List Char) : Read Nat :=
  (takeDigits? 2 2 text).filter fun read => read.1 < bound

def fractionDigits (text : List Char) : List Char × List Char :=
  match text with
  | '.' :: rest =>
      let digits := rest.takeWhile isDecimalDigit
      if digits.isEmpty then ([], text) else (digits, rest.drop digits.length)
  | _ => ([], text)

def clock? (text : List Char) : Option (Clock × List Char) := do
  let (hour, rest) ← before? ':' 24 text
  let (minute, rest) ← before? ':' 60 rest
  let (second, rest) ← last? 60 rest
  let (fraction, rest) := fractionDigits rest
  return (← Clock.of? hour minute second (Clock.microOf fraction), rest)

def offset (text : List Char) : Option Int × List Char :=
  match text with
  | c :: rest =>
      if c == 'Z' || c == 'z' then (some 0, rest)
      else if c == '+' || c == '-' then
        let read : Option (Int × List Char) := do
          let (hours, rest) ← before? ':' 24 rest
          let (minutes, rest) ← last? 60 rest
          return (← Offset.of? (c == '-') hours minutes, rest)
        match read with
        | some (minutes, rest) => (some minutes, rest)
        | none => (none, text)
      else (none, text)
  | [] => (none, text)

/-- A day as it is written: four digits, a month and a day of the month. It need not exist. -/
def writtenDay? (text : List Char) : Option ((Nat × Nat × Nat) × List Char) := do
  let (year, rest) ← takeDigits? 4 4 text
  match rest with
  | '-' :: rest =>
      let (month, rest) ← before? '-' 13 rest
      let (day, rest) ← last? 32 rest
      if month == 0 || day == 0 then none else some ((year, month, day), rest)
  | _ => none

def moment? (text : List Char) : Option (Read Moment) :=
  match writtenDay? text with
  | none => (clock? text).map fun read => some (.time read.1, read.2)
  | some ((year, month, day), rest) =>
      some <| (Day.of? year month day).map fun day =>
        let timed : Read Clock := match rest with
          | c :: rest => if c == 'T' || c == 't' || c == ' ' then clock? rest else none
          | [] => none
        match timed with
        | none => (.date day, rest)
        | some (clock, rest) =>
            let (minutes, rest) := offset rest
            (.stamp day clock minutes, rest)

end Moments

section Words

def words : List (String × Data) :=
  [("true", .bool true), ("false", .bool false), ("inf", .float (Double.infinity false)),
   ("+inf", .float (Double.infinity false)), ("-inf", .float (Double.infinity true)),
   ("nan", .float Double.notANumber), ("+nan", .float Double.notANumber),
   ("-nan", .float Double.notANumber)]

def word? (text : List Char) : Read Data :=
  words.findSome? fun word => (Text.after? word.1 text).map (word.2, ·)

end Words

end StyleFold.Toml
