import StyleFold.Data.Moment
import StyleFold.Number.Numeral
import StyleFold.Text.Begin

/-!
What YAML nodes stand for, by tag. A tag that is not written follows from the node: lists and
mappings are just that, quoted text is text, and plain text is a truth value, a number, a moment
or null if it looks like one.
-/

namespace StyleFold.Yaml

inductive Tag where
  | null
  | bool
  | int
  | float
  | bytes
  | moment
  | text
  | sequence
  | mapping
  /-- A list of mappings with one entry each, whose keys are in order. -/
  | ordered
  | pairs
  | set
  | merge
  /-- The key under which a mapping has the text that stands for it. -/
  | value
  | foreign
  deriving DecidableEq, Repr

namespace Tag

def standard : String := "tag:yaml.org,2002:"

def names : List (String × Tag) :=
  [("null", .null), ("bool", .bool), ("int", .int), ("float", .float), ("binary", .bytes),
   ("timestamp", .moment), ("str", .text), ("seq", .sequence), ("map", .mapping),
   ("omap", .ordered), ("pairs", .pairs), ("set", .set), ("merge", .merge), ("value", .value)]

def ofName (name : String) : Tag :=
  match Text.after? standard name.toList with
  | some rest => (names.lookup (String.ofList rest)).getD .foreign
  | none => .foreign

end Tag

/-! Numbers. Underscores may divide digits, and numbers written with colons count in sixties. -/

section Numbers

def isDivided (isDigit : Char → Bool) (text : List Char) : Bool :=
  text.all fun c => isDigit c || c == '_'

def isDigits (text : List Char) : Bool :=
  (text.head?.map isDecimalDigit).getD false && isDivided isDecimalDigit text

def isSixtieth (text : List Char) : Bool :=
  text.all isDecimalDigit && match text with
    | [_] => true
    | [tens, _] => tens ≤ '5'
    | _ => false

def splitColons (text : List Char) : List (List Char) := text.splitOn ':'

def isBased (base : Nat) (digits : List Char) : Bool :=
  !digits.isEmpty && isDivided (isDigitIn base) digits

def isWhole (text : List Char) : Bool :=
  match (splitSign text).2 with
  | ['0'] => true
  | '0' :: 'b' :: digits => isBased 2 digits
  | '0' :: 'x' :: digits => isBased 16 digits
  | '0' :: digits => isBased 8 digits
  | body =>
      match splitColons body with
      | first :: rest => isDigits first && rest.all isSixtieth
      | [] => false

def isExponent : List Char → Bool
  | [] => true
  | mark :: sign :: digits =>
      (mark == 'e' || mark == 'E') && (sign == '+' || sign == '-') && !digits.isEmpty &&
        digits.all isDecimalDigit
  | _ => false

/-- A decimal with a point: digits before it, or without a sign at least one after it. -/
def isPointed (text : List Char) : Bool :=
  let body := (splitSign text).2
  let before := body.takeWhile (· != '.')
  match body.dropWhile (· != '.') with
  | '.' :: after =>
      let digits := after.takeWhile fun c => isDecimalDigit c || c == '_'
      (if before.isEmpty then body == text && isDigits digits else isDigits before) &&
        isExponent (after.drop digits.length)
  | _ => false

def isSixtiesPointed (text : List Char) : Bool :=
  let body := (splitSign text).2
  match body.dropWhile (· != '.'), splitColons (body.takeWhile (· != '.')) with
  | '.' :: fraction, first :: second :: rest =>
      isDigits first && (second :: rest).all isSixtieth && isDivided isDecimalDigit fraction
  | _, _ => false

def infinityWords : List String := [".inf", ".Inf", ".INF"]

def notNumberWords : List String := [".nan", ".NaN", ".NAN"]

def isDecimal (text : List Char) : Bool :=
  infinityWords.contains (String.ofList (splitSign text).2) ||
    notNumberWords.contains (String.ofList text) || isPointed text || isSixtiesPointed text

end Numbers

/-! Moments: a day, or a day and a time of day with or without an offset. -/

section Moments

inductive Zone where
  | universal
  | offset (behind : Bool) (hours minutes : Nat)

structure WrittenClock where
  hour : Nat
  minute : Nat
  second : Nat
  fraction : List Char
  zone : Option Zone

/-- A moment as it is written; it need not exist. -/
structure Written where
  year : Nat
  month : Nat
  day : Nat
  clock : Option WrittenClock

def past? (mark : Char) : List Char → Option (List Char)
  | c :: rest => if c == mark then some rest else none
  | [] => none

def isInnerBlank (c : Char) : Bool := c == ' ' || c == '\t'

def pastDivider? : List Char → Option (List Char)
  | c :: rest =>
      if c == 'T' || c == 't' then some rest
      else if isInnerBlank c then some (rest.dropWhile isInnerBlank)
      else none
  | [] => none

def zoneMinutes? (rest : List Char) : Option (Nat × List Char) :=
  match rest with
  | ':' :: rest => takeDigits? 2 2 rest
  | _ => some (0, rest)

def zone? (text : List Char) : Option (Option Zone) :=
  if text.isEmpty then some none
  else match text.dropWhile isInnerBlank with
    | ['Z'] => some (some .universal)
    | sign :: rest =>
        if sign == '+' || sign == '-' then do
          let (hours, rest) ← takeDigits? 1 2 rest
          let (minutes, rest) ← zoneMinutes? rest
          if rest.isEmpty then some (some (.offset (sign == '-') hours minutes)) else none
        else none
    | [] => none

def fraction : List Char → List Char × List Char
  | '.' :: rest => (rest.takeWhile isDecimalDigit, rest.dropWhile isDecimalDigit)
  | text => ([], text)

def clock? (text : List Char) : Option WrittenClock := do
  let (hour, rest) ← takeDigits? 1 2 text
  let (minute, rest) ← takeDigits? 2 2 (← past? ':' rest)
  let (second, rest) ← takeDigits? 2 2 (← past? ':' rest)
  let (fraction, rest) := fraction rest
  return { hour, minute, second, fraction, zone := ← zone? rest }

def written? (text : List Char) : Option Written := do
  let (year, rest) ← takeDigits? 4 4 text
  let (month, rest) ← takeDigits? 1 2 (← past? '-' rest)
  let (day, rest) ← takeDigits? 1 2 (← past? '-' rest)
  if rest.isEmpty then return { year, month, day, clock := none }
  return { year, month, day, clock := some (← clock? (← pastDivider? rest)) }

/-- Plain text is a moment when it has a time, or is a day with all its ten characters. -/
def isMoment (text : List Char) : Bool :=
  match written? text with
  | some written => written.clock.isSome || text.length == 10
  | none => false

end Moments

section Plain

def trueWords : List String :=
  ["yes", "Yes", "YES", "true", "True", "TRUE", "on", "On", "ON"]

def falseWords : List String :=
  ["no", "No", "NO", "false", "False", "FALSE", "off", "Off", "OFF"]

def nullWords : List String := ["~", "null", "Null", "NULL"]

def withoutFinalBreak (text : List Char) : List Char :=
  if text.getLast? == some '\n' then text.dropLast else text

def Tag.ofLook (text : List Char) : Tag :=
  let word := String.ofList text
  if trueWords.contains word || falseWords.contains word then .bool
  else if isDecimal text then .float
  else if isWhole text then .int
  else if word == "<<" then .merge
  else if nullWords.contains word then .null
  else if isMoment text then .moment
  else if word == "=" then .value
  else .text

def Tag.ofPlain (text : String) : Tag :=
  if text.isEmpty then .null else Tag.ofLook (withoutFinalBreak text.toList)

end Plain

end StyleFold.Yaml
