import StyleFold.Data.Failure
import StyleFold.Data.Yaml.Source
import StyleFold.Number.Numeral
import StyleFold.Text.Units

/-!
Scalars of YAML text: plain, in single or double quotes, and blocks of lines. Inside a scalar
a single line end reads as a space, and further ones as line ends.
-/

namespace StyleFold.Yaml

def folded (first : Char) (others : List Char) : List Char :=
  if first != '\n' then first :: others
  else if others.isEmpty then [' ']
  else others

section Plain

/-- A plain scalar, and whether it was read up to the start of a later line. -/
structure Plain where
  text : List Char
  source : Source
  crossed : Bool

/-- A colon ends plain text when a gap follows, and inside brackets also before a flow mark. -/
def endsAfterColon (inFlow : Bool) : Option Char → Bool
  | none => true
  | some c => isGap c || (inFlow && isFlowMark c)

def plainLength (inFlow : Bool) : List Char → Nat
  | [] => 0
  | c :: rest =>
      if isGap c || (c == ':' && endsAfterColon inFlow rest.head?) ||
          (inFlow && (isFlowMark c || c == '?')) then 0
      else plainLength inFlow rest + 1

def plainBreaks : Nat → Source → List Char → Option (List Char) × Source
  | 0, source, breaks => (some breaks, source)
  | fuel + 1, source, breaks =>
      if source.isDocumentMarker then (none, source)
      else
        let source := source.skip isSpace
        match source.lineBreak? with
        | some (c, source) => plainBreaks fuel source (breaks ++ [c])
        | none => (some breaks, source)

/-- The gap after a piece of plain text: what it reads as, unless the scalar ends there. -/
def plainGap (source : Source) : Option (List Char) × Source × Bool :=
  let (spaces, source) := source.run isSpace
  match source.lineBreak? with
  | some (first, source) =>
      match plainBreaks source.bound source [] with
      | (some breaks, source) => (some (folded first breaks), source, true)
      | (none, source) => (none, source, true)
  | none => (if spaces.isEmpty then none else some spaces, source, false)

/-- Reads pieces of plain text, which continue on later lines that are indented enough. -/
def plainPieces (inFlow : Bool) (indent : Int) : Nat → Source → List Char → List Char → Bool → Plain
  | 0, source, text, _, crossed => { text, source, crossed }
  | fuel + 1, source, text, gap, crossed =>
      let length := plainLength inFlow source.rest
      if source.isAt '#' || length == 0 then { text, source, crossed }
      else
        let text := text ++ gap ++ source.rest.take length
        match plainGap (source.advance length) with
        | (none, source, crossed) => { text, source, crossed }
        | (some gap, source, crossed) =>
            if source.isAt '#' || (!inFlow && decide ((source.column : Int) < indent)) then
              { text, source, crossed }
            else plainPieces inFlow indent fuel source text gap crossed

def plain (inFlow : Bool) (indent : Int) (source : Source) : Plain :=
  plainPieces inFlow indent source.bound source [] [] false

def startsPlain (inFlow : Bool) (source : Source) : Bool :=
  match source.peek? with
  | none => false
  | some c =>
      let isIndicator := isGap c || isFlowMark c || "-?:#&*!|>'\"%@`".toList.contains c
      !isIndicator || (!endsIndicator source.second? &&
        (c == '-' || (!inFlow && (c == '?' || c == ':'))))

end Plain

section Quoted

def escapes : List (Char × Char) :=
  [('0', '\x00'), ('a', '\x07'), ('b', '\x08'), ('t', '\t'), ('\t', '\t'), ('n', '\n'),
   ('v', '\x0b'), ('f', '\x0c'), ('r', '\r'), ('e', '\x1b'), (' ', ' '), ('"', '"'), ('\\', '\\'),
   ('/', '/'), ('N', '\x85'), ('_', '\xa0'), ('L', '\u2028'), ('P', '\u2029')]

def codeWidth? (mark : Char) : Option Nat :=
  if mark == 'x' then some 2
  else if mark == 'u' then some 4
  else if mark == 'U' then some 8
  else none

def codeOf? (width : Nat) (source : Source) : Option Nat :=
  let digits := source.rest.take width
  if digits.length == width && digits.all (isDigitIn 16) then some (digitsValue 16 digits) else none

/-- Codes from here on do not even count as numbers of characters. -/
def codeBound : Nat := Nat.pow 2 31

/-- The character of a code. A high half of a pair takes the low half that an
escape right after it gives. -/
def charOf (code : Nat) (source : Source) : Except Failure (Char × Source) :=
  if Text.isHigh code then
    match source.rest with
    | '\\' :: 'u' :: _ =>
        match codeOf? 4 (source.advance 2) with
        | some low =>
            if Text.isLow low then .ok (Text.joinHalves code low, source.advance 6)
            else .ok (Text.ofUnit code, source)
        | none => .ok (Text.ofUnit code, source)
    | _ => .ok (Text.ofUnit code, source)
  else if code ≤ 0x10FFFF then .ok (Text.ofUnit code, source)
  else if code < codeBound then .error .unreadable
  else .error .outOfRange

def quotedBreaks : Nat → Source → List Char → Except Failure (List Char × Source)
  | 0, source, breaks => .ok (breaks, source)
  | fuel + 1, source, breaks =>
      if source.isDocumentMarker then .error .malformed
      else
        let source := source.skip isSpaceOrTab
        match source.lineBreak? with
        | some (c, source) => quotedBreaks fuel source (breaks ++ [c])
        | none => .ok (breaks, source)

def escape (source : Source) : Except Failure (List Char × Source) :=
  match source.peek? with
  | none => .error .malformed
  | some c =>
      match escapes.lookup c, codeWidth? c with
      | some plain, _ => .ok ([plain], source.next)
      | none, some width =>
          match codeOf? width source.next with
          | some code =>
              (charOf code (source.next.advance width)).map fun read => ([read.1], read.2)
          | none => .error .malformed
      | none, none =>
          match source.lineBreak? with
          | some (_, source) => quotedBreaks source.bound source []
          | none => .error .malformed

def quotedGap (source : Source) : Except Failure (List Char × Source) :=
  let (spaces, source) := source.run isSpaceOrTab
  match source.peek?, source.lineBreak? with
  | none, _ => .error .malformed
  | _, some (first, source) =>
      (quotedBreaks source.bound source []).map fun read => (folded first read.1, read.2)
  | _, none => .ok (spaces, source)

def quotedRest (double : Bool) : Nat → Source → List Char → Except Failure (List Char × Source)
  | 0, _, _ => .error .malformed
  | fuel + 1, source, text =>
      match source.peek? with
      | none => .error .malformed
      | some c =>
          if isGap c then
            match quotedGap source with
            | .ok (gap, source) => quotedRest double fuel source (text ++ gap)
            | .error failure => .error failure
          else if c == '\'' && !double then
            if source.second? == some '\'' then
              quotedRest double fuel (source.advance 2) (text ++ ['\''])
            else .ok (text, source.next)
          else if c == '"' && double then .ok (text, source.next)
          else if c == '\\' && double then
            match escape source.next with
            | .ok (chars, source) => quotedRest double fuel source (text ++ chars)
            | .error failure => .error failure
          else quotedRest double fuel source.next (text ++ [c])

def quoted (double : Bool) (source : Source) : Except Failure (List Char × Source) :=
  quotedRest double source.bound source.next []

end Quoted

section Block

/-- What becomes of the line ends after a block. -/
inductive Chomping where
  | strip
  | clip
  | keep
  deriving DecidableEq, Repr

structure BlockHeader where
  chomping : Chomping := .clip
  /-- Indentation relative to the surrounding block. -/
  indentation : Option Nat := none

def chompingOf? (c : Char) : Option Chomping :=
  if c == '+' then some .keep else if c == '-' then some .strip else none

def indentationOf? (c : Char) : Option Nat :=
  if '1' ≤ c && c ≤ '9' then some (digitValue c) else none

def blockIndicators (source : Source) : BlockHeader × Source :=
  match source.peek?.bind chompingOf?, source.peek?.bind indentationOf? with
  | some chomping, _ =>
      match source.next.peek?.bind indentationOf? with
      | some width => ({ chomping, indentation := some width }, source.next.next)
      | none => ({ chomping }, source.next)
  | none, some width =>
      match source.next.peek?.bind chompingOf? with
      | some chomping => ({ chomping, indentation := some width }, source.next.next)
      | none => ({ indentation := some width }, source.next)
  | none, none => ({}, source)

def blockHeaderEnd? (source : Source) : Option Source :=
  if source.peek?.all fun c => isSpace c || isBreak c then source.nextLine? else none

def blockIndentation : Nat → Source → List Char → Nat → List Char × Nat × Source
  | 0, source, breaks, widest => (breaks, widest, source)
  | fuel + 1, source, breaks, widest =>
      if source.isAt ' ' then
        blockIndentation fuel source.next breaks (max widest source.next.column)
      else match source.lineBreak? with
        | some (c, source) => blockIndentation fuel source (breaks ++ [c]) widest
        | none => (breaks, widest, source)

def blockMargin (indent : Nat) (source : Source) : Source :=
  let spaces := (source.rest.takeWhile isSpace).length
  source.advance (min spaces (indent - source.column))

def blockBreaks (indent : Nat) : Nat → Source → List Char → List Char × Source
  | 0, source, breaks => (breaks, source)
  | fuel + 1, source, breaks =>
      let source := blockMargin indent source
      match source.lineBreak? with
      | some (c, source) => blockBreaks indent fuel source (breaks ++ [c])
      | none => (breaks, source)

def chomped (chomping : Chomping) (last : Option Char) (breaks : List Char) : List Char :=
  match chomping with
  | .strip => []
  | .clip => last.toList
  | .keep => last.toList ++ breaks

/-- The lines of a block. In a folded one, a line end between two lines that begin with text
reads as a space, or as nothing when empty lines follow it. -/
def blockLines (folds : Bool) (chomping : Chomping) (indent : Nat) :
    Nat → Source → List Char → List Char → Option Char → List Char × Source
  | 0, source, text, _, _ => (text, source)
  | fuel + 1, source, text, breaks, last =>
      if source.column == indent && source.peek?.isSome then
        let startsWithText := !source.sees isSpaceOrTab
        let (line, source) := source.run fun c => !isBreak c
        let text := text ++ breaks ++ line
        let (last, source) := match source.lineBreak? with
          | some (c, source) => (some c, source)
          | none => (none, source)
        let (breaks, source) := blockBreaks indent source.bound source []
        if source.column == indent && source.peek?.isSome then
          let joint :=
            if folds && last == some '\n' && startsWithText && !source.sees isSpaceOrTab then
              (if breaks.isEmpty then [' '] else [])
            else last.toList
          blockLines folds chomping indent fuel source (text ++ joint) breaks last
        else (text ++ chomped chomping last breaks, source)
      else (text ++ chomped chomping last breaks, source)

def block? (folds : Bool) (outer : Int) (source : Source) : Option (List Char × Source) :=
  let (header, source) := blockIndicators source.next
  match blockHeaderEnd? source with
  | none => none
  | some source =>
      let least := (max (outer + 1) 1).toNat
      let fuel := source.bound
      match header.indentation with
      | none =>
          let (breaks, widest, source) := blockIndentation fuel source [] 0
          some (blockLines folds header.chomping (max least widest) fuel source [] breaks none)
      | some width =>
          let indent := least + width - 1
          let (breaks, source) := blockBreaks indent fuel source []
          some (blockLines folds header.chomping indent fuel source [] breaks none)

end Block

end StyleFold.Yaml
