/-!
YAML text as it is read: what is left of it, and where that stands. Lines and columns
decide the structure of the text, so every step keeps count of them.
-/

namespace StyleFold.Yaml

section Classes

def isBreak (c : Char) : Bool :=
  c == '\n' || c == '\r' || c == '\x85' || c == '\u2028' || c == '\u2029'

def isSpace (c : Char) : Bool := c == ' '

def isSpaceOrTab (c : Char) : Bool := c == ' ' || c == '\t'

def isGap (c : Char) : Bool := isSpaceOrTab c || isBreak c

def endsIndicator : Option Char → Bool
  | none => true
  | some c => isGap c

def byteOrderMark : Char := '\ufeff'

def isAllowed (c : Char) : Bool :=
  let n := c.toNat
  n == 0x09 || n == 0x0A || n == 0x0D || (0x20 ≤ n && n ≤ 0x7E) || n == 0x85 ||
    (0xA0 ≤ n && n ≤ 0xD7FF) || (0xE000 ≤ n && n ≤ 0xFFFD) || 0x10000 ≤ n

def isFlowMark (c : Char) : Bool :=
  c == ',' || c == '[' || c == ']' || c == '\x7b' || c == '\x7d'

end Classes

structure Source where
  rest : List Char
  /-- No more characters than this are left; steps that read on are counted by it. -/
  bound : Nat
  index : Nat := 0
  line : Nat := 0
  column : Nat := 0

namespace Source

def ofText (text : List Char) : Source := { rest := text, bound := text.length + 1 }

def peek? (source : Source) : Option Char := source.rest.head?

def second? (source : Source) : Option Char := source.rest[1]?

def isAt (source : Source) (c : Char) : Bool := source.peek? == some c

def sees (source : Source) (what : Char → Bool) : Bool :=
  match source.peek? with
  | some c => what c
  | none => false

/-- Passes one character. A carriage return before a line feed does not end the line by itself,
and a byte order mark takes no column. -/
def next (source : Source) : Source :=
  match source.rest with
  | [] => source
  | c :: rest =>
      if isBreak c && !(c == '\r' && rest.head? == some '\n') then
        { source with rest, index := source.index + 1, line := source.line + 1, column := 0 }
      else if c == byteOrderMark then { source with rest, index := source.index + 1 }
      else { source with rest, index := source.index + 1, column := source.column + 1 }

def advance : Nat → Source → Source
  | 0, source => source
  | count + 1, source => advance count source.next

def run (source : Source) (what : Char → Bool) : List Char × Source :=
  let chars := source.rest.takeWhile what
  (chars, source.advance chars.length)

def skip (source : Source) (what : Char → Bool) : Source := (source.run what).2

/-- A line break at this place. All breaks read as line feeds, except for the separators of
lines and paragraphs, which stand for themselves. -/
def lineBreak? (source : Source) : Option (Char × Source) :=
  match source.rest with
  | '\r' :: '\n' :: _ => some ('\n', source.advance 2)
  | c :: _ =>
      if c == '\u2028' || c == '\u2029' then some (c, source.next)
      else if isBreak c then some ('\n', source.next)
      else none
  | [] => none

def isMarker (source : Source) (mark : Char) : Bool :=
  match source.rest with
  | a :: b :: c :: rest => a == mark && b == mark && c == mark && endsIndicator rest.head?
  | _ => false

def isDocumentMarker (source : Source) : Bool := source.isMarker '-' || source.isMarker '.'

def skipComment (source : Source) : Source :=
  if source.isAt '#' then source.skip fun c => !isBreak c else source

def nextLine? (source : Source) : Option Source :=
  let source := (source.skip isSpace).skipComment
  match source.peek?, source.lineBreak? with
  | none, _ => some source
  | _, some (_, source) => some source
  | _, none => none

def skipGap : Nat → Source → Bool → Source × Bool
  | 0, source, crossed => (source, crossed)
  | fuel + 1, source, crossed =>
      let source := (source.skip isSpace).skipComment
      match source.lineBreak? with
      | some (_, source) => skipGap fuel source true
      | none => (source, crossed)

def toToken (source : Source) : Source × Bool :=
  let source :=
    if source.index == 0 && source.isAt byteOrderMark then source.next else source
  skipGap source.bound source false

end Source

end StyleFold.Yaml
