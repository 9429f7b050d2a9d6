import StyleFold.Data.Yaml.Property
import StyleFold.Data.Yaml.Scalar

/-!
YAML text as tokens. Blocks are opened by indentation and closed by the next line that is
indented less. A mapping key is only known by the colon after it: what may turn out to be
a key is kept as a candidate, one for each depth of brackets, and the tokens that open the key
are put before it when the colon comes. A candidate is given up at the end of its line. Where
no token can be read, the last one tells why; what may be a key until then is not handed out.
-/

namespace StyleFold.Yaml

inductive Token where
  | documentStart
  | documentEnd
  | blockSequence
  | blockMapping
  | blockEnd
  | flowSequence
  | flowSequenceEnd
  | flowMapping
  | flowMappingEnd
  | dash
  | comma
  | key
  | value
  | directive (directive : Directive)
  | anchor (name : String)
  | alias (name : String)
  | tag (name : TagName)
  | scalar (plain : Bool) (text : String)
  | stop (why : Failure)
  deriving DecidableEq, Repr

/-- A place where a key may have begun. -/
structure Candidate where
  /-- The brackets around it. -/
  depth : Nat
  /-- How many tokens stand before it. -/
  before : Nat
  /-- Nothing but a key may stand there. -/
  required : Bool
  index : Nat
  line : Nat
  column : Nat

def longestKey : Nat := 1024

structure Scan where
  source : Source
  /-- Latest first. -/
  tokens : List Token := []
  /-- How many tokens there are. -/
  count : Nat := 0
  /-- How many brackets are open. -/
  depth : Nat := 0
  /-- The column of the current block. -/
  indent : Int := -1
  /-- The columns of the blocks around it. -/
  outer : List Int := []
  keyAllowed : Bool := true
  candidates : List Candidate := []

namespace Scan

def inFlow (scan : Scan) : Bool := scan.depth != 0

def emit (scan : Scan) (token : Token) : Scan :=
  { scan with tokens := token :: scan.tokens, count := scan.count + 1 }

def insert (scan : Scan) (before : Nat) (added : List Token) : Scan :=
  let after := scan.count - before
  { scan with
    tokens := scan.tokens.take after ++ added.reverse ++ scan.tokens.drop after
    count := scan.count + added.length }

def allowKey (scan : Scan) (allowed : Bool) : Scan := { scan with keyAllowed := allowed }

def pass (scan : Scan) (count : Nat) : Scan :=
  { scan with source := scan.source.advance count }

section Indentation

def closeBlocks (column : Int) : Int → List Int → Nat × Int × List Int
  | indent, [] => (0, indent, [])
  | indent, next :: outer =>
      if indent > column then
        let (closed, left) := closeBlocks column next outer
        (closed + 1, left)
      else (0, indent, next :: outer)

/-- Closes the blocks that are indented more than a column. Brackets suspend indentation. -/
def unwind (scan : Scan) (column : Int) : Scan :=
  if scan.inFlow then scan
  else
    let (closed, indent, outer) := closeBlocks column scan.indent scan.outer
    { scan with
      indent, outer
      tokens := List.replicate closed .blockEnd ++ scan.tokens
      count := scan.count + closed }

def opensBlock (scan : Scan) (column : Nat) : Bool := decide (scan.indent < column)

def indentTo (scan : Scan) (column : Nat) : Scan :=
  if scan.opensBlock column then
    { scan with indent := column, outer := scan.indent :: scan.outer }
  else scan

def openBlock (scan : Scan) (token : Token) : Scan :=
  let column := scan.source.column
  if scan.opensBlock column then (scan.indentTo column).emit token else scan

end Indentation

section Candidates

def isStale (scan : Scan) (candidate : Candidate) : Bool :=
  candidate.line != scan.source.line || scan.source.index - candidate.index > longestKey

/-- Gives up candidates that match; a required one is a fault. -/
def drop (scan : Scan) (which : Candidate → Bool) : Except Failure Scan :=
  if scan.candidates.any fun candidate => which candidate && candidate.required then
    .error .malformed
  else .ok { scan with candidates := scan.candidates.filter fun candidate => !which candidate }

def dropStale (scan : Scan) : Except Failure Scan := scan.drop scan.isStale

def dropCurrent (scan : Scan) : Except Failure Scan :=
  scan.drop fun candidate => candidate.depth == scan.depth

def markKey (scan : Scan) : Except Failure Scan :=
  if scan.keyAllowed then
    scan.dropCurrent.map fun scan =>
      let candidate : Candidate :=
        { depth := scan.depth, before := scan.count
          required := !scan.inFlow && decide (scan.indent = scan.source.column)
          index := scan.source.index, line := scan.source.line, column := scan.source.column }
      { scan with candidates := candidate :: scan.candidates }
  else .ok scan

def current? (scan : Scan) : Option Candidate :=
  scan.candidates.find? fun candidate => candidate.depth == scan.depth

def settled (scan : Scan) : Nat :=
  (scan.candidates.filter fun candidate => !scan.isStale candidate).foldl
    (fun least candidate => min least candidate.before) scan.count

def stopped (scan : Scan) (why : Failure) : List Token :=
  scan.tokens.reverse.take scan.settled ++ [.stop why]

end Candidates

section Tokens

def marker (scan : Scan) (token : Token) : Except Failure Scan :=
  (scan.unwind (-1)).dropCurrent.map fun scan => ((scan.allowKey false).pass 3).emit token

def openFlow (scan : Scan) (token : Token) : Except Failure Scan :=
  scan.markKey.map fun scan =>
    (({ scan with depth := scan.depth + 1 }.allowKey true).pass 1).emit token

def closeFlow (scan : Scan) (token : Token) : Except Failure Scan :=
  if scan.inFlow then
    scan.dropCurrent.map fun scan =>
      (({ scan with depth := scan.depth - 1 }.allowKey false).pass 1).emit token
  else .error .malformed

def comma (scan : Scan) : Except Failure Scan :=
  scan.dropCurrent.map fun scan => ((scan.allowKey true).pass 1).emit .comma

/-- A dash or a question mark: outside brackets it stands where a key may
stand and can open a block. -/
def indicator (scan : Scan) (opening token : Token) (allowed : Bool) : Except Failure Scan :=
  if scan.inFlow then scan.dropCurrent.map fun scan => ((scan.allowKey allowed).pass 1).emit token
  else if scan.keyAllowed then
    (scan.openBlock opening).dropCurrent.map fun scan =>
      ((scan.allowKey allowed).pass 1).emit token
  else .error .malformed

/-- A colon. It makes a key of the candidate; without one the key was empty or marked. -/
def colon (scan : Scan) : Except Failure Scan :=
  match scan.current? with
  | some candidate =>
      let opens := !scan.inFlow && scan.opensBlock candidate.column
      let scan := { scan with
        candidates := scan.candidates.filter fun other => other.depth != scan.depth }
      let scan := scan.insert candidate.before (if opens then [.blockMapping, .key] else [.key])
      let scan := if opens then scan.indentTo candidate.column else scan
      .ok (((scan.allowKey false).pass 1).emit .value)
  | none => scan.indicator .blockMapping .value (!scan.inFlow)

def read (scan : Scan) (source : Source) (allowed : Bool) (token : Token) : Scan :=
  ({ scan with source }.allowKey allowed).emit token

def take {α : Type} (scan : Scan) (tokenOf : α → Token) : Option (α × Source) → Except Failure Scan
  | some (found, source) => .ok (scan.read source false (tokenOf found))
  | none => .error .malformed

def directiveLine (scan : Scan) : Except Failure Scan := do
  let scan ← (scan.unwind (-1)).dropCurrent
  scan.take .directive (directive? scan.source)

def property {α : Type} (scan : Scan) (tokenOf : α → Token)
    (reader : Source → Option (α × Source)) : Except Failure Scan := do
  let scan ← scan.markKey
  scan.take tokenOf (reader scan.source)

def plainScalar (scan : Scan) : Except Failure Scan :=
  scan.markKey.map fun scan =>
    let found := plain scan.inFlow (scan.indent + 1) scan.source
    scan.read found.source found.crossed (.scalar true (String.ofList found.text))

def quotedScalar (scan : Scan) (double : Bool) : Except Failure Scan := do
  let scan ← scan.markKey
  let (text, source) ← quoted double scan.source
  return scan.read source false (.scalar false (String.ofList text))

def blockScalar (scan : Scan) (folds : Bool) : Except Failure Scan := do
  let scan ← scan.dropCurrent
  match block? folds scan.indent scan.source with
  | some (text, source) => return scan.read source true (.scalar false (String.ofList text))
  | none => throw .malformed

def token (scan : Scan) (c : Char) : Except Failure Scan :=
  let source := scan.source
  let apart := endsIndicator source.second?
  if source.column == 0 && c == '%' then scan.directiveLine
  else if source.column == 0 && source.isMarker '-' then scan.marker .documentStart
  else if source.column == 0 && source.isMarker '.' then scan.marker .documentEnd
  else if c == '[' then scan.openFlow .flowSequence
  else if c == '\x7b' then scan.openFlow .flowMapping
  else if c == ']' then scan.closeFlow .flowSequenceEnd
  else if c == '\x7d' then scan.closeFlow .flowMappingEnd
  else if c == ',' then scan.comma
  else if c == '-' && apart then scan.indicator .blockSequence .dash true
  else if c == '?' && (scan.inFlow || apart) then
    scan.indicator .blockMapping .key (!scan.inFlow)
  else if c == ':' && (scan.inFlow || apart) then scan.colon
  else if c == '*' then scan.property .alias anchor?
  else if c == '&' then scan.property .anchor anchor?
  else if c == '!' then scan.property .tag tag?
  else if c == '|' && !scan.inFlow then scan.blockScalar false
  else if c == '>' && !scan.inFlow then scan.blockScalar true
  else if c == '\'' then scan.quotedScalar false
  else if c == '"' then scan.quotedScalar true
  else if startsPlain scan.inFlow source then scan.plainScalar
  else .error .malformed

end Tokens

def toToken (scan : Scan) : Except Failure Scan :=
  let (source, crossed) := scan.source.toToken
  let scan := { scan with source, keyAllowed := scan.keyAllowed || (crossed && !scan.inFlow) }
  scan.dropStale.map fun scan => scan.unwind scan.source.column

def finish (scan : Scan) : Except Failure (List Token) :=
  (scan.unwind (-1)).dropCurrent.map fun scan => scan.tokens.reverse

def step (scan : Scan) : Except Failure (Scan ⊕ List Token) := do
  let scan ← scan.toToken
  match scan.source.peek? with
  | none => return .inr (← scan.finish)
  | some c => return .inl (← scan.token c)

/-- Reads tokens to the end; every token uses up a character. -/
def run : Nat → Scan → List Token
  | 0, scan => scan.stopped .malformed
  | fuel + 1, scan =>
      match scan.step with
      | .error why => scan.stopped why
      | .ok (.inl next) => run fuel next
      | .ok (.inr tokens) => tokens

end Scan

/-! Names of nodes: an alias repeats an earlier anchor, and no two anchors have one name. -/

section Names

/-- The failure of a node with a name that is taken. The node is read first, so its own failure
counts when it cannot be read. -/
def Token.taken : List Token → Failure
  | .stop why :: _ => why
  | .tag _ :: .stop why :: _ => why
  | _ => .malformed

def Token.named (names : List String) : List Token → List Token
  | [] => []
  | .anchor name :: rest =>
      if names.contains name then [.stop (Token.taken rest)]
      else .anchor name :: Token.named (name :: names) rest
  | .alias name :: rest =>
      if names.contains name then .alias name :: Token.named names rest
      else [.stop .malformed]
  | token :: rest => token :: Token.named names rest

end Names

def Token.scan (text : List Char) : List Token :=
  if text.all isAllowed then
    Token.named [] (Scan.run (text.length + 1) { source := .ofText text })
  else [.stop .malformed]

end StyleFold.Yaml
