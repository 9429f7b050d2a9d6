import StyleFold.Tree.Node
import StyleFold.Value.Conversion

/-!
Values that a literal or a container part has without further evaluation.
-/

namespace StyleFold.Fold

section Literals

mutual

def literalValue : Data → Value
  | .text s => .string s
  | .bool b => .bool b
  | .null => .null
  | .float x => .number x
  | .int i => .whole i
  | .list items => .array (bareItems items)
  | .pair key value => .array [.bare (literalValue key), .bare (literalValue value)]
  | data => .foreign data

def bareItems : List Data → List Result
  | [] => []
  | item :: rest => .bare (literalValue item) :: bareItems rest

end

def numberOf : Data → Except Fault Float
  | .float x => .ok x
  | .bool b => .ok (Double.ofInt (if b then 1 else 0))
  | .int i =>
      match Double.ofInt? i with
      | some x => .ok x
      | none => .error .numberTooLarge
  | .text s => numeral s
  | .bytes octets =>
      match Text.ofAscii? octets with
      | some s => numeral s
      | none => .error .unreadableNumber
  | _ => .error .wrongType
where
  numeral (text : String) : Except Fault Float :=
    match Grouped.readFloat? text with
    | some x => .ok x
    | none => .error .unreadableNumber

/-- The digits of a bigint literal: blanks, the mark `n` and grouping underscores apart. -/
def bigintDigits (text : String) : List Char :=
  let body := Text.trimEnd (· == 'n') (Text.trim Text.isBlank text.toList)
  body.filter (· != '_')

/-- The value of a bigint literal: a whole number, or a numeral in its value or source text. -/
def bigintOf (node : Node) : Except Fault Int := do
  let value := ((← node.field? "value").map Subtype.val).getD .null
  match value with
  | .int i => return i
  | .text s => readText value s
  | _ =>
      match ← node.field? "raw" with
      | some ⟨.text s, _⟩ => readText value s
      | _ => .error (.malformedBigint (Node.shownPart value))
where
  readText (value : Data) (text : String) : Except Fault Int :=
    match Grouped.readLiteral? (bigintDigits text) with
    | some i => .ok i
    | none => .error (.malformedBigint (Node.shownPart value))

/-- A field counts as empty: nothing, an empty text, zero, false. -/
def isEmptyPart : Data → Bool
  | .null => true
  | .bool b => !b
  | .int i => i == 0
  | .float x => (Exact.ofFloat x).isZero
  | .text s => s.isEmpty
  | .bytes octets => octets.isEmpty
  | .list items => items.isEmpty
  | .set members => members.isEmpty
  | .moment _ | .pair _ _ | .map _ | .cycle _ => false

/-- The text of a piece of a template: the cooked one, or the raw one when there is none. -/
def pieceValue (node : Node) : Except Fault Value := do
  let raw : Unit → Except Fault Value := fun _ => do
    match ← node.field? "raw" with
    | some part => return literalValue part.val
    | none => return .string ""
  match ← node.field? "cooked" with
  | some part => if isEmptyPart part.val then raw () else return literalValue part.val
  | none => raw ()

end Literals

section Spreads

def charResults (s : String) (span : Option Span) : List Result :=
  s.toList.map fun c => .value (.string (String.singleton c)) span

/-- What a spread in an array or argument list stands for; an unknown one stays one entry. -/
def spreadEntries : Result → List Result
  | .value (.array entries) _ => entries
  | .value (.string s) span => charResults s span
  | _ => [.nonStatic]

def indexed (entries : List Result) : Members :=
  entries.mapIdx fun index result => (.text (toString index), result)

def spreadMembers : Result → Members
  | .value (.object members) _ => members
  | .value (.array entries) _ => indexed entries
  | .value (.string s) span => indexed (charResults s span)
  | _ => []

end Spreads

section MemberReads

def inherited : List String :=
  ["constructor", "hasOwnProperty", "isPrototypeOf", "propertyIsEnumerable", "toLocaleString",
   "toString", "valueOf", "__proto__", "__defineGetter__", "__defineSetter__",
   "__lookupGetter__", "__lookupSetter__"]

def readMember (base : Value) (key : String) (span : Option Span) : Except Refusal Result :=
  match base with
  | .object members =>
      match Members.get? members key with
      | some result => .ok (result.respan span)
      | none => .ok (if inherited.contains key then .nonStatic else .value .undefined span)
  | .array entries =>
      if key == "length" then .ok (.value (.number (Double.ofInt entries.length)) span)
      else (indexOfText key).map fun
        | none => .nonStatic
        | some index =>
            match entries[index]? with
            | some result => result.respan span
            | none => .value .undefined span
  | _ => .ok .nonStatic

def readLabel (base : Value) (label : Label) (span : Option Span) : Except Fault Result :=
  match label with
  | .text key => (readMember base key span).mapError Fault.refused
  | label =>
      match base with
      | .object members => do
          match Members.get? members (← label.key) with
          | some result => return result.respan span
          | none => return .value .undefined span
      | .array _ => .error (label.notText Label.indexing)
      | _ => .ok .nonStatic

end MemberReads

end StyleFold.Fold
