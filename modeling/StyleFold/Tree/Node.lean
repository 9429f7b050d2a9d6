import StyleFold.Data.Basic
import StyleFold.Fault
import StyleFold.Number.Grouped
import StyleFold.Tree.Span

/-!
Nodes: a read-only view of the mappings of a parsed file. A mapping with a tag has a kind;
one without is a plain record. Nothing is checked before it is reached: opening
a mapping checks its own tag and span, reading a field checks the mappings
that the field holds directly or in lists. Every accessor that hands out part of a node
also hands out the proof that the part is smaller.
-/

namespace StyleFold

structure Node where
  kind : Option Kind
  span : Option Span
  entries : Entries

namespace Node

/-- The measure by which parts of a node are smaller. -/
noncomputable def size (node : Node) : Nat := sizeOf node.entries

section Opening

def numeralOf (text : String) : Except Fault Int :=
  match Grouped.readInt? text with
  | some i => .ok i
  | none => .error .unreadableNumber

def boundOf : Data → Except Fault Int
  | .int i => .ok i
  | .bool b => .ok (if b then 1 else 0)
  | .float x =>
      match Exact.ofFloat x with
      | .nan => .error .unreadableNumber
      | .infinite _ => .error .numberTooLarge
      | .finite units => .ok (units.tdiv Exact.one)
  | .text s => numeralOf s
  | .bytes octets =>
      match Text.ofAscii? octets with
      | some s => numeralOf s
      | none => .error .unreadableNumber
  | _ => .error .wrongType

/-- A span needs both ends; anything else counts as no span. -/
def spanOf : Option Data → Except Fault (Option Span)
  | some (.map entries) =>
      match Data.lookup? "start" entries, Data.lookup? "end" entries with
      | some first, some last => do
          let start ← boundOf first
          let stop ← boundOf last
          return some ⟨start, stop⟩
      | _, _ => .ok none
  | _ => .ok none

def kindOf : Option Data → Except Fault (Option Kind)
  | none => .ok none
  | some .null => .ok none
  | some (.text tag) =>
      match Kind.ofTag? tag with
      | some kind => .ok (some kind)
      | none => .error (.unknownKind tag)
  | some other => .error (.kindNotText other.kindWord)

def ofEntries (entries : Entries) : Except Fault Node := do
  let kind ← kindOf (Data.lookup? "type" entries)
  let span ← spanOf (Data.lookup? "span" entries)
  return ⟨kind, span, entries⟩

def ofData : Data → Except Fault Node
  | .map entries => ofEntries entries
  | other => .error (.notMapping other.kindWord)

theorem entries_of_ofEntries {entries : Entries} {node : Node}
    (opened : ofEntries entries = .ok node) : node.entries = entries := by
  unfold ofEntries at opened
  cases kind : kindOf (Data.lookup? "type" entries) with
  | error fault => simp [kind, bind, Except.bind] at opened
  | ok k =>
      cases span : spanOf (Data.lookup? "span" entries) with
      | error fault => simp [kind, span, bind, Except.bind] at opened
      | ok s =>
          simp only [kind, span, bind, Except.bind, pure, Except.pure, Except.ok.injEq] at opened
          rw [← opened]

/-- The word for a kind of data inside a node, where lists cannot change. -/
def innerWord : Data → String
  | .list _ => "tuple"
  | other => other.kindWord

/-- Opens data found inside a node; what is no mapping gives the fault. -/
def openOr (fault : Fault) : (data : Data) → Except Fault { node : Node // node.size < sizeOf data }
  | .map entries =>
      match opened : ofEntries entries with
      | .ok node => .ok ⟨node, by simp [size, entries_of_ofEntries opened]⟩
      | .error other => .error other
  | _ => .error fault

def expect (data : Data) : Except Fault { node : Node // node.size < sizeOf data } :=
  openOr .noAttribute data

def operand (data : Data) : Except Fault { node : Node // node.size < sizeOf data } :=
  openOr (.notMapping (innerWord data)) data

mutual

def check : Data → Except Fault Unit
  | .map entries => (ofEntries entries).map fun _ => ()
  | .list items => checkAll items
  | .pair key value =>
      match check key with
      | .ok () => check value
      | .error fault => .error fault
  | _ => .ok ()

def checkAll : List Data → Except Fault Unit
  | [] => .ok ()
  | item :: rest =>
      match check item with
      | .ok () => checkAll rest
      | .error fault => .error fault

end

end Opening

section Fields

abbrev Part (node : Node) := { data : Data // sizeOf data < node.size }

abbrev Parts (node : Node) := { items : List Data // sizeOf items < node.size }

/-- The key that a name with underscores stands for: `type_only` reads `typeOnly`. -/
def camel : List Char → List Char
  | [] => []
  | [c] => [c]
  | '_' :: c :: rest =>
      if 'a' ≤ c && c ≤ 'z' then c.toUpper :: camel rest else '_' :: camel (c :: rest)
  | c :: d :: rest => c :: camel (d :: rest)

def checked (node : Node) (part : node.Part) : Except Fault node.Part :=
  match check part.val with
  | .ok () => .ok part
  | .error fault => .error fault

def find? (node : Node) (key : String) : Option node.Part :=
  match found : Data.lookup? key node.entries with
  | some data => some ⟨data, Data.sizeOf_lookup? found⟩
  | none => none

def field (node : Node) (name : String) : Except Fault node.Part :=
  if name.toList.head? = some '_' then .error .hiddenField
  else match node.find? name with
    | some part => node.checked part
    | none =>
        match node.find? (String.ofList (camel name.toList)) with
        | some part => node.checked part
        | none => .error (.missingField node.kind name)

def field? (node : Node) (key : String) : Except Fault (Option node.Part) :=
  match node.find? key with
  | some part =>
      match part.val with
      | .null => .ok none
      | _ => (node.checked part).map some
  | none => .ok none

/-- A field whose items are visited one by one. `onText` is the fault of the first
character when the field is text. -/
def items (node : Node) (name : String) (onText : Fault) : Except Fault node.Parts := do
  let part ← node.field name
  match part with
  | ⟨.list items, small⟩ => .ok ⟨items, by simp only [Data.list.sizeOf_spec] at small; omega⟩
  | ⟨.text s, small⟩ =>
      if s.isEmpty then .ok ⟨[], by simp only [Data.text.sizeOf_spec] at small; simp; omega⟩
      else .error onText
  | _ => .error .wrongType

def parts (node : Node) (row : node.Parts) : List node.Part :=
  row.val.attach.map fun item =>
    ⟨item.val, Nat.lt_trans (List.sizeOf_lt_of_mem item.property) row.property⟩

/-- An optional row of items. Missing, it is empty; `onText` is the fault of reaching into text. -/
def row (node : Node) (key : String) (onText : Fault) :
    Except Fault (Except Fault (List node.Part)) := do
  match ← node.field? key with
  | none => return .ok []
  | some ⟨.list items, small⟩ =>
      return .ok (node.parts ⟨items, by simp only [Data.list.sizeOf_spec] at small; omega⟩)
  | some ⟨.text s, _⟩ => return if s.isEmpty then .ok [] else .error onText
  | some _ => return .error .wrongType

def child (node : Node) (name : String) :
    Except Fault { inner : Node // inner.size < node.size } := do
  let part ← node.field name
  let inner ← expect part.val
  return ⟨inner.val, Nat.lt_trans inner.property part.property⟩

def word? (node : Node) (name : String) : Except Fault (Option String) := do
  let part ← node.field name
  match part.val with
  | .text s => return some s
  | _ => return none

def isKind (node : Node) (kind : Kind) : Bool := node.kind == some kind

def isReserved (key : Data) : Bool :=
  Data.isKey "type" key || Data.isKey "span" key || Data.isKey "ctxt" key

def fields (node : Node) : Entries :=
  node.entries.filter fun entry => !isReserved entry.1

end Fields

def shown (node : Node) : String :=
  match node.kind with
  | none => "<record keys=" ++ (Data.list (node.entries.map Prod.fst)).shown ++ ">"
  | some kind =>
      "<" ++ kind.tag ++ " span=" ++ (node.span.map Span.shownPair).getD "None" ++ ">"

mutual

def shownPart : Data → String
  | .list items => Text.bracketed (shownParts items)
  | .pair key value => Text.bracketed [shownPart key, shownPart value]
  | .map entries =>
      match ofEntries entries with
      | .ok node => node.shown
      | .error _ => (Data.map entries).shown
  | other => other.shown

def shownParts : List Data → List String
  | [] => []
  | item :: rest => shownPart item :: shownParts rest

end

end Node

end StyleFold
