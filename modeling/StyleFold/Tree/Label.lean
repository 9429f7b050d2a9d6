import StyleFold.Tree.Node

/-!
Labels: what a tree writes where it names something, such as an identifier, a key or the pattern
of a regular expression. A parser writes text there. Anything else is kept as it is written: it
is a name of its own that no text is equal to, and it is written out by its notation in messages.
Labels are told apart by what they are worth, so that `1`, `1.0` and `true` are one label.
-/

namespace StyleFold

inductive Label where
  | text (s : String)
  | null
  | bool (b : Bool)
  | int (i : Int)
  | float (x : Float)
  /-- A list without nodes, by the notation of its items. -/
  | row (items : List String)
  /-- A node, by its kind and its notation. It cannot be looked up. -/
  | node (kind : Option Kind) (shown : String)
  /-- Anything else, by its notation. What holds a node cannot be looked up. -/
  | other (shown : String) (canKey : Bool)
  deriving DecidableEq, Repr

namespace Label

instance : Coe String Label := ⟨.text⟩

section Sameness

/-- The whole number that a label is worth, as the one form of it. -/
def worth : Label → Label
  | .bool b => .int (if b then 1 else 0)
  | .float x =>
      match Exact.ofFloat x with
      | .finite units => if units.tmod Exact.one = 0 then .int (units.tdiv Exact.one) else .float x
      | _ => .float x
  | label => label

instance : BEq Label := ⟨fun left right => decide (left.worth = right.worth)⟩

theorem beq_iff {left right : Label} : (left == right) = true ↔ left.worth = right.worth :=
  decide_eq_true_iff

instance : EquivBEq Label where
  rfl := beq_iff.mpr rfl
  symm same := beq_iff.mpr (beq_iff.mp same).symm
  trans first second := beq_iff.mpr ((beq_iff.mp first).trans (beq_iff.mp second))

end Sameness

section Reading

mutual

def canKeyData : Data → Bool
  | .list items => canKeyAll items
  | .pair key value => canKeyData key && canKeyData value
  | .set _ | .map _ | .cycle _ => false
  | _ => true

def canKeyAll : List Data → Bool
  | [] => true
  | item :: rest => canKeyData item && canKeyAll rest

end

def ofData : Data → Label
  | .text s => .text s
  | .null => .null
  | .bool b => .bool b
  | .int i => .int i
  | .float x => .float x
  | .list items =>
      if canKeyAll items then .row (Node.shownParts items)
      else .other (Node.shownPart (.list items)) false
  | .map entries =>
      match Node.ofEntries entries with
      | .ok view => .node view.kind view.shown
      | .error _ => .other (Node.shownPart (.map entries)) false
  | data => .other (Node.shownPart data) (canKeyData data)

end Reading

def shown : Label → String
  | .text s => Text.quoted s
  | .null => Data.null.shown
  | .bool b => (Data.bool b).shown
  | .int i => (Data.int i).shown
  | .float x => (Data.float x).shown
  | .row items => Text.bracketed items
  | .node _ shown => shown
  | .other shown _ => shown

def plain : Label → String
  | .text s => s
  | label => label.shown

def isEmpty : Label → Bool
  | .text s => s.isEmpty
  | .null => true
  | .bool b => !b
  | .int i => i == 0
  | .float x => (Exact.ofFloat x).isZero
  | .row items => items.isEmpty
  | .node _ _ => false
  | .other _ _ => false

def text? : Label → Option String
  | .text s => some s
  | _ => none

def canKey : Label → Bool
  | .node _ _ => false
  | .other _ canKey => canKey
  | _ => true

def key (label : Label) : Except Fault Label :=
  if label.canKey then .ok label else .error .wrongType

def unlessNull : Label → Option Label
  | .null => none
  | label => some label

/-- The fault of a label that has to be text. A node is asked for a field instead. -/
def notText (asked : String) : Label → Fault
  | .node kind _ => .missingField kind asked
  | _ => .noAttribute

def beginning : String := "startswith"

def indexing : String := "isdigit"

def spelling : Label → Except Fault String
  | .text s => .ok s
  | label => .error (label.notText beginning)

end Label

def Node.label (node : Node) (name : String) : Except Fault Label := do
  let part ← node.field name
  return Label.ofData part.val

end StyleFold
