import StyleFold.Assoc
import StyleFold.Text.Begin
import StyleFold.Walk.Visit

/-!
Scripted visitors: handlers that play a list of prepared replies and record every call.
The state is plain data. They show what a walk does without any analysis of their own.
-/

namespace StyleFold.Walk

/-- What a handler is registered for. -/
inductive Key where
  | wildcard
  | enter (kind : Kind)
  | leave (kind : Kind)
  | wrong (shown : String)
  deriving DecidableEq, Repr

namespace Key

def ofText (text : String) : Except Fault Key :=
  if text == "*" then .ok .wildcard
  else
    let (make, tag) := match Text.after? "exit " text.toList with
      | some rest => (Key.leave, String.ofList rest)
      | none => (Key.enter, text)
    match Kind.ofTag? tag with
    | some kind => .ok (make kind)
    | none => .error (.unknownKind tag)

def text : Key → String
  | .wildcard => "*"
  | .enter kind => kind.tag
  | .leave kind => "exit " ++ kind.tag
  | .wrong shown => shown

end Key

/-- One prepared reply. -/
inductive Reply where
  | keep
  | skip
  | abort
  | cancel
  | malformed
  | proceed (state : Data)
  | append (item : Data)
  | ignoring (paths : List String) (state : Option Data)
  | byValue (value : Data) (same other : Reply)
  deriving Inhabited

/-- A recorded call. -/
structure Event where
  key : Key
  kind : Option Kind
  value : Option String
  span : Option Span
  state : Data
  parent : Option Kind

structure Record where
  events : List Event := []
  /-- How often each handler has been called. -/
  calls : List (Key × Nat) := []
  cancelled : Bool := false

namespace Reply

/-- A value field is the wanted one; nodes, lists of nodes and what is not a number never are. -/
def matchesValue (value wanted : Data) : Bool :=
  match value with
  | .map _ | .list _ => false
  | .float x => Exact.ofFloat x != .nan && Data.equal (.float x) wanted
  | scalar => Data.equal scalar wanted

/-- The action of a reply for a node's value and state, and whether it asks for cancellation. -/
def play (value : Data) (state : Data) : Reply → Except Fault (Action Data × Bool)
  | .keep => .ok (.keep, false)
  | .skip => .ok (.skipChildren, false)
  | .abort => .ok (.abort, false)
  | .cancel => .ok (.keep, true)
  | .malformed => .ok (.malformed, false)
  | .proceed next => .ok (.proceed next, false)
  | .append item =>
      match state with
      | .list items => .ok (.proceed (.list (items ++ [item])), false)
      | _ => .error .wrongType
  | .ignoring paths next => .ok (.proceedIgnoring (next.getD state) paths, false)
  | .byValue wanted same other =>
      if matchesValue value wanted then same.play value state else other.play value state

/-- The reply to a call; the last one repeats, and without any the state is kept. -/
def nth (replies : List Reply) (index : Nat) : Reply :=
  (replies[min index (replies.length - 1)]?).getD .keep

end Reply

abbrev Script := List (Key × List Reply)

namespace Script

def handler (key : Key) (replies : List Reply) : Handler Data Record :=
  fun node state parent => do
    let part ← attempt (node.field? "value")
    let value := (part.map Subtype.val).getD .null
    let text := match value with
      | .text s => some s
      | _ => none
    let record : Record ← get
    let index := (record.calls.lookup key).getD 0
    let event : Event :=
      { key, kind := node.kind, value := text, span := node.span, state
        parent := parent.bind Node.kind }
    set ({ record with
      events := record.events ++ [event]
      calls := Assoc.put key (index + 1) record.calls } : Record)
    let (action, cancels) ← attempt ((Reply.nth replies index).play value state)
    if cancels then modify fun (record : Record) => { record with cancelled := true }
    return action

def find (script : Script) (key : Key) : Option (Handler Data Record) :=
  (script.lookup key).map (handler key)

def visitor (script : Script) : Except Fault (Visitor Data Record) :=
  match script.findSome? (fun entry => match entry.1 with
    | .wrong shown => some shown
    | _ => none) with
  | some shown => .error (.wrongHandlerKey shown)
  | none => .ok
      { wildcard := script.find .wildcard
        enter := fun kind => script.find (.enter kind)
        leave := fun kind => script.find (.leave kind)
        cancelled := Record.cancelled }

def run (visitor : Visitor Data Record) (root : Node) (state : Data) :
    Nat → Record → Except Fault (List Outcome) × Record
  | 0, record => (.ok [], record)
  | times + 1, record =>
      match walk visitor root state record with
      | (.error fault, record) => (.error fault, record)
      | (.ok outcome, record) =>
          match run visitor root state times record with
          | (.ok outcomes, record) => (.ok (outcome :: outcomes), record)
          | (.error fault, record) => (.error fault, record)

end Script

end StyleFold.Walk
