import StyleFold.Walk.Children

/-!
The walk over a tree. Handlers are called for every node (`wildcard`), for nodes of a kind when
they are entered, and for nodes of a kind when they are left. A handler sees the node,
the state that its ancestors passed down, and the nearest tagged ancestor; it answers
with an action. State flows down only: siblings never see each other's. Handlers may
also change a world that the whole walk shares, which is where recorded calls,
scope tables and a request to cancel live.
-/

namespace StyleFold.Walk

/-- What a handler answers. -/
inductive Action (State : Type) where
  | keep
  | proceed (state : State)
  /-- The same, leaving out the children at these paths. -/
  | proceedIgnoring (state : State) (paths : List String)
  | skipChildren
  | abort
  | malformed

/-- Why a walk ends early. -/
inductive Stop where
  | aborted
  | cancelled
  | faulted (fault : Fault)

inductive Outcome where
  | completed
  | aborted
  | cancelled
  deriving DecidableEq, Repr

def Outcome.word : Outcome → String
  | .completed => "completed"
  | .aborted => "aborted"
  | .cancelled => "cancelled"

def Outcome.note? : Outcome → Option String
  | .completed => none
  | stopped => some ("walk stopped: " ++ stopped.word)

abbrev Handler (State World : Type) :=
  Node → State → Option Node → EStateM Fault World (Action State)

def attempt {World α : Type} (outcome : Except Fault α) : EStateM Fault World α :=
  match outcome with
  | .ok value => pure value
  | .error fault => throw fault

structure Visitor (State World : Type) where
  wildcard : Option (Handler State World)
  enter : Kind → Option (Handler State World)
  leave : Kind → Option (Handler State World)
  /-- The world asks for the walk to be cancelled. -/
  cancelled : World → Bool

abbrev Visiting (World : Type) := EStateM Stop World

variable {State World : Type}

def checkCancelled (visitor : Visitor State World) : Visiting World Unit := fun world =>
  if visitor.cancelled world then .error .cancelled world else .ok () world

def call (handler : Handler State World) (node : Node) (state : State) (parent : Option Node) :
    Visiting World (Action State) := fun world =>
  match handler node state parent world with
  | .ok .abort world => .error .aborted world
  | .ok action world => .ok action world
  | .error fault world => .error (.faulted fault) world

def applyAction (action : Action State) (state : State) (ignore : List String) :
    Except Fault (State × List String) :=
  match action with
  | .keep => .ok (state, ignore)
  | .proceed next => .ok (next, ignore)
  | .proceedIgnoring next paths => .ok (next, ignore ++ paths.filter (!·.isEmpty))
  | _ => .error .wrongAction

/-- How a node is entered: not at all, or with a state and, unless its children are
skipped, the paths to ignore. -/
inductive Entry (State : Type) where
  | refused
  | entered (state : State) (ignore : Option (List String))

def orStop {α : Type} (outcome : Except Fault α) : Visiting World α :=
  match outcome with
  | .ok value => pure value
  | .error fault => throw (.faulted fault)

def enterKind (visitor : Visitor State World) (node : Node) (parent : Option Node) (state : State)
    (ignore : List String) : Visiting World (Entry State) := do
  match node.kind.bind visitor.enter with
  | none => return .entered state (some ignore)
  | some handler =>
      match ← call handler node state parent with
      | .skipChildren => return .entered state none
      | action =>
          let (state, ignore) ← orStop (applyAction action state ignore)
          return .entered state (some ignore)

def enterNode (visitor : Visitor State World) (node : Node) (state : State)
    (parent : Option Node) : Visiting World (Entry State) := do
  match visitor.wildcard with
  | none => enterKind visitor node parent state []
  | some handler =>
      match ← call handler node state parent with
      | .skipChildren => return .refused
      | action =>
          let (state, ignore) ← orStop (applyAction action state [])
          enterKind visitor node parent state ignore

/-- The leave handler of the node's kind; only an abort counts of what it answers. -/
def leaveNode (visitor : Visitor State World) (node : Node) (state : State)
    (parent : Option Node) : Visiting World Unit := do
  match node.kind.bind visitor.leave with
  | none => return ()
  | some handler =>
      checkCancelled visitor
      let _ ← call handler node state parent

def smallChildren (node : Node) (ignore : List String) :
    Except Fault (List { child : Node // child.size < node.size }) :=
  match run : children node ignore with
  | .ok found => .ok (found.attach.map fun child => ⟨child.val, children_size run _ child.property⟩)
  | .error fault => .error fault

mutual

def visit (visitor : Visitor State World) (node : Node) (state : State) (parent : Option Node) :
    Visiting World Unit := do
  checkCancelled visitor
  match ← enterNode visitor node state parent with
  | .refused => return ()
  | .entered state none => leaveNode visitor node state parent
  | .entered state (some ignore) =>
      let found ← orStop (smallChildren node ignore)
      visitAll visitor node state found
      leaveNode visitor node state parent
termination_by (node.size, 1, 0)

def visitAll (visitor : Visitor State World) (owner : Node) (state : State)
    (found : List { child : Node // child.size < owner.size }) : Visiting World Unit := do
  match found with
  | [] => return ()
  | ⟨child, _⟩ :: rest =>
      visit visitor child state (some owner)
      visitAll visitor owner state rest
termination_by (owner.size, 0, found.length)

end

/-- Walks a tree from its root; the world is kept however the walk ends. -/
def walk (visitor : Visitor State World) (root : Node) (state : State) (world : World) :
    Except Fault Outcome × World :=
  if root.kind.isNone then (.error .untaggedRoot, world)
  else match visit visitor root state none world with
    | .ok () world => (.ok .completed, world)
    | .error .aborted world => (.ok .aborted, world)
    | .error .cancelled world => (.ok .cancelled, world)
    | .error (.faulted fault) world => (.error fault, world)

end StyleFold.Walk
