import StyleFold.Fold.Evaluate
import StyleFold.Style.Binding
import StyleFold.Walk.Visit

/-!
A survey of a file around a cursor. It keeps away from nodes that the cursor is not in,
except for those that bring names into scope, and follows blocks, imports and folded
constants in its scope table. What a survey looks for is up to further handlers.
-/

namespace StyleFold

/-- What is asked about a file. -/
structure Query where
  /-- Counted from the start of the file. -/
  cursor : Int
  settings : Settings := {}
  /-- What the start of the file counts as. -/
  startOffset : Int := 0

/-- What a survey knows so far. -/
structure Survey (Finding : Type) where
  table : ScopeTable := {}
  /-- The difference between spans in the tree and offsets in the file. -/
  origin : Int := 0
  found : Option Finding := none
  /-- What was noticed, in words. -/
  trace : List String := []
  cancelled : Bool := false

namespace Survey

variable {State Finding : Type}

abbrev Handler (State Finding : Type) := Walk.Handler State (Survey Finding)

abbrev Visitor (State Finding : Type) := Walk.Visitor State (Survey Finding)

def note (survey : Survey Finding) (line : String) : Survey Finding :=
  { survey with trace := survey.trace ++ [line] }

def report (survey : Survey Finding) (finding : Finding) (line : String) : Survey Finding :=
  { survey with found := some finding }.note line

def relative (survey : Survey Finding) (span : Span) : Span := span.shifted (-survey.origin)

def place (survey : Survey Finding) (node : Node) : Except Fault Span :=
  match node.span with
  | some span => .ok (survey.relative span)
  | none => .error .noAttribute

section Handlers

/-- Kinds that are entered wherever the cursor is, since they bring names into scope. -/
def isAlwaysEntered : Kind → Bool
  | .moduleUnit | .scriptUnit | .variableDeclaration | .variableDeclarator
  | .importDeclaration | .exportDeclaration => true
  | _ => false

/-- The cursor is in the node, or the node has no span to tell. -/
def isNear (survey : Survey Finding) (query : Query) (node : Node) : Bool :=
  match node.span with
  | none => true
  | some span =>
      (node.kind.map isAlwaysEntered).getD false || (survey.relative span).contains query.cursor

def prune (query : Query) : Handler State Finding := fun node _ _ => do
  return if (← get).isNear query node then .keep else .skipChildren

def openFile (query : Query) : Handler State Finding := fun node _ _ => do
  match node.span with
  | none => throw .noAttribute
  | some span =>
      modify fun survey =>
        { survey with origin := span.start - query.startOffset, table := survey.table.push }
      return .keep

def openBlock : Handler State Finding := fun _ _ _ => do
  modify fun survey => { survey with table := survey.table.push }
  return .keep

def closeScope : Handler State Finding := fun _ _ _ => do
  let table ← Walk.attempt (← get).table.pop
  modify fun survey => { survey with table }
  return .keep

def takeDeclared (declared : Declared) (words : String) : EStateM Fault (Survey Finding) Unit := do
  modify fun survey => { survey with table := survey.table.recordAll declared.bindings }
  if ← Walk.attempt declared.outcome then
    modify fun survey => survey.note (words ++ " " ++ survey.table.shown)

def takeImport (query : Query) : Handler State Finding := fun node _ _ => do
  let source := (Binding.sourceOf? node).toOption.join.getD "None"
  takeDeclared (Binding.ofImport query.settings node) ("styling import: " ++ source)
  return .skipChildren

def takeRequire (query : Query) : Handler State Finding := fun node _ _ => do
  takeDeclared (Binding.ofRequire query.settings node) "styling require:"
  return .keep

/-- The constant of a declarator: a plain name whose initializer folds to a value. -/
def constantOf? (table : ScopeTable) (data : Data) : Except Fault (Option (Label × Value)) := do
  let ⟨declarator, _⟩ ← Node.expect data
  match ← declarator.field? "init" with
  | none => return none
  | some initial =>
      let ⟨target, _⟩ ← declarator.child "id"
      if !target.isKind .identifier then return none
      match ← Fold.evalPart table initial.val with
      | .value v _ => return some (← target.label "value", v)
      | _ => return none

def bindConstants (table : ScopeTable) : List Data → Except Fault ScopeTable
  | [] => .ok table
  | declarator :: rest => do
      match ← constantOf? table declarator with
      | some (name, value) =>
          let bound ← table.bind name value
          let _ ← name.key
          bindConstants bound rest
      | none => bindConstants table rest

def takeConstants : Handler State Finding := fun node _ _ => do
  match (← Walk.attempt (node.field "kind")).val with
  | .text "const" =>
      let declarators ← Walk.attempt (node.items "declarations" .noAttribute)
      let table ← Walk.attempt (bindConstants (← get).table declarators.val)
      modify fun survey => { survey with table }
      return .keep
  | _ => return .keep

def skip : Handler State Finding := fun _ _ _ => return .skipChildren

end Handlers

def visitor (query : Query) (own : Kind → Option (Handler State Finding)) :
    Visitor State Finding where
  wildcard := some (prune query)
  enter
    | .moduleUnit | .scriptUnit => some (openFile query)
    | .importDeclaration => some (takeImport query)
    | .variableDeclaration => some takeConstants
    | .variableDeclarator => some (takeRequire query)
    | .blockStatement => some openBlock
    | .withStatement => some skip
    | kind => own kind
  leave
    | .moduleUnit | .scriptUnit | .blockStatement => some closeScope
    | _ => none
  cancelled := Survey.cancelled

/-- What a search answers, and what was noticed on the way. -/
structure Report (Finding : Type) where
  outcome : Except Fault (Option Finding)
  trace : List String := []

def run (query : Query) (own : Kind → Option (Handler State Finding)) (state : State)
    (cancelled : Bool) (root : Node) : Report Finding :=
  match Walk.walk (visitor query own) root state { cancelled } with
  | (.error fault, survey) => ⟨.error fault, survey.trace⟩
  | (.ok ended, survey) =>
      ⟨.ok (if survey.cancelled then none else survey.found), survey.trace ++ ended.note?.toList⟩

def runData (query : Query) (own : Kind → Option (Handler State Finding)) (state : State)
    (cancelled : Bool) (tree : Data) : Report Finding :=
  match Node.ofData tree with
  | .ok root => run query own state cancelled root
  | .error fault => ⟨.error fault, []⟩

end Survey

end StyleFold
