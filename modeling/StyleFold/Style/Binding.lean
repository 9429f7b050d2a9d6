import StyleFold.Fold.Literal
import StyleFold.Scope
import StyleFold.Settings

/-!
How a file brings the styling library into scope: by import declarations and by
`require` calls. A declaration is read into the bindings it makes; when it is
faulty, the bindings before the fault still hold.
-/

namespace StyleFold

/-- A name bound by a declaration: to the library itself or to one of its exports. -/
inductive Binding where
  | library (name : Label)
  | entry (name imported : Label)
  deriving DecidableEq, Repr

namespace ScopeTable

def record (table : ScopeTable) : Binding → ScopeTable
  | .library name => table.addNamespace name
  | .entry name imported => table.addImport name imported

def recordAll (table : ScopeTable) (bindings : List Binding) : ScopeTable :=
  bindings.foldl record table

end ScopeTable

/-- What reading a declaration gave: its bindings, and whether it brings in the library. -/
structure Declared where
  bindings : List Binding
  outcome : Except Fault Bool

namespace Declared

def refused (fault : Fault) : Declared := ⟨[], .error fault⟩

def unrelated : Declared := ⟨[], .ok false⟩

def collect (read : Data → Except Fault (Option Binding)) : List Data → Declared
  | [] => ⟨[], .ok true⟩
  | item :: rest =>
      match read item with
      | .error fault => refused fault
      | .ok found =>
          let others := collect read rest
          ⟨found.toList ++ others.bindings, others.outcome⟩

def ofExcept : Except Fault Declared → Declared
  | .ok declared => declared
  | .error fault => refused fault

end Declared

namespace Binding

def nameOf? (node : Node) : Except Fault (Option Label) := do
  match node.kind with
  | some .identifier | some .stringLiteral => return (← node.label "value").unlessNull
  | _ => return none

def nameOfPart? : Data → Except Fault (Option Label)
  | .null => .ok none
  | data => do
      let node ← Node.expect data
      nameOf? node.val

def localOf (specifier : Node) : Except Fault Label := do
  let name ← specifier.child "local"
  name.val.label "value"

def isSet (part : Option Data) : Bool :=
  match part with
  | some data => !Fold.isEmptyPart data
  | none => false

def hasFlag (node : Node) (key : String) : Except Fault Bool := do
  return isSet ((← node.field? key).map Subtype.val)

def ofSpecifier (data : Data) : Except Fault (Option Binding) := do
  let specifier ← Node.expect data
  let specifier := specifier.val
  match specifier.kind with
  | some .importDefaultSpecifier | some .importNamespaceSpecifier =>
      return some (.library (← (← localOf specifier).key))
  | some .importSpecifier =>
      if ← hasFlag specifier "isTypeOnly" then return none
      let name ← localOf specifier
      let imported ← match ← specifier.field? "imported" with
        | some part => nameOfPart? part.val
        | none => pure none
      return some (.entry (← name.key) ((imported.filter fun label => !label.isEmpty).getD name))
  | _ => return none

def sourceOf? (node : Node) : Except Fault (Option String) := do
  let source ← node.field "source"
  return (← nameOfPart? source.val).bind Label.text?

/-- The bindings of an import declaration. Type-only declarations and specifiers make none. -/
def ofImport (settings : Settings) (node : Node) : Declared :=
  Declared.ofExcept do
    if !node.isKind .importDeclaration then return .unrelated
    if ← hasFlag node "typeOnly" then return .unrelated
    if !settings.isLibrary (← sourceOf? node) then return .unrelated
    match ← node.row "specifiers" .noAttribute with
    | .ok specifiers => return Declared.collect ofSpecifier (specifiers.map Subtype.val)
    | .error fault => return .refused fault

def requiredModule? (call : Node) : Except Fault (Option String) := do
  if !call.isKind .callExpression then return none
  let callee ← call.child "callee"
  if !callee.val.isKind .identifier then return none
  if (← callee.val.word? "value") != some "require" then return none
  match ← call.field? "arguments" with
  | none => return none
  | some ⟨.list [argument], _⟩ =>
      let argument ← Node.expect argument
      if (← argument.val.field? "spread").isSome then return none
      let source ← argument.val.child "expression"
      if !source.val.isKind .stringLiteral then return none
      source.val.word? "value"
  | some ⟨.list _, _⟩ => return none
  | some ⟨.text s, _⟩ => if s.length == 1 then .error .noAttribute else return none
  | some _ => .error .wrongType

def ofPattern (data : Data) : Except Fault (Option Binding) := do
  let property ← Node.expect data
  let property := property.val
  match property.kind with
  | some .assignmentPatternProperty =>
      let key ← property.child "key"
      let name ← (← key.val.label "value").key
      return some (.entry name name)
  | some .keyValuePatternProperty =>
      let key ← property.field "key"
      match ← nameOfPart? key.val with
      | none => return none
      | some imported =>
          let target ← property.child "value"
          if target.val.isKind .identifier then
            return some (.entry (← (← target.val.label "value").key) imported)
          else return none
  | _ => return none

def ofRequire (settings : Settings) (node : Node) : Declared :=
  Declared.ofExcept do
    if !node.isKind .variableDeclarator then return .unrelated
    let required ← match ← node.field? "init" with
      | some part => do
          let call ← Node.expect part.val
          requiredModule? call.val
      | none => pure none
    if !settings.isLibrary required then return .unrelated
    let target ← node.child "id"
    let target := target.val
    match target.kind with
    | some .identifier => return ⟨[.library (← (← target.label "value").key)], .ok true⟩
    | some .objectPattern =>
        let properties ← target.items "properties" .noAttribute
        return Declared.collect ofPattern properties.val
    | _ => return .unrelated

end Binding

end StyleFold
