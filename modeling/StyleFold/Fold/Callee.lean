import StyleFold.Scope
import StyleFold.Tree.Node

/-!
Calls of the styling library: as a member of a name for the library itself, or by the local
name of one of its entry points.
-/

namespace StyleFold

namespace ScopeTable

def isLibraryName (table : ScopeTable) (node : Node) : Except Fault Bool := do
  if !node.isKind .identifier then return false
  return table.isNamespace (← (← node.label "value").key)

def calledApi? (table : ScopeTable) (callee : Node) : Except Fault (Option Api) := do
  match callee.kind with
  | some .memberExpression =>
      let base ← callee.field "object"
      let member ← callee.field "property"
      let ⟨base, _⟩ ← Node.expect base.val
      if !(← table.isLibraryName base) then return none
      let ⟨member, _⟩ ← Node.expect member.val
      if !member.isKind .identifier then return none
      return (← member.word? "value").bind Api.ofName?
  | some .identifier => return table.api? (← (← callee.label "value").key)
  | _ => return none

end ScopeTable

end StyleFold
