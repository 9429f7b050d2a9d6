import StyleFold.Style.Css
import StyleFold.Style.Survey

/-!
Completion: the property whose text value is being edited at the cursor.
-/

namespace StyleFold

structure Completion where
  property : String
  /-- What the literal holds. -/
  value : Label
  /-- The string literal, as offsets in the file. -/
  span : Span
  deriving DecidableEq, Repr

namespace Completion

def customProperty : String := "--custom"

/-- Text that is shown to people, not matched against known values. -/
def freeProperty : String := "content"

def shown (completion : Completion) : String :=
  "CompletionContext(property_name=" ++ Text.quoted completion.property ++ ", value=" ++
    completion.value.shown ++ ", span=" ++ completion.span.shown ++ ")"

/-- Where a literal stands: in which call, at what depth of properties, and for which property. -/
structure Context where
  property : Option Label := none
  inside : Option Api := none
  depth : Nat := 0
  deriving DecidableEq, Repr

def onCall : Survey.Handler Context Completion := fun node context _ => do
  let callee ← Walk.attempt (node.child "callee")
  match ← Walk.attempt ((← get).table.calledApi? callee.val) with
  | none => return .proceed { context with inside := none }
  | some .firstThatWorks =>
      -- Fallback values complete like the property they belong to.
      return .keep
  | some api =>
      let entered := { context with inside := some api, depth := 1 }
      match api with
      | .createTheme =>
          -- The first argument names the variables and holds no styles.
          return .proceedIgnoring entered ["arguments.0", "callee"]
      | .defineVars => return .proceedIgnoring entered ["callee"]
      | _ => return .proceed entered

/-- The depth below the class at which keys are property names. -/
def propertyDepth : Nat := 2

def onProperty : Survey.Handler Context Completion := fun node context _ => do
  match context.inside with
  | none => return .keep
  | some .create | some .keyframes =>
      if context.depth = propertyDepth then
        let property ← Walk.attempt (Css.keyOf? (← get).table node)
        return .proceed { context with property, depth := propertyDepth + 1 }
      else return .proceed { context with depth := context.depth + 1 }
  | some _ =>
      let ⟨value, _⟩ ← Walk.attempt (node.child "value")
      let depth := if value.isKind .objectExpression then context.depth + 1 else context.depth
      return .proceed { context with property := some (.text customProperty), depth }

def onString (query : Query) : Survey.Handler Context Completion := fun node context _ => do
  if context.inside.isNone || context.property = some (.text freeProperty) then return .keep
  let survey ← get
  let span ← Walk.attempt (survey.place node)
  if !span.contains query.cursor then return .skipChildren
  let label := (context.property.filter fun label => !label.isEmpty).getD customProperty
  let name ← Walk.attempt label.spelling
  let value ← Walk.attempt (node.label "value")
  let found : Completion := { property := Css.dashify name, value, span }
  set (survey.report found ("found completion context " ++ found.shown))
  return .abort

def handlers (query : Query) : Kind → Option (Survey.Handler Context Completion)
  | .callExpression => some onCall
  | .keyValueProperty => some onProperty
  | .stringLiteral => some (onString query)
  | _ => none

def find (query : Query) (cancelled : Bool) (tree : Data) : Survey.Report Completion :=
  if query.settings.suggestions then Survey.runData query (handlers query) {} cancelled tree
  else ⟨.ok none, []⟩

end Completion

end StyleFold
