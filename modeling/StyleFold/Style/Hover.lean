import StyleFold.Printer
import StyleFold.Style.Rule
import StyleFold.Style.Survey

/-!
Hover: the style rule of the property whose key is under the cursor.
-/

namespace StyleFold

structure Hover where
  css : String
  /-- The key, as offsets in the file. -/
  span : Span
  /-- The folded value of the property. -/
  value : Result

namespace Hover

def contents (hover : Hover) : String := fenced hover.css

/-- The way down to a property: the styling call around it, the name of that call,
and the keys in between. -/
structure Nesting where
  /-- Outermost first. -/
  classes : List Label := []
  inside : Option Api := none
  caller : Option Label := none
  deriving DecidableEq, Repr

namespace Nesting

/-- Keys have to be text, except for the first one of a variable, which is written as it is. -/
def names (api : Api) (classes : List Label) : Except Fault (List String) :=
  if Place.stylesDirectly api then classes.mapM Label.spelling
  else match classes with
    | [] => .ok []
    | first :: rest => (rest.mapM Label.spelling).map (first.plain :: ·)

def place (nesting : Nesting) (api : Api) : Except Fault Place := do
  let classes ← names api nesting.classes
  return ⟨classes, (nesting.caller.filter fun label => !label.isEmpty).map Label.plain⟩

end Nesting

/-- Stands before the key under which keyframes are declared inline. -/
def inlineMark : Char := '1'

def inlineName? (caller : Option Label) : Except Fault (Option Label) := do
  match caller.filter fun label => !label.isEmpty with
  | none => return none
  | some label =>
      match (← label.spelling).toList with
      | mark :: name =>
          return if mark = inlineMark then some (.text (String.ofList name)) else none
      | [] => return none

/-- The name of a call: that of the constant it initializes, or the key it is declared under. -/
def callerOf? (nesting : Nesting) (parent : Option Node) : Except Fault (Option Label) := do
  match parent with
  | some parent =>
      if parent.isKind .variableDeclarator then
        let ⟨target, _⟩ ← parent.child "id"
        if target.isKind .identifier then return (← target.label "value").unlessNull
        else return none
      else inlineName? nesting.caller
  | none => inlineName? nesting.caller

/-- Inside a styling call the way starts at its style objects; inside any
other call there is none. -/
def onCall : Survey.Handler Nesting Hover := fun node nesting parent => do
  let callee ← Walk.attempt (node.child "callee")
  match ← Walk.attempt ((← get).table.calledApi? callee.val) with
  | none | some .firstThatWorks => return .proceed { nesting with inside := none }
  | some api =>
      let caller ← Walk.attempt (callerOf? nesting parent)
      let entered := { nesting with inside := some api, caller }
      match api with
      | .createTheme =>
          -- The first argument names the variables and holds no styles.
          return .proceedIgnoring entered ["arguments.0", "callee"]
      | .defineVars => return .proceedIgnoring entered ["callee"]
      | _ => return .proceed entered

def isKeyframesCall (table : ScopeTable) (value : Node) : Except Fault Bool := do
  if !value.isKind .callExpression then return false
  let ⟨callee, _⟩ ← value.child "callee"
  return (← table.calledApi? callee) = some .keyframes

def keyOf? (table : ScopeTable) (nesting : Nesting) (property : Node) :
    Except Fault (Option Label) := do
  if nesting.inside.isNone then return none
  return (← Css.keyOf? table property).filter fun key => !key.isEmpty

def inlineCaller (key : Label) : Except Fault Label :=
  match key.text? with
  | some name => .ok (.text (inlineMark.toString ++ name))
  | none => .error .wrongType

def ruleOf? (settings : Settings) (nesting : Nesting) (api : Api) (key : Label)
    (folded : Result) : Except Fault (Option Rule) := do
  let place ← nesting.place api
  let key ← key.spelling
  if Place.isWritable folded then return place.rule? settings api key folded
  else .error (.refused .outOfRange)

def onProperty (query : Query) : Survey.Handler Nesting Hover := fun node nesting _ => do
  let survey ← get
  match nesting.inside, ← Walk.attempt (keyOf? survey.table nesting node) with
  | some api, some key =>
      let ⟨value, _⟩ ← Walk.attempt (node.child "value")
      if value.isKind .objectExpression || value.isKind .arrowFunctionExpression then
        return .proceed { nesting with classes := nesting.classes ++ [key] }
      if ← Walk.attempt (isKeyframesCall survey.table value) then
        let caller ← Walk.attempt (inlineCaller key)
        return .proceed { classes := [], inside := some .keyframes, caller := some caller }
      let ⟨keyNode, _⟩ ← Walk.attempt (node.child "key")
      let span ← Walk.attempt (survey.place keyNode)
      if !span.contains query.cursor then return .keep
      let folded ← Walk.attempt (Fold.eval survey.table value)
      match ← Walk.attempt (ruleOf? query.settings nesting api key folded) with
      | none => return .abort
      | some rule =>
          if rule.lines.length ≤ 2 then return .keep
          let css := rule.text
          set (survey.report { css, span, value := folded }
            ("found hover " ++ span.shown ++ " " ++ css))
          return .abort
  | _, _ => return .keep

def handlers (query : Query) : Kind → Option (Survey.Handler Nesting Hover)
  | .callExpression => some onCall
  | .keyValueProperty => some (onProperty query)
  | _ => none

def find (query : Query) (cancelled : Bool) (tree : Data) : Survey.Report Hover :=
  if query.settings.hover then Survey.runData query (handlers query) {} cancelled tree
  else ⟨.ok none, []⟩

end Hover

end StyleFold
