import StyleFold.Scope
import StyleFold.Settings
import StyleFold.Text.Blank
import StyleFold.Text.Lowercase
import StyleFold.Tree.Node
import StyleFold.Value.Conversion

/-!
Style sheet text: property names with hyphens, values with units, and the
static keys of style objects.
-/

namespace StyleFold.Css

section Names

def isSmall (c : Char) : Bool := 'a' ≤ c && c ≤ 'z'

def isCapital (c : Char) : Bool := 'A' ≤ c && c ≤ 'Z'

def hyphenate : List Char → List Char
  | [] => []
  | [c] => [c]
  | c :: d :: rest =>
      if isSmall c && isCapital d then c :: '-' :: d :: hyphenate rest
      else c :: hyphenate (d :: rest)

def hyphenateName : List Char → List Char
  | [] => []
  | c :: rest => if isCapital c then '-' :: c :: hyphenate rest else hyphenate (c :: rest)

def isCustom (name : List Char) : Bool := ['-', '-'].isPrefixOf name

def dashifyChars (name : List Char) : List Char :=
  if isCustom name then name else Text.lower (hyphenateName name)

def dashify (name : String) : String := String.ofList (dashifyChars name.toList)

end Names

section Values

def unitless : List String :=
  ["animationIterationCount", "aspectRatio", "borderImageOutset", "borderImageSlice",
   "borderImageWidth", "boxFlex", "boxFlexGroup", "boxOrdinalGroup", "columnCount", "columns",
   "flex", "flexGrow", "flexPositive", "flexShrink", "flexNegative", "flexOrder", "gridRow",
   "gridRowEnd", "gridRowSpan", "gridRowStart", "gridColumn", "gridColumnEnd", "gridColumnSpan",
   "gridColumnStart", "fontWeight", "lineClamp", "lineHeight", "opacity", "order", "orphans",
   "tabSize", "widows", "zIndex", "zoom", "fillOpacity", "floodOpacity", "stopOpacity",
   "strokeDasharray", "strokeDashoffset", "strokeMiterlimit", "strokeOpacity", "strokeWidth",
   "mathDepth"]

def timed : List String :=
  ["animationDelay", "animationDuration", "transitionDelay", "transitionDuration"]

def rootFontSize : Float := Double.ofInt 16

def numberValue (settings : Settings) (property : String) (x : Float) : String :=
  let isZero := (Exact.ofFloat x).isZero
  if isCustom property.toList || unitless.contains property then numberText x
  else if timed.contains property then (if isZero then "0s" else numberText x ++ "ms")
  else if isZero then "0"
  else if property == "fontSize" && settings.useRem then numberText (x / rootFontSize) ++ "rem"
  else numberText x ++ "px"

def valueText (settings : Settings) (property : String) (v : Value) : Except Fault String :=
  match v with
  | .string s => .ok (String.ofList (Text.trim Text.isBlank s.toList))
  | .number x => .ok (numberValue settings property x)
  | .whole i => (numberOfWhole i).mapError Fault.refused |>.map (numberValue settings property)
  | other => .error (.notStyleValue other.shown)

end Values

/-! Keys of style objects. -/

def constantKey (constant : Value) : Except Fault (Option Label) :=
  match constant.text with
  | .ok s => .ok (some (.text s))
  | .error why => if why.family = .indeterminate then .ok none else .error (.refused why)

/-- The static key of a property. A computed key is read when it is a string literal or the
name of a folded constant. -/
def keyOf? (table : ScopeTable) (property : Node) : Except Fault (Option Label) := do
  let ⟨key, _⟩ ← property.child "key"
  match key.kind with
  | some .identifier | some .stringLiteral => return (← key.label "value").unlessNull
  | some .computed =>
      let ⟨expression, _⟩ ← key.child "expression"
      match expression.kind with
      | some .stringLiteral => return (← expression.label "value").unlessNull
      | some .identifier =>
          let name ← expression.label "value"
          -- Without frames nothing is looked up.
          if table.frames.isEmpty then return none
          match table.lookup? (← name.key) with
          | some constant => constantKey constant
          | none => return none
      | _ => return none
  | _ => return none

end StyleFold.Css
