import StyleFold.Style.Css
import StyleFold.Text.Begin

/-!
The style rule that a property of a style object stands for: at-rules around a selector
around declarations of one property.
-/

namespace StyleFold

structure Rule where
  /-- Outermost first. -/
  atRules : List String
  selector : String
  property : String
  /-- One declaration for each, in this order. -/
  values : List String
  deriving DecidableEq, Repr

namespace Rule

/-! A rule as text, two spaces deeper inside each block. -/

section Lines

def indent (depth : Nat) : String := String.ofList (List.replicate (2 * depth) ' ')

def opening (depth : Nat) (head : String) : String := indent depth ++ head ++ " \x7b"

def closing (depth : Nat) : String := indent depth ++ "\x7d"

def declaration (depth : Nat) (property value : String) : String :=
  indent depth ++ property ++ ": " ++ value ++ ";"

def lines (rule : Rule) : List String :=
  let depth := rule.atRules.length
  rule.atRules.zipIdx.map (fun entry => opening entry.2 entry.1) ++
    [opening depth rule.selector] ++
    rule.values.map (declaration (depth + 1) rule.property) ++
    [closing depth] ++
    (List.range depth).reverse.map closing

def text (rule : Rule) : String := "\n".intercalate rule.lines

/-- Every block has an opening and a closing line, and every value a line of its own. -/
theorem length_lines (rule : Rule) :
    rule.lines.length = 2 * (rule.atRules.length + 1) + rule.values.length := by
  simp only [lines, List.length_append, List.length_map, List.length_zipIdx, List.length_reverse,
    List.length_range, List.length_cons, List.length_nil]
  omega

end Lines

end Rule

/-- Where a property stands in a styling call: the keys it is nested under, and the name
that the call is known by. -/
structure Place where
  /-- Outermost first. -/
  classes : List String := []
  caller : Option String := none
  deriving DecidableEq, Repr

namespace Place

def isPseudo (name : String) : Bool := Text.begins ":" name

def isAtRule (name : String) : Bool := Text.begins "@" name

def isDefault (name : String) : Bool := name == "default"

def stylesDirectly (api : Api) : Bool := api = .create || api = .keyframes

def callerName? (place : Place) : Option String :=
  place.caller.filter fun name => !name.isEmpty

/-- The keys that lead to a property, itself last. For variables the first key is the variable
and the name of the call stands in its place. -/
def trail (place : Place) (api : Api) (key : String) : List String :=
  if stylesDirectly api then place.classes ++ [key]
  else ((place.callerName?.map ("." ++ ·)).getD ":root" :: place.classes.drop 1) ++ [key]

def atRules (place : Place) (api : Api) (key : String) : List String :=
  let nested := (place.trail api key).filter isAtRule
  if api = .keyframes then ("@keyframes " ++ place.callerName?.getD "unknown") :: nested
  else nested

/-- In a class, the class name and the pseudo keys, in descending order. -/
def classSelector (trail : List String) : String :=
  let pseudo := (trail.drop 1).filter fun name => !isDefault name && isPseudo name
  let names := (trail.take 1 ++ pseudo).mergeSort fun left right => decide (right ≤ left)
  let joined := String.join names
  "." ++ (if joined.isEmpty then "unknown" else joined)

def selector (place : Place) (api : Api) (key : String) : String :=
  let trail := place.trail api key
  if api = .create then classSelector trail else trail.headD ""

def isCondition (name : String) : Bool := isPseudo name || isAtRule name || isDefault name

/-- The property itself: the innermost key that is no condition, if it is not
empty, or the variable. -/
def property (place : Place) (api : Api) (key : String) : String :=
  if stylesDirectly api then
    let innermost := (place.trail api key).reverse.find? fun name => !isCondition name
    (innermost.filter fun name => !name.isEmpty).getD "unknown"
  else "--" ++ place.classes.headD key

section Declarations

def namesKeyframes (property : String) : Bool :=
  property == "animation" || property == "animationName"

def referenceText (property : String) (id : Label) : String :=
  if namesKeyframes property then id.plain else "var(--" ++ id.plain ++ ")"

def scalarText? (settings : Settings) (property : String) (v : Value) : Option String :=
  match v with
  | .null | .undefined => some "initial"
  | .string _ | .number _ | .whole _ => (Css.valueText settings property v).toOption
  | _ => none

def entryText? (settings : Settings) (property : String) : Result → Option String
  | .reference id _ => some (referenceText property id)
  | .value v _ => scalarText? settings property v
  | _ => none

/-- The declared values of a property. A list declares its entries one by one, without those
that cannot be shown; nothing else that cannot be shown is declared at all. -/
def declared? (settings : Settings) (property : String) (folded : Result) : Option (List String) :=
  match folded with
  | .value (.array entries) _ => some (entries.filterMap (entryText? settings property))
  | other => (entryText? settings property other).map fun text => [text]

def entryRounds : Result → Bool
  | .value v _ => v.rounds
  | _ => true

def isWritable : Result → Bool
  | .value (.array entries) _ => entries.all entryRounds
  | other => entryRounds other

end Declarations

def rule? (settings : Settings) (place : Place) (api : Api) (key : String) (folded : Result) :
    Option Rule :=
  let property := place.property api key
  (declared? settings property folded).map fun values =>
    { atRules := place.atRules api key
      selector := place.selector api key
      property := Css.dashify property
      values }

end Place

end StyleFold
