import StyleFold.Data.Failure
import StyleFold.Files
import StyleFold.Text.Quoted
import StyleFold.Tree.Kind

/-!
Everything that can go wrong, by cause. `Refusal` is what an operator answers when
a script has no value there; `Fault` is what stops a whole operation.
-/

namespace StyleFold

/-- Why an operator or a conversion gives no value. -/
inductive Refusal where
  /-- The text of an array needs an element that is not statically known. -/
  | unknownElement
  | ownConversion
  | bigintToNumber
  | divisionByZero
  | negativeExponent
  | bigintTooLarge
  | noUnsignedShift
  | notContainer
  | notCallable
  /-- A whole numeral in text is beyond the range of doubles. -/
  | outOfRange
  /-- An integer has more decimal digits than are read or written. -/
  | tooManyDigits
  | endless
  deriving DecidableEq, Repr

namespace Refusal

inductive Family where
  | indeterminate
  | thrown
  | overflow
  | value
  | endless
  deriving DecidableEq, Repr

def family : Refusal → Family
  | .unknownElement | .ownConversion => .indeterminate
  | .outOfRange => .overflow
  | .tooManyDigits => .value
  | .endless => .endless
  | _ => .thrown

/-- The script itself tells that there is no value; other refusals stop the evaluation. -/
def isScripted (why : Refusal) : Bool :=
  why.family = .indeterminate || why.family = .thrown

def message : Refusal → String
  | .unknownElement => "array element is not a static value"
  | .ownConversion => "object defines its own conversion"
  | .bigintToNumber => "TypeError: Cannot convert a BigInt value to a number"
  | .divisionByZero => "RangeError: Division by zero"
  | .negativeExponent => "RangeError: Exponent must be non-negative"
  | .bigintTooLarge => "RangeError: Maximum BigInt size exceeded"
  | .noUnsignedShift => "TypeError: BigInts have no unsigned right shift, use >> instead"
  | .notContainer => "TypeError: Cannot use 'in' operator on a primitive"
  | .notCallable => "TypeError: Right-hand side of 'instanceof' is not callable"
  | .outOfRange => "numeral out of range"
  | .tooManyDigits => "too many digits"
  | .endless => "conversion without end"

end Refusal

inductive Fault where
  | refused (why : Refusal)
  -- Shape of a tree.
  | unknownKind (tag : String)
  | kindNotText (word : String)
  | notMapping (word : String)
  | untaggedRecord
  | untaggedRoot
  | invalidExpression
  | malformedBigint (shown : String)
  | unknownBinary (shown : String)
  | unknownComparison (shown : String)
  | unknownUnary (shown : String)
  | malformedJson
  | malformedYaml
  | noRootTag
  | wrongRoot (kind : Option Kind)
  -- Fields.
  | missingField (owner : Option Kind) (name : String)
  | hiddenField
  | readOnly
  | noAttribute
  | wrongType
  | unreadableNumber
  | numberTooLarge
  | emptySequence
  | emptyNumeral
  | unknownWord
  | unsupportedFormat (name : String)
  | treeIsDirectory
  | unusablePath
  -- Scopes.
  | nothingToPop
  | nowhereToBind (shown : String)
  -- Settings.
  | settingsNotMapping (word : String)
  | settingNotTruth (key shown : String)
  | settingNotNames (key : String)
  | settingsUnsupported (name : String)
  | settingsUnreadable (path : String) (why : Unreadable)
  | settingsMalformed (path : String)
  -- Walks.
  | wrongHandlerKey (shown : String)
  | wrongAction
  -- Styles.
  | notStyleValue (shown : String)
  deriving DecidableEq, Repr

namespace Fault

/-- The family a fault is reported under. -/
inductive Family where
  | tree
  | scope
  | settings
  | attribute
  | type
  | value
  | index
  | key
  | overflow
  | thrown
  | indeterminate
  | endless
  | directory
  deriving DecidableEq, Repr

def family : Fault → Family
  | .refused why =>
      match why.family with
      | .indeterminate => .indeterminate
      | .thrown => .thrown
      | .overflow => .overflow
      | .value => .value
      | .endless => .endless
  | .unknownKind _ | .kindNotText _ | .notMapping _ | .untaggedRecord | .untaggedRoot
  | .invalidExpression | .malformedBigint _ | .unknownBinary _ | .unknownComparison _
  | .unknownUnary _ | .malformedJson | .malformedYaml | .noRootTag | .wrongRoot _ => .tree
  | .missingField _ _ | .hiddenField | .readOnly | .noAttribute => .attribute
  | .wrongType | .wrongHandlerKey _ | .wrongAction | .notStyleValue _ => .type
  | .unreadableNumber | .unsupportedFormat _ | .unusablePath => .value
  | .treeIsDirectory => .directory
  | .numberTooLarge => .overflow
  | .emptySequence | .emptyNumeral => .index
  | .unknownWord => .key
  | .nothingToPop | .nowhereToBind _ => .scope
  | .settingsNotMapping _ | .settingNotTruth _ _ | .settingNotNames _ | .settingsUnsupported _
  | .settingsUnreadable _ _ | .settingsMalformed _ => .settings

/-- Tree, scope and settings faults are the user's to mend and are reported in words. -/
def isReported (fault : Fault) : Bool :=
  match fault.family with
  | .tree | .scope | .settings => true
  | _ => false

def message? : Fault → Option String
  | .refused .outOfRange | .refused .tooManyDigits | .refused .endless => none
  | .refused why => some why.message
  | .unknownKind tag => some ("Unknown node type: " ++ Text.quoted tag)
  | .kindNotText word => some ("Node type must be a string, not " ++ word)
  | .notMapping word => some ("Node expects a mapping, not " ++ word)
  | .untaggedRecord => some "Cannot evaluate an untagged record"
  | .untaggedRoot => some "The root of a walk must be a tagged node"
  | .invalidExpression => some "Invalid expression"
  | .malformedBigint shown => some ("Malformed bigint literal: " ++ shown)
  | .unknownBinary shown => some ("Unknown binary operator: " ++ shown)
  | .unknownComparison shown => some ("Unknown comparison operator: " ++ shown)
  | .unknownUnary shown => some ("Unknown unary operator: " ++ shown)
  | .malformedJson => some "Malformed JSON syntax tree"
  | .malformedYaml => some "Malformed YAML syntax tree"
  | .noRootTag => some "A syntax tree must be a mapping with a 'type' tag"
  | .wrongRoot kind =>
      some ("Expected a Module or Script root, got " ++ (kind.map Kind.tag).getD "None")
  | .missingField owner name =>
      some ((owner.map Kind.tag).getD "record" ++ " has no field " ++ Text.quoted name)
  | .readOnly => some "Node is read-only"
  | .unsupportedFormat name => some ("Unsupported syntax tree format: " ++ Text.quoted name)
  | .nothingToPop => some "pop_scope called with no open scope"
  | .nowhereToBind shown => some ("bind_constant(" ++ shown ++ ") called with no open scope")
  | .settingsNotMapping word => some ("Settings must be a mapping, got " ++ word)
  | .settingNotTruth key shown => some ("'" ++ key ++ "' must be true or false, got " ++ shown)
  | .settingNotNames key => some ("'" ++ key ++ "' must be a list of module names")
  | .settingsUnsupported name => some ("Unsupported settings file type: '" ++ name ++ "'")
  | .settingsUnreadable path why =>
      some ("Cannot read settings file '" ++ path ++ "': " ++ why.message ++ ": " ++
        Text.quoted path)
  | .settingsMalformed path => some ("Malformed settings file '" ++ path ++ "'")
  | .wrongHandlerKey shown =>
      some ("Handler key must be a NodeType, exit_of(NodeType) or WILDCARD, not " ++ shown)
  | .wrongAction =>
      some ("Handler returned False; expected None, Continue, ContinueIgnoring, " ++
        "SKIP_CHILDREN or ABORT")
  | .notStyleValue shown => some ("Cannot render " ++ shown ++ " as a CSS value")
  | .hiddenField | .noAttribute | .wrongType | .unreadableNumber | .numberTooLarge
  | .emptySequence | .emptyNumeral | .unknownWord | .treeIsDirectory | .unusablePath => none

/-- The fault of text that stands for no data; `malformed` is that of text which breaks
the rules of its format. -/
def ofFailure (malformed : Fault) : Failure → Fault
  | .malformed => malformed
  | .unreadable => .unreadableNumber
  | .outOfRange => .numberTooLarge
  | .emptyNumeral => .emptyNumeral
  | .unknownWord => .unknownWord
  | .notMoment => .noAttribute
  | .wrongShape => .wrongType

end Fault

end StyleFold
