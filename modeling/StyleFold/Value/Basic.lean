import StyleFold.Assoc
import StyleFold.Tree.Label

/-!
Folded values and evaluation results. A value is what an expression is known to be
without running anything; arrays and objects hold results, so a part of a known
container may itself be unknown. Members of an object keep the order in which their
keys first came up. Numbers are doubles; a whole number that a tree writes where text or
a truth value is due is a number too, kept as it is written until an operator rounds it.
A list there is an array of bare values, and anything else a foreign value.
-/

namespace StyleFold

mutual

inductive Value where
  | undefined
  | null
  | bool (b : Bool)
  | number (x : Float)
  | whole (i : Int)
  | bigint (i : Int)
  | string (s : String)
  | regexp (pattern flags : Label)
  | array (entries : List Result)
  | object (members : List (Label × Result))
  /-- Data that no script has a value for. It cannot be converted. -/
  | foreign (data : Data)

/-- What evaluation answers: nothing static, a stable name, or a value, the latter two with
the span they were computed from. -/
inductive Result where
  | nonStatic
  | reference (id : Label) (span : Option Span)
  | value (v : Value) (span : Option Span)
  /-- A value in an array that was not evaluated; nothing is known of it there. -/
  | bare (v : Value)

end

instance : Inhabited Value := ⟨.undefined⟩

instance : Inhabited Result := ⟨.nonStatic⟩

abbrev Members := List (Label × Result)

namespace Members

def get? (members : Members) (name : Label) : Option Result :=
  members.lookup name

def has (members : Members) (name : Label) : Bool := (get? members name).isSome

def put (name : Label) (result : Result) (members : Members) : Members :=
  Assoc.put name result members

def putAll (members additions : Members) : Members := Assoc.putAll members additions

end Members

/-- The types that a script tells apart. -/
inductive ValueType where
  | undefined
  | object
  | boolean
  | bigint
  | number
  | string
  deriving DecidableEq, Repr

namespace ValueType

def word : ValueType → String
  | .undefined => "undefined"
  | .object => "object"
  | .boolean => "boolean"
  | .bigint => "bigint"
  | .number => "number"
  | .string => "string"

end ValueType

namespace Value

def type : Value → ValueType
  | .undefined => .undefined
  | .null => .object
  | .bool _ => .boolean
  | .number _ => .number
  | .whole _ => .number
  | .bigint _ => .bigint
  | .string _ => .string
  | .regexp _ _ => .object
  | .array _ => .object
  | .object _ => .object
  | .foreign _ => .object

def isNumber : Value → Bool
  | .number _ => true
  | .whole _ => true
  | _ => false

def isContainer : Value → Bool
  | .regexp _ _ => true
  | .array _ => true
  | .object _ => true
  | _ => false

def isNull : Value → Bool
  | .null => true
  | _ => false

def isNullish : Value → Bool
  | .undefined => true
  | .null => true
  | _ => false

end Value

namespace Result

def respan (span : Option Span) : Result → Result
  | .value v _ => .value v span
  | .reference id _ => .reference id span
  | _ => .nonStatic

end Result

section Shown

mutual

def Value.shown : Value → String
  | .undefined => "undefined"
  | .null => "None"
  | .bool b => if b then "True" else "False"
  | .number x => quotedLayout.text x
  | .whole i => toString i
  | .bigint i => toString i ++ "n"
  | .string s => Text.quoted s
  | .regexp pattern flags =>
      "RegExpValue(pattern=" ++ pattern.shown ++ ", flags=" ++ flags.shown ++ ")"
  | .array entries => Text.bracketed (shownResults entries)
  | .object members => "\x7b" ++ ", ".intercalate (shownMembers members) ++ "\x7d"
  | .foreign data => Node.shownPart data

def Result.shown : Result → String
  | .nonStatic => "NON_STATIC"
  | .reference id span =>
      "StaticReference(id=" ++ id.shown ++ ", span=" ++ Span.shown? span ++ ")"
  | .value v span => "StaticValue(value=" ++ v.shown ++ ", span=" ++ Span.shown? span ++ ")"
  | .bare v => v.shown

def shownResults : List Result → List String
  | [] => []
  | result :: rest => result.shown :: shownResults rest

def shownMembers : Members → List String
  | [] => []
  | (name, result) :: rest => (name.shown ++ ": " ++ result.shown) :: shownMembers rest

end

end Shown

end StyleFold
