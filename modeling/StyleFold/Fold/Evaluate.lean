import StyleFold.Fold.Callee
import StyleFold.Fold.Literal
import StyleFold.Value.Operator

/-!
Evaluation of expressions without running them. What cannot be decided from the tree alone
is `nonStatic`; a bare name is a reference. The scope table is only asked whether
a call goes to the fallback helper of the styling library.
-/

namespace StyleFold.Fold

/-- Wrappers around an expression that leave its value alone. -/
def isTransparent : Kind → Bool
  | .parenthesisExpression | .tsAsExpression | .tsSatisfiesExpression | .tsNonNullExpression
  | .tsConstAssertion | .tsTypeAssertion | .tsInstantiation => true
  | _ => false

def named (name : Label) (span : Option Span) : Result :=
  if name = .text "undefined" then .value .undefined span else .reference name span

section Operators

/-- A refusal of a conversion or operator makes the result unknown, except that a numeral out of
range or with too many digits and a conversion without end stop the evaluation. -/
def orNonStatic (span : Option Span) (outcome : Except Refusal Value) : Except Fault Result :=
  match outcome with
  | .ok v => .ok (.value v span)
  | .error why =>
      if why.isScripted then .ok .nonStatic else .error (.refused why)

def throwIsFalse (outcome : Except Refusal Bool) : Except Refusal Value :=
  match outcome with
  | .ok b => .ok (.bool b)
  | .error why => if why.family = .thrown then .ok (.bool false) else .error why

def binary (symbol : String) (a b : Value) (span : Option Span) : Except Fault Result :=
  match Comparison.ofSymbol? symbol with
  | some comparison =>
      orNonStatic span ((Value.compare (Value.isShared a b) comparison a b).map .bool)
  | none =>
      if symbol == "in" then orNonStatic span (throwIsFalse (Value.hasProperty a b))
      else if symbol == "instanceof" then orNonStatic span (throwIsFalse (Value.instanceOf a b))
      else match Arithmetic.applySymbol symbol a b with
        | .ok v => .ok (.value v span)
        | .error (.refused why) => orNonStatic span (.error why)
        | .error fault => .error fault

def unary (symbol : String) (v : Value) (span : Option Span) : Except Fault Result :=
  match Unary.ofSymbol? symbol with
  | none => .error (.unknownUnary (Text.quoted symbol))
  | some operator =>
      match operator.apply v with
      | .error why =>
          if why.family = .thrown && operator = .plus then .ok (.value .undefined span)
          else orNonStatic span (.error why)
      | outcome => orNonStatic span outcome

/-- The operators that may not need their right side. -/
inductive Logical where
  | and
  | or
  | coalesce
  deriving DecidableEq, Repr

def Logical.ofSymbol? (symbol : String) : Option Logical :=
  match symbol with
  | "&&" => some .and
  | "||" => some .or
  | "??" => some .coalesce
  | _ => none

def Logical.decides (operator : Logical) (left : Value) : Except Refusal Bool :=
  match operator with
  | .and => left.test.map (!·)
  | .or => left.test
  | .coalesce => .ok !left.isNullish

def binaryOther (operator : Label) (a b : Value) (span : Option Span) : Except Fault Result := do
  let operator ← operator.key
  return .value (← Arithmetic.unknown operator.shown a b) span

/-- A property key from an evaluated expression; unknown when its text is refused. -/
def keyOf (result : Result) : Except Fault (Option Label) :=
  match result with
  | .value v _ =>
      match v.propertyKey with
      | .ok name => .ok (some (.text name))
      | .error why => if why.family = .indeterminate then .ok none else .error (.refused why)
  | _ => .ok none

end Operators

/-! Evaluation. Calls go from a node to its parts and from a part to the node it is. -/

section Evaluation

mutual

def eval (table : ScopeTable) (node : Node) : Except Fault Result := do
  match node.kind with
  | none => .error .untaggedRecord
  | some kind =>
      match kind with
      | .stringLiteral | .booleanLiteral =>
          let part ← node.field "value"
          return .value (literalValue part.val) node.span
      | .numericLiteral =>
          let part ← node.field "value"
          return .value (.number (← numberOf part.val)) node.span
      | .bigIntLiteral => return .value (.bigint (← bigintOf node)) node.span
      | .nullLiteral => return .value .null node.span
      | .regExpLiteral =>
          let pattern ← node.label "pattern"
          let flags ← node.field? "flags"
          let flags : Label := (flags.map fun part => .ofData part.val).getD ""
          return .value (.regexp pattern flags) node.span
      | .invalid => .error .invalidExpression
      | .identifier =>
          return named (← node.label "value") node.span
      | .arrayExpression =>
          let ⟨elements, _⟩ ← node.items "elements" .noAttribute
          return .value (.array (← evalElements table node.span elements)) node.span
      | .objectExpression =>
          let ⟨properties, _⟩ ← node.items "properties" .noAttribute
          return .value (.object (← evalProperties table [] properties)) node.span
      | .binaryExpression =>
          let operator ← node.field "operator"
          let ⟨left, _⟩ ← node.field "left"
          let left ← evalPart table left
          match operator.val with
          | .text symbol =>
              match Logical.ofSymbol? symbol with
              | some operator =>
                  match left with
                  | .value v _ =>
                      let decided ← (operator.decides v).mapError Fault.refused
                      if decided then return .value v node.span
                      let ⟨right, _⟩ ← node.field "right"
                      match ← evalPart table right with
                      | .value w _ => return .value w node.span
                      | _ => return .nonStatic
                  | _ => return .nonStatic
              | none =>
                  let ⟨right, _⟩ ← node.field "right"
                  match left, ← evalPart table right with
                  | .value v _, .value w _ => binary symbol v w node.span
                  | _, _ => return .nonStatic
          | other =>
              let ⟨right, _⟩ ← node.field "right"
              match left, ← evalPart table right with
              | .value v _, .value w _ => binaryOther (.ofData other) v w node.span
              | _, _ => return .nonStatic
      | .unaryExpression =>
          let operator ← node.field "operator"
          match operator.val with
          | .text "delete" => return .nonStatic
          | other =>
              let ⟨argument, _⟩ ← node.field "argument"
              match ← evalPart table argument with
              | .value v _ =>
                  match other with
                  | .text symbol => unary symbol v node.span
                  | _ => .error (.unknownUnary (Node.shownPart other))
              | _ => return .nonStatic
      | .awaitExpression =>
          let ⟨argument, _⟩ ← node.field "argument"
          evalPart table argument
      | .assignmentExpression =>
          let ⟨right, _⟩ ← node.field "right"
          evalPart table right
      | .conditionalExpression =>
          let ⟨test, _⟩ ← node.field "test"
          match ← evalPart table test with
          | .value v _ =>
              if ← v.test.mapError Fault.refused then
                let ⟨consequent, _⟩ ← node.field "consequent"
                evalPart table consequent
              else
                let ⟨alternate, _⟩ ← node.field "alternate"
                evalPart table alternate
          | _ => return .nonStatic
      | .templateLiteral =>
          let expressions ← node.row "expressions" (.notMapping "str")
          let quasis ← node.items "quasis" (.notMapping "str")
          match ← evalPieces table node (node.parts quasis) expressions [] with
          | some text => return .value (.string text) node.span
          | none => return .nonStatic
      | .templateElement => return .value (← pieceValue node) node.span
      | .callExpression =>
          let callee ← node.child "callee"
          if (← table.calledApi? callee.val) = some .firstThatWorks then
            let ⟨arguments, _⟩ ← node.items "arguments" .noAttribute
            -- Arguments come in order of preference; styles want the preferred one last.
            return .value (.array (← evalElements table node.span arguments).reverse) node.span
          else return .nonStatic
      | .computed =>
          let ⟨expression, _⟩ ← node.field "expression"
          evalPart table expression
      | .memberExpression =>
          let ⟨object, _⟩ ← node.field "object"
          match ← evalPart table object with
          | .nonStatic => return .nonStatic
          | base =>
              let ⟨property, _⟩ ← node.child "property"
              match ← memberKey table property with
              | none => return .nonStatic
              | some key =>
                  match base with
                  | .reference id _ => return .reference (id.plain ++ "." ++ key.plain) node.span
                  | .value v _ => readLabel v key node.span
                  | _ => return .nonStatic
      | .privateName =>
          let ⟨id, _⟩ ← node.field "id"
          evalPart table id
      | .sequenceExpression =>
          let ⟨expressions, _⟩ ← node.items "expressions" (.notMapping "str")
          match last : expressions.getLast? with
          | some expression =>
              have := List.sizeOf_lt_of_mem (List.mem_of_getLast? last)
              evalPart table expression
          | none => .error .emptySequence
      | kind =>
          if isTransparent kind then
            let ⟨expression, _⟩ ← node.field "expression"
            evalPart table expression
          else return .nonStatic
termination_by (node.size, 1, 0)

def evalPart (table : ScopeTable) (data : Data) : Except Fault Result := do
  let ⟨node, _⟩ ← Node.operand data
  eval table node
termination_by (sizeOf data, 0, 0)

/-- Evaluates array elements or call arguments in order; spreads are flattened. -/
def evalElements (table : ScopeTable) (span : Option Span) :
    List Data → Except Fault (List Result)
  | [] => return []
  | .null :: rest => return .value .undefined span :: (← evalElements table span rest)
  | element :: rest => do
      let ⟨element, _⟩ ← Node.expect element
      let ⟨expression, _⟩ ← element.field "expression"
      let result ← evalPart table expression
      let entries := if (← element.field? "spread").isNone then [result] else spreadEntries result
      return entries ++ (← evalElements table span rest)
termination_by items => (sizeOf items, 0, 0)

def evalProperties (table : ScopeTable) (members : Members) : List Data → Except Fault Members
  | [] => return members
  | property :: rest => do
      let ⟨property, _⟩ ← Node.expect property
      match property.kind with
      | some .spreadElement =>
          let ⟨source, _⟩ ← property.field "arguments"
          let spread ← evalPart table source
          evalProperties table (Members.putAll members (spreadMembers spread)) rest
      | some .keyValueProperty | some .assignmentProperty =>
          let ⟨key, _⟩ ← property.child "key"
          match ← propertyKey table key with
          | some name =>
              let ⟨value, _⟩ ← property.field "value"
              let result ← evalPart table value
              evalProperties table (Members.put (← name.key) result members) rest
          | none => evalProperties table members rest
      | some .identifier =>
          let name ← (← property.label "value").key
          evalProperties table (Members.put name (named name property.span) members) rest
      | _ => evalProperties table members rest
termination_by items => (sizeOf items, 0, 0)

def propertyKey (table : ScopeTable) (key : Node) : Except Fault (Option Label) := do
  match key.kind with
  | some .identifier | some .stringLiteral => return (← key.label "value").unlessNull
  | some .numericLiteral =>
      let part ← key.field "value"
      return some (.text (numberText (← numberOf part.val)))
  | some .bigIntLiteral =>
      let text ← (integerText (← bigintOf key)).mapError Fault.refused
      return some (.text text)
  | some .computed =>
      let ⟨expression, _⟩ ← key.field "expression"
      keyOf (← evalPart table expression)
  | _ => return none
termination_by (key.size, 1, 0)

def memberKey (table : ScopeTable) (property : Node) : Except Fault (Option Label) := do
  match property.kind with
  | some .identifier => return (← property.label "value").unlessNull
  | some .privateName =>
      let id ← property.child "id"
      return (← id.val.label "value").unlessNull
  | some .computed =>
      let ⟨expression, _⟩ ← property.field "expression"
      keyOf (← evalPart table expression)
  | _ => return none
termination_by (property.size, 1, 0)

/-- Joins the pieces of a template with its expressions; nothing when one is unknown. -/
def evalPieces (table : ScopeTable) (owner : Node) (pieces : List owner.Part)
    (expressions : Except Fault (List owner.Part)) (done : List String) :
    Except Fault (Option String) := do
  match pieces with
  | [] => return some (String.join done)
  | ⟨piece, _⟩ :: rest =>
      match ← evalPart table piece with
      | .value v _ =>
          let text ← v.text.mapError Fault.refused
          match expressions with
          | .error fault => .error fault
          | .ok [] => evalPieces table owner rest (.ok []) (done ++ [text])
          | .ok (⟨expression, _⟩ :: others) =>
              match ← evalPart table expression with
              | .reference id _ =>
                  let reference := "var(--" ++ id.plain ++ ")"
                  evalPieces table owner rest (.ok others) (done ++ [text, reference])
              | .value w _ =>
                  match w.text with
                  | .ok inner => evalPieces table owner rest (.ok others) (done ++ [text, inner])
                  | .error why =>
                      if why.family = .indeterminate then return none else .error (.refused why)
              | _ => return none
      | _ => return none
termination_by (owner.size, 0, pieces.length)

end

def evaluate (table : ScopeTable) (data : Data) : Except Fault Result := do
  eval table (← Node.ofData data)

end Evaluation

end StyleFold.Fold
