import StyleFold.Proofs.Fold.Grammar

/-!
What evaluation makes of a node from the parts it reads, kind by kind. Later modules see
evaluation through these equations only.
-/

namespace StyleFold

theorem ok_of_bind {α β : Type} {first : Except Fault α} {next : α → Except Fault β} {result : β}
    (run : (first >>= next) = .ok result) :
    ∃ value, first = .ok value ∧ next value = .ok result := by
  cases first with
  | error fault => cases run
  | ok value => exact ⟨value, rfl, run⟩

end StyleFold

namespace StyleFold.Fold

section Accessors

variable {node : Node} {name : String} {part : Data}

def Seen (name : String) : Prop := name.toList.head? ≠ some '_'

instance (name : String) : Decidable (Seen name) := inferInstanceAs (Decidable (_ ≠ _))

theorem find?_eq (found : Data.lookup? name node.entries = some part) :
    node.find? name = some ⟨part, Data.sizeOf_lookup? found⟩ := by
  unfold Node.find?
  split
  · rename_i other again
    rw [found] at again
    cases again
    rfl
  · rename_i missing
    rw [found] at missing
    cases missing

theorem find?_none (missing : Data.lookup? name node.entries = none) : node.find? name = none := by
  unfold Node.find?
  split
  · rename_i other found
    rw [missing] at found
    cases found
  · rfl

namespace Reads

theorem field (reads : Reads node name part) (seen : Seen name) :
    node.field name = .ok ⟨part, Data.sizeOf_lookup? reads.found⟩ := by
  unfold Node.field
  rw [if_neg seen, find?_eq reads.found]
  simp [Node.checked, reads.sound]

theorem field? (reads : Reads node name part) (there : part ≠ .null) :
    node.field? name = .ok (some ⟨part, Data.sizeOf_lookup? reads.found⟩) := by
  unfold Node.field?
  rw [find?_eq reads.found]
  cases part <;> simp_all [Node.checked, reads.sound, Except.map]

theorem small {items : List Data} (reads : Reads node name (.list items)) :
    sizeOf items < node.size := by
  have whole : sizeOf (Data.list items) < node.size := Data.sizeOf_lookup? reads.found
  simp only [Data.list.sizeOf_spec] at whole
  omega

theorem items {items : List Data} (reads : Reads node name (.list items)) (seen : Seen name)
    (onText : Fault) : node.items name onText = .ok ⟨items, reads.small⟩ := by
  simp [Node.items, reads.field seen, bind, Except.bind]

theorem row {items : List Data} (reads : Reads node name (.list items)) (onText : Fault) :
    node.row name onText = .ok (.ok (node.parts ⟨items, reads.small⟩)) := by
  simp [Node.row, reads.field? (by simp), bind, Except.bind, pure, Except.pure]

theorem label (reads : Reads node name part) (seen : Seen name) :
    node.label name = .ok (Label.ofData part) := by
  simp [Node.label, reads.field seen, bind, Except.bind, pure, Except.pure]

end Reads

theorem sizeOf_view {entries : Entries} {view : Node} (opened : Node.ofEntries entries = .ok view) :
    view.size < sizeOf (Data.map entries) := by
  simp [Node.size, Node.entries_of_ofEntries opened]

theorem openOr_eq {entries : Entries} {view : Node} {fault : Fault}
    (opened : Node.ofEntries entries = .ok view) :
    Node.openOr fault (.map entries) = .ok ⟨view, sizeOf_view opened⟩ := by
  simp only [Node.openOr]
  split
  · rename_i other again
    rw [opened] at again
    cases again
    rfl
  · rename_i other failed
    rw [opened] at failed
    cases failed

theorem Reads.child {entries : Entries} {view : Node} (reads : Reads node name (.map entries))
    (seen : Seen name) (opened : Node.ofEntries entries = .ok view) :
    ∃ small, node.child name = .ok ⟨view, small⟩ := by
  refine ⟨Nat.lt_trans (sizeOf_view opened) (Data.sizeOf_lookup? reads.found), ?_⟩
  simp [Node.child, reads.field seen, Node.expect, openOr_eq opened, bind, Except.bind, pure,
    Except.pure]

namespace Lacks

theorem field? (lacks : Lacks node name) : node.field? name = .ok none := by
  unfold Node.field?
  cases found : Data.lookup? name node.entries with
  | none => rw [find?_none found]
  | some part =>
      rw [find?_eq found]
      cases lacks part found
      rfl

theorem row (lacks : Lacks node name) (onText : Fault) : node.row name onText = .ok (.ok []) := by
  simp [Node.row, lacks.field?, bind, Except.bind, pure, Except.pure]

end Lacks

end Accessors

section Kinds

theorem ok_bind {α β : Type} (a : α) (next : α → Except Fault β) :
    (Except.ok a >>= next) = next a :=
  rfl

theorem mapError_ok {ε δ α : Type} (f : ε → δ) (a : α) : (Except.ok a).mapError f = .ok a := rfl

theorem mapError_eq_ok {ε δ α : Type} {f : ε → δ} {outcome : Except ε α} {a : α} :
    outcome.mapError f = .ok a ↔ outcome = .ok a := by
  cases outcome with
  | ok b => simp only [mapError_ok, Except.ok.injEq]
  | error why => constructor <;> rintro ⟨⟩

variable (table : ScopeTable) {node : Node}

theorem evalPart_map {entries : Entries} {view : Node}
    (opened : Node.ofEntries entries = .ok view) :
    evalPart table (.map entries) = eval table view := by
  rw [evalPart, Node.operand, openOr_eq opened]
  rfl

theorem evaluate_map (entries : Entries) :
    evaluate table (.map entries) = evalPart table (.map entries) := by
  cases opened : Node.ofEntries entries with
  | ok view =>
      rw [evalPart_map table opened]
      simp [evaluate, Node.ofData, opened, bind, Except.bind]
  | error fault =>
      simp only [evalPart, Node.operand, Node.openOr]
      split
      · rename_i other again
        rw [opened] at again
        cases again
      · rename_i other again
        simp [evaluate, Node.ofData, again, bind, Except.bind]

theorem eval_literal {part : Data}
    (kind : node.kind = some .stringLiteral ∨ node.kind = some .booleanLiteral)
    (value : Reads node "value" part) :
    eval table node = .ok (.value (literalValue part) node.span) := by
  rcases kind with kind | kind <;> rw [eval, kind] <;> simp only [value.field (by decide)] <;> rfl

theorem eval_number {part : Data} (kind : node.kind = some .numericLiteral)
    (value : Reads node "value" part) :
    eval table node = (do return .value (.number (← numberOf part)) node.span) := by
  rw [eval, kind]
  simp only [value.field (by decide)]
  rfl

theorem eval_bigint (kind : node.kind = some .bigIntLiteral) :
    eval table node = (do return .value (.bigint (← bigintOf node)) node.span) := by
  rw [eval, kind]

theorem eval_null (kind : node.kind = some .nullLiteral) :
    eval table node = .ok (.value .null node.span) := by
  rw [eval, kind]
  rfl

theorem eval_regexp {pattern : Data} {flags : Option node.Part}
    (kind : node.kind = some .regExpLiteral) (source : Reads node "pattern" pattern)
    (marks : node.field? "flags" = .ok flags) :
    eval table node = .ok (.value (.regexp (Label.ofData pattern)
      ((flags.map fun part => .ofData part.val).getD "")) node.span) := by
  rw [eval, kind]
  simp only [source.label (by decide), marks]
  rfl

theorem eval_identifier {part : Data} (kind : node.kind = some .identifier)
    (value : Reads node "value" part) :
    eval table node = .ok (named (Label.ofData part) node.span) := by
  rw [eval, kind]
  simp only [value.label (by decide)]
  rfl

theorem eval_array {items : List Data} (kind : node.kind = some .arrayExpression)
    (elements : Reads node "elements" (.list items)) :
    eval table node =
      (do return .value (.array (← evalElements table node.span items)) node.span) := by
  rw [eval, kind]
  simp only [elements.items (by decide)]
  rfl

theorem eval_object {items : List Data} (kind : node.kind = some .objectExpression)
    (properties : Reads node "properties" (.list items)) :
    eval table node = (do return .value (.object (← evalProperties table [] items)) node.span) := by
  rw [eval, kind]
  simp only [properties.items (by decide)]
  rfl

def Logical.fold (operator : Logical) (left : Result) (right : Except Fault Result)
    (span : Option Span) : Except Fault Result := do
  match left with
  | .value v _ =>
      if ← (operator.decides v).mapError Fault.refused then return .value v span
      else match ← right with
        | .value w _ => return .value w span
        | _ => return .nonStatic
  | _ => return .nonStatic

def binaryResults (symbol : String) (left right : Result) (span : Option Span) :
    Except Fault Result :=
  match left, right with
  | .value v _, .value w _ => binary symbol v w span
  | _, _ => .ok .nonStatic

theorem eval_binary {symbol : String} {left right : Data}
    (kind : node.kind = some .binaryExpression) (operator : Reads node "operator" (.text symbol))
    (first : Reads node "left" left) (second : Reads node "right" right) :
    eval table node = (do
      let a ← evalPart table left
      match Logical.ofSymbol? symbol with
      | some operator => operator.fold a (evalPart table right) node.span
      | none => do
          let b ← evalPart table right
          binaryResults symbol a b node.span) := by
  rw [eval, kind]
  simp only [operator.field (by decide), first.field (by decide), second.field (by decide), ok_bind]
  apply bind_congr
  intro a
  cases Logical.ofSymbol? symbol with
  | some operator =>
      cases a <;> rfl
  | none =>
      apply bind_congr
      intro b
      cases a <;> cases b <;> rfl

theorem eval_unary {symbol : String} {argument : Data} (kind : node.kind = some .unaryExpression)
    (operator : Reads node "operator" (.text symbol)) (part : Reads node "argument" argument) :
    eval table node =
      if symbol = "delete" then .ok .nonStatic
      else do
        match ← evalPart table argument with
        | .value v _ => unary symbol v node.span
        | _ => return .nonStatic := by
  rw [eval, kind]
  simp only [operator.field (by decide), part.field (by decide), ok_bind]
  by_cases deletes : symbol = "delete"
  · subst deletes
    rfl
  · rw [if_neg deletes]
    split
    · rename_i same
      cases same
      exact absurd rfl deletes
    · rfl

def passesOn : Kind → Option String
  | .awaitExpression => some "argument"
  | .assignmentExpression => some "right"
  | .privateName => some "id"
  | .computed => some "expression"
  | kind => if isTransparent kind then some "expression" else none

theorem eval_passing {kind : Kind} {name : String} {part : Data} (tagged : node.kind = some kind)
    (passes : passesOn kind = some name) (inner : Reads node name part) :
    eval table node = evalPart table part := by
  have seen : Seen name := by
    cases kind <;> cases passes <;> decide
  rw [eval, tagged]
  cases kind <;> cases passes <;> simp only [inner.field seen, ok_bind, isTransparent, if_true]

theorem eval_conditional {test consequent alternate : Data}
    (kind : node.kind = some .conditionalExpression) (asks : Reads node "test" test)
    (holds : Reads node "consequent" consequent) (fails : Reads node "alternate" alternate) :
    eval table node = (do
      match ← evalPart table test with
      | .value v _ =>
          if ← v.test.mapError Fault.refused then evalPart table consequent
          else evalPart table alternate
      | _ => return .nonStatic) := by
  rewrite [eval, kind, asks.field (by decide), holds.field (by decide), fails.field (by decide)]
  rfl

theorem eval_sequence {items : List Data} {last : Data}
    (kind : node.kind = some .sequenceExpression)
    (expressions : Reads node "expressions" (.list items)) (ends : items.getLast? = some last) :
    eval table node = evalPart table last := by
  rw [eval, kind]
  simp only [expressions.items (by decide), ok_bind]
  split
  · rename_i other found
    rw [ends] at found
    cases found
    rfl
  · rename_i found
    rw [ends] at found
    cases found

theorem eval_piece (kind : node.kind = some .templateElement) :
    eval table node = (do return .value (← pieceValue node) node.span) := by
  rw [eval, kind]

theorem eval_call {entries : Entries} {callee : Node} {items : List Data}
    (kind : node.kind = some .callExpression) (called : Reads node "callee" (.map entries))
    (opened : Node.ofEntries entries = .ok callee) (given : Reads node "arguments" (.list items)) :
    eval table node = (do
      if (← table.calledApi? callee) = some .firstThatWorks then
        return .value (.array (← evalElements table node.span items).reverse) node.span
      else return .nonStatic) := by
  obtain ⟨small, child⟩ := called.child (by decide) opened
  rw [eval, kind]
  simp only [child, given.items (by decide), ok_bind]

def readResult (base : Result) (key : Label) (span : Option Span) : Except Fault Result :=
  match base with
  | .reference id _ => .ok (.reference (id.plain ++ "." ++ key.plain) span)
  | .value v _ => readLabel v key span
  | _ => .ok .nonStatic

def readNamed (base : Result) (span : Option Span) : Option Label → Except Fault Result
  | none => .ok .nonStatic
  | some key => readResult base key span

theorem eval_member {object : Data} {entries : Entries} {property : Node}
    (kind : node.kind = some .memberExpression) (base : Reads node "object" object)
    (named : Reads node "property" (.map entries))
    (opened : Node.ofEntries entries = .ok property) :
    eval table node = (do
      match ← evalPart table object with
      | .nonStatic => return .nonStatic
      | base => readNamed base node.span (← memberKey table property)) := by
  obtain ⟨small, child⟩ := named.child (by decide) opened
  rw [eval, kind]
  simp only [child, base.field (by decide), ok_bind]
  apply bind_congr
  intro result
  cases result with
  | nonStatic => rfl
  | _ =>
      apply bind_congr
      intro key
      cases key <;> rfl

def isUnread : Kind → Bool
  | .stringLiteral | .booleanLiteral | .numericLiteral | .bigIntLiteral | .nullLiteral
  | .regExpLiteral | .invalid | .identifier | .arrayExpression | .objectExpression
  | .binaryExpression | .unaryExpression | .awaitExpression | .assignmentExpression
  | .conditionalExpression | .templateLiteral | .templateElement | .callExpression | .computed
  | .memberExpression | .privateName | .sequenceExpression => false
  | kind => !isTransparent kind

theorem eval_unread {kind : Kind} (tagged : node.kind = some kind) (free : isUnread kind = true) :
    eval table node = .ok .nonStatic := by
  rw [eval, tagged]
  cases kind <;> cases free <;> rfl

end Kinds

section Templates

variable (table : ScopeTable)

def insertion : Result → Except Fault (Option String)
  | .reference id _ => .ok (some ("var(--" ++ id.plain ++ ")"))
  | .value v _ =>
      match v.text with
      | .ok text => .ok (some text)
      | .error why => if why.family = .indeterminate then .ok none else .error (.refused why)
  | _ => .ok none

def joinPieces : List Data → List Data → List String → Except Fault (Option String)
  | [], _, done => .ok (some (String.join done))
  | piece :: rest, expressions, done => do
      match ← evalPart table piece with
      | .value v _ =>
          let text ← v.text.mapError Fault.refused
          match expressions with
          | [] => joinPieces rest [] (done ++ [text])
          | expression :: others =>
              match ← insertion (← evalPart table expression) with
              | some inner => joinPieces rest others (done ++ [text, inner])
              | none => return none
      | _ => return none

theorem evalPieces_eq (owner : Node) (pieces expressions : List owner.Part) (done : List String) :
    evalPieces table owner pieces (.ok expressions) done =
      joinPieces table (pieces.map Subtype.val) (expressions.map Subtype.val) done := by
  induction pieces generalizing expressions done with
  | nil =>
      rw [evalPieces]
      rfl
  | cons piece rest ih =>
      rw [evalPieces, List.map_cons, joinPieces]
      apply bind_congr
      intro result
      cases result with
      | value v span =>
          apply bind_congr
          intro text
          cases expressions with
          | nil => exact ih [] _
          | cons expression others =>
              apply bind_congr
              intro found
              cases found with
              | reference id span => exact ih others _
              | value w span =>
                  simp only [insertion]
                  cases w.text with
                  | ok inner => exact ih others _
                  | error why =>
                      dsimp only
                      split <;> rfl
              | _ => rfl
      | _ => rfl

theorem parts_val (node : Node) (items : List Data) (small : sizeOf items < node.size) :
    (node.parts ⟨items, small⟩).map Subtype.val = items := by
  simp [Node.parts]

theorem eval_template {node : Node} {pieces expressions : List Data}
    (kind : node.kind = some .templateLiteral) (quasis : Reads node "quasis" (.list pieces))
    (inner : Reads node "expressions" (.list expressions) ∨
      (Lacks node "expressions" ∧ expressions = [])) :
    eval table node = (do
      match ← joinPieces table pieces expressions [] with
      | some text => return .value (.string text) node.span
      | none => return .nonStatic) := by
  rewrite [eval, kind]
  rcases inner with given | ⟨lacks, rfl⟩
  · rewrite [given.row, quasis.items (by decide), ok_bind, ok_bind, evalPieces_eq,
      parts_val, parts_val]
    rfl
  · rewrite [lacks.row, quasis.items (by decide), ok_bind, ok_bind, evalPieces_eq, parts_val]
    rfl

end Templates

section Containers

variable (table : ScopeTable)

def elementEntries {node : Node} (result : Result) (spread : Option node.Part) : List Result :=
  if spread.isNone then [result] else spreadEntries result

theorem evalElements_nil (span : Option Span) : evalElements table span [] = .ok [] := by
  rw [evalElements]
  rfl

theorem evalElements_hole (span : Option Span) (rest : List Data) :
    evalElements table span (.null :: rest) =
      (do return .value .undefined span :: (← evalElements table span rest)) := by
  rw [evalElements]

theorem evalElements_cons (span : Option Span) {entries : Entries} {view : Node} {inner : Data}
    {spread : Option view.Part} (opened : Node.ofEntries entries = .ok view)
    (reads : Reads view "expression" inner) (marks : view.field? "spread" = .ok spread)
    (rest : List Data) :
    evalElements table span (.map entries :: rest) = (do
      let result ← evalPart table inner
      return elementEntries result spread ++ (← evalElements table span rest)) := by
  rw [evalElements, Node.expect, openOr_eq opened]
  · simp only [reads.field (by decide), marks, ok_bind]
    rfl
  · simp

theorem evalProperties_nil (members : Members) : evalProperties table members [] = .ok members := by
  rw [evalProperties]
  rfl

theorem evalProperties_spread {entries : Entries} {view : Node} {source : Data}
    (opened : Node.ofEntries entries = .ok view) (kind : view.kind = some .spreadElement)
    (reads : Reads view "arguments" source) (members : Members) (rest : List Data) :
    evalProperties table members (.map entries :: rest) = (do
      let spread ← evalPart table source
      evalProperties table (Members.putAll members (spreadMembers spread)) rest) := by
  rw [evalProperties, Node.expect, openOr_eq opened]
  simp only [ok_bind, kind, reads.field (by decide)]

theorem evalProperties_entry {entries keyEntries : Entries} {view key : Node} {value : Data}
    (opened : Node.ofEntries entries = .ok view)
    (kind : view.kind = some .keyValueProperty ∨ view.kind = some .assignmentProperty)
    (named : Reads view "key" (.map keyEntries)) (openedKey : Node.ofEntries keyEntries = .ok key)
    (reads : Reads view "value" value) (members : Members) (rest : List Data) :
    evalProperties table members (.map entries :: rest) = (do
      match ← propertyKey table key with
      | some name =>
          let result ← evalPart table value
          evalProperties table (Members.put (← name.key) result members) rest
      | none => evalProperties table members rest) := by
  obtain ⟨small, child⟩ := named.child (by decide) openedKey
  have step := evalProperties.eq_def table members (.map entries :: rest)
  simp only [Node.expect, openOr_eq opened, ok_bind] at step
  rcases kind with kind | kind <;>
    simp only [kind, ok_bind, child, reads.field (by decide)] at step <;> exact step

theorem evalProperties_shorthand {entries : Entries} {view : Node} {name : String}
    (opened : Node.ofEntries entries = .ok view) (kind : view.kind = some .identifier)
    (reads : Reads view "value" (.text name)) (members : Members) (rest : List Data) :
    evalProperties table members (.map entries :: rest) =
      evalProperties table (Members.put name (named name view.span) members) rest := by
  rw [evalProperties, Node.expect, openOr_eq opened]
  simp only [ok_bind, kind, reads.label (by decide), Label.ofData, Label.key, Label.canKey, if_true]

def isDropped : Option Kind → Bool
  | some .spreadElement | some .keyValueProperty | some .assignmentProperty
  | some .identifier => false
  | _ => true

theorem evalProperties_dropped {entries : Entries} {view : Node}
    (opened : Node.ofEntries entries = .ok view) (dropped : isDropped view.kind = true)
    (members : Members) (rest : List Data) :
    evalProperties table members (.map entries :: rest) = evalProperties table members rest := by
  rw [evalProperties, Node.expect, openOr_eq opened]
  simp only [ok_bind]
  split <;> simp_all [isDropped]

theorem evalElements_head (span : Option Span) (item : Data) (rest : List Data) :
    evalElements table span (item :: rest) = (do
      let first ← evalElements table span [item]
      return first ++ (← evalElements table span rest)) := by
  cases item with
  | null =>
      rw [evalElements_hole, evalElements_hole, evalElements_nil]
      rfl
  | _ =>
      rw [evalElements, evalElements, evalElements_nil]
      · simp only [bind_assoc, pure_bind, ok_bind, List.append_nil]
      all_goals simp

theorem evalProperties_head (members : Members) (item : Data) (rest : List Data) :
    evalProperties table members (item :: rest) = (do
      evalProperties table (← evalProperties table members [item]) rest) := by
  rw [evalProperties, evalProperties]
  simp only [bind_assoc]
  apply bind_congr
  intro property
  split <;> simp only [bind_assoc, evalProperties_nil, ok_bind]
  all_goals
    refine bind_congr fun key => bind_congr fun name => ?_
    cases name <;> simp only [bind_assoc, ok_bind]

end Containers

section Keys

variable (table : ScopeTable) {key : Node}

theorem propertyKey_name {name : String}
    (kind : key.kind = some .identifier ∨ key.kind = some .stringLiteral)
    (value : Reads key "value" (.text name)) :
    propertyKey table key = .ok (some (.text name)) := by
  rcases kind with kind | kind <;> rw [propertyKey, kind] <;>
    simp only [value.label (by decide), ok_bind] <;> rfl

theorem propertyKey_number {part : Data} (kind : key.kind = some .numericLiteral)
    (value : Reads key "value" part) :
    propertyKey table key = (do return some (.text (numberText (← numberOf part)))) := by
  rw [propertyKey, kind]
  simp only [value.field (by decide), ok_bind]

theorem propertyKey_bigint (kind : key.kind = some .bigIntLiteral) :
    propertyKey table key = (do
      let text ← (integerText (← bigintOf key)).mapError Fault.refused
      return some (.text text)) := by
  rw [propertyKey, kind]

theorem propertyKey_computed {inner : Data} (kind : key.kind = some .computed)
    (expression : Reads key "expression" inner) :
    propertyKey table key = (do keyOf (← evalPart table inner)) := by
  rw [propertyKey, kind]
  simp only [expression.field (by decide), ok_bind]

def isUnknownKey : Option Kind → Bool
  | some .identifier | some .stringLiteral | some .numericLiteral | some .bigIntLiteral
  | some .computed => false
  | _ => true

theorem propertyKey_unknown (unknown : isUnknownKey key.kind = true) :
    propertyKey table key = .ok none := by
  rw [propertyKey]
  split <;> simp_all [isUnknownKey, pure, Except.pure]

theorem memberKey_name {name : String} (kind : key.kind = some .identifier)
    (value : Reads key "value" (.text name)) : memberKey table key = .ok (some (.text name)) := by
  rw [memberKey, kind]
  simp only [value.label (by decide), ok_bind]
  rfl

theorem memberKey_private {entries : Entries} {id : Node} {name : String}
    (kind : key.kind = some .privateName) (inner : Reads key "id" (.map entries))
    (opened : Node.ofEntries entries = .ok id) (value : Reads id "value" (.text name)) :
    memberKey table key = .ok (some (.text name)) := by
  obtain ⟨small, child⟩ := inner.child (by decide) opened
  rw [memberKey, kind]
  simp only [child, value.label (by decide), ok_bind]
  rfl

theorem memberKey_computed {inner : Data} (kind : key.kind = some .computed)
    (expression : Reads key "expression" inner) :
    memberKey table key = (do keyOf (← evalPart table inner)) := by
  rw [memberKey, kind]
  simp only [expression.field (by decide), ok_bind]

def isUnknownMember : Option Kind → Bool
  | some .identifier | some .privateName | some .computed => false
  | _ => true

theorem memberKey_unknown (unknown : isUnknownMember key.kind = true) :
    memberKey table key = .ok none := by
  rw [memberKey]
  split <;> simp_all [isUnknownMember, pure, Except.pure]

end Keys

end StyleFold.Fold
