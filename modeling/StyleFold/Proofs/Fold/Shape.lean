import StyleFold.Proofs.Fold.Reading

/-!
The shapes of formed data: for every place of the grammar, what is known of the nodes that stand
there, by how evaluation treats them.
-/

namespace StyleFold.Fold

section Parts

variable {fragment : Fragment}

def Role.isScalar : Role → Bool
  | .text | .truth | .number | .binarySymbol | .unarySymbol => true
  | _ => false

def Role.isNode : Role → Bool
  | .expression | .callee | .property | .key | .member | .identifier | .piece => true
  | _ => false

theorem scalar_of_formed {role : Role} {part : Data} (scalar : role.isScalar = true)
    (form : Formed fragment role part) : formedScalar role part = true := by
  cases part with
  | map entries =>
      obtain ⟨view, wanted, _, asked, _⟩ := formed_view form
      cases role <;> simp [Role.isScalar, demands] at scalar asked
  | list items =>
      cases role <;> simp_all [Role.isScalar, Formed, formed]
  | _ => cases role <;> simp_all [Formed, formed]

theorem map_of_formed {role : Role} {part : Data} (node : role.isNode = true)
    (form : Formed fragment role part) : ∃ entries, part = .map entries := by
  cases part with
  | map entries => exact ⟨entries, rfl⟩
  | _ => cases role <;> simp_all [Role.isNode, Formed, formed, formedScalar]

theorem text_of_formed {part : Data} (form : Formed fragment .text part) : ∃ s, part = .text s := by
  have scalar := scalar_of_formed rfl form
  cases part with
  | text s => exact ⟨s, rfl⟩
  | _ => cases scalar

theorem truth_of_formed {part : Data} (form : Formed fragment .truth part) :
    ∃ b, part = .bool b := by
  have scalar := scalar_of_formed rfl form
  cases part with
  | bool b => exact ⟨b, rfl⟩
  | _ => cases scalar

theorem symbol_of_formed {part : Data} (form : Formed fragment .binarySymbol part) :
    ∃ symbol, part = .text symbol ∧ isBinarySymbol symbol = true := by
  have scalar := scalar_of_formed rfl form
  cases part with
  | text symbol => exact ⟨symbol, rfl, scalar⟩
  | _ => cases scalar

theorem unarySymbol_of_formed {part : Data} (form : Formed fragment .unarySymbol part) :
    ∃ symbol, part = .text symbol ∧ isUnarySymbol symbol = true := by
  have scalar := scalar_of_formed rfl form
  cases part with
  | text symbol => exact ⟨symbol, rfl, scalar⟩
  | _ => cases scalar

theorem numberOf_formed {part : Data} (form : Formed fragment .number part) :
    ∃ x, numberOf part = .ok x := by
  have scalar := scalar_of_formed rfl form
  cases part with
  | float x => exact ⟨x, rfl⟩
  | int i =>
      obtain ⟨x, found⟩ := Option.isSome_iff_exists.mp scalar
      exact ⟨x, by simp [numberOf, found]⟩
  | _ => cases scalar

theorem items_of_formed {role : Role} {part : Data} (form : Formed fragment (.many role) part) :
    ∃ items, part = .list items ∧ ∀ item ∈ items, Formed fragment role item := by
  cases part with
  | list items => exact ⟨items, rfl, formedItems_iff.mp (by simpa [Formed, formed] using form)⟩
  | map entries =>
      obtain ⟨view, wanted, _, asked, _⟩ := formed_view form
      simp [demands] at asked
  | _ => simp [Formed, formed, formedScalar] at form

theorem oneOrMore_of_formed {role : Role} {part : Data}
    (form : Formed fragment (.oneOrMore role) part) :
    ∃ items, part = .list items ∧ items ≠ [] ∧ ∀ item ∈ items, Formed fragment role item := by
  cases part with
  | list items =>
      simp only [Formed, formed, Bool.and_eq_true, Bool.not_eq_true',
        List.isEmpty_eq_false_iff] at form
      exact ⟨items, rfl, form.1, formedItems_iff.mp form.2⟩
  | map entries =>
      obtain ⟨view, wanted, _, asked, _⟩ := formed_view form
      simp [demands] at asked
  | _ => simp [Formed, formed, formedScalar] at form

theorem readText_spelled {value : Data} {text : String} (spelled : spellsBigint text = true) :
    ∃ i, bigintOf.readText value text = .ok i := by
  obtain ⟨i, read⟩ := Option.isSome_iff_exists.mp spelled
  exact ⟨i, by simp [bigintOf.readText, read]⟩

theorem bigintOf_raw {node : Node} {text : String} (lacks : Lacks node "value")
    (found : Data.lookup? "raw" node.entries = some (.text text))
    (spelled : spellsBigint text = true) : ∃ i, bigintOf node = .ok i := by
  have reads : Reads node "raw" (.text text) := ⟨found, rfl⟩
  obtain ⟨i, read⟩ := readText_spelled spelled
  refine ⟨i, ?_⟩
  simp only [bigintOf, lacks.field?, reads.field? (by simp), ok_bind, Option.map_none,
    Option.getD_none]
  exact read

theorem bigintOf_written {node : Node} (written : writesBigint node.entries = true) :
    ∃ i, bigintOf node = .ok i := by
  unfold writesBigint at written
  split at written
  · rename_i i found
    have reads : Reads node "value" (.int i) := ⟨found, rfl⟩
    refine ⟨i, ?_⟩
    simp only [bigintOf, reads.field? (by simp), ok_bind, Option.map_some, Option.getD_some]
    rfl
  · rename_i s found
    have reads : Reads node "value" (.text s) := ⟨found, rfl⟩
    obtain ⟨i, read⟩ := readText_spelled written
    refine ⟨i, ?_⟩
    simp only [bigintOf, reads.field? (by simp), ok_bind, Option.map_some, Option.getD_some]
    exact read
  -- Without a value, missing or null, the numeral is in the source text.
  · rename_i missing
    split at written
    · rename_i s found
      exact bigintOf_raw (fun part there => by simp [missing] at there) found written
    · cases written
  · rename_i null
    split at written
    · rename_i s found
      exact bigintOf_raw (fun part there => by simpa [null] using there.symm) found written
    · cases written
  · cases written

end Parts

section Shapes

variable {fragment : Fragment}

/-- What `read` gives as the name at a node is written out there, is computed, is none that is
understood, or would be too long. -/
inductive NameShape (fragment : Fragment) (node : Node)
    (read : ScopeTable → Node → Except Fault (Option Label)) : Prop where
  | written (name : String) (reads : ∀ table, read table node = .ok (some (.text name)))
  | computed {inner : Data} (expression : Reads node "expression" inner)
      (reads : ∀ table, read table node = (do keyOf (← evalPart table inner)))
      (form : Formed fragment .expression inner)
  | unknown (reads : ∀ table, read table node = .ok none)
  | overlong (reads : ∀ table, read table node = .error (.refused .tooManyDigits))

theorem keyShape {entries : Entries} (form : Formed fragment .key (.map entries)) :
    ∃ key, Node.ofEntries entries = .ok key ∧ NameShape fragment key propertyKey := by
  obtain ⟨key, wanted, opened, asked, follows⟩ := formed_view form
  refine ⟨key, opened, ?_⟩
  by_cases name : key.kind = some .identifier ∨ key.kind = some .stringLiteral
  · have same : wanted = [⟨"value", .text, false⟩] := by
      rcases name with kind | kind <;> simpa [kind, demands] using asked.symm
    subst same
    obtain ⟨part, reads, text⟩ := follows.given "value" rfl
    obtain ⟨s, rfl⟩ := text_of_formed text
    exact .written s fun table => propertyKey_name table name reads
  by_cases number : key.kind = some .numericLiteral
  · rw [number] at asked
    cases asked
    obtain ⟨part, reads, double⟩ := follows.given "value" rfl
    obtain ⟨x, read⟩ := numberOf_formed double
    exact .written (numberText x) fun table => by
      rw [propertyKey_number table number reads, read]
      rfl
  by_cases bigint : key.kind = some .bigIntLiteral
  · obtain ⟨i, read⟩ := bigintOf_written (follows.bigint bigint)
    have spelt (table : ScopeTable) : propertyKey table key = (do
        let text ← (integerText i).mapError Fault.refused
        return some (.text text)) := by
      rw [propertyKey_bigint table bigint, read, ok_bind]
    unfold integerText at spelt
    split at spelt
    · exact .overlong spelt
    · exact .written (toString i) spelt
  by_cases computed : key.kind = some .computed
  · rw [computed] at asked
    simp only [demands] at asked
    split at asked
    · cases asked
      obtain ⟨inner, reads, form⟩ := follows.given "expression" rfl
      exact .computed reads (fun table => propertyKey_computed table computed reads) form
    · cases asked
  refine .unknown fun table => propertyKey_unknown table ?_
  unfold isUnknownKey
  split <;> simp_all

theorem name_of_identifier {part : Data} (form : Formed fragment .identifier part) :
    ∃ entries view name, part = .map entries ∧ Node.ofEntries entries = .ok view ∧
      view.kind = some .identifier ∧ Reads view "value" (.text name) := by
  obtain ⟨entries, rfl⟩ := map_of_formed rfl form
  obtain ⟨view, wanted, opened, asked, follows⟩ := formed_view form
  have kind : view.kind = some .identifier := by
    unfold demands at asked
    split at asked <;> simp_all
  rw [kind] at asked
  cases asked
  obtain ⟨value, reads, text⟩ := follows.given "value" rfl
  obtain ⟨name, rfl⟩ := text_of_formed text
  exact ⟨entries, view, name, rfl, opened, kind, reads⟩

theorem memberShape {entries : Entries} (form : Formed fragment .member (.map entries)) :
    ∃ property, Node.ofEntries entries = .ok property ∧ NameShape fragment property memberKey := by
  obtain ⟨property, wanted, opened, asked, follows⟩ := formed_view form
  refine ⟨property, opened, ?_⟩
  by_cases name : property.kind = some .identifier
  · rw [name] at asked
    cases asked
    obtain ⟨part, reads, text⟩ := follows.given "value" rfl
    obtain ⟨s, rfl⟩ := text_of_formed text
    exact .written s fun table => memberKey_name table name reads
  by_cases hidden : property.kind = some .privateName
  · rw [hidden] at asked
    cases asked
    obtain ⟨part, reads, inner⟩ := follows.given "id" rfl
    obtain ⟨fields, id, s, rfl, openedId, _, value⟩ := name_of_identifier inner
    exact .written s fun table => memberKey_private table hidden reads openedId value
  by_cases computed : property.kind = some .computed
  · rw [computed] at asked
    cases asked
    obtain ⟨inner, reads, form⟩ := follows.given "expression" rfl
    exact .computed reads (fun table => memberKey_computed table computed reads) form
  refine .unknown fun table => memberKey_unknown table ?_
  unfold isUnknownMember
  split <;> simp_all

/-- An array element or argument is a hole, or an expression that may be spread. -/
inductive ElementShape (fragment : Fragment) : Data → Prop where
  | hole : ElementShape fragment .null
  | written {entries : Entries} {view : Node} {inner : Data} {spread : Option view.Part}
      (opened : Node.ofEntries entries = .ok view) (expression : Reads view "expression" inner)
      (form : Formed fragment .expression inner) (marks : view.field? "spread" = .ok spread)
      (single : fragment.spreads = false → spread = none) : ElementShape fragment (.map entries)

theorem formed_nothing {part : Data} : ¬ Formed fragment .nothing part := by
  intro form
  cases part with
  | map entries =>
      obtain ⟨view, wanted, _, asked, _⟩ := formed_view form
      simp [demands] at asked
  | _ => simp [Formed, formed, formedScalar] at form

theorem formed_mark {part : Data} (form : Formed fragment .mark part) : part ≠ .null := by
  intro null
  subst null
  simp [Formed, formed, formedScalar] at form

theorem elementShape {item : Data} (form : Formed fragment .element item) :
    ElementShape fragment item := by
  cases item with
  | null => exact .hole
  | map entries =>
      obtain ⟨view, wanted, opened, asked, follows⟩ := formed_view form
      simp only [demands, Option.some.injEq] at asked
      subst asked
      obtain ⟨inner, reads, inside⟩ := follows.given "expression" rfl
      rcases follows.maybe "spread" rfl with lacks | ⟨part, marks, mark⟩
      · exact .written opened reads inside lacks.field? fun _ => rfl
      · split at mark
        · rename_i allowed
          exact .written opened reads inside (marks.field? (formed_mark mark))
            fun refused => by simp [allowed] at refused
        · exact absurd mark formed_nothing
  | _ => simp [Formed, formed, formedScalar] at form

/-- A property is a spread, an entry with a key, a shorthand, or adds nothing. -/
inductive PropertyShape (fragment : Fragment) (view : Node) : Prop where
  | spread {source : Data} (kind : view.kind = some .spreadElement)
      (allowed : fragment.spreads = true) (arguments : Reads view "arguments" source)
      (form : Formed fragment .expression source)
  | entry {entries : Entries} {key : Node} {value : Data}
      (kind : view.kind = some .keyValueProperty ∨ view.kind = some .assignmentProperty)
      (named : Reads view "key" (.map entries)) (opened : Node.ofEntries entries = .ok key)
      (shape : NameShape fragment key propertyKey) (reads : Reads view "value" value)
      (form : Formed fragment .expression value)
  | shorthand {name : String} (kind : view.kind = some .identifier)
      (reads : Reads view "value" (.text name))
  | dropped (kind : isDropped view.kind = true)

theorem propertyShape {entries : Entries} (form : Formed fragment .property (.map entries)) :
    ∃ view, Node.ofEntries entries = .ok view ∧ PropertyShape fragment view := by
  obtain ⟨view, wanted, opened, asked, follows⟩ := formed_view form
  refine ⟨view, opened, ?_⟩
  by_cases spread : view.kind = some .spreadElement
  · rw [spread] at asked
    simp only [demands] at asked
    split at asked
    · rename_i allowed
      cases asked
      obtain ⟨source, reads, inside⟩ := follows.given "arguments" rfl
      exact .spread spread allowed reads inside
    · cases asked
  by_cases entry : view.kind = some .keyValueProperty ∨ view.kind = some .assignmentProperty
  · have same : wanted = [⟨"key", .key, false⟩, ⟨"value", .expression, false⟩] := by
      rcases entry with kind | kind <;> simpa [kind, demands] using asked.symm
    subst same
    obtain ⟨part, named, key⟩ := follows.given "key" rfl
    obtain ⟨value, reads, inside⟩ := follows.given "value" rfl
    obtain ⟨fields, rfl⟩ := map_of_formed rfl key
    obtain ⟨inner, openedKey, shape⟩ := keyShape key
    exact .entry entry named openedKey shape reads inside
  by_cases shorthand : view.kind = some .identifier
  · rw [shorthand] at asked
    cases asked
    obtain ⟨part, reads, text⟩ := follows.given "value" rfl
    obtain ⟨s, rfl⟩ := text_of_formed text
    exact .shorthand shorthand reads
  refine .dropped ?_
  unfold isDropped
  split <;> simp_all

/-- What is known of a formed expression, by how it is evaluated. -/
inductive Shape (fragment : Fragment) (node : Node) : Prop where
  | string {s : String} (kind : node.kind = some .stringLiteral)
      (value : Reads node "value" (.text s))
  | boolean {b : Bool} (kind : node.kind = some .booleanLiteral)
      (value : Reads node "value" (.bool b))
  | number {part : Data} (kind : node.kind = some .numericLiteral)
      (value : Reads node "value" part) (form : Formed fragment .number part)
  | bigint (kind : node.kind = some .bigIntLiteral) (written : writesBigint node.entries = true)
  | null (kind : node.kind = some .nullLiteral)
  | regexp {pattern : String} {flags : Option node.Part} (kind : node.kind = some .regExpLiteral)
      (source : Reads node "pattern" (.text pattern)) (marks : node.field? "flags" = .ok flags)
  | identifier {name : String} (kind : node.kind = some .identifier)
      (value : Reads node "value" (.text name))
  | array {items : List Data} (kind : node.kind = some .arrayExpression)
      (elements : Reads node "elements" (.list items))
      (form : ∀ item ∈ items, Formed fragment .element item)
  | object {items : List Data} (kind : node.kind = some .objectExpression)
      (properties : Reads node "properties" (.list items))
      (form : ∀ item ∈ items, Formed fragment .property item)
  | binary {symbol : String} {left right : Data} (kind : node.kind = some .binaryExpression)
      (operator : Reads node "operator" (.text symbol)) (known : isBinarySymbol symbol = true)
      (first : Reads node "left" left) (leftForm : Formed fragment .expression left)
      (second : Reads node "right" right) (rightForm : Formed fragment .expression right)
  | unary {symbol : String} {argument : Data} (kind : node.kind = some .unaryExpression)
      (operator : Reads node "operator" (.text symbol)) (known : isUnarySymbol symbol = true)
      (part : Reads node "argument" argument) (form : Formed fragment .expression argument)
  | passing {kind : Kind} {name : String} {part : Data} (tagged : node.kind = some kind)
      (passes : passesOn kind = some name) (inner : Reads node name part)
      (form : Formed fragment .expression part)
  | conditional {test consequent alternate : Data}
      (kind : node.kind = some .conditionalExpression)
      (asks : Reads node "test" test) (testForm : Formed fragment .expression test)
      (holds : Reads node "consequent" consequent)
      (holdsForm : Formed fragment .expression consequent)
      (fails : Reads node "alternate" alternate) (failsForm : Formed fragment .expression alternate)
  | template {pieces expressions : List Data} (kind : node.kind = some .templateLiteral)
      (quasis : Reads node "quasis" (.list pieces))
      (inner : Reads node "expressions" (.list expressions) ∨
        (Lacks node "expressions" ∧ expressions = []))
      (pieceForm : ∀ piece ∈ pieces, Formed fragment .piece piece)
      (form : ∀ expression ∈ expressions, Formed fragment .expression expression)
  | piece (kind : node.kind = some .templateElement)
      (follows : Follows fragment [⟨"cooked", .text, true⟩, ⟨"raw", .text, true⟩] node)
  | call {entries : Entries} {callee : Node} {items : List Data}
      (kind : node.kind = some .callExpression) (called : Reads node "callee" (.map entries))
      (opened : Node.ofEntries entries = .ok callee)
      (calleeForm : Formed fragment .callee (.map entries))
      (given : Reads node "arguments" (.list items))
      (form : ∀ item ∈ items, Formed fragment .element item)
  | member {object : Data} {entries : Entries} {property : Node}
      (kind : node.kind = some .memberExpression) (base : Reads node "object" object)
      (form : Formed fragment .expression object) (named : Reads node "property" (.map entries))
      (opened : Node.ofEntries entries = .ok property)
      (shape : NameShape fragment property memberKey)
  | sequence {items : List Data} {last : Data} (kind : node.kind = some .sequenceExpression)
      (expressions : Reads node "expressions" (.list items)) (ends : items.getLast? = some last)
      (form : Formed fragment .expression last)
  | unread {kind : Kind} (tagged : node.kind = some kind) (free : isUnread kind = true)

theorem expression_of_formed {role : Role} {part : Data}
    (narrow : role = .identifier ∨ role = .piece) (form : Formed fragment role part) :
    Formed fragment .expression part := by
  have node : role.isNode = true := by rcases narrow with rfl | rfl <;> rfl
  obtain ⟨entries, rfl⟩ := map_of_formed node form
  obtain ⟨view, wanted, opened, asked, follows⟩ := formed_view form
  refine formed_of_view opened ?_ follows
  rcases narrow with rfl | rfl <;> unfold demands at asked ⊢ <;> split at asked <;>
    simp_all [expressionDemands]

theorem shape_passing {view : Node} {kind : Kind} {name : String} (tagged : view.kind = some kind)
    (passes : passesOn kind = some name)
    (follows : Follows fragment [⟨name, .expression, false⟩] view) : Shape fragment view := by
  have asked : demandFor? [⟨name, .expression, false⟩] (.text name) =
      some ⟨name, .expression, false⟩ := by simp [demandFor?, Data.isKey]
  obtain ⟨part, reads, form⟩ := follows.given name asked
  exact .passing tagged passes reads form

theorem shape_of_follows {view : Node} {kind : Kind} {wanted : List Demand}
    (tagged : view.kind = some kind) (asked : expressionDemands kind = some wanted)
    (follows : Follows fragment wanted view) : Shape fragment view := by
  cases kind
  case stringLiteral =>
    cases asked
    obtain ⟨part, value, text⟩ := follows.given "value" rfl
    obtain ⟨s, rfl⟩ := text_of_formed text
    exact .string tagged value
  case booleanLiteral =>
    cases asked
    obtain ⟨part, value, truth⟩ := follows.given "value" rfl
    obtain ⟨b, rfl⟩ := truth_of_formed truth
    exact .boolean tagged value
  case numericLiteral =>
    cases asked
    obtain ⟨part, value, double⟩ := follows.given "value" rfl
    exact .number tagged value double
  case bigIntLiteral => exact .bigint tagged (follows.bigint tagged)
  case nullLiteral => exact .null tagged
  case regExpLiteral =>
    cases asked
    obtain ⟨part, source, text⟩ := follows.given "pattern" rfl
    obtain ⟨s, rfl⟩ := text_of_formed text
    rcases follows.maybe "flags" rfl with lacks | ⟨flags, marks, flagText⟩
    · exact .regexp tagged source lacks.field?
    · obtain ⟨f, rfl⟩ := text_of_formed flagText
      exact .regexp tagged source (marks.field? (by simp))
  case identifier =>
    cases asked
    obtain ⟨part, value, text⟩ := follows.given "value" rfl
    obtain ⟨s, rfl⟩ := text_of_formed text
    exact .identifier tagged value
  case arrayExpression =>
    cases asked
    obtain ⟨part, elements, list⟩ := follows.given "elements" rfl
    obtain ⟨items, rfl, form⟩ := items_of_formed list
    exact .array tagged elements form
  case objectExpression =>
    cases asked
    obtain ⟨part, properties, list⟩ := follows.given "properties" rfl
    obtain ⟨items, rfl, form⟩ := items_of_formed list
    exact .object tagged properties form
  case binaryExpression =>
    cases asked
    obtain ⟨part, operator, symbol⟩ := follows.given "operator" rfl
    obtain ⟨s, rfl, known⟩ := symbol_of_formed symbol
    obtain ⟨left, first, leftForm⟩ := follows.given "left" rfl
    obtain ⟨right, second, rightForm⟩ := follows.given "right" rfl
    exact .binary tagged operator known first leftForm second rightForm
  case unaryExpression =>
    cases asked
    obtain ⟨part, operator, symbol⟩ := follows.given "operator" rfl
    obtain ⟨s, rfl, known⟩ := unarySymbol_of_formed symbol
    obtain ⟨argument, reads, form⟩ := follows.given "argument" rfl
    exact .unary tagged operator known reads form
  case conditionalExpression =>
    cases asked
    obtain ⟨test, asks, testForm⟩ := follows.given "test" rfl
    obtain ⟨consequent, holds, holdsForm⟩ := follows.given "consequent" rfl
    obtain ⟨alternate, fails, failsForm⟩ := follows.given "alternate" rfl
    exact .conditional tagged asks testForm holds holdsForm fails failsForm
  case templateLiteral =>
    cases asked
    obtain ⟨part, quasis, list⟩ := follows.given "quasis" rfl
    obtain ⟨pieces, rfl, pieceForm⟩ := items_of_formed list
    rcases follows.maybe "expressions" rfl with lacks | ⟨row, reads, rowList⟩
    · exact .template tagged quasis (.inr ⟨lacks, rfl⟩) pieceForm (by simp)
    · obtain ⟨expressions, rfl, form⟩ := items_of_formed rowList
      exact .template tagged quasis (.inl reads) pieceForm form
  case templateElement =>
    cases asked
    exact .piece tagged follows
  case callExpression =>
    cases asked
    obtain ⟨part, called, calleeForm⟩ := follows.given "callee" rfl
    obtain ⟨entries, rfl⟩ := map_of_formed rfl calleeForm
    obtain ⟨callee, _, opened, _, _⟩ := formed_view calleeForm
    obtain ⟨row, given, list⟩ := follows.given "arguments" rfl
    obtain ⟨items, rfl, form⟩ := items_of_formed list
    exact .call tagged called opened calleeForm given form
  case memberExpression =>
    cases asked
    obtain ⟨object, base, form⟩ := follows.given "object" rfl
    obtain ⟨part, named, member⟩ := follows.given "property" rfl
    obtain ⟨entries, rfl⟩ := map_of_formed rfl member
    obtain ⟨property, opened, shape⟩ := memberShape member
    exact .member tagged base form named opened shape
  case sequenceExpression =>
    cases asked
    obtain ⟨part, expressions, list⟩ := follows.given "expressions" rfl
    obtain ⟨items, rfl, filled, each⟩ := oneOrMore_of_formed list
    exact .sequence tagged expressions (List.getLast?_eq_some_getLast filled)
      (each _ (List.getLast_mem filled))
  case privateName =>
    cases asked
    obtain ⟨part, reads, form⟩ := follows.given "id" rfl
    exact .passing tagged rfl reads (expression_of_formed (.inl rfl) form)
  -- What passes on the value of its one part, whatever that is called.
  case awaitExpression | assignmentExpression | computed | parenthesisExpression | tsAsExpression
      | tsSatisfiesExpression | tsNonNullExpression | tsConstAssertion | tsTypeAssertion
      | tsInstantiation =>
    cases asked
    exact shape_passing tagged rfl follows
  case invalid => cases asked
  -- No other kind is read by evaluation.
  all_goals exact .unread tagged rfl

theorem shape {entries : Entries} (form : Formed fragment .expression (.map entries)) :
    ∃ view, Node.ofEntries entries = .ok view ∧ Shape fragment view := by
  obtain ⟨view, wanted, opened, asked, follows⟩ := formed_view form
  cases tagged : view.kind with
  | none => simp [demands, tagged] at asked
  | some kind =>
      rw [tagged] at asked
      exact ⟨view, opened, shape_of_follows tagged asked follows⟩

end Shapes

end StyleFold.Fold
