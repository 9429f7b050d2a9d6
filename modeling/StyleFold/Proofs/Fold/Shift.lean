import StyleFold.Proofs.Fold.Precision
import StyleFold.Proofs.Tree.Shift

/-!
Evaluation of moved trees. Spans are only ever handed on, so a moved tree evaluates to the moved
result. The frames of the scope table are never looked at, and no fault of an evaluation is about
scopes. Main statement: on tables with the same names for the library, the evaluations of a tree
and of the moved tree agree.
-/

namespace StyleFold

section Results

def movedSpan (d : Int) (span : Option Span) : Option Span := span.map fun span => span.shifted d

mutual

/-- What is foreign holds no spans of evaluation. -/
def Value.moved (d : Int) : Value → Value
  | .array entries => .array (movedResults d entries)
  | .object members => .object (movedMembers d members)
  | other => other

def Result.moved (d : Int) : Result → Result
  | .nonStatic => .nonStatic
  | .reference id span => .reference id (movedSpan d span)
  | .value v span => .value (v.moved d) (movedSpan d span)
  | .bare v => .bare (v.moved d)

def movedResults (d : Int) : List Result → List Result
  | [] => []
  | result :: rest => result.moved d :: movedResults d rest

def movedMembers (d : Int) : Members → Members
  | [] => []
  | (name, result) :: rest => (name, result.moved d) :: movedMembers d rest

end

mutual

theorem Value.moved_zero (v : Value) : v.moved 0 = v := by
  match v with
  | .array entries => rw [Value.moved, movedResults_zero entries]
  | .object members => rw [Value.moved, movedMembers_zero members]
  | .string _ | .number _ | .bool _ | .null | .undefined | .bigint _ | .regexp _ _ | .whole _
  | .foreign _ => rfl

theorem Result.moved_zero (result : Result) : result.moved 0 = result := by
  have same (span : Option Span) : movedSpan 0 span = span := by
    cases span <;> simp [movedSpan, Span.shifted_zero]
  match result with
  | .nonStatic => rfl
  | .reference id span => rw [Result.moved, same]
  | .value v span => rw [Result.moved, same, Value.moved_zero v]
  | .bare v => rw [Result.moved, Value.moved_zero v]

theorem movedResults_zero (entries : List Result) : movedResults 0 entries = entries := by
  match entries with
  | [] => rfl
  | result :: rest => rw [movedResults, Result.moved_zero result, movedResults_zero rest]

theorem movedMembers_zero (members : Members) : movedMembers 0 members = members := by
  match members with
  | [] => rfl
  | (name, result) :: rest => rw [movedMembers, Result.moved_zero result, movedMembers_zero rest]

end

variable (d : Int)

theorem movedResults_eq_map (entries : List Result) :
    movedResults d entries = entries.map (Result.moved d) := by
  induction entries with
  | nil => rfl
  | cons result rest ih => rw [movedResults, ih, List.map_cons]

theorem movedMembers_eq_map (members : Members) :
    movedMembers d members = members.map fun entry => (entry.1, entry.2.moved d) := by
  induction members with
  | nil => rfl
  | cons entry rest ih => rw [movedMembers, ih, List.map_cons]

theorem moved_respan (result : Result) (span : Option Span) :
    (result.respan span).moved d = (result.moved d).respan (movedSpan d span) := by
  cases result <;> rfl

theorem get?_moved (members : Members) (name : Label) :
    Members.get? (movedMembers d members) name =
      (Members.get? members name).map (Result.moved d) := by
  unfold Members.get?
  induction members with
  | nil => rfl
  | cons entry rest ih =>
      obtain ⟨other, result⟩ := entry
      simp only [movedMembers, List.lookup_cons]
      cases name == other with
      | true => rfl
      | false => exact ih

theorem has_moved (members : Members) (name : Label) :
    Members.has (movedMembers d members) name = Members.has members name := by
  rw [Members.has, get?_moved, Option.isSome_map, Members.has]

theorem put_moved (members : Members) (name : Label) (result : Result) :
    Members.put name (result.moved d) (movedMembers d members) =
      movedMembers d (Members.put name result members) := by
  unfold Members.put
  induction members with
  | nil => rfl
  | cons entry rest ih =>
      obtain ⟨other, old⟩ := entry
      simp only [movedMembers, Assoc.put]
      cases name == other with
      | true => rfl
      | false => simp only [Bool.false_eq_true, if_false, movedMembers, ih]

theorem putAll_moved (members additions : Members) :
    Members.putAll (movedMembers d members) (movedMembers d additions) =
      movedMembers d (Members.putAll members additions) := by
  unfold Members.putAll Assoc.putAll
  induction additions generalizing members with
  | nil => rfl
  | cons entry rest ih =>
      obtain ⟨name, result⟩ := entry
      simp only [movedMembers, List.foldl_cons]
      rw [show Assoc.put name (result.moved d) (movedMembers d members) =
        movedMembers d (Assoc.put name result members) from put_moved d members name result]
      exact ih _

/-! Conversions and operators do not see spans. -/

mutual

theorem text_moved (v : Value) : (v.moved d).text = v.text := by
  match v with
  | .array entries => simp only [Value.moved, Value.text, elementTexts_moved entries]
  | .object members => simp only [Value.moved, Value.text, has_moved]
  | .undefined | .null | .bool _ | .number _ | .whole _ | .bigint _ | .string _ | .regexp _ _
  | .foreign _ => rfl

theorem elementText_moved (result : Result) :
    Value.elementText (result.moved d) = Value.elementText result := by
  match result with
  | .value v span =>
      have inner := text_moved v
      cases v <;> first | rfl | simpa only [Result.moved, Value.moved,
        Value.elementText] using inner
  | .nonStatic | .reference _ _ | .bare _ => rfl

theorem elementTexts_moved (entries : List Result) :
    Value.elementTexts (movedResults d entries) = Value.elementTexts entries := by
  match entries with
  | [] => rfl
  | result :: rest =>
      simp only [movedResults, Value.elementTexts, elementText_moved result,
        elementTexts_moved rest]

end

theorem moved_or_container (v : Value) : v.moved d = v ∨ v.isContainer = true := by
  cases v <;> first | exact .inl rfl | exact .inr rfl

theorem moved_of_plain {v : Value} (plain : v.isContainer = false) : v.moved d = v := by
  cases v <;> first | rfl | cases plain

@[simp] theorem isContainer_moved (v : Value) : (v.moved d).isContainer = v.isContainer := by
  cases v <;> rfl

@[simp] theorem type_moved (v : Value) : (v.moved d).type = v.type := by
  cases v <;> rfl

@[simp] theorem isNull_moved (v : Value) : (v.moved d).isNull = v.isNull := by
  cases v <;> rfl

@[simp] theorem isNullish_moved (v : Value) : (v.moved d).isNullish = v.isNullish := by
  cases v <;> rfl

@[simp] theorem test_moved (v : Value) : (v.moved d).test = v.test := by
  cases v <;> rfl

theorem unboolean_moved (v : Value) : (v.moved d).unboolean = v.unboolean.moved d := by
  cases v <;> rfl

theorem primitive_moved (v : Value) : (v.moved d).primitive = v.primitive := by
  unfold Value.primitive
  rw [isContainer_moved, text_moved]
  split
  · rfl
  · rename_i plain
    rw [moved_of_plain d (by simpa using plain)]

theorem toNumber_moved (v : Value) : (v.moved d).toNumber = v.toNumber := by
  rcases moved_or_container d v with same | container
  · rw [same]
  · rw [Fold.toNumber_container container, Fold.toNumber_container (by simpa using container),
      text_moved]

theorem toNumeric_moved (v : Value) : (v.moved d).toNumeric = v.toNumeric := by
  have number := toNumber_moved d v
  cases v <;> first | rfl | simpa only [Value.moved, Value.toNumeric] using congrArg _ number

theorem strictEquals_moved (same : Bool) (a b : Value) :
    Value.strictEquals same (a.moved d) (b.moved d) = Value.strictEquals same a b := by
  rcases moved_or_container d a with left | left
  · rcases moved_or_container d b with right | right
    · rw [left, right]
    · simp [Value.strictEquals, right]
  · simp [Value.strictEquals, left]

theorem looseEquals_moved (same : Bool) (a b : Value) :
    Value.looseEquals same (a.moved d) (b.moved d) = Value.looseEquals same a b := by
  unfold Value.looseEquals
  simp only [type_moved, isNull_moved, isNullish_moved, strictEquals_moved, unboolean_moved,
    primitive_moved]

theorem less?_moved (a b : Value) : Value.less? (a.moved d) (b.moved d) = Value.less? a b := by
  rw [Value.less?, primitive_moved, primitive_moved, Value.less?]

theorem isShared_moved (a b : Value) :
    Value.isShared (a.moved d) (b.moved d) = Value.isShared a b := by
  have same (v : Value) : v.moved d = .array [] ↔ v = .array [] := by
    cases v with
    | array entries => cases entries <;> simp [Value.moved, movedResults]
    | _ => simp [Value.moved]
  rw [Bool.eq_iff_iff, Value.isShared_iff, Value.isShared_iff, same, same]

theorem compare_moved (comparison : Comparison) (a b : Value) :
    Value.compare (Value.isShared (a.moved d) (b.moved d)) comparison (a.moved d) (b.moved d) =
      Value.compare (Value.isShared a b) comparison a b := by
  rw [isShared_moved]
  cases comparison <;>
    simp only [Value.compare, looseEquals_moved, strictEquals_moved, less?_moved]

theorem apply_moved (operator : Arithmetic) (a b : Value) :
    operator.apply (a.moved d) (b.moved d) = operator.apply a b := by
  rcases moved_or_container d a with left | left
  · rcases moved_or_container d b with right | right
    · rw [left, right]
    · rw [Fold.apply_container operator (.inr right),
        Fold.apply_container operator (.inr (by simpa using right))]
  · rw [Fold.apply_container operator (.inl left),
      Fold.apply_container operator (.inl (by simpa using left))]

theorem operands_moved (a b : Value) :
    Arithmetic.operands (a.moved d) (b.moved d) = Arithmetic.operands a b := by
  simp only [Arithmetic.operands, type_moved, toNumber_moved]

theorem hasProperty_moved (a b : Value) :
    Value.hasProperty (a.moved d) (b.moved d) = Value.hasProperty a b := by
  unfold Value.hasProperty
  simp only [isContainer_moved, Value.propertyKey, text_moved]
  cases b with
  | array entries => simp only [Value.moved, movedResults_eq_map, List.length_map]
  | object members => simp only [Value.moved, has_moved]
  | _ => rfl

theorem unary_moved (operator : Unary) (v : Value) :
    operator.apply (v.moved d) = operator.apply v := by
  cases operator <;>
    simp only [Unary.apply, toNumber_moved, toNumeric_moved, test_moved, type_moved]

theorem decides_moved (operator : Fold.Logical) (v : Value) :
    operator.decides (v.moved d) = operator.decides v := by
  cases operator <;> simp only [Fold.Logical.decides, test_moved, isNullish_moved]

mutual

theorem literalValue_moved (data : Data) :
    (Fold.literalValue data).moved d = Fold.literalValue data := by
  match data with
  | .list items => rw [Fold.literalValue, Value.moved, bareItems_moved items]
  | .pair key value =>
      simp only [Fold.literalValue, Value.moved, movedResults, Result.moved, literalValue_moved key,
        literalValue_moved value]
  | .null | .bool _ | .int _ | .float _ | .text _ | .bytes _ | .moment _ | .set _ | .cycle _
  | .map _ => rfl

theorem bareItems_moved (items : List Data) :
    movedResults d (Fold.bareItems items) = Fold.bareItems items := by
  match items with
  | [] => rfl
  | item :: rest =>
      simp only [Fold.bareItems, movedResults, Result.moved, literalValue_moved item,
        bareItems_moved rest]

end

end Results

namespace Fold

section Operators

variable (d : Int)

abbrev ResultMoves (d : Int) (result other : Result) : Prop := other = result.moved d

theorem agree_orNonStatic (span : Option Span) {outcome : Except Refusal Value}
    (plain : ∀ v, outcome = .ok v → v.moved d = v) :
    Agree d (ResultMoves d) (orNonStatic span outcome)
      (orNonStatic (movedSpan d span) outcome) := by
  cases outcome with
  | ok v => exact .ok (by rw [ResultMoves, Result.moved, plain v rfl])
  | error why =>
      simp only [orNonStatic]
      split
      · exact .ok rfl
      · exact agree_refusal why

theorem moved_of_map_bool {outcome : Except Refusal Bool} {v : Value}
    (run : outcome.map Value.bool = .ok v) : v.moved d = v := by
  cases outcome with
  | ok b =>
      cases run
      rfl
  | error why => cases run

theorem moved_of_throwIsFalse {outcome : Except Refusal Bool} {v : Value}
    (run : throwIsFalse outcome = .ok v) : v.moved d = v := by
  unfold throwIsFalse at run
  split at run
  · cases run
    rfl
  · split at run <;> cases run
    rfl

theorem moved_of_apply {operator : Arithmetic} {a b v : Value} (run : operator.apply a b = .ok v) :
    v.moved d = v := by
  have mapped {outcome : Except Refusal Int} (run : outcome.map Value.bigint = .ok v) :
      v.moved d = v := by
    cases outcome <;> cases run
    rfl
  unfold Arithmetic.apply at run
  split at run
  · cases run
    rfl
  · exact mapped run
  · unfold Arithmetic.onTexts at run
    split at run
    · cases run
      rfl
    · rename_i s t _
      cases first : numberOfText s <;> cases second : numberOfText t <;>
        simp [first, second, bind, Except.bind, pure, Except.pure] at run
      subst run
      rfl
  · split at run
    · cases first : a.toNumber <;> cases second : b.toNumber <;>
        simp [first, second, bind, Except.bind, pure, Except.pure] at run
      subst run
      rfl
    · cases run
      rfl

theorem agree_binary (symbol : String) (a b : Value) (span : Option Span) :
    Agree d (ResultMoves d) (binary symbol a b span)
      (binary symbol (a.moved d) (b.moved d) (movedSpan d span)) := by
  unfold binary
  split
  · rw [compare_moved]
    exact agree_orNonStatic d span fun v => moved_of_map_bool d
  · split
    · rw [hasProperty_moved]
      exact agree_orNonStatic d span fun v => moved_of_throwIsFalse d
    · split
      · exact agree_orNonStatic d span fun v => moved_of_throwIsFalse d
      · unfold Arithmetic.applySymbol
        cases Arithmetic.ofSymbol? symbol with
        | some operator =>
            simp only [apply_moved]
            cases run : operator.apply a b with
            | ok v => exact .ok (by rw [ResultMoves, Result.moved, moved_of_apply d run])
            | error why => exact agree_orNonStatic d span fun v same => by cases same
        | none =>
            simp only [Arithmetic.unknown, operands_moved]
            cases Arithmetic.operands a b with
            | ok v => exact agree_fault (by simp [Fault.family])
            | error why => exact agree_orNonStatic d span fun v same => by cases same

theorem moved_of_unary {operator : Unary} {v w : Value} (run : operator.apply v = .ok w) :
    w.moved d = w := by
  have mapped {outcome : Except Refusal Numeric} {f : Numeric → Value}
      (plain : ∀ x, (f x).moved d = f x) (run : outcome.map f = .ok w) : w.moved d = w := by
    cases outcome <;> cases run
    exact plain _
  cases operator with
  | plus =>
      simp only [Unary.apply] at run
      cases number : v.toNumber <;> simp [number, Except.map] at run
      subst run
      rfl
  | minus | complement => exact mapped (fun x => by cases x <;> rfl) run
  | negate =>
      simp only [Unary.apply] at run
      cases truth : v.test <;> simp [truth, Except.map] at run
      subst run
      rfl
  | typeOf | void =>
      cases run
      rfl

theorem agree_unary (symbol : String) (v : Value) (span : Option Span) :
    Agree d (ResultMoves d) (unary symbol v span)
      (unary symbol (v.moved d) (movedSpan d span)) := by
  unfold unary
  split
  · exact agree_fault (by simp [Fault.family])
  · rename_i operator _
    rw [unary_moved]
    cases run : operator.apply v with
    | ok w => exact agree_orNonStatic d span fun x same => by cases same; exact moved_of_unary d run
    | error why =>
        dsimp only
        split
        · exact .ok rfl
        · exact agree_orNonStatic d span fun x same => by cases same

theorem agree_keyOf (result : Result) : Agree d Eq (keyOf result) (keyOf (result.moved d)) := by
  cases result with
  | value v span =>
      simp only [Result.moved, keyOf, Value.propertyKey, text_moved]
      cases v.text with
      | ok name => exact .ok rfl
      | error why =>
          dsimp only
          split
          · exact .ok rfl
          · exact agree_refusal why
  | _ => exact .ok rfl

theorem charResults_moved (s : String) (span : Option Span) :
    charResults s (movedSpan d span) = movedResults d (charResults s span) := by
  rw [movedResults_eq_map, charResults, charResults, List.map_map]
  rfl

theorem spreadEntries_moved (result : Result) :
    spreadEntries (result.moved d) = movedResults d (spreadEntries result) := by
  cases result with
  | value v span => cases v <;> first | rfl | exact charResults_moved d _ span
  | _ => rfl

theorem indexed_moved (entries : List Result) :
    indexed (movedResults d entries) = movedMembers d (indexed entries) := by
  rw [movedMembers_eq_map, movedResults_eq_map, indexed, indexed]
  apply List.ext_getElem?
  intro index
  cases found : entries[index]? <;> simp [List.getElem?_mapIdx, found]

theorem spreadMembers_moved (result : Result) :
    spreadMembers (result.moved d) = movedMembers d (spreadMembers result) := by
  cases result with
  | value v span =>
      cases v <;> first
        | rfl
        | exact indexed_moved d _
        | (simp only [Result.moved, Value.moved, spreadMembers, charResults_moved]
           exact indexed_moved d _)
  | _ => rfl

theorem readMember_moved (v : Value) (key : String) (span : Option Span) :
    readMember (v.moved d) key (movedSpan d span) =
      (readMember v key span).map (Result.moved d) := by
  cases v with
  | object members =>
      simp only [Value.moved, readMember, get?_moved]
      cases Members.get? members key with
      | some result => exact congrArg Except.ok (moved_respan d result span).symm
      | none =>
          dsimp only [Option.map_none]
          split <;> rfl
  | array entries =>
      simp only [Value.moved, readMember, movedResults_eq_map, List.length_map, List.getElem?_map]
      split
      · rfl
      · cases indexOfText key with
        | error why => rfl
        | ok read =>
            cases read with
            | none => rfl
            | some index =>
                cases found : entries[index]? with
                | some result => simp [Except.map, found, moved_respan]
                | none => simp [Except.map, found, Result.moved, Value.moved]
  | _ => rfl

theorem agree_readLabel (v : Value) (label : Label) (span : Option Span) :
    Agree d (ResultMoves d) (readLabel v label span)
      (readLabel (v.moved d) label (movedSpan d span)) := by
  cases label with
  | text key =>
      rw [readLabel, readLabel, readMember_moved]
      cases readMember v key span with
      | ok result => exact .ok rfl
      | error why => exact agree_refusal why
  | _ =>
      cases v with
      | object members =>
          simp only [Value.moved, readLabel]
          refine agree_bind (agree_key (.inl rfl)) fun key again same => ?_
          subst same
          rw [get?_moved]
          cases Members.get? members key with
          | some result => exact .ok (moved_respan d result span).symm
          | none => exact .ok rfl
      | array entries => exact agree_fault (by simp [Label.notText, Fault.family])
      | _ => exact .ok rfl

theorem named_moved (name : Label) (span : Option Span) :
    named name (movedSpan d span) = (named name span).moved d := by
  unfold named
  split <;> rfl

end Operators

section Evaluation

variable {d : Int} {table other : ScopeTable}

/-- The same names for the library and what is imported from it. -/
structure SameNames (table other : ScopeTable) : Prop where
  namespaces : other.namespaces = table.namespaces
  imports : other.imports = table.imports

theorem agree_isLibraryName (names : SameNames table other) {node further : Node}
    (moves : node.MovesTo d further) :
    Agree d Eq (table.isLibraryName node) (other.isLibraryName further) := by
  unfold ScopeTable.isLibraryName
  rw [moves.isKind]
  split
  · exact .ok rfl
  · refine agree_bind (agree_label moves (by decide)) fun label again same => ?_
    refine agree_bind (agree_key same) fun name _ equal => .ok ?_
    rw [← equal, ScopeTable.isNamespace, ScopeTable.isNamespace, names.namespaces]

theorem agree_calledApi? (names : SameNames table other) {callee further : Node}
    (moves : callee.MovesTo d further) :
    Agree d Eq (table.calledApi? callee) (other.calledApi? further) := by
  unfold ScopeTable.calledApi?
  rw [moves.kind]
  split
  · refine agree_bind (agree_field moves (by decide)) fun base _ first => ?_
    refine agree_bind (agree_field moves (by decide)) fun member _ second => ?_
    refine agree_bind (agree_expect first) fun base _ first => ?_
    refine agree_bind (agree_isLibraryName names first) fun known _ same => ?_
    subst same
    split
    · exact .ok rfl
    · refine agree_bind (agree_expect second) fun member _ second => ?_
      dsimp only
      rw [second.isKind]
      split
      · exact .ok rfl
      · refine agree_bind (agree_word? second (by decide)) fun word _ same => .ok ?_
        rw [same]
  · refine agree_bind (agree_label moves (by decide)) fun label again same => ?_
    refine agree_bind (agree_key same) fun name _ equal => .ok ?_
    rw [← equal, ScopeTable.api?, ScopeTable.api?, names.imports]
  · exact .ok rfl

theorem agree_numberOf {data further : Data} (moves : data.MovesTo d further) :
    Agree d Eq (numberOf data) (numberOf further) := by
  have numeral (text : String) : Agree d Eq (numberOf.numeral text) (numberOf.numeral text) := by
    unfold numberOf.numeral
    split
    · exact .ok rfl
    · exact agree_fault (by decide)
  rw [moves.moved]
  cases data with
  | float | bool => exact .ok rfl
  | int i =>
      simp only [Data.moved, numberOf]
      split
      · exact .ok rfl
      · exact agree_fault (by decide)
  | text s => exact numeral s
  | bytes octets =>
      simp only [Data.moved, numberOf]
      split
      · exact numeral _
      · exact agree_fault (by decide)
  | _ => exact agree_fault (by decide)

def bigintOfRaw (node : Node) (data : Data) : Except Fault Int := do
  match ← node.field? "raw" with
  | some ⟨.text s, _⟩ => bigintOf.readText data s
  | _ => .error (.malformedBigint (Node.shownPart data))

theorem agree_bigintOf {node further : Node} (moves : node.MovesTo d further) :
    Agree d Eq (bigintOf node) (bigintOf further) := by
  have malformed {data again : Data} (same : again = data.moved d) :
      Agree d (Eq : Int → Int → Prop) (.error (.malformedBigint (Node.shownPart data)))
        (.error (.malformedBigint (Node.shownPart again))) := by
    refine .fault ⟨rfl, by simp [Fault.family], ?_⟩
    intro nowhere
    rw [same, nowhere, moved_zero]
  have numeral {data again : Data} (same : again = data.moved d) (text : String) :
      Agree d Eq (bigintOf.readText data text) (bigintOf.readText again text) := by
    unfold bigintOf.readText
    split
    · exact .ok rfl
    · exact malformed same
  unfold bigintOf
  refine agree_bind (agree_field? moves (by decide)) fun part again here => ?_
  have value : (again.map Subtype.val).getD .null =
      ((part.map Subtype.val).getD .null).moved d := by
    cases here with
    | none => rfl
    | some here => exact here.moved
  revert value
  generalize (part.map Subtype.val).getD .null = data
  generalize (again.map Subtype.val).getD .null = moved
  intro value
  have source : Agree d Eq (bigintOfRaw node data) (bigintOfRaw further moved) := by
    refine agree_bind (agree_field? moves (by decide)) fun part again here => ?_
    cases here with
    | none => exact malformed value
    | @some part again here =>
        obtain ⟨raw, small⟩ := part
        obtain ⟨raw', less⟩ := again
        obtain ⟨same, fit⟩ := here
        dsimp only at same
        subst same
        cases raw with
        | text s => exact numeral value s
        | _ => exact malformed value
  cases data with
  | int i =>
      subst value
      exact .ok rfl
  | text s =>
      subst value
      exact numeral rfl s
  | _ =>
      subst value
      exact source

def rawPieceValue (node : Node) : Except Fault Value := do
  match ← node.field? "raw" with
  | some part => return literalValue part.val
  | none => return .string ""

theorem agree_pieceValue {node further : Node} (moves : node.MovesTo d further)
    (tagged : node.kind = some .templateElement) :
    Agree d (fun a b => b = a.moved d) (pieceValue node) (pieceValue further) := by
  have raw : Agree d (fun a b => b = Value.moved d a) (rawPieceValue node)
      (rawPieceValue further) := by
    refine agree_bind (agree_written? moves tagged "raw" (by decide) (by decide))
      fun part again here => ?_
    cases here with
    | none => exact .ok rfl
    | some same => exact .ok (by rw [same, literalValue_moved])
  unfold pieceValue
  refine agree_bind (agree_written? moves tagged "cooked" (by decide) (by decide))
    fun part again here => ?_
  cases here with
  | none => exact raw
  | some same =>
      dsimp only
      rw [same]
      split
      · exact raw
      · exact .ok (literalValue_moved d _).symm

theorem agree_secret {node further : Node} (moves : node.MovesTo d further)
    (tagged : node.kind = some .privateName) :
    Agree d Eq
      (do
        let id ← node.child "id"
        return (← id.val.label "value").unlessNull)
      (do
        let id ← further.child "id"
        return (← id.val.label "value").unlessNull) := by
  unfold Node.child
  simp only [bind_assoc, pure_bind]
  refine agree_bind (agree_mono (agree_field moves (by decide)) fun part again read _ here =>
    (⟨here, field_lookup? (by decide) read⟩ : _ ∧ Data.lookup? "id" node.entries = some part.val))
    fun part again here => ?_
  obtain ⟨here, found⟩ := here
  refine agree_bind (agree_mono (agree_expect here) fun id _ opened _ inner =>
    (⟨inner, opened⟩ : _ ∧ Node.expect part.val = .ok id)) fun id again here => ?_
  obtain ⟨inner, opened⟩ := here
  have label : Agree d Eq (id.val.label "value") (again.val.label "value") := by
    refine agree_bind (agree_mono (agree_field inner (by decide)) fun value _ read _ moved => ?_)
      fun value again same => .ok (congrArg Label.ofData same)
    rw [entries_of_openOr opened] at found
    have stays := moves.fit.1.secret node id.val.entries value.val moves.opened tagged found
      (field_lookup? (by decide) read)
    exact (moved.moved.trans stays).symm
  refine agree_bind label fun name _ same => .ok ?_
  rw [same]

variable {bound : Nat}

def AgreeBelow (d : Int) (table other : ScopeTable) (bound : Nat) : Prop :=
  ∀ data further, sizeOf data < bound → data.MovesTo d further →
    Agree d (ResultMoves d) (evalPart table data) (evalPart other further)

theorem evalElements_element (table : ScopeTable) (span : Option Span) {item : Data}
    (rest : List Data) (there : item ≠ .null) :
    evalElements table span (item :: rest) = (do
      let element ← Node.expect item
      let expression ← element.val.field "expression"
      let result ← evalPart table expression.val
      let spread ← element.val.field? "spread"
      return elementEntries result spread ++ (← evalElements table span rest)) := by
  rw [evalElements]
  · rfl
  · exact there

theorem movedResults_append (first second : List Result) :
    movedResults d (first ++ second) = movedResults d first ++ movedResults d second := by
  simp only [movedResults_eq_map, List.map_append]

theorem agree_elements (below : AgreeBelow d table other bound) (span : Option Span)
    {items others : List Data} (small : sizeOf items < bound)
    (moves : List.Forall₂ (Data.MovesTo d) items others) :
    Agree d (fun a b => b = movedResults d a) (evalElements table span items)
      (evalElements other (movedSpan d span) others) := by
  induction moves with
  | nil =>
      rw [evalElements_nil, evalElements_nil]
      exact .ok rfl
  | @cons item moved rest others first later ih =>
      simp only [List.cons.sizeOf_spec] at small
      have onward := ih (by omega)
      -- A hole moves to a hole, so both rows have it at the same place.
      by_cases hole : item = .null
      · have same : moved = .null := by
          rw [first.moved, hole]
          rfl
        subst hole same
        rw [evalElements_hole, evalElements_hole]
        refine agree_bind onward fun entries again same => .ok ?_
        rw [same]
        rfl
      · have there : moved ≠ .null := by
          rw [first.moved]
          cases item <;> simp_all [Data.moved]
        rw [evalElements_element table span rest hole,
          evalElements_element other (movedSpan d span) others there]
        refine agree_bind (agree_expect first) fun element _ inner => ?_
        refine agree_bind (agree_field inner (by decide)) fun expression _ part => ?_
        have lower := Nat.lt_trans expression.property element.property
        refine agree_bind (below _ _ (by omega) part) fun result again same => ?_
        refine agree_bind (agree_field? inner (by decide)) fun spread further marks => ?_
        refine agree_bind onward fun entries more equal => .ok ?_
        have mine : elementEntries again further =
            movedResults d (elementEntries result spread) := by
          unfold elementEntries
          rw [same]
          cases marks with
          | none => rfl
          | some => exact spreadEntries_moved d result
        rw [equal, mine, movedResults_append]

theorem agree_propertyKey (below : AgreeBelow d table other bound) {key further : Node}
    (small : key.size ≤ bound) (moves : key.MovesTo d further) :
    Agree d Eq (propertyKey table key) (propertyKey other further) := by
  have written (tagged : key.kind = some .identifier ∨ key.kind = some .stringLiteral) :
      Agree d Eq (do return (← key.label "value").unlessNull)
        (do return (← further.label "value").unlessNull) := by
    have label : Agree d Eq (key.label "value") (further.label "value") := by
      rcases tagged with tagged | tagged <;>
        exact agree_writtenLabel moves tagged "value" (by decide) (by decide) (by decide)
    exact agree_bind label fun name _ same => .ok (congrArg Label.unlessNull same)
  rw [propertyKey, propertyKey, moves.kind]
  split
  · exact written (.inl (by assumption))
  · exact written (.inr (by assumption))
  · refine agree_bind (agree_field moves (by decide)) fun part _ here => ?_
    refine agree_bind (agree_numberOf here) fun x _ same => .ok ?_
    rw [same]
  · refine agree_bind (agree_bigintOf moves) fun i _ same => ?_
    subst same
    exact agree_bind agree_refused fun text _ same => .ok (by rw [same])
  · refine agree_bind (agree_field moves (by decide)) fun part _ here => ?_
    have lower := part.property
    refine agree_bind (below _ _ (by omega) here) fun result _ same => ?_
    rw [same]
    exact agree_keyOf d result
  · exact .ok rfl

theorem agree_memberKey (below : AgreeBelow d table other bound) {property further : Node}
    (small : property.size ≤ bound) (moves : property.MovesTo d further) :
    Agree d Eq (memberKey table property) (memberKey other further) := by
  rw [memberKey, memberKey, moves.kind]
  split
  · rename_i tagged
    refine agree_bind (agree_writtenLabel moves tagged "value" (by decide) (by decide)
      (by decide)) fun name _ same => .ok ?_
    rw [same]
  · rename_i tagged
    exact agree_secret moves tagged
  · refine agree_bind (agree_field moves (by decide)) fun part _ here => ?_
    have lower := part.property
    refine agree_bind (below _ _ (by omega) here) fun result _ same => ?_
    rw [same]
    exact agree_keyOf d result
  · exact .ok rfl

/-- A property that has a key is put under it with its value, and the rest is evaluated. -/
def evalEntry (table : ScopeTable) (members : Members) (property : Node) (rest : List Data) :
    Except Fault Members := do
  let key ← property.child "key"
  match ← propertyKey table key.val with
  | some name =>
      let value ← property.field "value"
      let result ← evalPart table value.val
      evalProperties table (Members.put (← name.key) result members) rest
  | none => evalProperties table members rest

theorem agree_properties (below : AgreeBelow d table other bound) {items others : List Data}
    (small : sizeOf items < bound) (moves : List.Forall₂ (Data.MovesTo d) items others)
    (members : Members) :
    Agree d (fun a b => b = movedMembers d a) (evalProperties table members items)
      (evalProperties other (movedMembers d members) others) := by
  induction moves generalizing members with
  | nil =>
      rw [evalProperties_nil, evalProperties_nil]
      exact .ok rfl
  | @cons item moved rest others first later ih =>
      simp only [List.cons.sizeOf_spec] at small
      have onward := ih (by omega)
      rw [evalProperties, evalProperties]
      refine agree_bind (agree_expect first) fun property further inner => ?_
      have lower := property.property
      have entry : Agree d (fun a b => b = movedMembers d a)
          (evalEntry table members property.val rest)
          (evalEntry other (movedMembers d members) further.val others) := by
        refine agree_bind (agree_child inner (by decide)) fun key _ named => ?_
        have less := key.property
        refine agree_bind (agree_propertyKey below (by omega) named) fun name _ same => ?_
        subst same
        cases name with
        | none => exact onward members
        | some name =>
            refine agree_bind (agree_field inner (by decide)) fun value _ part => ?_
            have smaller := value.property
            refine agree_bind (below _ _ (by omega) part) fun result _ same => ?_
            refine agree_bind (agree_key (.inl rfl)) fun name _ equal => ?_
            rw [same, ← equal, put_moved]
            exact onward _
      dsimp only
      rw [inner.kind]
      split
      · refine agree_bind (agree_field inner (by decide)) fun source _ part => ?_
        have smaller := source.property
        refine agree_bind (below _ _ (by omega) part) fun spread _ same => ?_
        rw [same, spreadMembers_moved, putAll_moved]
        exact onward _
      · exact entry
      · exact entry
      · refine agree_bind (agree_label inner (by decide)) fun label _ same => ?_
        refine agree_bind (agree_key same) fun name _ equal => ?_
        rw [← equal, inner.span, show (property.val.span.map fun span => span.shifted d) =
          movedSpan d property.val.span from rfl, named_moved, put_moved]
        exact onward _
      · exact onward members

theorem agree_insertion (result : Result) :
    Agree d Eq (insertion result) (insertion (result.moved d)) := by
  cases result with
  | value v span =>
      simp only [Result.moved, insertion, text_moved]
      cases v.text with
      | ok text => exact .ok rfl
      | error why =>
          dsimp only
          split
          · exact .ok rfl
          · exact agree_refusal why
  | _ => exact .ok rfl

theorem evalPieces_cons (table : ScopeTable) {owner : Node} (piece : owner.Part)
    (rest : List owner.Part) (expressions : Except Fault (List owner.Part)) (done : List String) :
    evalPieces table owner (piece :: rest) expressions done = (do
      match ← evalPart table piece.val with
      | .value v _ =>
          let text ← v.text.mapError Fault.refused
          match expressions with
          | .error fault => .error fault
          | .ok [] => evalPieces table owner rest (.ok []) (done ++ [text])
          | .ok (expression :: others) =>
              match ← insertion (← evalPart table expression.val) with
              | some inner => evalPieces table owner rest (.ok others) (done ++ [text, inner])
              | none => return none
      | _ => return none) := by
  rw [evalPieces]
  apply bind_congr
  intro result
  cases result with
  | value v span =>
      apply bind_congr
      intro text
      rcases expressions with fault | expressions
      · rfl
      · cases expressions with
        | nil => rfl
        | cons expression others =>
            apply bind_congr
            intro found
            cases found with
            | value w span =>
                simp only [insertion]
                cases w.text with
                | ok inner => rfl
                | error why =>
                    dsimp only
                    split <;> rfl
            | _ => rfl
  | _ => rfl

theorem agree_pieces (below : AgreeBelow d table other bound) {owner further : Node}
    (small : owner.size ≤ bound) {pieces : List owner.Part} {others : List further.Part}
    (moves : List.Forall₂ (Data.MovesTo d) (pieces.map Subtype.val) (others.map Subtype.val))
    {expressions : Except Fault (List owner.Part)} {again : Except Fault (List further.Part)}
    (inner : RowMoves d expressions again) (done : List String) :
    Agree d Eq (evalPieces table owner pieces expressions done)
      (evalPieces other further others again done) := by
  -- The expressions are used up along with the pieces, and may be used up first.
  induction pieces generalizing others expressions again done with
  | nil =>
      cases others with
      | nil =>
          rw [evalPieces, evalPieces]
          exact .ok rfl
      | cons => cases moves
  | cons piece rest ih =>
      cases others with
      | nil => cases moves
      | cons moved others =>
          simp only [List.map_cons, List.forall₂_cons] at moves
          have lower := piece.property
          rw [evalPieces_cons, evalPieces_cons]
          refine agree_bind (below _ _ (by omega) moves.1) fun result _ same => ?_
          subst same
          cases result with
          | value v span =>
              simp only [Result.moved, text_moved]
              refine agree_bind agree_refused fun text _ same => ?_
              subst same
              cases inner with
              | fault reworded => exact .fault reworded
              | @ok found further row =>
                  cases found with
                  | nil =>
                      cases further with
                      | nil => exact ih moves.2 (.ok .nil) _
                      | cons => cases row
                  | cons expression more =>
                      cases further with
                      | nil => cases row
                      | cons expression' more' =>
                          simp only [List.map_cons, List.forall₂_cons] at row
                          have less := expression.property
                          refine agree_bind (below _ _ (by omega) row.1) fun result _ same => ?_
                          rw [same]
                          refine agree_bind (agree_insertion result) fun text _ equal => ?_
                          subst equal
                          cases text with
                          | none => exact .ok rfl
                          | some text => exact ih moves.2 (.ok row.2) _
          | _ => exact .ok rfl

theorem eval_passes (table : ScopeTable) {node : Node} {kind : Kind} {name : String}
    (tagged : node.kind = some kind) (passes : passesOn kind = some name) :
    eval table node = (do evalPart table (← node.field name).val) := by
  rw [eval, tagged]
  cases kind <;> cases passes <;> simp only [isTransparent, if_true]

variable {node further : Node}

theorem agree_passing (below : AgreeBelow d table other bound) (small : node.size ≤ bound)
    (moves : node.MovesTo d further) {name : String} (free : IsFree name) :
    Agree d (ResultMoves d) (do evalPart table (← node.field name).val)
      (do evalPart other (← further.field name).val) := by
  refine agree_bind (agree_field moves free) fun part _ here => ?_
  have lower := part.property
  exact below _ _ (by omega) here

theorem agree_part {α β : Type} {relation : α → β → Prop} {next : Result → Except Fault α}
    {after : Result → Except Fault β} (below : AgreeBelow d table other bound)
    (small : node.size ≤ bound) (moves : node.MovesTo d further) {name : String}
    (free : IsFree name)
    (onward : ∀ result, Agree d relation (next result) (after (result.moved d))) :
    Agree d relation (do next (← evalPart table (← node.field name).val))
      (do after (← evalPart other (← further.field name).val)) := by
  refine agree_bind (agree_field moves free) fun part _ here => ?_
  have lower := part.property
  refine agree_bind (below _ _ (by omega) here) fun result _ same => ?_
  rw [same]
  exact onward result

theorem agree_binaryOther {label again : Label} (same : SameKey label again) (a b : Value)
    (span : Option Span) :
    Agree d (ResultMoves d) (binaryOther label a b span)
      (binaryOther again (a.moved d) (b.moved d) (movedSpan d span)) := by
  refine agree_bind (agree_key same) fun symbol _ equal => ?_
  rw [← equal]
  unfold Arithmetic.unknown
  rw [operands_moved]
  simp only [bind_assoc]
  exact agree_bind agree_refused fun _ _ _ => agree_fault (by simp [Fault.family])

theorem agree_binaryExpression (below : AgreeBelow d table other bound) (small : node.size ≤ bound)
    (moves : node.MovesTo d further) (tagged : node.kind = some .binaryExpression) :
    Agree d (ResultMoves d) (eval table node) (eval other further) := by
  rw [eval, eval, moves.kind, tagged]
  refine agree_bind (agree_field moves (by decide)) fun operator again symbol => ?_
  refine agree_part below small moves (by decide) fun first => ?_
  rw [show further.span = movedSpan d node.span from moves.span]
  obtain ⟨operator, _⟩ := operator
  obtain ⟨again, _⟩ := again
  obtain ⟨same, _⟩ := symbol
  dsimp only at same
  subst same
  cases operator with
  | text symbol =>
      dsimp only [Data.moved]
      cases Logical.ofSymbol? symbol with
      | some operator =>
          cases first with
          | value v span =>
              dsimp only [Result.moved]
              rw [decides_moved]
              refine agree_bind agree_refused fun decided _ equal => ?_
              subst equal
              split
              · exact .ok rfl
              · refine agree_part below small moves (by decide) fun second => ?_
                cases second <;> exact .ok rfl
          | _ => exact .ok rfl
      | none =>
          refine agree_part below small moves (by decide) fun second => ?_
          cases first with
          | value v span =>
              cases second with
              | value w span => exact agree_binary d symbol v w node.span
              | _ => exact .ok rfl
          | _ => cases second <;> exact .ok rfl
  | _ =>
      refine agree_part below small moves (by decide) fun second => ?_
      cases first with
      | value v span =>
          cases second with
          | value w span => exact agree_binaryOther (sameKey_moved (d := d) _) v w node.span
          | _ => exact .ok rfl
      | _ => cases second <;> exact .ok rfl

theorem agree_unaryExpression (below : AgreeBelow d table other bound) (small : node.size ≤ bound)
    (moves : node.MovesTo d further) (tagged : node.kind = some .unaryExpression) :
    Agree d (ResultMoves d) (eval table node) (eval other further) := by
  rw [eval, eval, moves.kind, tagged]
  refine agree_bind (agree_field moves (by decide)) fun operator again symbol => ?_
  rw [show further.span = movedSpan d node.span from moves.span]
  obtain ⟨operator, _⟩ := operator
  obtain ⟨again, _⟩ := again
  obtain ⟨same, _⟩ := symbol
  dsimp only at same
  subst same
  cases operator with
  | text symbol =>
      dsimp only [Data.moved]
      split
      · exact .ok rfl
      · refine agree_part below small moves (by decide) fun result => ?_
        cases result with
        | value v span => exact agree_unary d symbol v node.span
        | _ => exact .ok rfl
  | _ =>
      refine agree_part below small moves (by decide) fun result => ?_
      cases result with
      | value v span =>
          refine .fault ⟨rfl, by simp [Fault.family], ?_⟩
          intro nowhere
          subst nowhere
          exact congrArg (fun data => Fault.unknownUnary (Node.shownPart data)) (moved_zero _)
      | _ => exact .ok rfl

theorem agree_conditional (below : AgreeBelow d table other bound) (small : node.size ≤ bound)
    (moves : node.MovesTo d further) (tagged : node.kind = some .conditionalExpression) :
    Agree d (ResultMoves d) (eval table node) (eval other further) := by
  rw [eval, eval, moves.kind, tagged]
  refine agree_part below small moves (by decide) fun result => ?_
  cases result with
  | value v span =>
      dsimp only [Result.moved]
      rw [test_moved]
      refine agree_bind agree_refused fun holds _ same => ?_
      subst same
      split
      · exact agree_passing below small moves (by decide)
      · exact agree_passing below small moves (by decide)
  | _ => exact .ok rfl

theorem agree_template (below : AgreeBelow d table other bound) (small : node.size ≤ bound)
    (moves : node.MovesTo d further) (tagged : node.kind = some .templateLiteral) :
    Agree d (ResultMoves d) (eval table node) (eval other further) := by
  rw [eval, eval, moves.kind, tagged]
  refine agree_bind (agree_row moves (by decide) (by decide)) fun expressions _ inner => ?_
  refine agree_bind (agree_items moves (by decide) (by decide)) fun quasis _ pieces => ?_
  refine agree_bind (agree_pieces below small (agree_parts pieces) inner []) fun text _ same => ?_
  subst same
  cases text with
  | some text => exact .ok (by rw [moves.span]; rfl)
  | none => exact .ok rfl

theorem agree_call (names : SameNames table other) (below : AgreeBelow d table other bound)
    (small : node.size ≤ bound) (moves : node.MovesTo d further)
    (tagged : node.kind = some .callExpression) :
    Agree d (ResultMoves d) (eval table node) (eval other further) := by
  rw [eval, eval, moves.kind, tagged]
  refine agree_bind (agree_child moves (by decide)) fun callee _ called => ?_
  refine agree_bind (agree_calledApi? names called) fun api _ same => ?_
  subst same
  split
  · refine agree_bind (agree_items moves (by decide) (by decide)) fun given _ each => ?_
    have lower := given.property
    rw [moves.span]
    refine agree_bind (agree_elements below node.span (by omega) each) fun entries _ same => .ok ?_
    rw [same, ResultMoves, Result.moved, Value.moved, movedResults_eq_map, movedResults_eq_map,
      List.map_reverse]
    rfl
  · exact .ok rfl

theorem agree_member (below : AgreeBelow d table other bound) (small : node.size ≤ bound)
    (moves : node.MovesTo d further) (tagged : node.kind = some .memberExpression) :
    Agree d (ResultMoves d) (eval table node) (eval other further) := by
  rw [eval, eval, moves.kind, tagged]
  refine agree_part below small moves (by decide) fun base => ?_
  cases base with
  | nonStatic => exact .ok rfl
  | _ =>
      refine agree_bind (agree_child moves (by decide)) fun property _ inner => ?_
      have lower := property.property
      refine agree_bind (agree_memberKey below (by omega) inner) fun key _ same => ?_
      subst same
      rw [moves.span]
      cases key with
      | none => exact .ok rfl
      | some key => first | exact .ok rfl | exact agree_readLabel d _ key node.span

theorem agree_sequence (below : AgreeBelow d table other bound) (small : node.size ≤ bound)
    (moves : node.MovesTo d further) (tagged : node.kind = some .sequenceExpression) :
    Agree d (ResultMoves d) (eval table node) (eval other further) := by
  rw [eval, eval, moves.kind, tagged]
  refine agree_bind (agree_items moves (by decide) (by decide)) fun row others each => ?_
  have lower := row.property
  have ends : Option.Rel (Data.MovesTo d) row.val.getLast? others.val.getLast? := by
    generalize row.val = items, others.val = more at each
    induction each with
    | nil => exact .none
    | @cons item moved rest others first later ih =>
        cases later with
        | nil => exact .some first
        | cons => simpa using ih
  dsimp only
  split
  · rename_i last found
    split
    · rename_i again here
      rw [found, here] at ends
      cases ends with
      | some moves =>
          have member := List.sizeOf_lt_of_mem (List.mem_of_getLast? found)
          exact below _ _ (by omega) moves
    · rename_i missing
      rw [found, missing] at ends
      cases ends
  · rename_i missing
    split
    · rename_i again here
      rw [here, missing] at ends
      cases ends
    · exact agree_fault (by decide)

theorem agree_node (names : SameNames table other) (below : AgreeBelow d table other bound)
    (small : node.size ≤ bound) (moves : node.MovesTo d further) :
    Agree d (ResultMoves d) (eval table node) (eval other further) := by
  have span : further.span = movedSpan d node.span := moves.span
  have pass {kind : Kind} {name : String} (tagged : node.kind = some kind)
      (passes : passesOn kind = some name) :
      Agree d (ResultMoves d) (eval table node) (eval other further) := by
    rw [eval_passes table tagged passes, eval_passes other (moves.kind.trans tagged) passes]
    refine agree_passing below small moves ?_
    cases kind <;> cases passes <;> decide
  cases tagged : node.kind with
  | none =>
      rw [eval, eval, moves.kind, tagged]
      exact agree_fault (by decide)
  | some kind =>
      have written (literal : kind = .stringLiteral ∨ kind = .booleanLiteral) :
          Agree d (ResultMoves d) (eval table node) (eval other further) := by
        have value : Agree d (fun a b => b.val = a.val) (node.field "value")
            (further.field "value") := by
          rcases literal with rfl | rfl <;>
            exact agree_written moves tagged "value" (by decide) (by decide) (by decide)
        rw [eval, eval, moves.kind, tagged]
        rcases literal with rfl | rfl <;>
          refine agree_bind value fun part _ same => .ok ?_ <;>
          rw [same, span, ResultMoves, Result.moved, literalValue_moved]
      cases kind with
      | stringLiteral => exact written (.inl rfl)
      | booleanLiteral => exact written (.inr rfl)
      | numericLiteral =>
          rw [eval, eval, moves.kind, tagged]
          refine agree_bind (agree_field moves (by decide)) fun part _ here => ?_
          refine agree_bind (agree_numberOf here) fun x _ same => .ok ?_
          rw [same, span]
          rfl
      | bigIntLiteral =>
          rw [eval, eval, moves.kind, tagged]
          refine agree_bind (agree_bigintOf moves) fun i _ same => .ok ?_
          rw [same, span]
          rfl
      | nullLiteral =>
          rw [eval, eval, moves.kind, tagged, span]
          exact .ok rfl
      | regExpLiteral =>
          rw [eval, eval, moves.kind, tagged]
          refine agree_bind (agree_writtenLabel moves tagged "pattern" (by decide) (by decide)
            (by decide)) fun pattern _ same => ?_
          subst same
          refine agree_bind (agree_written? moves tagged "flags" (by decide) (by decide))
            fun flags _ marks => .ok ?_
          rw [span]
          cases marks with
          | none => rfl
          | some same => simp [ResultMoves, Result.moved, Value.moved, same]
      | invalid =>
          rw [eval, eval, moves.kind, tagged]
          exact agree_fault (by decide)
      | identifier =>
          rw [eval, eval, moves.kind, tagged]
          refine agree_bind (agree_writtenLabel moves tagged "value" (by decide) (by decide)
            (by decide)) fun name _ same => .ok ?_
          rw [← same, span, named_moved]
      | arrayExpression =>
          rw [eval, eval, moves.kind, tagged]
          refine agree_bind (agree_items moves (by decide) (by decide)) fun items _ each => ?_
          have lower := items.property
          rw [span]
          refine agree_bind (agree_elements below node.span (by omega) each)
            fun entries _ same => .ok ?_
          rw [same]
          rfl
      | objectExpression =>
          rw [eval, eval, moves.kind, tagged]
          refine agree_bind (agree_items moves (by decide) (by decide)) fun items _ each => ?_
          have lower := items.property
          refine agree_bind (agree_properties below (by omega) each [])
            fun members _ same => .ok ?_
          rw [same, span]
          rfl
      | binaryExpression => exact agree_binaryExpression below small moves tagged
      | unaryExpression => exact agree_unaryExpression below small moves tagged
      | conditionalExpression => exact agree_conditional below small moves tagged
      | templateLiteral => exact agree_template below small moves tagged
      | templateElement =>
          rw [eval, eval, moves.kind, tagged]
          refine agree_bind (agree_pieceValue moves tagged) fun v _ same => .ok ?_
          rw [same, span]
          rfl
      | callExpression => exact agree_call names below small moves tagged
      | memberExpression => exact agree_member below small moves tagged
      | sequenceExpression => exact agree_sequence below small moves tagged
      | _ =>
          first
            | exact pass tagged rfl
            | (rw [eval_unread table tagged rfl, eval_unread other (moves.kind.trans tagged) rfl]
               exact .ok rfl)

theorem agreeBelow (names : SameNames table other) (bound : Nat) :
    AgreeBelow d table other bound := by
  induction bound with
  | zero =>
      intro data further small
      exact absurd small (Nat.not_lt_zero _)
  | succ bound below =>
      intro data further small moves
      rw [evalPart, evalPart]
      refine agree_bind (agree_operand moves) fun node _ inner => ?_
      have lower := node.property
      exact agree_node names below (by omega) inner

end Evaluation

end Fold

end StyleFold
