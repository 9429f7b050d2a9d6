import Mathlib.Data.List.Forall2
import StyleFold.Proofs.Fold.Precision
import StyleFold.Proofs.Fold.Totality

/-!
When one tree is known better than another. What that means depends on the place: an expression is
evaluated to a better known result, the name of a member is the same unless it was not known, a
recognised callee stays recognised. Main statement: a node is known better than another of its kind
when each part that evaluation reads is.
-/

namespace StyleFold.Fold

section Relation

def KeepsName (first second : Data) : Prop := ∀ name, IsName first name → IsName second name

def memberName (table : ScopeTable) (data : Data) : Except Fault (Option Label) := do
  memberKey table (← Node.expect data).val

def propertyName (table : ScopeTable) (data : Data) : Except Fault (Option Label) := do
  propertyKey table (← Node.expect data).val

def Known (table : ScopeTable) : Role → Data → Data → Prop
  | .expression, first, second | .identifier, first, second | .piece, first, second =>
      Rises (evalPart table first) (evalPart table second) ∧ KeepsName first second
  | .callee, first, second => isFallback table first = true → isFallback table second = true
  | .element, first, second =>
      ∀ span, Both BelowResults (evalElements table span [first]) (evalElements table span [second])
  | .property, first, second =>
      ∀ members others, BelowMembers members others →
        Both BelowMembers (evalProperties table members [first])
          (evalProperties table others [second])
  | .key, first, second => Both Eq (propertyName table first) (propertyName table second)
  | .member, first, second =>
      Both Fuller (memberName table first) (memberName table second) ∧ KeepsName first second
  | .many role, first, second | .oneOrMore role, first, second =>
      ∃ items others, first = .list items ∧ second = .list others ∧
        List.Forall₂ (Known table role) items others
  | .text, first, second | .truth, first, second | .number, first, second
  | .binarySymbol, first, second | .unarySymbol, first, second => first = second
  | .mark, _, _ | .nothing, _, _ => True

/-- Two nodes of a kind, of which each part that is wanted of the second is known better. -/
structure Alike (table : ScopeTable) (wanted : List Demand) (view other : Node) : Prop where
  kind : view.kind = other.kind
  span : view.span = other.span
  follows : Follows .fixed wanted other
  bigint : view.kind = some .bigIntLiteral → bigintOf view = bigintOf other
  lacks : ∀ name demand, demandFor? wanted (.text name) = some demand →
    (Lacks view name ↔ Lacks other name)
  parts : ∀ name demand part further, demandFor? wanted (.text name) = some demand →
    Reads view name part → Reads other name further → Formed .fixed demand.role further →
    Known table demand.role part further

theorem Alike.given {table : ScopeTable} {wanted : List Demand} {view other : Node} {role : Role}
    {part : Data} (alike : Alike table wanted view other) (name : String)
    (asked : demandFor? wanted (.text name) = some ⟨name, role, false⟩)
    (reads : Reads view name part) :
    ∃ further, Reads other name further ∧ Formed .fixed role further ∧
      Known table role part further := by
  obtain ⟨further, found, form⟩ := alike.follows.given name asked
  exact ⟨further, found, form, alike.parts name _ part further asked reads found form⟩

theorem Alike.maybe {table : ScopeTable} {wanted : List Demand} {view other : Node} {role : Role}
    (alike : Alike table wanted view other) (follows : Follows .fixed wanted view) (name : String)
    (asked : demandFor? wanted (.text name) = some ⟨name, role, true⟩)
    (solid : ¬ Formed .fixed role .null) :
    (Lacks view name ∧ Lacks other name) ∨
      ∃ part further, Reads view name part ∧ Formed .fixed role part ∧ Reads other name further ∧
        Known table role part further := by
  have same := alike.lacks name _ asked
  rcases follows.maybe name asked with lacks | ⟨part, reads, form⟩
  · exact .inl ⟨lacks, same.mp lacks⟩
  · rcases alike.follows.maybe name asked with lacks | ⟨further, found, formToo⟩
    · have null := same.mpr lacks part reads.found
      exact absurd (null ▸ form) solid
    · exact .inr ⟨part, further, reads, form, found,
        alike.parts name _ part further asked reads found formToo⟩

end Relation

section Rows

variable {table : ScopeTable}

theorem below_elements {items others : List Data} (span : Option Span)
    (each : List.Forall₂ (Known table .element) items others) :
    Both BelowResults (evalElements table span items) (evalElements table span others) := by
  induction each with
  | nil => exact both_refl belowResults_refl _
  | @cons item other rest further first later ih =>
      rw [evalElements_head table span item, evalElements_head table span other]
      refine both_bind (first span) fun entries more below => ?_
      refine both_bind ih fun entries more after => ?_
      exact both_ok (below.append after)

theorem below_properties {items others : List Data}
    (each : List.Forall₂ (Known table .property) items others) {members further : Members}
    (below : BelowMembers members further) :
    Both BelowMembers (evalProperties table members items)
      (evalProperties table further others) := by
  induction each generalizing members further with
  | nil =>
      rw [evalProperties_nil, evalProperties_nil]
      exact both_ok below
  | @cons item other rest more first later ih =>
      rw [evalProperties_head table members item, evalProperties_head table further other]
      exact both_bind (first members further below) fun _ _ after => ih after

theorem fuller_joinPieces {pieces others expressions further : List Data}
    (pieceForm : ∀ piece ∈ pieces, Formed .fixed .piece piece)
    (each : List.Forall₂ (Known table .piece) pieces others)
    (inner : List.Forall₂ (Known table .expression) expressions further) (done : List String) :
    Both Fuller (joinPieces table pieces expressions done)
      (joinPieces table others further done) := by
  -- The pieces are the same texts; what is between them may become known on the way.
  induction each generalizing expressions further done with
  | nil => exact both_refl fuller_refl _
  | @cons piece other rest more first later ih =>
      have restForm : ∀ piece ∈ rest, Formed .fixed .piece piece :=
        fun found member => pieceForm found (List.mem_cons_of_mem piece member)
      obtain ⟨s, span, run⟩ := evalPart_piece table (pieceForm piece List.mem_cons_self)
      have rises := first.1
      rw [run] at rises
      simp only [joinPieces, run, ok_bind, Value.text, mapError_ok]
      cases again : evalPart table other with
      | error fault => exact fun _ _ _ right => by cases right
      | ok result =>
          cases rises _ _ rfl again with
          | value below _ span =>
              cases below
              simp only [ok_bind, Value.text, mapError_ok]
              cases inner with
              | nil => exact ih restForm .nil _
              | cons here after =>
                  refine both_bind here.1 fun x y known => ?_
                  refine both_bind (fuller_insertion known) fun text same fuller => ?_
                  rcases fuller with rfl | rfl
                  · exact fuller_none _
                  · cases text with
                    | none => exact fuller_none _
                    | some text => exact ih restForm after _

theorem rises_template {pieces others expressions further : List Data} {span other : Option Span}
    (pieceForm : ∀ piece ∈ pieces, Formed .fixed .piece piece)
    (each : List.Forall₂ (Known table .piece) pieces others)
    (inner : List.Forall₂ (Known table .expression) expressions further) :
    Rises (do
      match ← joinPieces table pieces expressions [] with
      | some text => return .value (.string text) span
      | none => return .nonStatic) (do
      match ← joinPieces table others further [] with
      | some text => return .value (.string text) other
      | none => return .nonStatic) := by
  refine both_bind (fuller_joinPieces pieceForm each inner []) fun text same fuller => ?_
  rcases fuller with rfl | rfl
  · exact rises_unknown _
  · cases text with
    | none => exact rises_unknown _
    | some text => exact rises_value (.same _)

theorem forall₂_getLast? {relation : Data → Data → Prop} {items others : List Data} {last : Data}
    (each : List.Forall₂ relation items others) (ends : items.getLast? = some last) :
    ∃ further, others.getLast? = some further ∧ relation last further := by
  induction each with
  | nil => cases ends
  | @cons item other rest more first later ih =>
      cases later with
      | nil =>
          cases ends
          exact ⟨other, rfl, first⟩
      | cons => simpa using ih (by simpa using ends)

theorem known_list {role : Role} {items : List Data} {further : Data}
    (known : Known table (.many role) (.list items) further) :
    ∃ others, further = .list others ∧ List.Forall₂ (Known table role) items others := by
  obtain ⟨same, others, equal, rfl, each⟩ := known
  cases equal
  exact ⟨others, rfl, each⟩

end Rows

section Nodes

variable {table : ScopeTable} {wanted : List Demand} {view other : Node}

theorem demands_of_passing {kind : Kind} {name : String} (passes : passesOn kind = some name) :
    ∃ role, expressionDemands kind = some [⟨name, role, false⟩] ∧
      (role = .expression ∨ role = .identifier) := by
  cases kind <;> cases passes <;> simp [expressionDemands, isTransparent]

theorem text_ne_null {fragment : Fragment} {part : Data} (form : Formed fragment .text part) :
    part ≠ .null := by
  obtain ⟨s, rfl⟩ := text_of_formed form
  simp

theorem field?_alike (alike : Alike table wanted view other) (follows : Follows .fixed wanted view)
    (name : String) (asked : demandFor? wanted (.text name) = some ⟨name, .text, true⟩) :
    (view.field? name = .ok none ∧ other.field? name = .ok none) ∨
      ∃ part small less, view.field? name = .ok (some ⟨part, small⟩) ∧
        other.field? name = .ok (some ⟨part, less⟩) := by
  rcases alike.maybe follows name asked (by decide) with
    ⟨lacks, lacksToo⟩ | ⟨part, _, reads, form, readsToo, rfl⟩
  · exact .inl ⟨lacks.field?, lacksToo.field?⟩
  · have there := text_ne_null form
    exact .inr ⟨part, _, _, reads.field? there, readsToo.field? there⟩

theorem pieceValue_alike
    (follows : Follows .fixed [⟨"cooked", .text, true⟩, ⟨"raw", .text, true⟩] view)
    (alike : Alike table [⟨"cooked", .text, true⟩, ⟨"raw", .text, true⟩] view other) :
    pieceValue view = pieceValue other := by
  unfold pieceValue
  rcases field?_alike alike follows "raw" rfl with ⟨raw, rawToo⟩ | ⟨part, _, _, raw, rawToo⟩ <;>
    rcases field?_alike alike follows "cooked" rfl with
      ⟨cooked, cookedToo⟩ | ⟨text, _, _, cooked, cookedToo⟩ <;>
    simp only [raw, rawToo, cooked, cookedToo, ok_bind]

theorem memberName_map {entries : Entries} (opened : Node.ofEntries entries = .ok view) :
    memberName table (.map entries) = memberKey table view := by
  rw [memberName, Node.expect, openOr_eq opened]
  rfl

/-! Nodes of the kinds whose evaluation does more than read a part. -/

theorem rises_regexp {pattern : String} (found : view.kind = some .regExpLiteral)
    (asked : expressionDemands .regExpLiteral = some wanted) (follows : Follows .fixed wanted view)
    (alike : Alike table wanted view other) (source : Reads view "pattern" (.text pattern)) :
    Rises (eval table view) (eval table other) := by
  have same := alike.kind.symm.trans found
  cases asked
  obtain ⟨_, reads, _, rfl⟩ := alike.given "pattern" rfl source
  rcases field?_alike alike follows "flags" rfl with
      ⟨lacks, lacksToo⟩ | ⟨flags, _, _, marks, marksToo⟩
  · rw [eval_regexp table found source lacks, eval_regexp table same reads lacksToo]
    exact rises_value (.same _)
  · rw [eval_regexp table found source marks, eval_regexp table same reads marksToo]
    exact rises_value (.same _)

theorem rises_binaryNode {symbol : String} {left right : Data}
    (found : view.kind = some .binaryExpression)
    (asked : expressionDemands .binaryExpression = some wanted)
    (alike : Alike table wanted view other) (operator : Reads view "operator" (.text symbol))
    (first : Reads view "left" left) (second : Reads view "right" right) :
    Rises (eval table view) (eval table other) := by
  have same := alike.kind.symm.trans found
  cases asked
  obtain ⟨_, symbolReads, _, rfl⟩ := alike.given "operator" rfl operator
  obtain ⟨_, leftReads, _, leftKnown⟩ := alike.given "left" rfl first
  obtain ⟨_, rightReads, _, rightKnown⟩ := alike.given "right" rfl second
  rw [eval_binary table found operator first second,
    eval_binary table same symbolReads leftReads rightReads]
  refine both_bind leftKnown.1 fun x y below => ?_
  cases Logical.ofSymbol? symbol with
  | some operator => exact rises_logical operator below rightKnown.1
  | none => exact both_bind rightKnown.1 fun _ _ after => rises_binaryResults symbol below after

theorem rises_unaryNode {symbol : String} {argument : Data}
    (found : view.kind = some .unaryExpression)
    (asked : expressionDemands .unaryExpression = some wanted)
    (alike : Alike table wanted view other) (operator : Reads view "operator" (.text symbol))
    (part : Reads view "argument" argument) : Rises (eval table view) (eval table other) := by
  have same := alike.kind.symm.trans found
  cases asked
  obtain ⟨_, symbolReads, _, rfl⟩ := alike.given "operator" rfl operator
  obtain ⟨_, reads, _, known⟩ := alike.given "argument" rfl part
  rw [eval_unary table found operator part, eval_unary table same symbolReads reads]
  split
  · exact rises_unknown _
  · refine both_bind known.1 fun x y below => ?_
    cases below with
    | value inner => exact rises_unary symbol inner
    | _ => exact rises_unknown _

theorem rises_conditional {test consequent alternate : Data}
    (found : view.kind = some .conditionalExpression)
    (asked : expressionDemands .conditionalExpression = some wanted)
    (alike : Alike table wanted view other) (asks : Reads view "test" test)
    (holds : Reads view "consequent" consequent) (fails : Reads view "alternate" alternate) :
    Rises (eval table view) (eval table other) := by
  have same := alike.kind.symm.trans found
  cases asked
  obtain ⟨_, asksReads, _, asksKnown⟩ := alike.given "test" rfl asks
  obtain ⟨_, holdsReads, _, holdsKnown⟩ := alike.given "consequent" rfl holds
  obtain ⟨_, failsReads, _, failsKnown⟩ := alike.given "alternate" rfl fails
  rw [eval_conditional table found asks holds fails,
    eval_conditional table same asksReads holdsReads failsReads]
  refine both_bind asksKnown.1 fun x y below => ?_
  cases below with
  | value inner =>
      dsimp only
      -- Both sides take the same branch, whatever else the tested values differ in.
      rw [test_below inner]
      refine both_bind (both_refl (fun _ => rfl) _) fun decided agreed agree => ?_
      subst agree
      split
      · exact holdsKnown.1
      · exact failsKnown.1
  | _ => exact rises_unknown _

theorem rises_templateNode {pieces : List Data} (found : view.kind = some .templateLiteral)
    (asked : expressionDemands .templateLiteral = some wanted)
    (follows : Follows .fixed wanted view) (alike : Alike table wanted view other)
    (quasis : Reads view "quasis" (.list pieces))
    (pieceForm : ∀ piece ∈ pieces, Formed .fixed .piece piece) :
    Rises (eval table view) (eval table other) := by
  have same := alike.kind.symm.trans found
  cases asked
  obtain ⟨_, reads, _, known⟩ := alike.given "quasis" rfl quasis
  obtain ⟨others, rfl, each⟩ := known_list known
  rcases alike.maybe follows "expressions" rfl (by decide) with
    ⟨lacks, lacksToo⟩ | ⟨row, _, rowReads, rowForm, rowToo, rowKnown⟩
  · rw [eval_template table found quasis (.inr ⟨lacks, rfl⟩),
      eval_template table same reads (.inr ⟨lacksToo, rfl⟩)]
    exact rises_template pieceForm each .nil
  · obtain ⟨items, rfl, _⟩ := items_of_formed rowForm
    obtain ⟨further, rfl, inside⟩ := known_list rowKnown
    rw [eval_template table found quasis (.inl rowReads),
      eval_template table same reads (.inl rowToo)]
    exact rises_template pieceForm each inside

theorem rises_call {entries : Entries} {callee : Node} {items : List Data}
    (found : view.kind = some .callExpression)
    (asked : expressionDemands .callExpression = some wanted)
    (alike : Alike table wanted view other) (called : Reads view "callee" (.map entries))
    (opened : Node.ofEntries entries = .ok callee)
    (calleeForm : Formed .fixed .callee (.map entries))
    (given : Reads view "arguments" (.list items)) :
    Rises (eval table view) (eval table other) := by
  have same := alike.kind.symm.trans found
  cases asked
  obtain ⟨_, calledToo, calleeToo, keeps⟩ := alike.given "callee" rfl called
  obtain ⟨_, givenToo, _, known⟩ := alike.given "arguments" rfl given
  obtain ⟨others, rfl, each⟩ := known_list known
  obtain ⟨entriesToo, rfl⟩ := map_of_formed rfl calleeToo
  obtain ⟨further, _, openedToo, _, _⟩ := formed_view calleeToo
  obtain ⟨api, answered, _⟩ := calledApi?_answers table calleeForm opened
  obtain ⟨apiToo, answeredToo, _⟩ := calledApi?_answers table calleeToo openedToo
  rw [eval_call table found called opened given,
    eval_call table same calledToo openedToo givenToo]
  simp only [answered, answeredToo, ok_bind]
  by_cases fallback : api = some .firstThatWorks
  · have stays : apiToo = some .firstThatWorks := by
      have kept := keeps (by simp [isFallback_map opened answered, fallback])
      simpa [isFallback_map openedToo answeredToo] using kept
    rw [if_pos fallback, if_pos stays, alike.span]
    exact both_bind (below_elements _ each) fun _ _ below => rises_value (.array below.reverse)
  · -- The other callee may be recognised all the same: the first result is below any.
    rw [if_neg fallback]
    exact rises_unknown _

theorem rises_member {object : Data} {entries : Entries} {property : Node}
    (found : view.kind = some .memberExpression)
    (asked : expressionDemands .memberExpression = some wanted)
    (alike : Alike table wanted view other) (base : Reads view "object" object)
    (named : Reads view "property" (.map entries))
    (opened : Node.ofEntries entries = .ok property) :
    Rises (eval table view) (eval table other) := by
  have same := alike.kind.symm.trans found
  cases asked
  obtain ⟨_, baseToo, _, baseKnown⟩ := alike.given "object" rfl base
  obtain ⟨_, namedToo, memberToo, memberKnown⟩ := alike.given "property" rfl named
  obtain ⟨others, rfl⟩ := map_of_formed rfl memberToo
  obtain ⟨further, _, openedToo, _, _⟩ := formed_view memberToo
  have names := memberKnown.1
  rw [memberName_map opened, memberName_map openedToo] at names
  rw [eval_member table found base named opened,
    eval_member table same baseToo namedToo openedToo]
  refine both_bind baseKnown.1 fun x y below => ?_
  have onward : Rises (memberKey table property >>= readNamed x view.span)
      (memberKey table further >>= readNamed y other.span) := by
    refine both_bind names fun key again fuller => ?_
    rcases fuller with rfl | rfl
    · exact rises_unknown _
    · cases key with
      | none => exact rises_unknown _
      | some key =>
          rw [alike.span]
          exact rises_readResult below key other.span
  cases below with
  | unknown => exact rises_unknown _
  | reference | value | bare => exact onward

theorem rises_alike (asked : demands .fixed .expression view.kind = some wanted)
    (follows : Follows .fixed wanted view) (alike : Alike table wanted view other) :
    Rises (eval table view) (eval table other) := by
  cases tagged : view.kind with
  | none => simp [demands, tagged] at asked
  | some kind =>
  rw [tagged] at asked
  -- The first node has a shape of its kind, and the second reads the same parts.
  have same : other.kind = some kind := alike.kind.symm.trans tagged
  cases shape_of_follows tagged asked follows with
  | string found value =>
      cases tagged.symm.trans found
      cases asked
      obtain ⟨further, reads, _, rfl⟩ := alike.given "value" rfl value
      rw [eval_literal table (.inl found) value, eval_literal table (.inl same) reads]
      exact rises_value (.same _)
  | boolean found value =>
      cases tagged.symm.trans found
      cases asked
      obtain ⟨further, reads, _, rfl⟩ := alike.given "value" rfl value
      rw [eval_literal table (.inr found) value, eval_literal table (.inr same) reads]
      exact rises_value (.same _)
  | number found value form =>
      cases tagged.symm.trans found
      cases asked
      obtain ⟨further, reads, _, rfl⟩ := alike.given "value" rfl value
      rw [eval_number table found value, eval_number table same reads, alike.span]
      exact rises_refl _
  | bigint found written =>
      rw [eval_bigint table found, eval_bigint table (alike.kind.symm.trans found),
        alike.bigint found, alike.span]
      exact rises_refl _
  | null found =>
      rw [eval_null table found, eval_null table (alike.kind.symm.trans found)]
      exact rises_value (.same _)
  | regexp found source marks =>
      cases tagged.symm.trans found
      exact rises_regexp found asked follows alike source
  | identifier found value =>
      cases tagged.symm.trans found
      cases asked
      obtain ⟨further, reads, _, rfl⟩ := alike.given "value" rfl value
      rw [eval_identifier table found value, eval_identifier table same reads, alike.span]
      exact rises_refl _
  | array found elements form =>
      cases tagged.symm.trans found
      cases asked
      obtain ⟨further, reads, _, known⟩ := alike.given "elements" rfl elements
      obtain ⟨others, rfl, each⟩ := known_list known
      rw [eval_array table found elements, eval_array table same reads, alike.span]
      exact both_bind (below_elements _ each) fun _ _ below => rises_value (.array below)
  | object found properties form =>
      cases tagged.symm.trans found
      cases asked
      obtain ⟨further, reads, _, known⟩ := alike.given "properties" rfl properties
      obtain ⟨others, rfl, each⟩ := known_list known
      rw [eval_object table found properties, eval_object table same reads]
      exact both_bind (below_properties each .nil) fun _ _ below => rises_value (.object below)
  | binary found operator _ first _ second _ =>
      cases tagged.symm.trans found
      exact rises_binaryNode found asked alike operator first second
  | unary found operator _ part _ =>
      cases tagged.symm.trans found
      exact rises_unaryNode found asked alike operator part
  | passing found passes inner form =>
      cases tagged.symm.trans found
      obtain ⟨role, demanded, narrow⟩ := demands_of_passing passes
      cases demanded.symm.trans asked
      obtain ⟨_, reads, _, known⟩ := alike.given _ (by simp [demandFor?, Data.isKey]; rfl) inner
      rw [eval_passing table found passes inner, eval_passing table same passes reads]
      rcases narrow with rfl | rfl
      · exact known.1
      · exact known.1
  | conditional found asks _ holds _ fails _ =>
      cases tagged.symm.trans found
      exact rises_conditional found asked alike asks holds fails
  | template found quasis _ pieceForm _ =>
      cases tagged.symm.trans found
      exact rises_templateNode found asked follows alike quasis pieceForm
  | piece found pieceFollows =>
      cases tagged.symm.trans found
      cases asked
      rw [eval_piece table found, eval_piece table same, pieceValue_alike follows alike, alike.span]
      exact rises_refl _
  | call found called opened calleeForm given _ =>
      cases tagged.symm.trans found
      exact rises_call found asked alike called opened calleeForm given
  | member found base _ named opened _ =>
      cases tagged.symm.trans found
      exact rises_member found asked alike base named opened
  | sequence found expressions ends form =>
      cases tagged.symm.trans found
      cases asked
      obtain ⟨_, reads, _, known⟩ := alike.given "expressions" rfl expressions
      obtain ⟨others, rfl, each⟩ := known_list known
      obtain ⟨further, endsToo, last⟩ := forall₂_getLast? each ends
      rw [eval_sequence table found expressions ends, eval_sequence table same reads endsToo]
      exact last.1
  | unread found free =>
      rw [eval_unread table found free]
      exact rises_unknown _

variable {entries others : Entries}

theorem propertyName_map (opened : Node.ofEntries entries = .ok view) :
    propertyName table (.map entries) = propertyKey table view := by
  rw [propertyName, Node.expect, openOr_eq opened]
  rfl

theorem keepsName_alike (opened : Node.ofEntries entries = .ok view)
    (openedToo : Node.ofEntries others = .ok other) (alike : Alike table wanted view other)
    (plain : view.kind = some .identifier → wanted = [⟨"value", .text, false⟩]) :
    KeepsName (.map entries) (.map others) := by
  rintro name ⟨_, again, same, found, kind, reads⟩
  cases same
  rw [opened] at found
  cases found
  cases plain kind
  obtain ⟨further, readsToo, _, rfl⟩ := alike.given "value" rfl reads
  exact ⟨others, other, rfl, openedToo, alike.kind.symm.trans kind, readsToo⟩

theorem known_expression {role : Role}
    (place : role = .expression ∨ role = .identifier ∨ role = .piece)
    (opened : Node.ofEntries entries = .ok view) (openedToo : Node.ofEntries others = .ok other)
    (asked : demands .fixed role view.kind = some wanted) (follows : Follows .fixed wanted view)
    (alike : Alike table wanted view other) :
    Known table role (.map entries) (.map others) := by
  have wider : demands .fixed .expression view.kind = some wanted := by
    rcases place with rfl | rfl | rfl
    · exact asked
    all_goals
      unfold demands at asked ⊢
      split at asked <;> simp_all [expressionDemands]
  have rises := rises_alike wider follows alike
  rw [← evalPart_map table opened, ← evalPart_map table openedToo] at rises
  have keeps := keepsName_alike opened openedToo alike fun kind => by
    simpa [kind, demands, expressionDemands] using wider.symm
  rcases place with rfl | rfl | rfl <;> exact ⟨rises, keeps⟩

theorem known_element (opened : Node.ofEntries entries = .ok view)
    (openedToo : Node.ofEntries others = .ok other)
    (asked : demands .fixed .element view.kind = some wanted) (follows : Follows .fixed wanted view)
    (alike : Alike table wanted view other) :
    Known table .element (.map entries) (.map others) := by
  have single {node : Node} (follows : Follows .fixed wanted node) : Lacks node "spread" := by
    cases asked
    rcases follows.maybe "spread" rfl with lacks | ⟨_, _, form⟩
    · exact lacks
    · exact absurd form formed_nothing
  have lacks := single follows
  have lacksToo := single alike.follows
  cases asked
  obtain ⟨inner, reads, _⟩ := follows.given "expression" rfl
  obtain ⟨further, readsToo, _, known⟩ := alike.given "expression" rfl reads
  intro span
  rw [evalElements_cons table span opened reads lacks.field?,
    evalElements_cons table span openedToo readsToo lacksToo.field?]
  refine both_bind known.1 fun x y below => ?_
  refine both_bind (both_refl belowResults_refl _) fun rest more after => ?_
  exact both_ok (.cons below after)

theorem known_key (opened : Node.ofEntries entries = .ok view)
    (openedToo : Node.ofEntries others = .ok other)
    (asked : demands .fixed .key view.kind = some wanted) (follows : Follows .fixed wanted view)
    (alike : Alike table wanted view other) : Known table .key (.map entries) (.map others) := by
  have same := alike.kind
  suffices equal : propertyKey table view = propertyKey table other by
    simp only [Known, propertyName_map opened, propertyName_map openedToo, equal]
    exact both_refl (fun _ => rfl) _
  by_cases name : view.kind = some .identifier ∨ view.kind = some .stringLiteral
  · have narrow : wanted = [⟨"value", .text, false⟩] := by
      rcases name with kind | kind <;> simpa [kind, demands] using asked.symm
    subst narrow
    obtain ⟨part, reads, text⟩ := follows.given "value" rfl
    obtain ⟨s, rfl⟩ := text_of_formed text
    obtain ⟨further, readsToo, _, rfl⟩ := alike.given "value" rfl reads
    rw [propertyKey_name table name reads, propertyKey_name table (same ▸ name) readsToo]
  by_cases number : view.kind = some .numericLiteral
  · have kindToo := same.symm.trans number
    rw [number] at asked
    cases asked
    obtain ⟨part, reads, _⟩ := follows.given "value" rfl
    obtain ⟨further, readsToo, _, rfl⟩ := alike.given "value" rfl reads
    rw [propertyKey_number table number reads, propertyKey_number table kindToo readsToo]
  by_cases bigint : view.kind = some .bigIntLiteral
  · rw [propertyKey_bigint table bigint, propertyKey_bigint table (same.symm.trans bigint),
      alike.bigint bigint]
  by_cases computed : view.kind = some .computed
  · rw [computed] at asked
    cases asked
  have unknown : isUnknownKey view.kind = true := by
    unfold isUnknownKey
    split <;> simp_all
  rw [propertyKey_unknown table unknown, propertyKey_unknown table (same ▸ unknown)]

theorem known_property (opened : Node.ofEntries entries = .ok view)
    (openedToo : Node.ofEntries others = .ok other)
    (asked : demands .fixed .property view.kind = some wanted)
    (follows : Follows .fixed wanted view) (alike : Alike table wanted view other) :
    Known table .property (.map entries) (.map others) := by
  have same := alike.kind
  intro members further below
  by_cases spread : view.kind = some .spreadElement
  · rw [spread] at asked
    cases asked
  by_cases entry : view.kind = some .keyValueProperty ∨ view.kind = some .assignmentProperty
  · have narrow : wanted = [⟨"key", .key, false⟩, ⟨"value", .expression, false⟩] := by
      rcases entry with kind | kind <;> simpa [kind, demands] using asked.symm
    subst narrow
    obtain ⟨_, keyReads, keyForm⟩ := follows.given "key" rfl
    obtain ⟨_, valueReads, _⟩ := follows.given "value" rfl
    obtain ⟨_, keyToo, keyFormToo, keyKnown⟩ := alike.given "key" rfl keyReads
    obtain ⟨_, valueToo, _, valueKnown⟩ := alike.given "value" rfl valueReads
    obtain ⟨keyEntries, rfl⟩ := map_of_formed rfl keyForm
    obtain ⟨keyOthers, rfl⟩ := map_of_formed rfl keyFormToo
    obtain ⟨key, _, openedKey, _, _⟩ := formed_view keyForm
    obtain ⟨keyAgain, _, openedAgain, _, _⟩ := formed_view keyFormToo
    simp only [Known, propertyName_map openedKey, propertyName_map openedAgain] at keyKnown
    rw [evalProperties_entry table opened entry keyReads openedKey valueReads,
      evalProperties_entry table openedToo (same ▸ entry) keyToo openedAgain valueToo]
    refine both_bind keyKnown fun name again equal => ?_
    subst equal
    cases name with
    | none =>
        rw [evalProperties_nil, evalProperties_nil]
        exact both_ok below
    | some name =>
        refine both_bind valueKnown.1 fun x y known => ?_
        refine both_bind (both_refl (fun _ => rfl) _) fun label again equal => ?_
        subst equal
        rw [evalProperties_nil, evalProperties_nil]
        exact both_ok (below.put label known)
  by_cases shorthand : view.kind = some .identifier
  · have kindToo := same.symm.trans shorthand
    rw [shorthand] at asked
    cases asked
    obtain ⟨part, reads, text⟩ := follows.given "value" rfl
    obtain ⟨s, rfl⟩ := text_of_formed text
    obtain ⟨_, readsToo, _, rfl⟩ := alike.given "value" rfl reads
    rw [evalProperties_shorthand table opened shorthand reads,
      evalProperties_shorthand table openedToo kindToo readsToo, evalProperties_nil,
      evalProperties_nil, alike.span]
    exact both_ok (below.put _ (belowResult_refl _))
  have dropped : isDropped view.kind = true := by
    unfold isDropped
    split <;> simp_all
  rw [evalProperties_dropped table opened dropped,
    evalProperties_dropped table openedToo (same ▸ dropped), evalProperties_nil, evalProperties_nil]
  exact both_ok below

theorem known_member (opened : Node.ofEntries entries = .ok view)
    (openedToo : Node.ofEntries others = .ok other)
    (asked : demands .fixed .member view.kind = some wanted) (follows : Follows .fixed wanted view)
    (alike : Alike table wanted view other) :
    Known table .member (.map entries) (.map others) := by
  have same := alike.kind
  refine ⟨?_, keepsName_alike opened openedToo alike fun kind => by
    simpa [kind, demands] using asked.symm⟩
  rw [memberName_map opened, memberName_map openedToo]
  by_cases name : view.kind = some .identifier
  · have kindToo := same.symm.trans name
    rw [name] at asked
    cases asked
    obtain ⟨part, reads, text⟩ := follows.given "value" rfl
    obtain ⟨s, rfl⟩ := text_of_formed text
    obtain ⟨_, readsToo, _, rfl⟩ := alike.given "value" rfl reads
    rw [memberKey_name table name reads, memberKey_name table kindToo readsToo]
    exact both_refl fuller_refl _
  by_cases hidden : view.kind = some .privateName
  · have kindToo := same.symm.trans hidden
    rw [hidden] at asked
    cases asked
    obtain ⟨part, reads, form⟩ := follows.given "id" rfl
    obtain ⟨_, readsToo, _, _, keeps⟩ := alike.given "id" rfl reads
    obtain ⟨fields, id, s, rfl, openedId, kind, value⟩ := name_of_identifier form
    obtain ⟨_, _, rfl, openedAgain, _, valueToo⟩ := keeps s ⟨fields, id, rfl, openedId, kind, value⟩
    rw [memberKey_private table hidden reads openedId value,
      memberKey_private table kindToo readsToo openedAgain valueToo]
    exact both_refl fuller_refl _
  by_cases computed : view.kind = some .computed
  · have kindToo := same.symm.trans computed
    rw [computed] at asked
    cases asked
    obtain ⟨inner, reads, _⟩ := follows.given "expression" rfl
    obtain ⟨_, readsToo, _, known⟩ := alike.given "expression" rfl reads
    rw [memberKey_computed table computed reads, memberKey_computed table kindToo readsToo]
    exact both_bind known.1 fun _ _ below => fuller_keyOf below
  have unknown : isUnknownMember view.kind = true := by
    unfold isUnknownMember
    split <;> simp_all
  rw [memberKey_unknown table unknown, memberKey_unknown table (same ▸ unknown)]
  exact both_refl fuller_refl _

theorem recognised_alike (asked : demands .fixed .callee view.kind = some wanted)
    (alike : Alike table wanted view other) (recognised : Recognised table view) :
    Recognised table other := by
  have same := alike.kind
  cases recognised with
  | binding kind value imported =>
      rw [kind] at asked same
      cases asked
      obtain ⟨_, reads, _, rfl⟩ := alike.given "value" rfl value
      exact .binding same.symm reads imported
  | member kind base named library known helper api =>
      rw [kind] at asked same
      cases asked
      obtain ⟨_, baseToo, _, baseKnown⟩ := alike.given "object" rfl base
      obtain ⟨_, namedToo, _, memberKnown⟩ := alike.given "property" rfl named
      exact .member same.symm baseToo namedToo (baseKnown.2 _ library) known
        (memberKnown.2 _ helper) api

theorem known_callee (opened : Node.ofEntries entries = .ok view)
    (openedToo : Node.ofEntries others = .ok other)
    (asked : demands .fixed .callee view.kind = some wanted) (follows : Follows .fixed wanted view)
    (alike : Alike table wanted view other) :
    Known table .callee (.map entries) (.map others) := by
  intro fallback
  obtain ⟨api, answered, named⟩ :=
    calledApi?_answers table (formed_of_view opened asked follows) opened
  have helper : api = some .firstThatWorks := by
    simpa [isFallback_map opened answered] using fallback
  have stays := calledApi?_recognised (recognised_alike asked alike (named helper))
  simp [isFallback_map openedToo stays]

theorem known_node {role : Role} (opened : Node.ofEntries entries = .ok view)
    (openedToo : Node.ofEntries others = .ok other)
    (asked : demands .fixed role view.kind = some wanted) (follows : Follows .fixed wanted view)
    (alike : Alike table wanted view other) : Known table role (.map entries) (.map others) := by
  cases role with
  | expression => exact known_expression (.inl rfl) opened openedToo asked follows alike
  | identifier => exact known_expression (.inr (.inl rfl)) opened openedToo asked follows alike
  | piece => exact known_expression (.inr (.inr rfl)) opened openedToo asked follows alike
  | callee => exact known_callee opened openedToo asked follows alike
  | element => exact known_element opened openedToo asked follows alike
  | property => exact known_property opened openedToo asked follows alike
  | key => exact known_key opened openedToo asked follows alike
  | member => exact known_member opened openedToo asked follows alike
  | mark | nothing => trivial
  | text | truth | number | binarySymbol | unarySymbol | many | oneOrMore =>
      simp [demands] at asked

end Nodes

section Same

variable {table : ScopeTable}

theorem alike_same {wanted : List Demand} {view : Node} (follows : Follows .fixed wanted view)
    (each : ∀ name demand part, demandFor? wanted (.text name) = some demand →
      Reads view name part → Known table demand.role part part) : Alike table wanted view view where
  kind := rfl
  span := rfl
  follows := follows
  bigint _ := rfl
  lacks _ _ _ := Iff.rfl
  parts name demand part further asked reads again _ := by
    cases reads.found.symm.trans again.found
    exact each name demand part asked reads

theorem property_roles {kind : Option Kind} {wanted : List Demand}
    (asked : demands .fixed .property kind = some wanted) {demand : Demand}
    (member : demand ∈ wanted) :
    demand.role = .key ∨ demand.role = .expression ∨ demand.role = .text := by
  by_cases entry : kind = some .keyValueProperty ∨ kind = some .assignmentProperty
  · have two : wanted = [⟨"key", .key, false⟩, ⟨"value", .expression, false⟩] := by
      rcases entry with rfl | rfl <;> exact (Option.some.inj asked).symm
    subst two
    rcases List.mem_pair.mp member with rfl | rfl
    · exact .inl rfl
    · exact .inr (.inl rfl)
  · unfold demands at asked
    split at asked <;> simp_all [Fragment.fixed]
    subst asked
    rw [List.mem_singleton.mp member]
    exact .inr (.inr rfl)

theorem known_same {role : Role} : ∀ {data : Data}, Formed .fixed role data →
    Known table role data data := by
  induction role with
  | expression | identifier | piece =>
      exact fun _ => ⟨rises_refl _, fun _ named => named⟩
  | callee => exact fun _ fallback => fallback
  | element => exact fun _ _ => both_refl belowResults_refl _
  | key => exact fun _ => both_refl (fun _ => rfl) _
  | member => exact fun _ => ⟨both_refl fuller_refl _, fun _ named => named⟩
  | property =>
      -- Members so far may differ, so this is a step too, from parts that are the same.
      intro data form
      obtain ⟨entries, rfl⟩ := map_of_formed rfl form
      obtain ⟨view, wanted, opened, asked, follows⟩ := formed_view form
      refine known_property opened opened asked follows (alike_same follows ?_)
      intro name demand part demanded reads
      rcases property_roles asked (List.mem_of_find?_eq_some demanded) with role | role | role
      · rw [role]
        exact both_refl (fun _ => rfl) _
      · rw [role]
        exact ⟨rises_refl _, fun _ named => named⟩
      · rw [role]
        rfl
  | many role ih =>
      intro data form
      obtain ⟨items, rfl, each⟩ := items_of_formed form
      exact ⟨items, items, rfl, rfl, List.forall₂_same.mpr fun item member => ih (each item member)⟩
  | oneOrMore role ih =>
      intro data form
      obtain ⟨items, rfl, _, each⟩ := oneOrMore_of_formed form
      exact ⟨items, items, rfl, rfl, List.forall₂_same.mpr fun item member => ih (each item member)⟩
  | text | truth | number | binarySymbol | unarySymbol => exact fun _ => rfl
  | mark | nothing => exact fun _ => trivial

end Same

end StyleFold.Fold
