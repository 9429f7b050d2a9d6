import StyleFold.Proofs.Fold.Spread
import StyleFold.Proofs.Fold.Wrapper

/-!
Evaluation without wrappers. Main statement: a formed expression from which every wrapper was taken
away, the callees of its calls apart, is evaluated to the same result with the same spans, or fails
with the same fault. The step is a node whose fields are free of wrappers: each part that evaluation
reads of it is evaluated alike.
-/

namespace StyleFold.Fold

section Fields

/-- A node, and what it is without wrappers in its fields. -/
structure Bared (elsewhere : Data → Data) (wanted : List Demand) (view other : Node) : Prop where
  kind : other.kind = view.kind
  span : other.span = view.span
  lookup : ∀ name demand, demandFor? wanted (.text name) = some demand →
    Data.lookup? name other.entries =
      (Data.lookup? name view.entries).map (unwrap elsewhere demand.role)
  bigint : view.kind = some .bigIntLiteral → bigintOf other = bigintOf view

theorem bared_unwrapView {role : Role} {wanted : List Demand} {view : Node}
    (elsewhere : Data → Data) (asked : demands .full role view.kind = some wanted) :
    Bared elsewhere wanted view (unwrapView elsewhere wanted view) where
  kind := rfl
  span := rfl
  lookup _ _ demanded := lookup?_unwrapFields demanded view.entries
  bigint kind := (bigintOf_entry (lookup?_bigint asked kind (.inl rfl) view.entries)
    (lookup?_bigint asked kind (.inr rfl) view.entries)).symm

namespace Bared

variable {elsewhere : Data → Data} {wanted : List Demand} {view other : Node} {role : Role}
  {optional : Bool} {part : Data}

theorem given (bared : Bared elsewhere wanted view other) (name : String)
    (demanded : demandFor? wanted (.text name) = some ⟨name, role, optional⟩)
    (reads : Reads view name part) (form : Formed .full role part) :
    Reads other name (unwrap elsewhere role part) where
  found := by rw [bared.lookup name _ demanded, reads.found, Option.map_some]
  sound := check_of_formed (unwrap_spec form).1

theorem scalar (bared : Bared elsewhere wanted view other) (name : String)
    (demanded : demandFor? wanted (.text name) = some ⟨name, role, optional⟩)
    (fixed : role.isScalar = true) (reads : Reads view name part) : Reads other name part where
  found := by
    rw [bared.lookup name _ demanded, reads.found, Option.map_some, unwrap_scalar elsewhere fixed]
  sound := reads.sound

theorem row {items : List Data} (bared : Bared elsewhere wanted view other) (name : String)
    (demanded : demandFor? wanted (.text name) = some ⟨name, .many role, optional⟩)
    (reads : Reads view name (.list items)) (form : ∀ item ∈ items, Formed .full role item) :
    Reads other name (.list (unwrapItems elsewhere role items)) := by
  have readsToo := bared.given name demanded reads (formedItems_iff.mpr form)
  rwa [unwrap] at readsToo

theorem lacks (bared : Bared elsewhere wanted view other) (name : String)
    (demanded : demandFor? wanted (.text name) = some ⟨name, role, optional⟩)
    (lacks : Lacks view name) : Lacks other name := by
  intro part found
  rw [bared.lookup name _ demanded] at found
  cases there : Data.lookup? name view.entries with
  | none =>
      rw [there] at found
      cases found
  | some part =>
      rw [there, lacks part there, Option.map_some, unwrap_null] at found
      exact (Option.some.inj found).symm

theorem field? {found : Option view.Part} (bared : Bared elsewhere wanted view other)
    (name : String) (demanded : demandFor? wanted (.text name) = some ⟨name, role, optional⟩)
    (fixed : role = .text ∨ role = .mark) (run : view.field? name = .ok found) :
    ∃ again, other.field? name = .ok again ∧ again.map Subtype.val = found.map Subtype.val := by
  have same : Data.lookup? name other.entries = Data.lookup? name view.entries := by
    rw [bared.lookup name _ demanded]
    cases Data.lookup? name view.entries with
    | none => rfl
    | some part =>
        rcases fixed with rfl | rfl
        · rw [Option.map_some, unwrap_scalar elsewhere rfl]
        · cases part <;> rfl
  rcases field?_same same with ⟨_, failed, _⟩ | ⟨first, second⟩ | ⟨part, _, _, first, second⟩
  · rw [failed] at run
    cases run
  · rw [first] at run
    cases run
    exact ⟨none, second, rfl⟩
  · rw [first] at run
    cases run
    exact ⟨_, second, rfl⟩

end Bared

end Fields

section Parts

variable {elsewhere : Data → Data} {table : ScopeTable} {bound : Nat}

def UnwrapsBelow (elsewhere : Data → Data) (table : ScopeTable) (bound : Nat) : Prop :=
  ∀ part, sizeOf part < bound → Formed .full .expression part →
    evalPart table (unwrap elsewhere .expression part) = evalPart table part

theorem unwrap_part {role : Role} {entries : Entries} {view : Node} {wanted : List Demand}
    (changes : isKept role = false) (place : role ≠ .expression)
    (opened : Node.ofEntries entries = .ok view)
    (asked : demands .full role view.kind = some wanted) :
    ∃ others other, unwrap elsewhere role (.map entries) = .map others ∧
      Node.ofEntries others = .ok other ∧ Bared elsewhere wanted view other := by
  refine ⟨_, _, ?_, ofEntries_unwrapView opened asked, bared_unwrapView elsewhere asked⟩
  rw [unwrap_map changes opened asked, unwrapNode, if_neg place]

theorem evalElements_unwrapItems (below : UnwrapsBelow elsewhere table bound) (span : Option Span)
    {items : List Data} (small : sizeOf items < bound)
    (form : ∀ item ∈ items, Formed .full .element item) :
    evalElements table span (unwrapItems elsewhere .element items) =
      evalElements table span items := by
  induction items with
  | nil => rfl
  | cons item rest ih =>
      simp only [List.cons.sizeOf_spec] at small
      have onward := ih (by omega) fun other member => form other (List.mem_cons_of_mem item member)
      have first := form item List.mem_cons_self
      rw [unwrapItems]
      cases elementShape first with
      | hole => rw [unwrap_null, evalElements_hole, evalElements_hole, onward]
      | @written entries view inner spread opened expression inside marks _ =>
          obtain ⟨_, wanted, again, asked, _⟩ := formed_view first
          cases opened.symm.trans again
          obtain ⟨others, other, unwrapped, openedToo, bared⟩ :=
            @unwrap_part elsewhere _ _ _ _ rfl (by simp) opened asked
          cases asked
          obtain ⟨mark, marksToo, same⟩ := bared.field? "spread" rfl (.inr rfl) marks
          have lower := Nat.lt_trans (sizeOf_read expression) (sizeOf_view opened)
          rw [unwrapped, evalElements_cons table span opened expression marks,
            evalElements_cons table span openedToo (bared.given "expression" rfl expression inside)
              marksToo, below _ (by omega) inside, onward]
          have entries (result : Result) : elementEntries result mark =
              elementEntries result spread := by
            cases mark <;> cases spread <;> first | rfl | cases same
          simp only [entries]

theorem evalPart_unwrap_identifier {part : Data} (form : Formed .full .identifier part) :
    evalPart table (unwrap elsewhere .identifier part) = evalPart table part := by
  obtain ⟨entries, view, name, rfl, opened, kind, value⟩ := name_of_identifier form
  obtain ⟨_, wanted, again, asked, _⟩ := formed_view form
  cases opened.symm.trans again
  obtain ⟨others, other, unwrapped, openedToo, bared⟩ :=
    @unwrap_part elsewhere _ _ _ _ rfl (by simp) opened asked
  rw [kind] at asked
  cases asked
  rw [unwrapped, evalPart_map table openedToo, evalPart_map table opened,
    eval_identifier table kind value,
    eval_identifier table (bared.kind.trans kind) (bared.scalar "value" rfl rfl value), bared.span]

theorem pieceValue_bared {view other : Node}
    (follows : Follows .full [⟨"cooked", .text, true⟩, ⟨"raw", .text, true⟩] view)
    (bared : Bared elsewhere [⟨"cooked", .text, true⟩, ⟨"raw", .text, true⟩] view other) :
    pieceValue other = pieceValue view := by
  have text (name : String) (demanded : demandFor? [⟨"cooked", .text, true⟩, ⟨"raw", .text, true⟩]
      (.text name) = some ⟨name, .text, true⟩) :
      ∃ found again, view.field? name = .ok found ∧ other.field? name = .ok again ∧
        again.map Subtype.val = found.map Subtype.val := by
    rcases follows.maybe name demanded with lacks | ⟨part, reads, form⟩
    · exact ⟨none, none, lacks.field?, (bared.lacks name demanded lacks).field?, rfl⟩
    · have run := reads.field? (text_ne_null form)
      obtain ⟨again, ran, same⟩ := bared.field? name demanded (.inl rfl) run
      exact ⟨_, again, run, ran, same⟩
  obtain ⟨raw, rawToo, found, foundToo, sameRaw⟩ := text "raw" rfl
  obtain ⟨cooked, cookedToo, given, givenToo, sameCooked⟩ := text "cooked" rfl
  simp only [pieceValue, found, foundToo, given, givenToo, ok_bind]
  cases cooked <;> cases cookedToo <;> cases raw <;> cases rawToo <;> simp_all

theorem evalPart_unwrap_piece {piece : Data} (form : Formed .full .piece piece) :
    evalPart table (unwrap elsewhere .piece piece) = evalPart table piece := by
  obtain ⟨entries, rfl⟩ := map_of_formed rfl form
  obtain ⟨view, wanted, opened, asked, follows⟩ := formed_view form
  have kind : view.kind = some .templateElement := by
    unfold demands at asked
    split at asked <;> simp_all
  obtain ⟨others, other, unwrapped, openedToo, bared⟩ :=
    @unwrap_part elsewhere _ _ _ _ rfl (by simp) opened asked
  rw [kind] at asked
  cases asked
  rw [unwrapped, evalPart_map table openedToo, evalPart_map table opened, eval_piece table kind,
    eval_piece table (bared.kind.trans kind), pieceValue_bared follows bared, bared.span]

theorem joinPieces_unwrapItems (below : UnwrapsBelow elsewhere table bound)
    {pieces expressions : List Data} (small : ∀ expression ∈ expressions, sizeOf expression < bound)
    (pieceForm : ∀ piece ∈ pieces, Formed .full .piece piece)
    (form : ∀ expression ∈ expressions, Formed .full .expression expression) (done : List String) :
    joinPieces table (unwrapItems elsewhere .piece pieces)
        (unwrapItems elsewhere .expression expressions) done =
      joinPieces table pieces expressions done := by
  induction pieces generalizing expressions done with
  | nil => rfl
  | cons piece rest ih =>
      have later : ∀ piece ∈ rest, Formed .full .piece piece :=
        fun other member => pieceForm other (List.mem_cons_of_mem piece member)
      rw [unwrapItems, joinPieces, joinPieces,
        evalPart_unwrap_piece (pieceForm piece List.mem_cons_self)]
      refine bind_congr fun result => ?_
      cases result with
      | value v span =>
          -- No expression stands behind the last piece.
          refine bind_congr fun text => ?_
          cases expressions with
          | nil => exact ih small later (by simp) _
          | cons expression others =>
              rw [unwrapItems]
              dsimp only
              rw [below _ (small expression List.mem_cons_self)
                (form expression List.mem_cons_self)]
              refine bind_congr fun result => bind_congr fun inner => ?_
              cases inner with
              | none => rfl
              | some inner =>
                  exact ih (fun other member =>
                    small other (List.mem_cons_of_mem expression member))
                    later
                      (fun other member => form other (List.mem_cons_of_mem expression member)) _
      | _ => rfl

theorem propertyKey_bared (below : UnwrapsBelow elsewhere table bound) {view other : Node}
    {wanted : List Demand} (small : view.size < bound)
    (asked : demands .full .key view.kind = some wanted) (follows : Follows .full wanted view)
    (bared : Bared elsewhere wanted view other) :
    propertyKey table other = propertyKey table view := by
  by_cases name : view.kind = some .identifier ∨ view.kind = some .stringLiteral
  · have narrow : wanted = [⟨"value", .text, false⟩] := by
      rcases name with kind | kind <;> simpa [kind, demands] using asked.symm
    subst narrow
    obtain ⟨part, reads, text⟩ := follows.given "value" rfl
    obtain ⟨s, rfl⟩ := text_of_formed text
    rw [propertyKey_name table name reads,
      propertyKey_name table (bared.kind ▸ name) (bared.scalar "value" rfl rfl reads)]
  by_cases number : view.kind = some .numericLiteral
  · rw [number] at asked
    cases asked
    obtain ⟨part, reads, _⟩ := follows.given "value" rfl
    rw [propertyKey_number table number reads,
      propertyKey_number table (bared.kind.trans number) (bared.scalar "value" rfl rfl reads)]
  by_cases bigint : view.kind = some .bigIntLiteral
  · rw [propertyKey_bigint table bigint, propertyKey_bigint table (bared.kind.trans bigint),
      bared.bigint bigint]
  by_cases computed : view.kind = some .computed
  · rw [computed] at asked
    cases asked
    obtain ⟨inner, reads, form⟩ := follows.given "expression" rfl
    have lower := sizeOf_read reads
    rw [propertyKey_computed table computed reads,
      propertyKey_computed table (bared.kind.trans computed)
        (bared.given "expression" rfl reads form),
      below _ (by omega) form]
  have unknown : isUnknownKey view.kind = true := by
    unfold isUnknownKey
    split <;> simp_all
  rw [propertyKey_unknown table unknown, propertyKey_unknown table (bared.kind ▸ unknown)]

theorem memberKey_bared (below : UnwrapsBelow elsewhere table bound) {view other : Node}
    {wanted : List Demand} (small : view.size < bound)
    (asked : demands .full .member view.kind = some wanted) (follows : Follows .full wanted view)
    (bared : Bared elsewhere wanted view other) : memberKey table other = memberKey table view := by
  by_cases name : view.kind = some .identifier
  · rw [name] at asked
    cases asked
    obtain ⟨part, reads, text⟩ := follows.given "value" rfl
    obtain ⟨s, rfl⟩ := text_of_formed text
    rw [memberKey_name table name reads,
      memberKey_name table (bared.kind.trans name) (bared.scalar "value" rfl rfl reads)]
  by_cases hidden : view.kind = some .privateName
  · rw [hidden] at asked
    cases asked
    obtain ⟨part, reads, form⟩ := follows.given "id" rfl
    obtain ⟨fields, id, s, rfl, openedId, kind, value⟩ := name_of_identifier form
    have readsToo := bared.given "id" rfl reads form
    obtain ⟨_, wanted, again, asked, _⟩ := formed_view form
    cases openedId.symm.trans again
    obtain ⟨others, idToo, unwrapped, openedToo, inner⟩ :=
      @unwrap_part elsewhere _ _ _ _ rfl (by simp) openedId asked
    rw [kind] at asked
    cases asked
    rw [unwrapped] at readsToo
    rw [memberKey_private table hidden reads openedId value,
      memberKey_private table (bared.kind.trans hidden) readsToo openedToo
        (inner.scalar "value" rfl rfl value)]
  by_cases computed : view.kind = some .computed
  · rw [computed] at asked
    cases asked
    obtain ⟨inner, reads, form⟩ := follows.given "expression" rfl
    have lower := sizeOf_read reads
    rw [memberKey_computed table computed reads,
      memberKey_computed table (bared.kind.trans computed)
        (bared.given "expression" rfl reads form),
      below _ (by omega) form]
  have unknown : isUnknownMember view.kind = true := by
    unfold isUnknownMember
    split <;> simp_all
  rw [memberKey_unknown table unknown, memberKey_unknown table (bared.kind ▸ unknown)]

theorem evalProperties_bared (below : UnwrapsBelow elsewhere table bound) {entries others : Entries}
    {view other : Node} {wanted : List Demand} (small : view.size < bound)
    (opened : Node.ofEntries entries = .ok view) (openedToo : Node.ofEntries others = .ok other)
    (asked : demands .full .property view.kind = some wanted) (follows : Follows .full wanted view)
    (bared : Bared elsewhere wanted view other) (members : Members) :
    evalProperties table members [.map others] = evalProperties table members [.map entries] := by
  by_cases spread : view.kind = some .spreadElement
  · rw [spread] at asked
    cases asked
    obtain ⟨source, reads, form⟩ := follows.given "arguments" rfl
    have lower := sizeOf_read reads
    rw [evalProperties_spread table opened spread reads,
      evalProperties_spread table openedToo (bared.kind.trans spread)
        (bared.given "arguments" rfl reads form), below _ (by omega) form]
  by_cases entry : view.kind = some .keyValueProperty ∨ view.kind = some .assignmentProperty
  · have narrow : wanted = [⟨"key", .key, false⟩, ⟨"value", .expression, false⟩] := by
      rcases entry with kind | kind <;> simpa [kind, demands] using asked.symm
    subst narrow
    obtain ⟨_, keyReads, keyForm⟩ := follows.given "key" rfl
    obtain ⟨value, reads, form⟩ := follows.given "value" rfl
    obtain ⟨keyEntries, rfl⟩ := map_of_formed rfl keyForm
    obtain ⟨key, keyWanted, openedKey, keyAsked, keyFollows⟩ := formed_view keyForm
    obtain ⟨keyOthers, keyOther, unwrapped, openedAgain, keyBared⟩ :=
      @unwrap_part elsewhere _ _ _ _ rfl (by simp) openedKey keyAsked
    have keyToo := bared.given "key" rfl keyReads keyForm
    rw [unwrapped] at keyToo
    have lower := sizeOf_read reads
    have keyLower := Nat.lt_trans (sizeOf_view openedKey) (sizeOf_read keyReads)
    rw [evalProperties_entry table opened entry keyReads openedKey reads,
      evalProperties_entry table openedToo (bared.kind ▸ entry) keyToo openedAgain
        (bared.given "value" rfl reads form),
      propertyKey_bared below (by omega) keyAsked keyFollows keyBared, below _ (by omega) form]
  by_cases shorthand : view.kind = some .identifier
  · rw [shorthand] at asked
    cases asked
    obtain ⟨part, reads, text⟩ := follows.given "value" rfl
    obtain ⟨s, rfl⟩ := text_of_formed text
    rw [evalProperties_shorthand table opened shorthand reads,
      evalProperties_shorthand table openedToo (bared.kind.trans shorthand)
        (bared.scalar "value" rfl rfl reads), bared.span]
  have dropped : isDropped view.kind = true := by
    unfold isDropped
    split <;> simp_all
  rw [evalProperties_dropped table opened dropped,
    evalProperties_dropped table openedToo (bared.kind ▸ dropped)]

theorem evalProperties_unwrapItems (below : UnwrapsBelow elsewhere table bound) {items : List Data}
    (small : sizeOf items < bound) (form : ∀ item ∈ items, Formed .full .property item)
    (members : Members) :
    evalProperties table members (unwrapItems elsewhere .property items) =
      evalProperties table members items := by
  induction items generalizing members with
  | nil => rfl
  | cons item rest ih =>
      simp only [List.cons.sizeOf_spec] at small
      have first := form item List.mem_cons_self
      obtain ⟨entries, rfl⟩ := map_of_formed rfl first
      obtain ⟨view, wanted, opened, asked, follows⟩ := formed_view first
      obtain ⟨others, other, unwrapped, openedToo, bared⟩ :=
        @unwrap_part elsewhere _ _ _ _ rfl (by simp) opened asked
      have lower := sizeOf_view opened
      rw [unwrapItems, evalProperties_head,
        evalProperties_head table members (.map entries), unwrapped,
        evalProperties_bared below (by omega) opened openedToo asked follows bared]
      exact bind_congr fun further =>
        ih (by omega) (fun other member => form other (List.mem_cons_of_mem _ member)) further

end Parts

section Nodes

variable {elsewhere : Data → Data} {table : ScopeTable}

/-- The wrapper itself is still there: what is in it gives the same with or without it. -/
theorem evalPassing_bared {view other : Node} {wanted : List Demand} {kind : Kind} {name : String}
    {inside : Data} (below : UnwrapsBelow elsewhere table view.size) (found : view.kind = some kind)
    (asked : expressionDemands kind = some wanted) (follows : Follows .full wanted view)
    (bared : Bared elsewhere wanted view other) (passes : passesOn kind = some name)
    (inner : Reads view name inside) (form : Formed .full .expression inside) :
    eval table other = eval table view := by
  obtain ⟨role, demanded, narrow⟩ := demands_of_passing passes
  cases demanded.symm.trans asked
  have asks : demandFor? [⟨name, role, false⟩] (.text name) = some ⟨name, role, false⟩ := by
    simp [demandFor?, Data.isKey]
  obtain ⟨part, reads, placed⟩ := follows.given name asks
  cases reads.found.symm.trans inner.found
  have again := bared.given name asks reads placed
  rw [eval_passing table found passes inner,
    eval_passing table (bared.kind.trans found) passes again]
  rcases narrow with rfl | rfl
  · exact below _ (sizeOf_read inner) form
  · exact evalPart_unwrap_identifier placed

theorem evalTemplate_bared {view other : Node} {wanted : List Demand}
    {pieces expressions : List Data}
    (below : UnwrapsBelow elsewhere table view.size) (found : view.kind = some .templateLiteral)
    (asked : expressionDemands .templateLiteral = some wanted)
    (bared : Bared elsewhere wanted view other) (quasis : Reads view "quasis" (.list pieces))
    (inner : Reads view "expressions" (.list expressions) ∨
      (Lacks view "expressions" ∧ expressions = []))
    (pieceForm : ∀ piece ∈ pieces, Formed .full .piece piece)
    (form : ∀ expression ∈ expressions, Formed .full .expression expression) :
    eval table other = eval table view := by
  cases asked
  have quasisToo := bared.row "quasis" rfl quasis pieceForm
  have small : ∀ expression ∈ expressions, sizeOf expression < view.size := by
    intro expression member
    rcases inner with reads | ⟨_, rfl⟩
    · exact Nat.lt_trans (List.sizeOf_lt_of_mem member) reads.small
    · cases member
  have innerToo : Reads other "expressions"
      (.list (unwrapItems elsewhere .expression expressions)) ∨
      (Lacks other "expressions" ∧ unwrapItems elsewhere .expression expressions = []) := by
    rcases inner with reads | ⟨lacks, rfl⟩
    · exact .inl (bared.row "expressions" rfl reads form)
    · exact .inr ⟨bared.lacks "expressions" rfl lacks, rfl⟩
  rw [eval_template table found quasis inner,
    eval_template table (bared.kind.trans found) quasisToo innerToo,
    joinPieces_unwrapItems below small pieceForm form, bared.span]

theorem evalMember_bared {view other property : Node} {wanted : List Demand} {object : Data}
    {entries : Entries} (below : UnwrapsBelow elsewhere table view.size)
    (found : view.kind = some .memberExpression)
    (asked : expressionDemands .memberExpression = some wanted)
    (follows : Follows .full wanted view) (bared : Bared elsewhere wanted view other)
    (base : Reads view "object" object) (form : Formed .full .expression object)
    (named : Reads view "property" (.map entries))
    (opened : Node.ofEntries entries = .ok property) : eval table other = eval table view := by
  cases asked
  obtain ⟨part, namedAgain, memberForm⟩ := follows.given "property" rfl
  cases named.found.symm.trans namedAgain.found
  obtain ⟨_, memberWanted, again, memberAsked, memberFollows⟩ := formed_view memberForm
  cases opened.symm.trans again
  obtain ⟨others, further, unwrapped, openedToo, inner⟩ :=
    @unwrap_part elsewhere _ _ _ _ rfl (by simp) opened memberAsked
  have namedToo := bared.given "property" rfl named memberForm
  rw [unwrapped] at namedToo
  have lower := Nat.lt_trans (sizeOf_view opened) (sizeOf_read named)
  rw [eval_member table found base named opened, eval_member table (bared.kind.trans found)
    (bared.given "object" rfl base form) namedToo openedToo, below _ (sizeOf_read base) form,
    memberKey_bared below lower memberAsked memberFollows inner, bared.span]

theorem evalSequence_bared {view other : Node} {wanted : List Demand} {items : List Data}
    {last : Data} (below : UnwrapsBelow elsewhere table view.size)
    (found : view.kind = some .sequenceExpression)
    (asked : expressionDemands .sequenceExpression = some wanted)
    (follows : Follows .full wanted view) (bared : Bared elsewhere wanted view other)
    (expressions : Reads view "expressions" (.list items)) (ends : items.getLast? = some last)
    (form : Formed .full .expression last) : eval table other = eval table view := by
  cases asked
  obtain ⟨_, again, row⟩ := follows.given "expressions" rfl
  cases expressions.found.symm.trans again.found
  have expressionsToo := bared.given "expressions" rfl expressions row
  rw [unwrap, unwrapItems_eq_map] at expressionsToo
  have endsToo := congrArg (Option.map (unwrap elsewhere .expression)) ends
  rw [← List.getLast?_map] at endsToo
  have lower := List.sizeOf_lt_of_mem (List.mem_of_getLast? ends)
  rw [eval_sequence table found expressions ends,
    eval_sequence table (bared.kind.trans found) expressionsToo endsToo,
    below _ (Nat.lt_trans lower expressions.small) form]

theorem eval_bared {view other : Node} {wanted : List Demand}
    (below : UnwrapsBelow elsewhere table view.size)
    (asked : demands .full .expression view.kind = some wanted)
    (follows : Follows .full wanted view) (bared : Bared elsewhere wanted view other) :
    eval table other = eval table view := by
  cases tagged : view.kind with
  | none => simp [demands, tagged] at asked
  | some kind =>
  rw [tagged] at asked
  cases shape_of_follows tagged asked follows with
  | string found value =>
      cases tagged.symm.trans found
      cases asked
      rw [eval_literal table (.inl found) value, bared.span.symm,
        eval_literal table (.inl (bared.kind.trans found)) (bared.scalar "value" rfl rfl value)]
  | boolean found value =>
      cases tagged.symm.trans found
      cases asked
      rw [eval_literal table (.inr found) value, bared.span.symm,
        eval_literal table (.inr (bared.kind.trans found)) (bared.scalar "value" rfl rfl value)]
  | number found value =>
      cases tagged.symm.trans found
      cases asked
      rw [eval_number table found value, bared.span.symm,
        eval_number table (bared.kind.trans found) (bared.scalar "value" rfl rfl value)]
  | bigint found =>
      rw [eval_bigint table found, eval_bigint table (bared.kind.trans found), bared.bigint found,
        bared.span]
  | null found =>
      rw [eval_null table found, eval_null table (bared.kind.trans found), bared.span]
  | @regexp _ flagsBefore found source marks =>
      cases tagged.symm.trans found
      cases asked
      obtain ⟨flags, marksToo, same⟩ := bared.field? "flags" rfl (.inl rfl) marks
      have label : (flags.map fun part => Label.ofData part.val) =
          flagsBefore.map fun part => Label.ofData part.val := by
        cases flags <;> cases flagsBefore <;> simp_all
      rw [eval_regexp table found source marks, eval_regexp table (bared.kind.trans found)
        (bared.scalar "pattern" rfl rfl source) marksToo, bared.span, label]
  | identifier found value =>
      cases tagged.symm.trans found
      cases asked
      rw [eval_identifier table found value, bared.span.symm,
        eval_identifier table (bared.kind.trans found) (bared.scalar "value" rfl rfl value)]
  | array found elements form =>
      cases tagged.symm.trans found
      cases asked
      rw [eval_array table found elements,
        eval_array table (bared.kind.trans found) (bared.row "elements" rfl elements form),
        bared.span, evalElements_unwrapItems below _ elements.small form]
  | object found properties form =>
      cases tagged.symm.trans found
      cases asked
      rw [eval_object table found properties,
        eval_object table (bared.kind.trans found) (bared.row "properties" rfl properties form),
        bared.span, evalProperties_unwrapItems below properties.small form]
  | binary found operator _ first leftForm second rightForm =>
      cases tagged.symm.trans found
      cases asked
      rw [eval_binary table found operator first second,
        eval_binary table (bared.kind.trans found) (bared.scalar "operator" rfl rfl operator)
          (bared.given "left" rfl first leftForm) (bared.given "right" rfl second rightForm),
        bared.span, below _ (sizeOf_read first) leftForm, below _ (sizeOf_read second) rightForm]
  | unary found operator _ part form =>
      cases tagged.symm.trans found
      cases asked
      rw [eval_unary table found operator part,
        eval_unary table (bared.kind.trans found) (bared.scalar "operator" rfl rfl operator)
          (bared.given "argument" rfl part form), bared.span, below _ (sizeOf_read part) form]
  | passing found passes inner form =>
      cases tagged.symm.trans found
      exact evalPassing_bared below found asked follows bared passes inner form
  | conditional found asks testForm holds holdsForm fails failsForm =>
      cases tagged.symm.trans found
      cases asked
      rw [eval_conditional table found asks holds fails,
        eval_conditional table (bared.kind.trans found) (bared.given "test" rfl asks testForm)
          (bared.given "consequent" rfl holds holdsForm)
          (bared.given "alternate" rfl fails failsForm),
        below _ (sizeOf_read asks) testForm, below _ (sizeOf_read holds) holdsForm,
        below _ (sizeOf_read fails) failsForm]
  | template found quasis inner pieceForm form =>
      cases tagged.symm.trans found
      exact evalTemplate_bared below found asked bared quasis inner pieceForm form
  | piece found pieceFollows =>
      cases tagged.symm.trans found
      cases asked
      rw [eval_piece table found, eval_piece table (bared.kind.trans found),
        pieceValue_bared pieceFollows bared, bared.span]
  | call found called opened calleeForm given form =>
      cases tagged.symm.trans found
      cases asked
      have calledToo := bared.given "callee" rfl called calleeForm
      rw [unwrap_callee] at calledToo
      rw [eval_call table found called opened given,
        eval_call table (bared.kind.trans found) calledToo
        opened (bared.row "arguments" rfl given form), bared.span,
        evalElements_unwrapItems below _ given.small form]
  | member found base form named opened _ =>
      cases tagged.symm.trans found
      exact evalMember_bared below found asked follows bared base form named opened
  | sequence found expressions ends form =>
      cases tagged.symm.trans found
      exact evalSequence_bared below found asked follows bared expressions ends form
  | unread found free =>
      rw [eval_unread table found free, eval_unread table (bared.kind.trans found) free]

theorem unwrapsBelow (elsewhere : Data → Data) (table : ScopeTable) (bound : Nat) :
    UnwrapsBelow elsewhere table bound := by
  induction bound with
  | zero => exact fun part small => absurd small (Nat.not_lt_zero _)
  | succ bound below =>
      intro part small form
      obtain ⟨entries, rfl⟩ := map_of_formed rfl form
      obtain ⟨view, wanted, opened, asked, follows⟩ := formed_view form
      have lower := sizeOf_view opened
      have smaller : UnwrapsBelow elsewhere table view.size :=
        fun part less => below part (by omega)
      -- First the fields lose their wrappers. Only then the node gives way, to what is left in it.
      have same := eval_bared smaller asked follows (bared_unwrapView elsewhere asked)
      rw [unwrap_map rfl opened asked, unwrapNode, if_pos rfl, evalPart_map table opened, ← same]
      cases wraps : isWrapper view.kind with
      | true =>
          have fields : formedFields .full wanted
              (unwrapView elsewhere wanted view).entries = true :=
            (unwrapFields_spec _ follows.fields).1
          obtain ⟨inner, found, _, passes⟩ :=
            wrapped?_unwrapView asked (follows_unwrapView asked follows fields) wraps
          rw [found, Option.getD_some, passes]
      | false =>
          rw [wrapped?_none wraps, Option.getD_none]
          exact evalPart_map table (ofEntries_unwrapView opened asked)

/-- A formed expression is evaluated alike when every wrapper in it is taken away,
and none is left then. -/
theorem evaluate_unwrap (elsewhere : Data → Data) (table : ScopeTable) {tree : Data}
    (form : Formed .full .expression tree) :
    Formed .full .expression (unwrap elsewhere .expression tree) ∧
      plain .expression (unwrap elsewhere .expression tree) = true ∧
      evaluate table (unwrap elsewhere .expression tree) = evaluate table tree := by
  obtain ⟨formToo, bare⟩ : Formed .full .expression (unwrap elsewhere .expression tree) ∧
      plain .expression (unwrap elsewhere .expression tree) = true := unwrap_spec form
  refine ⟨formToo, bare, ?_⟩
  have same := unwrapsBelow elsewhere table (sizeOf tree + 1) tree (Nat.lt_succ_self _) form
  obtain ⟨entries, rfl⟩ := map_of_formed rfl form
  obtain ⟨others, unwrapped⟩ := map_of_formed rfl formToo
  rw [unwrapped] at same ⊢
  rw [evaluate_map, evaluate_map, same]

def parenthesized (expression : Data) : Data :=
  taggedData "ParenthesisExpression" [("expression", expression)]

/-- Wrappers around an element, in what is spread, in a key and in a callee. -/
def wrappedRow : Data :=
  let awaited (expression : Data) := taggedData "AwaitExpression" [("argument", expression)]
  let last (expression : Data) :=
    taggedData "SequenceExpression" [("expressions",
      .list [nameData "y", parenthesized expression])]
  arrayData [.map [(.text "expression", parenthesized (awaited (textData "x")))],
    spreadElementData (last (rowData (parenthesized (nameData "x")))),
    .map [(.text "expression", objectData [entryData (computedData (last (textData "a")))
      (callData (parenthesized (nameData "f")))])]]

/-- The same row without them. The callee keeps its parentheses. -/
def plainRow : Data :=
  arrayData [.map [(.text "expression", textData "x")], spreadElementData (rowData (nameData "x")),
    .map [(.text "expression", objectData [entryData (computedData (textData "a"))
      (callData (parenthesized (nameData "f")))])]]

theorem evaluate_wrappedRow :
    Formed .full .expression wrappedRow ∧ unwrap id .expression wrappedRow = plainRow ∧
      evaluate {} plainRow = evaluate {} wrappedRow := by
  have form : Formed .full .expression wrappedRow := by decide
  have same : unwrap id .expression wrappedRow = plainRow := rfl
  exact ⟨form, same, same ▸ (evaluate_unwrap id {} form).2.2⟩

end Nodes

end StyleFold.Fold
