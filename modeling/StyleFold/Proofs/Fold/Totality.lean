import StyleFold.Proofs.Fold.Callee
import StyleFold.Proofs.Fold.Clean

/-!
Evaluation answers. A refusal that a script gives makes the result unknown wherever it comes up, so
of all that can go wrong only numerals are left: one out of range, and one with too many digits.
Main statement: a formed expression is evaluated to a result, or some part of it has a value that is
read as a numeral out of range, or an integer had too many digits.
-/

namespace StyleFold.Fold

/-! Outcomes that are an answer, or one of the two faults that may escape. -/

section Answers

variable {α β : Type} {blame : Prop}

/-- An answer with a property, a numeral out of range that something is to blame for,
or one that is too long. -/
def Safe (blame : Prop) (good : α → Prop) : Except Fault α → Prop
  | .ok a => good a
  | .error fault => fault = .refused .outOfRange ∧ blame ∨ fault = .refused .tooManyDigits

theorem safe_bind {first : α → Prop} {second : β → Prop} {outcome : Except Fault α}
    {next : α → Except Fault β} (safe : Safe blame first outcome)
    (onward : ∀ a, first a → Safe blame second (next a)) :
    Safe blame second (outcome >>= next) := by
  cases outcome with
  | ok a => exact onward a safe
  | error fault => exact safe

theorem safe_pure {good : α → Prop} {a : α} (holds : good a) : Safe blame good (pure a) := holds

def Answers (blame : Prop) (outcome : Except Fault Result) : Prop :=
  Safe blame (cleanResult · = true) outcome

theorem answers_value {v : Value} (clean : cleanValue v = true) (span : Option Span) :
    Answers blame (.ok (.value v span)) := clean

theorem answers_nonStatic : Answers blame (.ok .nonStatic) := rfl

variable {v a b : Value}

theorem answers_orNonStatic {outcome : Except Refusal Value}
    (tame : Tame blame (cleanValue · = true) outcome) (span : Option Span) :
    Answers blame (orNonStatic span outcome) := by
  cases outcome with
  | ok v => exact answers_value tame span
  | error why =>
      unfold orNonStatic
      cases why with
      | endless => exact absurd rfl tame.1
      | outOfRange => exact .inl ⟨rfl, tame.2 rfl⟩
      | tooManyDigits => exact .inr rfl
      | _ => rfl

theorem answers_binary {symbol : String} (known : isBinarySymbol symbol = true)
    (strict : Logical.ofSymbol? symbol = none) (left : Fair blame a) (right : Fair blame b)
    (span : Option Span) : Answers blame (binary symbol a b span) := by
  unfold binary
  split
  · rename_i comparison _
    exact answers_orNonStatic (tame_map (tame_compare _ comparison left right) fun _ _ => rfl) span
  · rename_i other
    split
    · exact answers_orNonStatic (tame_throwIsFalse (tame_hasProperty left.clean)) span
    · rename_i notIn
      split
      · exact answers_orNonStatic (tame_throwIsFalse (by simp [Value.instanceOf, Tame])) span
      · rename_i notInstance
        have arithmetic : (Arithmetic.ofSymbol? symbol).isSome := by
          simpa [isBinarySymbol, strict, other, notIn, notInstance] using known
        obtain ⟨operator, found⟩ := Option.isSome_iff_exists.mp arithmetic
        have tame := tame_apply operator left right
        simp only [Arithmetic.applySymbol, found]
        cases run : operator.apply a b with
        | ok v =>
            rw [run] at tame
            exact answers_value tame span
        | error why =>
            rw [run] at tame
            exact answers_orNonStatic tame span

def FairResult (blame : Prop) (result : Result) : Prop :=
  ∀ v span, result = .value v span → Fair blame v

theorem answers_binaryResults {symbol : String} {left right : Result}
    (known : isBinarySymbol symbol = true) (strict : Logical.ofSymbol? symbol = none)
    (first : FairResult blame left) (second : FairResult blame right) (span : Option Span) :
    Answers blame (binaryResults symbol left right span) := by
  unfold binaryResults
  split
  · exact answers_binary known strict (first _ _ rfl) (second _ _ rfl) span
  · exact answers_nonStatic

theorem answers_unary {symbol : String} (known : isUnarySymbol symbol = true)
    (kept : symbol ≠ "delete") (fair : Fair blame v) (span : Option Span) :
    Answers blame (unary symbol v span) := by
  have found : (Unary.ofSymbol? symbol).isSome := by simpa [isUnarySymbol, kept] using known
  obtain ⟨operator, same⟩ := Option.isSome_iff_exists.mp found
  have tame := tame_unary operator fair
  simp only [unary, same]
  cases run : operator.apply v with
  | ok w =>
      rw [run] at tame
      exact answers_orNonStatic tame span
  | error why =>
      rw [run] at tame
      dsimp only
      split
      · exact answers_value rfl span
      · exact answers_orNonStatic tame span

theorem decides_clean (operator : Logical) (clean : cleanValue v = true) :
    ∃ decided, operator.decides v = .ok decided := by
  cases operator with
  | and | or =>
      simp only [Logical.decides, test_clean clean]
      exact ⟨_, rfl⟩
  | coalesce => exact ⟨_, rfl⟩

theorem answers_logical (operator : Logical) {left : Result} {right : Except Fault Result}
    (first : cleanResult left = true) (second : Answers blame right) (span : Option Span) :
    Answers blame (operator.fold left right span) := by
  unfold Logical.fold
  cases left with
  | value v _ =>
      obtain ⟨decided, run⟩ := decides_clean operator first
      simp only [run, mapError_ok, ok_bind]
      split
      · exact answers_value first span
      · refine safe_bind second fun result clean => ?_
        cases result with
        | value w _ => exact answers_value clean span
        | _ => exact answers_nonStatic
  | _ => exact answers_nonStatic

def TextKey (key : Option Label) : Prop := ∃ name : Option String, key = name.map .text

theorem safe_keyOf {result : Result} (clean : cleanResult result = true) :
    Safe blame TextKey (keyOf result) := by
  unfold keyOf
  split
  · rename_i v span
    cases run : v.propertyKey with
    | ok name => exact ⟨some name, rfl⟩
    | error why =>
        rcases text_clean clean run with family | rfl
        · simp only [family, if_true]
          exact ⟨none, rfl⟩
        · exact .inr rfl
  · exact ⟨none, rfl⟩

theorem clean_of_get? {members : Members} {name : Label} {result : Result}
    (clean : cleanMembers members = true) (found : Members.get? members name = some result) :
    cleanResult result = true :=
  Assoc.holds_of_lookup (cleanResult · = true) (cleanMembers_iff.mp clean) found

theorem answers_readMember (key : String) (clean : cleanValue v = true) (span : Option Span) :
    Answers blame ((readMember v key span).mapError Fault.refused) := by
  unfold readMember
  split
  · split
    · rename_i result found
      exact cleanResult_respan span (clean_of_get? clean found)
    · simp only [mapError_ok, Answers, Safe]
      split <;> rfl
  · split
    · rfl
    · cases read : indexOfText key with
      | error why =>
          cases indexOfText_error read
          exact .inr rfl
      | ok place =>
          cases place with
          | none => rfl
          | some index =>
              simp only [Except.map, mapError_ok, Answers, Safe]
              split
              · rename_i result found
                exact cleanResult_respan span
                  (cleanResults_iff.mp clean _ (List.mem_of_getElem? found))
              · rfl
  · rfl

theorem answers_readResult {base : Result} (key : String) (clean : cleanResult base = true)
    (span : Option Span) : Answers blame (readResult base (.text key) span) := by
  unfold readResult
  split
  · rfl
  · exact answers_readMember key clean span
  · rfl

theorem safe_insertion {result : Result} (clean : cleanResult result = true) :
    Safe blame Any (insertion result) := by
  unfold insertion
  split
  · trivial
  · split
    · trivial
    · rename_i why failed
      rcases text_clean clean failed with family | rfl
      · simp [family, Safe, Any]
      · exact .inr rfl
  · trivial

end Answers

section Readings

variable {fragment : Fragment}

theorem pieceValue_text {node : Node}
    (follows : Follows fragment [⟨"cooked", .text, true⟩, ⟨"raw", .text, true⟩] node) :
    ∃ s, pieceValue node = .ok (.string s) := by
  have text (name : String) (asked : demandFor? [⟨"cooked", .text, true⟩, ⟨"raw", .text, true⟩]
      (.text name) = some ⟨name, .text, true⟩) :
      node.field? name = .ok none ∨
        ∃ s small, node.field? name = .ok (some ⟨.text s, small⟩) := by
    rcases follows.maybe name asked with lacks | ⟨part, reads, form⟩
    · exact .inl lacks.field?
    · obtain ⟨s, rfl⟩ := text_of_formed form
      exact .inr ⟨s, _, reads.field? (by simp)⟩
  unfold pieceValue
  rcases text "raw" rfl with raw | ⟨rawText, _, raw⟩ <;>
    rcases text "cooked" rfl with cooked | ⟨s, _, cooked⟩ <;>
    simp only [raw, cooked, ok_bind]
  · exact ⟨"", rfl⟩
  · split
    · exact ⟨"", rfl⟩
    · exact ⟨s, rfl⟩
  · exact ⟨rawText, rfl⟩
  · split
    · exact ⟨rawText, rfl⟩
    · exact ⟨s, rfl⟩

theorem evalPart_piece (table : ScopeTable) {piece : Data} (form : Formed fragment .piece piece) :
    ∃ s span, evalPart table piece = .ok (.value (.string s) span) := by
  obtain ⟨entries, rfl⟩ := map_of_formed rfl form
  obtain ⟨view, wanted, opened, asked, follows⟩ := formed_view form
  have kind : view.kind = some .templateElement := by
    unfold demands at asked
    split at asked <;> simp_all
  rw [kind] at asked
  cases asked
  obtain ⟨s, read⟩ := pieceValue_text follows
  refine ⟨s, view.span, ?_⟩
  rw [evalPart_map table opened, eval_piece table kind, read]
  rfl

end Readings

section Evaluation

variable {fragment : Fragment} (table : ScopeTable)

inductive Within (part : Data) : Data → Prop where
  | here : Within part part
  | entry {entries : Entries} {key value : Data} (member : (key, value) ∈ entries)
      (inside : Within part value) : Within part (.map entries)
  | item {items : List Data} {item : Data} (member : item ∈ items) (inside : Within part item) :
      Within part (.list items)

theorem within_trans {part whole root : Data} (inner : Within part whole)
    (outer : Within whole root) : Within part root := by
  induction outer with
  | here => exact inner
  | entry member _ ih => exact .entry member ih
  | item member _ ih => exact .item member ih

theorem within_read {node : Node} {name : String} {part root : Data} (reads : Reads node name part)
    (outer : Within (.map node.entries) root) : Within part root := by
  have member := Data.lookup?_mem reads.found
  exact within_trans (.entry member .here) outer

theorem within_items {node : Node} {name : String} {items : List Data} {root : Data}
    (reads : Reads node name (.list items)) (outer : Within (.map node.entries) root) :
    ∀ item ∈ items, Within item root :=
  fun _ member => within_trans (.item member .here) (within_read reads outer)

theorem within_view {entries : Entries} {view : Node} {root : Data}
    (opened : Node.ofEntries entries = .ok view) (inside : Within (.map entries) root) :
    Within (.map view.entries) root := by
  rwa [Node.entries_of_ofEntries opened]

def Overflows (root : Data) : Prop :=
  ∃ part v span, Within part root ∧ evaluate table part = .ok (.value v span) ∧ Oversized v

def AnswersBelow (fragment : Fragment) (root : Data) (bound : Nat) : Prop :=
  ∀ part, Within part root → sizeOf part < bound → Formed fragment .expression part →
    Answers (Overflows table root) (evalPart table part)

theorem sizeOf_read {node : Node} {name : String} {part : Data} (reads : Reads node name part) :
    sizeOf part < node.size := Data.sizeOf_lookup? reads.found

theorem fair_of_run {part root : Data} {result : Result} (inside : Within part root)
    (form : Formed fragment .expression part) (run : evalPart table part = .ok result)
    (clean : cleanResult result = true) : FairResult (Overflows table root) result := by
  rintro v span rfl
  obtain ⟨entries, rfl⟩ := map_of_formed rfl form
  rw [← evaluate_map] at run
  exact ⟨clean, fun oversized => ⟨_, v, span, inside, run, oversized⟩⟩

variable {root : Data} {bound : Nat} (below : AnswersBelow table fragment root bound)

include below

theorem answers_elements (span : Option Span) {items : List Data} (small : sizeOf items < bound)
    (inside : ∀ item ∈ items, Within item root)
    (form : ∀ item ∈ items, Formed fragment .element item) :
    Safe (Overflows table root) (∀ result ∈ ·, cleanResult result = true)
      (evalElements table span items) := by
  induction items with
  | nil =>
      rw [evalElements_nil]
      simp [Safe]
  | cons item rest ih =>
      simp only [List.cons.sizeOf_spec] at small
      have others := ih (by omega)
        (fun other member => inside other (List.mem_cons_of_mem item member))
        (fun other member => form other (List.mem_cons_of_mem item member))
      have spot := inside item List.mem_cons_self
      cases elementShape (form item List.mem_cons_self) with
      | hole =>
          rw [evalElements_hole]
          refine safe_bind others fun entries clean => safe_pure ?_
          simpa [cleanResult, cleanValue] using clean
      | @written entries view inner spread opened expression inner marks single =>
          have lower := Nat.lt_trans (sizeOf_read expression) (sizeOf_view opened)
          have part := within_read expression (within_view opened spot)
          rw [evalElements_cons table span opened expression marks]
          refine safe_bind (below _ part (by omega) inner) fun result first => ?_
          refine safe_bind others fun entries clean => safe_pure ?_
          have mine : ∀ entry ∈ elementEntries result spread, cleanResult entry = true := by
            unfold elementEntries
            split
            · simpa using first
            · exact cleanResults_iff.mp (cleanResults_spreadEntries first)
          intro entry member
          rcases List.mem_append.mp member with here | later
          · exact mine entry here
          · exact clean entry later

theorem safe_name {named : Node} {read : ScopeTable → Node → Except Fault (Option Label)}
    (small : named.size < bound) (inside : Within (.map named.entries) root)
    (shape : NameShape fragment named read) :
    Safe (Overflows table root) TextKey (read table named) := by
  cases shape with
  | written name reads =>
      rw [reads]
      exact ⟨some name, rfl⟩
  | computed expression reads form =>
      rw [reads]
      have part := within_read expression inside
      exact safe_bind (below _ part (Nat.lt_trans (sizeOf_read expression) small) form)
        fun result clean => safe_keyOf clean
  | unknown reads =>
      rw [reads]
      exact ⟨none, rfl⟩
  | overlong reads =>
      rw [reads]
      exact .inr rfl

theorem answers_properties {items : List Data} (small : sizeOf items < bound)
    (inside : ∀ item ∈ items, Within item root)
    (form : ∀ item ∈ items, Formed fragment .property item) {members : Members}
    (before : cleanMembers members = true) :
    Safe (Overflows table root) (cleanMembers · = true) (evalProperties table members items) := by
  -- The members collected so far are clean, and what is put among them is too.
  induction items generalizing members with
  | nil =>
      rw [evalProperties_nil]
      exact before
  | cons item rest ih =>
      simp only [List.cons.sizeOf_spec] at small
      have onward {members : Members} (clean : cleanMembers members = true) :
          Safe (Overflows table root) (cleanMembers · = true) (evalProperties table members rest) :=
        ih (by omega) (fun other member => inside other (List.mem_cons_of_mem item member))
          (fun other member => form other (List.mem_cons_of_mem item member)) clean
      obtain ⟨entries, rfl⟩ := map_of_formed rfl (form item List.mem_cons_self)
      obtain ⟨view, opened, shape⟩ := propertyShape (form _ List.mem_cons_self)
      have lower := sizeOf_view opened
      have spot := within_view opened (inside _ List.mem_cons_self)
      cases shape with
      | spread kind allowed arguments inner =>
          have part := sizeOf_read arguments
          rw [evalProperties_spread table opened kind arguments]
          refine safe_bind (below _ (within_read arguments spot) (by omega) inner)
            fun result clean => ?_
          exact onward (cleanMembers_putAll before (cleanMembers_spreadMembers clean))
      | entry kind named openedKey keyShape reads inner =>
          have part := sizeOf_read reads
          have keyPart := Nat.lt_trans (sizeOf_view openedKey) (sizeOf_read named)
          rw [evalProperties_entry table opened kind named openedKey reads]
          have keySpot := within_view openedKey (within_read named spot)
          refine safe_bind (safe_name table below (by omega) keySpot keyShape)
            fun key text => ?_
          obtain ⟨name, rfl⟩ := text
          cases name with
          | none => exact onward before
          | some name =>
              refine safe_bind (below _ (within_read reads spot) (by omega) inner)
                fun result clean => ?_
              exact onward (cleanMembers_put _ before clean)
      | shorthand kind reads =>
          rw [evalProperties_shorthand table opened kind reads]
          refine onward (cleanMembers_put _ before ?_)
          unfold named
          split <;> rfl
      | dropped kind =>
          rw [evalProperties_dropped table opened kind]
          exact onward before

theorem safe_joinPieces {pieces expressions : List Data} (small : sizeOf expressions < bound)
    (inside : ∀ expression ∈ expressions, Within expression root)
    (pieceForm : ∀ piece ∈ pieces, Formed fragment .piece piece)
    (form : ∀ expression ∈ expressions, Formed fragment .expression expression)
    (done : List String) :
    Safe (Overflows table root) Any (joinPieces table pieces expressions done) := by
  induction pieces generalizing expressions done with
  | nil => trivial
  | cons piece rest ih =>
      have restForm : ∀ other ∈ rest, Formed fragment .piece other :=
        fun other member => pieceForm other (List.mem_cons_of_mem piece member)
      obtain ⟨s, span, run⟩ := evalPart_piece table (pieceForm piece List.mem_cons_self)
      simp only [joinPieces, run, ok_bind, Value.text, mapError_ok]
      cases expressions with
      | nil => exact ih small inside restForm form _
      | cons expression others =>
          simp only [List.cons.sizeOf_spec] at small
          refine safe_bind (below _ (inside expression List.mem_cons_self) (by omega)
            (form expression List.mem_cons_self)) fun result clean => ?_
          refine safe_bind (safe_insertion clean) fun text _ => ?_
          cases text with
          | none => trivial
          | some inner =>
              exact ih (by omega)
                (fun other member => inside other (List.mem_cons_of_mem expression member)) restForm
                (fun other member => form other (List.mem_cons_of_mem expression member)) _

section Nodes

variable {node : Node}

theorem answers_read {name : String} {part : Data} (inside : Within (.map node.entries) root)
    (fits : node.size ≤ bound) (reads : Reads node name part)
    (form : Formed fragment .expression part) :
    Answers (Overflows table root) (evalPart table part) :=
  below part (within_read reads inside) (Nat.lt_of_lt_of_le (sizeOf_read reads) fits) form

/-- Operators may fail on what an operand is, so there the value is kept with its origin. -/
theorem safe_operand {name : String} {part : Data} (inside : Within (.map node.entries) root)
    (fits : node.size ≤ bound) (reads : Reads node name part)
    (form : Formed fragment .expression part) :
    Safe (Overflows table root)
      (fun result => cleanResult result = true ∧ FairResult (Overflows table root) result)
      (evalPart table part) := by
  have answers := answers_read table below inside fits reads form
  cases run : evalPart table part with
  | ok result =>
      rw [run] at answers
      exact ⟨answers, fair_of_run table (within_read reads inside) form run answers⟩
  | error fault =>
      rw [run] at answers
      exact answers

theorem answers_binaryNode {symbol : String} {left right : Data}
    (inside : Within (.map node.entries) root) (fits : node.size ≤ bound)
    (kind : node.kind = some .binaryExpression) (operator : Reads node "operator" (.text symbol))
    (known : isBinarySymbol symbol = true) (first : Reads node "left" left)
    (leftForm : Formed fragment .expression left) (second : Reads node "right" right)
    (rightForm : Formed fragment .expression right) :
    Answers (Overflows table root) (eval table node) := by
  rw [eval_binary table kind operator first second]
  refine safe_bind (safe_operand table below inside fits first leftForm) fun a left => ?_
  cases logical : Logical.ofSymbol? symbol with
  | some operator =>
      exact answers_logical operator left.1
        (answers_read table below inside fits second rightForm) node.span
  | none =>
      exact safe_bind (safe_operand table below inside fits second rightForm) fun b right =>
        answers_binaryResults known logical left.2 right.2 node.span

theorem answers_conditional {test consequent alternate : Data}
    (inside : Within (.map node.entries) root) (fits : node.size ≤ bound)
    (kind : node.kind = some .conditionalExpression) (asks : Reads node "test" test)
    (testForm : Formed fragment .expression test) (holds : Reads node "consequent" consequent)
    (holdsForm : Formed fragment .expression consequent) (fails : Reads node "alternate" alternate)
    (failsForm : Formed fragment .expression alternate) :
    Answers (Overflows table root) (eval table node) := by
  rw [eval_conditional table kind asks holds fails]
  refine safe_bind (answers_read table below inside fits asks testForm) fun result clean => ?_
  cases result with
  | value v span =>
      simp only [test_clean clean, mapError_ok, ok_bind]
      split
      · exact answers_read table below inside fits holds holdsForm
      · exact answers_read table below inside fits fails failsForm
  | _ => exact answers_nonStatic

theorem answers_template {pieces expressions : List Data}
    (inside : Within (.map node.entries) root) (fits : node.size ≤ bound)
    (kind : node.kind = some .templateLiteral) (quasis : Reads node "quasis" (.list pieces))
    (inner : Reads node "expressions" (.list expressions) ∨
      (Lacks node "expressions" ∧ expressions = []))
    (pieceForm : ∀ piece ∈ pieces, Formed fragment .piece piece)
    (form : ∀ expression ∈ expressions, Formed fragment .expression expression) :
    Answers (Overflows table root) (eval table node) := by
  have row {name : String} {items : List Data} (reads : Reads node name (.list items)) :
      sizeOf items < bound := Nat.lt_of_lt_of_le reads.small fits
  have small : sizeOf expressions < bound := by
    rcases inner with given | ⟨_, rfl⟩
    · exact row given
    · have := row quasis
      cases pieces <;> simp at this ⊢ <;> omega
  have parts : ∀ expression ∈ expressions, Within expression root := by
    rcases inner with given | ⟨_, rfl⟩
    · exact within_items given inside
    · simp
  rw [eval_template table kind quasis inner]
  refine safe_bind (safe_joinPieces table below small parts pieceForm form []) fun text _ => ?_
  cases text <;> rfl

theorem answers_call {entries : Entries} {callee : Node} {items : List Data}
    (inside : Within (.map node.entries) root) (fits : node.size ≤ bound)
    (kind : node.kind = some .callExpression) (called : Reads node "callee" (.map entries))
    (opened : Node.ofEntries entries = .ok callee)
    (calleeForm : Formed fragment .callee (.map entries))
    (given : Reads node "arguments" (.list items))
    (form : ∀ item ∈ items, Formed fragment .element item) :
    Answers (Overflows table root) (eval table node) := by
  obtain ⟨api, answered, _⟩ := calledApi?_answers table calleeForm opened
  rw [eval_call table kind called opened given]
  simp only [answered, ok_bind]
  split
  · refine safe_bind (answers_elements table below node.span
      (Nat.lt_of_lt_of_le given.small fits) (within_items given inside) form)
      fun entries clean => safe_pure (cleanResults_iff.mpr fun result member => ?_)
    exact clean result (List.mem_reverse.mp member)
  · exact answers_nonStatic

theorem answers_member {object : Data} {entries : Entries} {property : Node}
    (inside : Within (.map node.entries) root) (fits : node.size ≤ bound)
    (kind : node.kind = some .memberExpression) (base : Reads node "object" object)
    (form : Formed fragment .expression object) (named : Reads node "property" (.map entries))
    (opened : Node.ofEntries entries = .ok property)
    (shape : NameShape fragment property memberKey) :
    Answers (Overflows table root) (eval table node) := by
  have part := Nat.lt_trans (sizeOf_view opened) (sizeOf_read named)
  rw [eval_member table kind base named opened]
  refine safe_bind (answers_read table below inside fits base form) fun result clean => ?_
  have onward : Answers (Overflows table root)
      (memberKey table property >>= readNamed result node.span) := by
    have spot := within_view opened (within_read named inside)
    refine safe_bind (safe_name table below (Nat.lt_of_lt_of_le part fits) spot shape)
      fun key text => ?_
    obtain ⟨name, rfl⟩ := text
    cases name with
    | none => exact answers_nonStatic
    | some name => exact answers_readResult name clean node.span
  cases result with
  | nonStatic => exact answers_nonStatic
  | _ => exact onward

theorem answers_node (inside : Within (.map node.entries) root)
    (fits : node.size ≤ bound) (shape : Shape fragment node) :
    Answers (Overflows table root) (eval table node) := by
  have row {name : String} {items : List Data} (reads : Reads node name (.list items)) :
      sizeOf items < bound := Nat.lt_of_lt_of_le reads.small fits
  cases shape with
  | string kind value =>
      rw [eval_literal table (.inl kind) value]
      rfl
  | boolean kind value =>
      rw [eval_literal table (.inr kind) value]
      rfl
  | number kind value form =>
      obtain ⟨x, read⟩ := numberOf_formed form
      rw [eval_number table kind value, read]
      rfl
  | bigint kind written =>
      obtain ⟨i, read⟩ := bigintOf_written written
      rw [eval_bigint table kind, read]
      rfl
  | null kind =>
      rw [eval_null table kind]
      rfl
  | regexp kind source marks =>
      rw [eval_regexp table kind source marks]
      rfl
  | identifier kind value =>
      rw [eval_identifier table kind value, named]
      split <;> rfl
  | array kind elements form =>
      rw [eval_array table kind elements]
      exact safe_bind (answers_elements table below node.span (row elements)
        (within_items elements inside) form)
        fun entries clean => safe_pure (cleanResults_iff.mpr clean)
  | object kind properties form =>
      rw [eval_object table kind properties]
      exact safe_bind (answers_properties table below (row properties)
        (within_items properties inside) form rfl)
        fun members clean => safe_pure clean
  | binary kind operator known first leftForm second rightForm =>
      exact answers_binaryNode table below inside fits kind operator known first leftForm second
        rightForm
  | unary kind operator known part form =>
      rw [eval_unary table kind operator part]
      split
      · exact answers_nonStatic
      · rename_i kept
        refine safe_bind (safe_operand table below inside fits part form) fun result answered => ?_
        cases result with
        | value v span => exact answers_unary known kept (answered.2 v span rfl) node.span
        | _ => exact answers_nonStatic
  | passing tagged passes inner form =>
      rw [eval_passing table tagged passes inner]
      exact answers_read table below inside fits inner form
  | conditional kind asks testForm holds holdsForm fails failsForm =>
      exact answers_conditional table below inside fits kind asks testForm holds holdsForm fails
        failsForm
  | template kind quasis inner pieceForm form =>
      exact answers_template table below inside fits kind quasis inner pieceForm form
  | piece kind follows =>
      obtain ⟨s, read⟩ := pieceValue_text follows
      rw [eval_piece table kind, read]
      rfl
  | call kind called opened calleeForm given form =>
      exact answers_call table below inside fits kind called opened calleeForm given form
  | member kind base form named opened shape =>
      exact answers_member table below inside fits kind base form named opened shape
  | sequence kind expressions ends form =>
      have member := List.sizeOf_lt_of_mem (List.mem_of_getLast? ends)
      rw [eval_sequence table kind expressions ends]
      exact below _ (within_items expressions inside _ (List.mem_of_getLast? ends))
        (Nat.lt_trans member (row expressions)) form
  | unread tagged free =>
      rw [eval_unread table tagged free]
      exact answers_nonStatic

end Nodes

omit below

theorem answers_formed (root : Data) (bound : Nat) : AnswersBelow table fragment root bound := by
  induction bound with
  | zero => exact fun part _ small => absurd small (Nat.not_lt_zero _)
  | succ bound ih =>
      -- The root stays the same, so that a fault deep inside is blamed on a part of the whole.
      intro part inside small form
      obtain ⟨entries, rfl⟩ := map_of_formed rfl form
      obtain ⟨view, opened, kinds⟩ := shape form
      rw [evalPart_map table opened]
      have lower := sizeOf_view opened
      exact answers_node table ih (within_view opened inside) (by omega) kinds

theorem clean_of_folded {data : Data} {v : Value} {span : Option Span}
    (form : Formed fragment .expression data)
    (run : evaluate table data = .ok (.value v span)) : cleanValue v = true := by
  obtain ⟨entries, rfl⟩ := map_of_formed rfl form
  rw [evaluate_map] at run
  have clean := answers_formed table _ _ _ .here (Nat.lt_succ_self _) form
  rw [run] at clean
  exact clean

theorem radix_of_whole {text : List Char} {value : Nat}
    (read : Numeral.read? text = some (.whole value)) (large : Double.ofInt? value = none) :
    readRadix? (Text.trim Text.isScriptBlank text) = some value := by
  unfold Numeral.read? at read
  dsimp only at read
  -- The empty text, infinity, a radix numeral, a decimal one: only the third gives a large whole.
  split at read
  · cases read
    exact absurd large (by decide)
  · split at read
    · rename_i numeral infinite
      cases read
      unfold Numeral.readInfinity? at infinite
      dsimp only at infinite
      split at infinite <;> cases infinite
    · split at read
      · rename_i found
        cases read
        exact found
      · unfold Numeral.readDecimal? at read
        dsimp only at read
        split at read
        · cases read
        · split at read <;> cases read

/-- Only a numeral with a radix mark can be out of range; a decimal one rounds to infinity. -/
theorem numberOfText_refused {text : String} {why : Refusal}
    (failed : numberOfText text = .error why) :
    why = .outOfRange ∧ ∃ value,
      readRadix? (Text.trim Text.isScriptBlank text.toList) = some value ∧
      Double.ofInt? value = none := by
  unfold numberOfText at failed
  split at failed
  · cases failed
  · rename_i numeral read
    split at failed
    · cases failed
    · rename_i none
      cases failed
      refine ⟨rfl, ?_⟩
      cases numeral with
      | infinite negative => cases none
      | decimal negative digits exponent => cases none
      | whole value =>
          refine ⟨value, ?_, none⟩
          exact radix_of_whole read none

/-- A formed expression is evaluated to a result, whatever is in scope. Of the two faults that may
escape one is met when the value of some part is read as a number and its text is a radix numeral
beyond the range of doubles, and the other when an integer has too many digits. -/
theorem evaluate_answers (data : Data) (form : Formed .full .expression data) :
    (∃ result, evaluate table data = .ok result) ∨
      (evaluate table data = .error (.refused .outOfRange) ∧
        ∃ part v span text value, Within part data ∧ evaluate table part = .ok (.value v span) ∧
          v.text = .ok text ∧ numberOfText text = .error .outOfRange ∧
          readRadix? (Text.trim Text.isScriptBlank text.toList) = some value ∧
          Double.ofInt? value = none) ∨
      evaluate table data = .error (.refused .tooManyDigits) := by
  have answers := answers_formed table data (sizeOf data + 1) data .here (Nat.lt_succ_self _) form
  obtain ⟨entries, rfl⟩ := map_of_formed rfl form
  rw [evaluate_map]
  cases run : evalPart table (.map entries) with
  | ok result => exact .inl ⟨result, rfl⟩
  | error fault =>
      rw [run] at answers
      rcases answers with ⟨rfl, part, v, span, inside, known, text, spelt, failed⟩ | rfl
      · obtain ⟨_, value, read, large⟩ := numberOfText_refused failed
        have same : v.text = .ok text := by
          rcases spelt with rfl | ⟨_, read⟩
          · rfl
          · exact read
        exact .inr (.inl ⟨rfl, part, v, span, text, value, inside, known, same,
          failed, read, large⟩)
      · exact .inr (.inr rfl)

def taggedData (tag : String) (fields : List (String × Data)) : Data :=
  .map ((.text "type", .text tag) :: fields.map fun field => (.text field.1, field.2))

/-- An object with a spread array and a comparison under a key that hangs on an unknown element. -/
def unknownKey : Data :=
  let name (s : String) := taggedData "Identifier" [("value", .text s)]
  let array (item : Data) := taggedData "ArrayExpression"
    [("elements", .list [.map [(.text "expression", item)], .null])]
  let piece (s : String) := taggedData "TemplateElement" [("cooked", .text s)]
  taggedData "ObjectExpression" [("properties", .list [
    taggedData "SpreadElement" [("arguments", array (name "x"))],
    taggedData "KeyValueProperty" [
      ("key", taggedData "Computed" [("expression", taggedData "TemplateLiteral" [
        ("quasis", .list [piece "k", piece ""]), ("expressions", .list [array (name "y")])])]),
      ("value", taggedData "BinaryExpression" [("operator", .text "<"),
        ("left", taggedData "BigIntLiteral" [("value", .text "1n")]),
        ("right", taggedData "StringLiteral" [("value", .text "0x2")])])]])]

example : Formed .full .expression unknownKey := by decide

end Evaluation

end StyleFold.Fold
