import StyleFold.Proofs.Fold.Shift
import StyleFold.Proofs.Style.Conduct
import StyleFold.Proofs.Walk.Pair
import StyleFold.Proofs.Walk.Shift

/-!
Surveys of moved trees. Every span is looked at relative to the start of its file, so the handlers
of a survey answer alike on a tree and on the moved tree, and also when the cursor and the start of
the file are counted from somewhere else. Main statement: each handler, on corresponding nodes and
worlds, does corresponding things.
-/

namespace StyleFold

section Tables

variable (d : Int)

def movedFrame (frame : Frame) : Frame := frame.map fun entry => (entry.1, entry.2.moved d)

def ScopeTable.moved (table : ScopeTable) : ScopeTable :=
  { table with frames := table.frames.map (movedFrame d) }

theorem sameNames_moved (table : ScopeTable) : Fold.SameNames table (table.moved d) := ⟨rfl, rfl⟩

theorem push_moved (table : ScopeTable) : (table.moved d).push = table.push.moved d := rfl

theorem record_moved (table : ScopeTable) (binding : Binding) :
    (table.moved d).record binding = (table.record binding).moved d := by
  cases binding with
  | library name =>
      simp only [ScopeTable.record, ScopeTable.addNamespace]
      rw [show (table.moved d).namespaces = table.namespaces from rfl]
      split <;> rfl
  | entry name imported => rfl

theorem recordAll_moved (table : ScopeTable) (bindings : List Binding) :
    (table.moved d).recordAll bindings = (table.recordAll bindings).moved d := by
  unfold ScopeTable.recordAll
  induction bindings generalizing table with
  | nil => rfl
  | cons binding rest ih => rw [List.foldl_cons, List.foldl_cons, record_moved, ih]

theorem put_movedFrame (frame : Frame) (name : Label) (value : Value) :
    Assoc.put name (value.moved d) (movedFrame d frame) =
      movedFrame d (Assoc.put name value frame) := by
  unfold movedFrame
  induction frame with
  | nil => rfl
  | cons entry rest ih =>
      obtain ⟨other, old⟩ := entry
      simp only [List.map_cons, Assoc.put]
      split
      · rfl
      · rw [List.map_cons, ih]

theorem lookup_movedFrame (frame : Frame) (name : Label) :
    (movedFrame d frame).lookup name = (frame.lookup name).map (Value.moved d) := by
  unfold movedFrame
  induction frame with
  | nil => rfl
  | cons entry rest ih =>
      obtain ⟨other, old⟩ := entry
      simp only [List.map_cons, List.lookup_cons]
      split
      · rfl
      · exact ih

theorem lookup?_moved (table : ScopeTable) (name : Label) :
    (table.moved d).lookup? name = (table.lookup? name).map (Value.moved d) := by
  unfold ScopeTable.lookup? ScopeTable.moved
  dsimp only
  induction table.frames with
  | nil => rfl
  | cons frame rest ih =>
      simp only [List.map_cons, List.findSome?_cons, lookup_movedFrame]
      cases frame.lookup name with
      | none => exact ih
      | some value => rfl

end Tables

section Declarations

variable {d : Int} {node other : Node}

/-- The same bindings, and the same outcome up to words. -/
structure DeclaredAgree (d : Int) (declared further : Declared) : Prop where
  bindings : further.bindings = declared.bindings
  outcome : Agree d Eq declared.outcome further.outcome

theorem declaredAgree_refused {fault late : Fault} (reworded : Reworded d fault late) :
    DeclaredAgree d (.refused fault) (.refused late) := ⟨rfl, .fault reworded⟩

theorem declaredAgree_ofExcept {first second : Except Fault Declared}
    (agree : Agree d (DeclaredAgree d) first second) :
    DeclaredAgree d (.ofExcept first) (.ofExcept second) := by
  cases agree with
  | ok related => exact related
  | fault reworded => exact declaredAgree_refused reworded

theorem declaredAgree_collect {read : Data → Except Fault (Option Binding)}
    (reads : ∀ data further, data.MovesTo d further → Agree d Eq (read data) (read further))
    {items others : List Data} (moves : List.Forall₂ (Data.MovesTo d) items others) :
    DeclaredAgree d (.collect read items) (.collect read others) := by
  induction moves with
  | nil => exact ⟨rfl, .ok rfl⟩
  | @cons item further rest others first later ih =>
      have here := reads item further first
      simp only [Declared.collect]
      generalize read item = a, read further = b at here
      cases here with
      | fault reworded => exact declaredAgree_refused reworded
      | ok same =>
          subst same
          exact ⟨by rw [ih.bindings], ih.outcome⟩

theorem agree_nameOf? (moves : node.MovesTo d other) :
    Agree d Eq (Binding.nameOf? node) (Binding.nameOf? other) := by
  have written (tagged : node.kind = some .identifier ∨ node.kind = some .stringLiteral) :
      Agree d Eq (do return (← node.label "value").unlessNull)
        (do return (← other.label "value").unlessNull) := by
    have label : Agree d Eq (node.label "value") (other.label "value") := by
      rcases tagged with tagged | tagged <;>
        exact agree_writtenLabel moves tagged "value" (by decide) (by decide) (by decide)
    exact agree_bind label fun name _ same => .ok (congrArg Label.unlessNull same)
  unfold Binding.nameOf?
  rw [moves.kind]
  split
  · exact written (.inl (by assumption))
  · exact written (.inr (by assumption))
  · exact .ok rfl

theorem agree_nameOfPart? {data further : Data} (moves : data.MovesTo d further) :
    Agree d Eq (Binding.nameOfPart? data) (Binding.nameOfPart? further) := by
  have opened := agree_bind (agree_expect moves) fun node _ inner => agree_nameOf? inner
  rw [moves.moved] at opened ⊢
  cases data <;> first | exact .ok rfl | exact opened

theorem agree_hasFlag (moves : node.MovesTo d other) {name : String}
    (free : Node.isReserved (.text name) = false) :
    Agree d Eq (Binding.hasFlag node name) (Binding.hasFlag other name) := by
  have empty (data : Data) : Fold.isEmptyPart (data.moved d) = Fold.isEmptyPart data := by
    cases data with
    | list items => cases items <;> rfl
    | _ => rfl
  refine agree_bind (agree_field? moves free) fun part further here => .ok ?_
  cases here with
  | none => rfl
  | some moves => simp only [Option.map_some, Binding.isSet, moves.moved, empty]

theorem agree_localOf (moves : node.MovesTo d other) :
    Agree d SameKey (Binding.localOf node) (Binding.localOf other) :=
  agree_bind (agree_child moves (by decide)) fun _ _ inner => agree_label inner (by decide)

theorem agree_ofSpecifier {data further : Data} (moves : data.MovesTo d further) :
    Agree d Eq (Binding.ofSpecifier data) (Binding.ofSpecifier further) := by
  refine agree_bind (agree_expect moves) fun specifier again inner => ?_
  have library : Agree d Eq
      (do return some (Binding.library (← (← Binding.localOf specifier.val).key)))
      (do return some (Binding.library (← (← Binding.localOf again.val).key))) := by
    refine agree_bind (agree_localOf inner) fun name _ same => ?_
    refine agree_bind (agree_key same) fun name _ equal => .ok ?_
    rw [equal]
  dsimp only
  rw [inner.kind]
  split
  · exact library
  · exact library
  · refine agree_bind (agree_hasFlag inner (by decide)) fun only _ same => ?_
    subst same
    split
    · exact .ok rfl
    · refine agree_bind (agree_localOf inner) fun name late same => ?_
      refine agree_bind (agree_field? inner (by decide)) fun part _ here => ?_
      -- Both names are the same once they can be looked up.
      have entered (imported : Option Label) : Agree d Eq
          (do
            return some (Binding.entry (← name.key)
              ((imported.filter fun label => !label.isEmpty).getD name)))
          (do
            return some (Binding.entry (← late.key)
              ((imported.filter fun label => !label.isEmpty).getD late))) := by
        rcases same with rfl | ⟨left, right⟩
        · refine agree_bind (agree_key (.inl rfl)) fun key _ equal => .ok ?_
          rw [equal]
        · simp only [Label.key, left, right]
          exact agree_fault (by decide)
      cases here with
      | none => exact entered none
      | some part =>
          refine agree_bind (agree_nameOfPart? part) fun imported _ equal => ?_
          subst equal
          exact entered imported
  · exact .ok rfl

theorem agree_sourceOf? (moves : node.MovesTo d other) :
    Agree d Eq (Binding.sourceOf? node) (Binding.sourceOf? other) := by
  refine agree_bind (agree_field moves (by decide)) fun source _ part => ?_
  exact agree_bind (agree_nameOfPart? part) fun name _ same => .ok (by rw [same])

theorem declaredAgree_ofImport (settings : Settings) (moves : node.MovesTo d other) :
    DeclaredAgree d (Binding.ofImport settings node) (Binding.ofImport settings other) := by
  apply declaredAgree_ofExcept
  have unrelated : DeclaredAgree d .unrelated .unrelated := ⟨rfl, .ok rfl⟩
  rw [moves.isKind]
  split
  · exact .ok unrelated
  · refine agree_bind (agree_hasFlag moves (by decide)) fun only _ same => ?_
    subst same
    split
    · exact .ok unrelated
    · refine agree_bind (agree_sourceOf? moves) fun source _ same => ?_
      subst same
      split
      · exact .ok unrelated
      · refine agree_bind (agree_row moves (by decide) (by decide)) fun row _ each => ?_
        cases each with
        | ok each => exact .ok (declaredAgree_collect (fun _ _ => agree_ofSpecifier) each)
        | fault reworded => exact .ok (declaredAgree_refused reworded)

theorem agree_requiredModule? (moves : node.MovesTo d other) :
    Agree d Eq (Binding.requiredModule? node) (Binding.requiredModule? other) := by
  unfold Binding.requiredModule?
  rw [moves.isKind]
  split
  · exact .ok rfl
  · refine agree_bind (agree_child moves (by decide)) fun callee _ called => ?_
    rw [called.isKind]
    split
    · exact .ok rfl
    · refine agree_bind (agree_word? called (by decide)) fun word _ same => ?_
      subst same
      split
      · exact .ok rfl
      · refine agree_bind (agree_field? moves (by decide)) fun part further here => ?_
        cases here with
        | none => exact .ok rfl
        | @some part further here =>
            obtain ⟨data, small⟩ := part
            obtain ⟨moved, less⟩ := further
            obtain ⟨same, fit⟩ := here
            dsimp only at same fit
            subst same
            cases data with
            | list items =>
                cases items with
                | nil => exact .ok rfl
                | cons argument rest =>
                    cases rest with
                    | cons => exact .ok rfl
                    | nil =>
                        refine agree_bind (agree_expect (⟨rfl, fit.1⟩ : argument.MovesTo d _))
                          fun argument _ inner => ?_
                        refine agree_bind (agree_field? inner (by decide)) fun spread _ marks => ?_
                        cases marks with
                        | some => exact .ok rfl
                        | none =>
                            refine agree_bind (agree_child inner (by decide))
                              fun source _ text => ?_
                            rw [text.isKind]
                            split
                            · exact .ok rfl
                            · exact agree_word? text (by decide)
            | text s =>
                simp only [Data.moved]
                split
                · exact agree_fault (by decide)
                · exact .ok rfl
            | _ => exact agree_fault (by decide)

theorem agree_ofPattern {data further : Data} (moves : data.MovesTo d further) :
    Agree d Eq (Binding.ofPattern data) (Binding.ofPattern further) := by
  refine agree_bind (agree_expect moves) fun property _ inner => ?_
  dsimp only
  rw [inner.kind]
  split
  · refine agree_bind (agree_child inner (by decide)) fun key _ named => ?_
    refine agree_bind (agree_label named (by decide)) fun label _ same => ?_
    exact agree_bind (agree_key same) fun name _ equal => .ok (by rw [equal])
  · refine agree_bind (agree_field inner (by decide)) fun key _ part => ?_
    refine agree_bind (agree_nameOfPart? part) fun imported _ same => ?_
    subst same
    cases imported with
    | none => exact .ok rfl
    | some imported =>
        refine agree_bind (agree_child inner (by decide)) fun target _ named => ?_
        rw [named.isKind]
        split
        · refine agree_bind (agree_label named (by decide)) fun label _ same => ?_
          exact agree_bind (agree_key same) fun name _ equal => .ok (by rw [equal])
        · exact .ok rfl
  · exact .ok rfl

def declaredBy (settings : Settings) (node : Node) (required : Option String) :
    Except Fault Declared := do
  if !settings.isLibrary required then return .unrelated
  let target ← node.child "id"
  match target.val.kind with
  | some .identifier => return ⟨[.library (← (← target.val.label "value").key)], .ok true⟩
  | some .objectPattern =>
      let properties ← target.val.items "properties" .noAttribute
      return Declared.collect Binding.ofPattern properties.val
  | _ => return .unrelated

theorem declaredAgree_ofRequire (settings : Settings) (moves : node.MovesTo d other) :
    DeclaredAgree d (Binding.ofRequire settings node) (Binding.ofRequire settings other) := by
  apply declaredAgree_ofExcept
  have unrelated : DeclaredAgree d .unrelated .unrelated := ⟨rfl, .ok rfl⟩
  rw [moves.isKind]
  split
  · exact .ok unrelated
  · have bound (required : Option String) : Agree d (DeclaredAgree d)
        (declaredBy settings node required) (declaredBy settings other required) := by
      unfold declaredBy
      split
      · exact .ok unrelated
      · refine agree_bind (agree_child moves (by decide)) fun target _ named => ?_
        rw [named.kind]
        split
        · refine agree_bind (agree_label named (by decide)) fun label _ same => ?_
          refine agree_bind (agree_key same) fun name _ equal => .ok ⟨?_, .ok rfl⟩
          rw [equal]
        · refine agree_bind (agree_items named (by decide) (by decide)) fun items _ each => .ok ?_
          exact declaredAgree_collect (fun _ _ => agree_ofPattern) each
        · exact .ok unrelated
    refine agree_bind (agree_field? moves (by decide)) fun part _ here => ?_
    cases here with
    | none => exact bound none
    | some part =>
        refine agree_bind (agree_expect part) fun call _ inner => ?_
        refine agree_bind (agree_requiredModule? inner) fun required _ same => ?_
        subst same
        exact bound required

end Declarations

section Constants

variable {d : Int} {node other : Node}

theorem agree_constantOf? {table further : ScopeTable} (names : Fold.SameNames table further)
    {data late : Data} (moves : data.MovesTo d late) :
    Agree d (Option.Rel fun a b => b.1 = a.1 ∧ b.2 = a.2.moved d) (Survey.constantOf? table data)
      (Survey.constantOf? further late) := by
  refine agree_bind (agree_expect moves) fun declarator _ inner => ?_
  refine agree_bind (agree_field? inner (by decide)) fun initial _ here => ?_
  cases here with
  | none => exact .ok .none
  | some part =>
      refine agree_bind (agree_child inner (by decide)) fun target _ named => ?_
      dsimp only
      rw [named.isKind]
      split
      · exact .ok .none
      · rename_i plain
        have tagged : target.val.kind = some .identifier := by
          simpa [Node.isKind] using plain
        refine agree_bind (Fold.agreeBelow names _ _ _ (Nat.lt_succ_self _) part)
          fun result _ same => ?_
        subst same
        cases result with
        | value v span =>
            refine agree_bind (agree_writtenLabel named tagged "value" (by decide) (by decide)
              (by decide)) fun name _ same => .ok (.some ⟨same.symm, rfl⟩)
        | _ => exact .ok .none

structure Retold (d : Int) (fault other : Fault) : Prop where
  family : other.family = fault.family
  same : d = 0 → other = fault

theorem Reworded.retold {fault late : Fault} (reworded : Reworded d fault late) :
    Retold d fault late :=
  ⟨reworded.family, reworded.same⟩

theorem bindConstants_moved (table : ScopeTable) {items others : List Data}
    (moves : List.Forall₂ (Data.MovesTo d) items others) :
    (∃ bound, Survey.bindConstants table items = .ok bound ∧
      Survey.bindConstants (table.moved d) others = .ok (bound.moved d)) ∨
    ∃ fault late, Survey.bindConstants table items = .error fault ∧
      Survey.bindConstants (table.moved d) others = .error late ∧ Retold d fault late := by
  induction moves generalizing table with
  | nil => exact .inl ⟨table, rfl, rfl⟩
  | @cons item moved rest others first later ih =>
      have here := agree_constantOf? (sameNames_moved d table) first
      simp only [Survey.bindConstants]
      generalize Survey.constantOf? table item =
        a, Survey.constantOf? (table.moved d) moved = b at here
      cases here with
      | fault reworded => exact .inr ⟨_, _, rfl, rfl, reworded.retold⟩
      | ok found =>
          cases found with
          | none => exact ih table
          | @some entry further same =>
              obtain ⟨_, value⟩ := entry
              obtain ⟨name, _⟩ := further
              dsimp only at same
              obtain ⟨rfl, rfl⟩ := same
              -- Without a frame both sides refuse the name, in the same words.
              cases frames : table.frames with
              | nil =>
                  refine .inr ⟨.nowhereToBind name.shown, .nowhereToBind name.shown, ?_, ?_, rfl,
                    fun _ => rfl⟩
                  · simp [ScopeTable.bind, frames, bind, Except.bind]
                  · simp [ScopeTable.bind, ScopeTable.moved, frames, bind, Except.bind]
              | cons inner outer =>
                  have left : table.bind name value =
                      .ok { table with frames := Assoc.put name value inner :: outer } := by
                    simp [ScopeTable.bind, frames]
                  have right : (table.moved d).bind name (value.moved d) =
                      .ok (ScopeTable.moved d
                        { table with frames := Assoc.put name value inner :: outer }) := by
                    simp only [ScopeTable.bind, ScopeTable.moved, frames, List.map_cons,
                      put_movedFrame]
                  -- A name that cannot be a key is refused after the constant was folded.
                  cases keys : name.key with
                  | error fault =>
                      have unscoped := agree_key (d := d) (.inl rfl : SameKey name name)
                      rw [keys] at unscoped
                      cases unscoped with
                      | fault reworded =>
                          refine .inr ⟨fault, fault, ?_, ?_, reworded.retold⟩
                          · simp [left, keys, bind, Except.bind]
                          · simp [right, keys, bind, Except.bind]
                  | ok key =>
                      simp only [left, right, keys, bind, Except.bind]
                      exact ih _

theorem agree_cssKeyOf? (table : ScopeTable) {property further : Node}
    (moves : property.MovesTo d further) :
    Agree d Eq (Css.keyOf? table property) (Css.keyOf? (table.moved d) further) := by
  have written {key late : Node} (inner : key.MovesTo d late) {kind : Kind}
      (tagged : key.kind = some kind) (leaf : "value" ∈ writtenFields kind) :
      Agree d Eq (do return (← key.label "value").unlessNull)
        (do return (← late.label "value").unlessNull) :=
    agree_bind (agree_writtenLabel inner tagged "value" leaf (by decide) (by decide))
      fun name _ same => .ok (congrArg Label.unlessNull same)
  refine agree_bind (agree_child moves (by decide)) fun key _ inner => ?_
  dsimp only
  rw [inner.kind]
  split
  · exact written inner (by assumption) (by decide)
  · exact written inner (by assumption) (by decide)
  · refine agree_bind (agree_child inner (by decide)) fun expression _ deeper => ?_
    rw [deeper.kind]
    split
    · exact written deeper (by assumption) (by decide)
    · refine agree_bind (agree_label deeper (by decide)) fun name _ same => ?_
      rw [show (table.moved d).frames.isEmpty = table.frames.isEmpty by simp [ScopeTable.moved]]
      split
      · exact .ok rfl
      · refine agree_bind (agree_key same) fun key _ equal => ?_
        subst equal
        rw [lookup?_moved]
        cases table.lookup? key with
        | none => exact .ok rfl
        | some constant =>
            simp only [Option.map_some, Css.constantKey, text_moved]
            cases constant.text with
            | ok text => exact .ok rfl
            | error why =>
                dsimp only
                split
                · exact .ok rfl
                · exact agree_refusal why
    · exact .ok rfl
  · exact .ok rfl

end Constants

section Worlds

variable {Finding : Type} {d s : Int} {findings : Finding → Finding → Prop}
  {survey other : Survey Finding}

/-- A query about the same place, when offsets in the file are counted from elsewhere. -/
def Query.moved (s : Int) (query : Query) : Query :=
  { query with cursor := query.cursor + s, startOffset := query.startOffset + s }

namespace Survey

structure Follows (d : Int) (findings : Finding → Finding → Prop) (survey other : Survey Finding) :
    Prop where
  table : other.table = survey.table.moved d
  found : Option.Rel findings survey.found other.found
  cancelled : other.cancelled = survey.cancelled

/-- The same after the file has been opened, where offsets in the file differ by a
distance of their own. -/
structure Moves (d s : Int) (findings : Finding → Finding → Prop) (survey other : Survey Finding) :
    Prop
    extends Follows d findings survey other where
  origin : other.origin = survey.origin + d - s

theorem relative_moved (moves : survey.Moves d s findings other) (span : Span) :
    other.relative (span.shifted d) = (survey.relative span).shifted s := by
  rw [relative, relative, Span.shifted_shifted, Span.shifted_shifted, moves.origin]
  congr 1
  omega

theorem contains_moved (moves : survey.Moves d s findings other) (span : Span) (query : Query) :
    (other.relative (span.shifted d)).contains (query.moved s).cursor =
      (survey.relative span).contains query.cursor := by
  rw [relative_moved moves, Span.contains_shifted, Query.moved, Int.add_sub_cancel]

/-- Corresponding answers of handlers, or faults that differ in words only. -/
abbrev Alike {State : Type} (d s : Int) (findings : Finding → Finding → Prop) :
    EStateM.Result Fault (Survey Finding) (Walk.Action State) →
      EStateM.Result Fault (Survey Finding) (Walk.Action State) → Prop :=
  Walk.Beside (fun action survey answer other => Walk.SameAction Eq action answer ∧
    survey.Moves d s findings other) (fun fault survey late other => Reworded d fault late ∧
    survey.Moves d s findings other)

def sameTree (State : Type) (d : Int) : Walk.Likeness State State where
  nodes := Node.MovesTo d
  parents := Node.MovesTo d
  states := Eq

def OwnAlike {State : Type} (d s : Int) (findings : Finding → Finding → Prop)
    (own further : Kind → Option (Handler State Finding)) : Prop :=
  ∀ kind node again (state : State) parent parent' survey other, node.kind = some kind →
    node.MovesTo d again → Option.Rel (Node.MovesTo d) parent parent' →
    Survey.Moves d s findings survey other →
    Option.Rel (fun first second => Alike d s findings (first node state parent survey)
      (second again state parent' other)) (own kind) (further kind)

end Survey

end Worlds

section Handlers

namespace Survey

variable {State Finding : Type} {d s : Int} {findings : Finding → Finding → Prop}
  {survey other : Survey Finding} {node further : Node} {state : State}
  {parent parent' : Option Node}

theorem isNear_moved (moves : survey.Moves d s findings other) (nodes : node.MovesTo d further)
    (query : Query) : other.isNear (query.moved s) further = survey.isNear query node := by
  unfold isNear
  rw [nodes.span, nodes.kind]
  cases node.span with
  | none => rfl
  | some span =>
      dsimp only [Option.map_some]
      rw [contains_moved moves]

theorem alike_prune (moves : survey.Moves d s findings other) (nodes : node.MovesTo d further)
    (query : Query) :
    Alike d s findings (prune query node state parent survey)
      (prune (query.moved s) further state parent' other) := by
  have first : prune query node state parent survey =
      .ok (if survey.isNear query node then .keep else .skipChildren) survey := rfl
  have second : prune (query.moved s) further state parent' other =
      .ok (if other.isNear (query.moved s) further then .keep else .skipChildren) other := rfl
  rw [first, second, isNear_moved moves nodes]
  refine .ok ⟨?_, moves⟩
  split
  · exact .keep
  · exact .skipChildren

theorem alike_openFile (follows : survey.Follows d findings other) (nodes : node.MovesTo d further)
    (query : Query) :
    Walk.Beside (fun action survey answer other => Walk.SameAction Eq action answer ∧
      survey.Moves d s findings other) (fun fault survey late other => Reworded d fault late ∧
      survey.Follows d findings other) (openFile query node state parent survey)
      (openFile (query.moved s) further state parent' other) := by
  unfold openFile
  rw [nodes.span]
  cases node.span with
  | none => exact .error ⟨reworded_refl d (by decide), follows⟩
  | some span =>
      refine .ok ⟨.keep, ⟨?_, follows.found, follows.cancelled⟩, ?_⟩
      · simp only [follows.table, push_moved]
      · simp only [Span.shifted, Query.moved]
        omega

theorem alike_openBlock (moves : survey.Moves d s findings other) :
    Alike d s findings (openBlock node state parent survey)
      (openBlock further state parent' other) := by
  refine .ok ⟨.keep, ⟨?_, moves.found, moves.cancelled⟩, moves.origin⟩
  simp only [moves.table, push_moved]

theorem alike_takeDeclared (moves : survey.Moves d s findings other) {declared late : Declared}
    (agree : DeclaredAgree d declared late) (words phrase : String) :
    Walk.Beside (fun _ survey _ other => survey.Moves d s findings other)
      (fun fault survey late other => Reworded d fault late ∧ survey.Moves d s findings other)
      (takeDeclared declared words survey) (takeDeclared late phrase other) := by
  unfold takeDeclared
  have recorded : ({ survey with table := survey.table.recordAll declared.bindings } :
      Survey Finding).Moves d s findings
      { other with table := other.table.recordAll late.bindings } := by
    refine ⟨⟨?_, moves.found, moves.cancelled⟩, moves.origin⟩
    simp only [agree.bindings, moves.table, recordAll_moved]
  refine Walk.beside_bind (Walk.beside_modify recorded) fun _ survey _ other moves => ?_
  refine Walk.beside_bind (Walk.beside_attempt moves agree.outcome fun _ _ reworded =>
    ⟨reworded, moves⟩) fun related survey same other here => ?_
  obtain ⟨rfl, moves⟩ := here
  split
  · exact .ok ⟨⟨moves.table, moves.found, moves.cancelled⟩, moves.origin⟩
  · exact .ok moves

theorem alike_takeImport (moves : survey.Moves d s findings other) (nodes : node.MovesTo d further)
    (query : Query) :
    Alike d s findings (takeImport query node state parent survey)
      (takeImport (query.moved s) further state parent' other) := by
  refine Walk.beside_bind
    (alike_takeDeclared moves (declaredAgree_ofImport query.settings nodes) _ _)
    fun _ survey _ other moves => ?_
  exact .ok ⟨.skipChildren, moves⟩

theorem alike_takeRequire (moves : survey.Moves d s findings other) (nodes : node.MovesTo d further)
    (query : Query) :
    Alike d s findings (takeRequire query node state parent survey)
      (takeRequire (query.moved s) further state parent' other) := by
  refine Walk.beside_bind
    (alike_takeDeclared moves (declaredAgree_ofRequire query.settings nodes) _ _)
    fun _ survey _ other moves => ?_
  exact .ok ⟨.keep, moves⟩

abbrev Matches (d s : Int) (findings : Finding → Finding → Prop) :
    EStateM.Result Fault (Survey Finding) (Walk.Action State) →
      EStateM.Result Fault (Survey Finding) (Walk.Action State) → Prop :=
  Walk.Beside (fun action survey answer other => Walk.SameAction Eq action answer ∧
    survey.Moves d s findings other) (fun fault survey late other => Retold d fault late ∧
    survey.Follows d findings other)

theorem Alike.matches {first second : EStateM.Result Fault (Survey Finding) (Walk.Action State)}
    (alike : Alike d s findings first second) : Matches d s findings first second :=
  Walk.beside_mono alike (fun _ _ _ _ _ here => here) fun _ _ _ _ here =>
    ⟨here.1.retold, here.2.toFollows⟩

theorem matches_closeScope (moves : survey.Moves d s findings other) :
    Matches d s findings (closeScope node state parent survey)
      (closeScope further state parent' other) := by
  unfold closeScope
  refine Walk.beside_bind (Walk.beside_get moves) fun survey _ other _ here => ?_
  obtain ⟨rfl, rfl, moves⟩ := here
  rw [moves.table]
  cases frames : survey.table.frames with
  | nil =>
      have left : survey.table.pop = .error .nothingToPop := by simp [ScopeTable.pop, frames]
      have right : (survey.table.moved d).pop = .error .nothingToPop := by
        simp [ScopeTable.pop, ScopeTable.moved, frames]
      rw [left, right]
      exact .error ⟨⟨rfl, fun _ => rfl⟩, moves.toFollows⟩
  | cons inner outer =>
      have left : survey.table.pop = .ok { survey.table with frames := outer } := by
        simp [ScopeTable.pop, frames]
      have right : (survey.table.moved d).pop =
          .ok (ScopeTable.moved d { survey.table with frames := outer }) := by
        simp [ScopeTable.pop, ScopeTable.moved, frames]
      rw [left, right]
      exact .ok ⟨.keep, ⟨rfl, moves.found, moves.cancelled⟩, moves.origin⟩

theorem isConst_moved (data : Data) : isConst (data.moved d) = isConst data := by
  cases data <;> rfl

theorem matches_takeConstants (moves : survey.Moves d s findings other)
    (nodes : node.MovesTo d further) :
    Matches d s findings (takeConstants node state parent survey)
      (takeConstants further state parent' other) := by
  rw [takeConstants_eq, takeConstants_eq]
  refine Walk.beside_bind (Walk.beside_attempt moves (agree_field nodes (by decide))
    fun _ _ reworded => ⟨reworded.retold, moves.toFollows⟩) fun word survey again other here => ?_
  obtain ⟨part, moves⟩ := here
  rw [part.moved, isConst_moved]
  cases isConst word.val with
  | false => exact .ok ⟨.keep, moves⟩
  | true =>
      refine Walk.beside_bind (Walk.beside_attempt moves (agree_items nodes (by decide) (by decide))
        fun _ _ reworded => ⟨reworded.retold, moves.toFollows⟩)
          fun items survey others other here => ?_
      obtain ⟨each, moves⟩ := here
      refine Walk.beside_bind (Walk.beside_get moves) fun survey _ other _ here => ?_
      obtain ⟨rfl, rfl, moves⟩ := here
      rw [moves.table]
      rcases bindConstants_moved survey.table each with
        ⟨bound, left, right⟩ | ⟨fault, late, left, right, retold⟩
      · rw [left, right]
        exact .ok ⟨.keep, ⟨rfl, moves.found, moves.cancelled⟩, moves.origin⟩
      · rw [left, right]
        exact .error ⟨retold, moves.toFollows⟩

theorem alike_skip (moves : survey.Moves d s findings other) :
    Alike d s findings (skip node state parent survey) (skip further state parent' other) :=
  .ok ⟨.skipChildren, moves⟩

end Survey

end Handlers

section Rules

variable {d : Int}

theorem entryText?_moved (settings : Settings) (property : String) (result : Result) :
    Place.entryText? settings property (result.moved d) =
      Place.entryText? settings property result := by
  cases result with
  | value v span => cases v <;> rfl
  | _ => rfl

theorem declared?_moved (settings : Settings) (property : String) (folded : Result) :
    Place.declared? settings property (folded.moved d) =
      Place.declared? settings property folded := by
  have single := entryText?_moved (d := d) settings property folded
  cases folded with
  | value v span =>
      cases v with
      | array entries =>
          simp only [Result.moved, Value.moved, Place.declared?, movedResults_eq_map,
            List.filterMap_map, Function.comp_def, entryText?_moved]
      | _ => exact congrArg (Option.map fun text => [text]) single
  | _ => exact congrArg (Option.map fun text => [text]) single

theorem isWritable_moved (folded : Result) :
    Place.isWritable (folded.moved d) = Place.isWritable folded := by
  have rounds (result : Result) : Place.entryRounds (result.moved d) =
      Place.entryRounds result := by
    cases result with
    | value v span => cases v <;> rfl
    | _ => rfl
  cases folded with
  | value v span =>
      cases v with
      | array entries =>
          simp only [Result.moved, Value.moved, Place.isWritable, movedResults_eq_map, List.all_map,
            Function.comp_def, rounds]
      | _ => rfl
  | _ => rfl

theorem agree_spelling (label : Label) : Agree d Eq label.spelling label.spelling := by
  cases label <;> first | exact .ok rfl | exact agree_fault (by simp [Label.notText, Fault.family])

theorem agree_spellings (labels : List Label) :
    Agree d Eq (labels.mapM Label.spelling) (labels.mapM Label.spelling) := by
  induction labels with
  | nil => exact .ok rfl
  | cons label rest ih =>
      simp only [List.mapM_cons]
      refine agree_bind (agree_spelling label) fun first _ same => ?_
      refine agree_bind ih fun others _ equal => .ok ?_
      rw [same, equal]

end Rules

section Hovers

namespace Hover

structure Moves (d s : Int) (hover other : Hover) : Prop where
  css : other.css = hover.css
  span : other.span = hover.span.shifted s
  value : other.value = hover.value.moved d

variable {d s : Int} {survey other : Survey Hover} {node further : Node} {nesting : Nesting}
  {parent parent' : Option Node}

theorem agree_place (nesting : Nesting) (api : Api) :
    Agree d Eq (nesting.place api) (nesting.place api) := by
  have names : Agree d Eq (Nesting.names api nesting.classes)
      (Nesting.names api nesting.classes) := by
    unfold Nesting.names
    split
    · exact agree_spellings _
    · split
      · exact .ok rfl
      · exact agree_map (agree_spellings _) fun a b same => by rw [same]
  exact agree_bind names fun classes _ same => .ok (by rw [same])

theorem agree_ruleOf? (settings : Settings) (nesting : Nesting) (api : Api) (key : Label)
    (folded : Result) :
    Agree d Eq (ruleOf? settings nesting api key folded)
      (ruleOf? settings nesting api key (folded.moved d)) := by
  refine agree_bind (agree_place nesting api) fun place _ same => ?_
  refine agree_bind (agree_spelling key) fun key _ equal => ?_
  subst same equal
  rw [isWritable_moved]
  split
  · exact .ok (by simp only [Place.rule?, declared?_moved])
  · exact agree_fault (by decide)

theorem agree_callerOf? (nesting : Nesting) (parents : Option.Rel (Node.MovesTo d) parent parent') :
    Agree d Eq (callerOf? nesting parent) (callerOf? nesting parent') := by
  have inline : Agree d Eq (inlineName? nesting.caller) (inlineName? nesting.caller) := by
    unfold inlineName?
    split
    · exact .ok rfl
    · refine agree_bind (agree_spelling _) fun text _ same => ?_
      subst same
      split <;> exact .ok rfl
  unfold callerOf?
  cases parents with
  | none => exact inline
  | some moves =>
      dsimp only
      rw [moves.isKind]
      split
      · refine agree_bind (agree_child moves (by decide)) fun target _ named => ?_
        rw [named.isKind]
        split
        · rename_i plain
          have tagged : target.val.kind = some .identifier := by
            simpa [Node.isKind] using plain
          exact agree_bind
            (agree_writtenLabel named tagged "value" (by decide) (by decide) (by decide))
            fun name _ same => .ok (congrArg Label.unlessNull same)
        · exact .ok rfl
      · exact inline

theorem beside_reads {Finding : Type} {findings : Finding → Finding → Prop}
    {survey other : Survey Finding} (moves : survey.Moves d s findings other) {α β : Type}
    {relation : α → β → Prop} {first : Except Fault α} {second : Except Fault β}
    (agree : Agree d relation first second) :
    Walk.Beside (fun a survey b other => relation a b ∧ survey.Moves d s findings other)
      (fun fault survey late other => Reworded d fault late ∧ survey.Moves d s findings other)
      (Walk.attempt first survey) (Walk.attempt second other) :=
  Walk.beside_attempt moves agree fun _ _ reworded => ⟨reworded, moves⟩

theorem alike_onCall (moves : survey.Moves d s (Hover.Moves d s) other)
    (nodes : node.MovesTo d further) (parents : Option.Rel (Node.MovesTo d) parent parent') :
    Survey.Alike d s (Hover.Moves d s) (onCall node nesting parent survey)
      (onCall further nesting parent' other) := by
  refine Walk.beside_bind (beside_reads moves (agree_child nodes (by decide)))
    fun callee survey _ other here => ?_
  obtain ⟨called, moves⟩ := here
  refine Walk.beside_bind (Walk.beside_get moves) fun survey _ other _ here => ?_
  obtain ⟨rfl, rfl, moves⟩ := here
  rw [moves.table]
  refine Walk.beside_bind (beside_reads moves
    (Fold.agree_calledApi? (sameNames_moved d survey.table) called))
      fun api survey _ other here => ?_
  obtain ⟨rfl, moves⟩ := here
  have entered (api : Api) (act : Option Label → Walk.Action Nesting)
      (same : ∀ caller, Walk.SameAction Eq (act caller) (act caller)) :
      Survey.Alike d s (Hover.Moves d s)
        ((do return act (← Walk.attempt (callerOf? nesting parent)) :
          EStateM Fault (Survey Hover) (Walk.Action Nesting)) survey)
        ((do return act (← Walk.attempt (callerOf? nesting parent')) :
          EStateM Fault (Survey Hover) (Walk.Action Nesting)) other) := by
    refine Walk.beside_bind (beside_reads moves (agree_callerOf? nesting parents))
      fun caller survey _ other here => ?_
    obtain ⟨rfl, moves⟩ := here
    exact .ok ⟨same caller, moves⟩
  cases api with
  | none => exact .ok ⟨.proceed rfl, moves⟩
  | some api =>
      cases api with
      | firstThatWorks => exact .ok ⟨.proceed rfl, moves⟩
      | createTheme =>
          exact entered .createTheme
            (fun caller => .proceedIgnoring { nesting with inside := some .createTheme, caller }
              ["arguments.0", "callee"]) fun _ => .proceedIgnoring rfl _
      | defineVars =>
          exact entered .defineVars
            (fun caller => .proceedIgnoring { nesting with inside := some .defineVars, caller }
              ["callee"]) fun _ => .proceedIgnoring rfl _
      | create =>
          exact entered .create
            (fun caller => .proceed { nesting with inside := some .create, caller })
            fun _ => .proceed rfl
      | keyframes =>
          exact entered .keyframes
            (fun caller => .proceed { nesting with inside := some .keyframes, caller })
            fun _ => .proceed rfl

theorem agree_isKeyframesCall {table late : ScopeTable} (names : Fold.SameNames table late)
    {value again : Node} (nodes : value.MovesTo d again) :
    Agree d Eq (isKeyframesCall table value) (isKeyframesCall late again) := by
  unfold isKeyframesCall
  rw [nodes.isKind]
  split
  · exact .ok rfl
  · refine agree_bind (agree_child nodes (by decide)) fun callee _ called => ?_
    exact agree_bind (Fold.agree_calledApi? names called) fun api _ same => .ok (by rw [same])

theorem agree_keyOf? (table : ScopeTable) (nesting : Nesting) {property again : Node}
    (nodes : property.MovesTo d again) :
    Agree d Eq (keyOf? table nesting property) (keyOf? (table.moved d) nesting again) := by
  unfold keyOf?
  split
  · exact .ok rfl
  · exact agree_bind (agree_cssKeyOf? table nodes) fun key _ same => .ok (by rw [same])

theorem agree_surveyPlace {Finding : Type} {findings : Finding → Finding → Prop}
    {survey other : Survey Finding} (moves : survey.Moves d s findings other)
    {key again : Node} (nodes : key.MovesTo d again) :
    Agree d (fun a b => b = a.shifted s) (survey.place key) (other.place again) := by
  unfold Survey.place
  rw [nodes.span]
  cases key.span with
  | none => exact agree_fault (by decide)
  | some span => exact .ok (Survey.relative_moved moves span)

theorem agree_evalNode {table late : ScopeTable} (names : Fold.SameNames table late)
    {value again : Node} (nodes : value.MovesTo d again) :
    Agree d (Fold.ResultMoves d) (Fold.eval table value) (Fold.eval late again) :=
  Fold.agree_node names (Fold.agreeBelow names _) (Nat.le_refl _) nodes

theorem agree_inlineCaller (key : Label) : Agree d Eq (inlineCaller key) (inlineCaller key) := by
  unfold inlineCaller
  split
  · exact .ok rfl
  · exact agree_fault (by decide)

theorem report_moves (moves : survey.Moves d s (Hover.Moves d s) other) {hover late : Hover}
    (same : hover.Moves d s late) (line words : String) :
    (survey.report hover line).Moves d s (Hover.Moves d s) (other.report late words) :=
  ⟨⟨moves.table, .some same, moves.cancelled⟩, moves.origin⟩

theorem alike_onProperty (moves : survey.Moves d s (Hover.Moves d s) other)
    (nodes : node.MovesTo d further) (query : Query) :
    Survey.Alike d s (Hover.Moves d s) (onProperty query node nesting parent survey)
      (onProperty (query.moved s) further nesting parent' other) := by
  unfold onProperty
  refine Walk.beside_bind (Walk.beside_get moves) fun survey _ other _ here => ?_
  obtain ⟨rfl, rfl, moves⟩ := here
  have names : Fold.SameNames survey.table other.table := by
    rw [moves.table]
    exact sameNames_moved d survey.table
  have keys : Agree d Eq (keyOf? survey.table nesting node)
      (keyOf? other.table nesting further) := by
    rw [moves.table]
    exact agree_keyOf? survey.table nesting nodes
  refine Walk.beside_bind (beside_reads moves keys) fun key first _ second here => ?_
  obtain ⟨rfl, here⟩ := here
  cases nesting.inside with
  | none => exact .ok ⟨.keep, here⟩
  | some api =>
      cases key with
      | none => exact .ok ⟨.keep, here⟩
      | some key =>
          refine Walk.beside_bind (beside_reads here (agree_child nodes (by decide)))
            fun value first again second here => ?_
          obtain ⟨inner, here⟩ := here
          dsimp only
          rw [inner.isKind, inner.isKind]
          cases value.val.isKind .objectExpression || value.val.isKind .arrowFunctionExpression with
          | true => exact .ok ⟨.proceed rfl, here⟩
          | false =>
              refine Walk.beside_bind (beside_reads here (agree_isKeyframesCall names inner))
                fun inline first _ second here => ?_
              obtain ⟨rfl, here⟩ := here
              cases inline with
              | true =>
                  refine Walk.beside_bind (beside_reads here (agree_inlineCaller key))
                    fun caller first _ second here => ?_
                  obtain ⟨rfl, here⟩ := here
                  exact .ok ⟨.proceed rfl, here⟩
              | false =>
                  refine Walk.beside_bind (beside_reads here (agree_child nodes (by decide)))
                    fun keyNode first _ second here => ?_
                  obtain ⟨named, here⟩ := here
                  refine Walk.beside_bind (beside_reads here (agree_surveyPlace moves named))
                    fun span first _ second here => ?_
                  obtain ⟨rfl, here⟩ := here
                  rw [Span.contains_shifted, Query.moved, Int.add_sub_cancel]
                  cases span.contains query.cursor with
                  | false => exact .ok ⟨.keep, here⟩
                  | true =>
                      refine Walk.beside_bind (beside_reads here (agree_evalNode names inner))
                        fun folded first _ second here => ?_
                      obtain ⟨rfl, here⟩ := here
                      refine Walk.beside_bind (beside_reads here
                        (agree_ruleOf? query.settings nesting api key folded))
                        fun rule first _ second here => ?_
                      obtain ⟨rfl, here⟩ := here
                      cases rule with
                      | none => exact .ok ⟨.abort, here⟩
                      | some rule =>
                          by_cases short : rule.lines.length ≤ 2
                          · simp only [short, if_true]
                            exact .ok ⟨.keep, here⟩
                          · simp only [short, if_false]
                            have same : Hover.Moves d s ⟨rule.text, span, folded⟩
                                ⟨rule.text, span.shifted s, folded.moved d⟩ := ⟨rfl, rfl, rfl⟩
                            exact .ok ⟨.abort, report_moves moves same _ _⟩

end Hover

end Hovers

section Completions

namespace Completion

/-- The same completion in a file that is counted from elsewhere. -/
structure Moves (s : Int) (completion other : Completion) : Prop where
  property : other.property = completion.property
  value : other.value = completion.value
  span : other.span = completion.span.shifted s

variable {d s : Int} {survey other : Survey Completion} {node further : Node} {context : Context}
  {parent parent' : Option Node}

theorem alike_onCall (moves : survey.Moves d s (Completion.Moves s) other)
    (nodes : node.MovesTo d further) :
    Survey.Alike d s (Completion.Moves s) (onCall node context parent survey)
      (onCall further context parent' other) := by
  refine Walk.beside_bind (Hover.beside_reads moves (agree_child nodes (by decide)))
    fun callee survey _ other here => ?_
  obtain ⟨called, moves⟩ := here
  refine Walk.beside_bind (Walk.beside_get moves) fun survey _ other _ here => ?_
  obtain ⟨rfl, rfl, moves⟩ := here
  rw [moves.table]
  refine Walk.beside_bind (Hover.beside_reads moves
    (Fold.agree_calledApi? (sameNames_moved d survey.table) called))
      fun api survey _ other here => ?_
  obtain ⟨rfl, moves⟩ := here
  cases api with
  | none => exact .ok ⟨.proceed rfl, moves⟩
  | some api =>
      cases api with
      | firstThatWorks => exact .ok ⟨.keep, moves⟩
      | createTheme | defineVars => exact .ok ⟨.proceedIgnoring rfl _, moves⟩
      | create | keyframes => exact .ok ⟨.proceed rfl, moves⟩

theorem alike_onProperty (moves : survey.Moves d s (Completion.Moves s) other)
    (nodes : node.MovesTo d further) :
    Survey.Alike d s (Completion.Moves s) (onProperty node context parent survey)
      (onProperty further context parent' other) := by
  unfold onProperty
  obtain ⟨property, inside, depth⟩ := context
  cases inside with
  | none => exact .ok ⟨.keep, moves⟩
  | some api =>
      cases api with
      | create | keyframes =>
          dsimp only
          by_cases deep : depth = propertyDepth
          · simp only [deep, if_true]
            refine Walk.beside_bind (Walk.beside_get moves) fun survey _ other _ here => ?_
            obtain ⟨rfl, rfl, moves⟩ := here
            rw [moves.table]
            refine Walk.beside_bind (Hover.beside_reads moves (agree_cssKeyOf? survey.table nodes))
              fun property survey _ other here => ?_
            obtain ⟨rfl, moves⟩ := here
            exact .ok ⟨.proceed rfl, moves⟩
          · simp only [deep, if_false]
            exact .ok ⟨.proceed rfl, moves⟩
      | createTheme | defineVars | firstThatWorks =>
          refine Walk.beside_bind (Hover.beside_reads moves (agree_child nodes (by decide)))
            fun value survey _ other here => ?_
          obtain ⟨inner, moves⟩ := here
          dsimp only
          rw [inner.isKind]
          exact .ok ⟨.proceed rfl, moves⟩

theorem report_moves (moves : survey.Moves d s (Completion.Moves s) other) {found late : Completion}
    (same : found.Moves s late) (line words : String) :
    (survey.report found line).Moves d s (Completion.Moves s) (other.report late words) :=
  ⟨⟨moves.table, .some same, moves.cancelled⟩, moves.origin⟩

theorem alike_onString (moves : survey.Moves d s (Completion.Moves s) other)
    (nodes : node.MovesTo d further) (tagged : node.kind = some .stringLiteral) (query : Query) :
    Survey.Alike d s (Completion.Moves s) (onString query node context parent survey)
      (onString (query.moved s) further context parent' other) := by
  unfold onString
  cases context.inside.isNone || decide (context.property = some (.text freeProperty)) with
  | true => exact .ok ⟨.keep, moves⟩
  | false =>
      refine Walk.beside_bind (Walk.beside_get moves) fun survey _ other _ here => ?_
      obtain ⟨rfl, rfl, moves⟩ := here
      refine Walk.beside_bind (Hover.beside_reads moves (Hover.agree_surveyPlace moves nodes))
        fun span first _ second here => ?_
      obtain ⟨rfl, here⟩ := here
      rw [Span.contains_shifted, Query.moved, Int.add_sub_cancel]
      cases span.contains query.cursor with
      | false => exact .ok ⟨.skipChildren, here⟩
      | true =>
          refine Walk.beside_bind (Hover.beside_reads here (agree_spelling _))
            fun name first _ second here => ?_
          obtain ⟨rfl, here⟩ := here
          refine Walk.beside_bind (Hover.beside_reads here
            (agree_writtenLabel nodes tagged "value" (by decide) (by decide) (by decide)))
            fun value first _ second here => ?_
          obtain ⟨rfl, here⟩ := here
          have same : Completion.Moves s ⟨Css.dashify name, value, span⟩
              ⟨Css.dashify name, value, span.shifted s⟩ := ⟨rfl, rfl, rfl⟩
          exact .ok ⟨.abort, report_moves moves same _ _⟩

end Completion

end Completions

section Searches

variable {d s : Int} (query : Query)

theorem Hover.ownAlike :
    Survey.OwnAlike d s (Hover.Moves d s) (handlers query) (handlers (query.moved s)) := by
  intro kind node again nesting parent parent' survey other tagged nodes parents moves
  cases kind with
  | callExpression => exact .some (alike_onCall moves nodes parents)
  | keyValueProperty => exact .some (alike_onProperty moves nodes query)
  | _ => exact .none

theorem Completion.ownAlike :
    Survey.OwnAlike d s (Completion.Moves s) (handlers query) (handlers (query.moved s)) := by
  intro kind node again context parent parent' survey other tagged nodes parents moves
  cases kind with
  | callExpression => exact .some (alike_onCall moves nodes)
  | keyValueProperty => exact .some (alike_onProperty moves nodes)
  | stringLiteral => exact .some (alike_onString moves nodes tagged query)
  | _ => exact .none

end Searches

end StyleFold
