import StyleFold.Proofs.Style.Bindings
import StyleFold.Style.Hover
import StyleFold.Proofs.Walk.Exchange

/-!
Searches for hovers in trees that differ in the value of one property, when the two values are
evaluated alike. What is read of imports, constants and keys is the same in both. So are the answers
of all handlers, but for that of the property itself, which also looks at the kind of its value.
-/

namespace StyleFold

section Declarations

open Binding

variable {old new node other : Node} {site : Site} {table : ScopeTable} {settings : Settings}

theorem nameOf?_twins (opened : Opened old new) (twin : Twins old new .part node other) :
    nameOf? other = nameOf? node := by
  unfold nameOf?
  rw [twin.kind, eq_of_agree (agree_labelLike opened twin (by decide))]

theorem nameOfPart?_like (opened : Opened old new) {data further : Data}
    (like : Like old new .part data further) : nameOfPart? further = nameOfPart? data := by
  have named (there : data ≠ .null) : (do nameOf? (← Node.expect further).val) =
      (do nameOf? (← Node.expect data).val) :=
    bind_eq_of_agree (agree_expectLike like) fun _ _ twin => nameOf?_twins opened twin
  rcases like with rfl | exchanged
  · rfl
  · cases exchanged <;> exact named (by simp)

theorem localOf_twins (opened : Opened old new) (twin : Twins old new .part node other) :
    localOf other = localOf node :=
  bind_eq_of_agree (agree_childLike opened twin (by decide)) fun _ _ inner =>
    eq_of_agree (agree_labelLike opened inner (by decide))

theorem hasFlag_twins (opened : Opened old new) (twin : Twins old new .part node other)
    {name : String} (common : IsCommon name) : hasFlag other name = hasFlag node name := by
  refine bind_eq_of_agree (agree_field?Like opened twin common) fun part further found => ?_
  cases found with
  | none => rfl
  | some like => simp only [Option.map_some, isSet, Fold.isEmptyPart_like like]

theorem ofSpecifier_like (opened : Opened old new) {data further : Data}
    (like : Like old new .part data further) : ofSpecifier further = ofSpecifier data := by
  refine bind_eq_of_agree (agree_expectLike like) fun specifier again twin => ?_
  dsimp only
  rw [twin.kind, localOf_twins opened twin, hasFlag_twins opened twin (by decide)]
  split
  · rfl
  · rfl
  · refine bind_congr fun marked => ?_
    split
    · rfl
    · refine bind_congr fun name => ?_
      refine bind_eq_of_agree (agree_field?Like opened twin (by decide))
        fun part further found => ?_
      cases found with
      | none => rfl
      | some inner => simp only [nameOfPart?_like opened inner]
  · rfl

theorem sourceOf?_twins (opened : Opened old new) (twin : Twins old new .part node other) :
    sourceOf? other = sourceOf? node := by
  refine bind_eq_of_agree (agree_fieldLike opened twin (by decide)) fun part further like => ?_
  rw [nameOfPart?_like opened like]

theorem collect_like {read : Data → Except Fault (Option Binding)}
    (reads : ∀ data further, Like old new .part data further → read further = read data)
    {items others : List Data} (each : List.Forall₂ (Like old new .part) items others) :
    Declared.collect read others = Declared.collect read items := by
  induction each with
  | nil => rfl
  | cons first later ih => simp only [Declared.collect, reads _ _ first, ih]

theorem ofImport_twins (opened : Opened old new) (twin : Twins old new .part node other) :
    ofImport settings other = ofImport settings node := by
  have asked : importAsked settings other = importAsked settings node := by
    unfold importAsked
    rw [twin.isKind, hasFlag_twins opened twin (by decide), sourceOf?_twins opened twin]
  rw [ofImport_eq, ofImport_eq, asked]
  congr 1
  refine bind_congr fun known => ?_
  split
  · refine bind_eq_of_agree (agree_rowLike opened twin (by decide) (by decide))
      fun row again like => ?_
    cases like with
    | fault reworded => rw [reworded.same rfl]
    | ok each => simp only [collect_like (fun _ _ => ofSpecifier_like opened) each]
  · rfl

theorem sourceOfArgument?_twins (opened : Opened old new) (twin : Twins old new .part node other) :
    sourceOfArgument? other = sourceOfArgument? node := by
  refine bind_eq_of_agree (agree_field?Like opened twin (by decide)) fun mark again found => ?_
  have marked : again.isSome = mark.isSome := by cases found <;> rfl
  rw [marked]
  split
  · rfl
  · refine bind_eq_of_agree (agree_childLike opened twin (by decide)) fun source again inner => ?_
    rw [inner.isKind, eq_of_agree (agree_wordLike opened inner (by decide))]

theorem requiredModule?_twins (opened : Opened old new) (twin : Twins old new .part node other) :
    requiredModule? other = requiredModule? node := by
  unfold requiredModule?
  rw [twin.isKind]
  split
  · rfl
  · refine bind_eq_of_agree (agree_childLike opened twin (by decide)) fun callee further inner => ?_
    rw [inner.isKind, eq_of_agree (agree_wordLike opened inner (by decide))]
    split
    · rfl
    · refine bind_congr fun word => ?_
      split
      · rfl
      · refine bind_eq_of_agree (agree_field?Like opened twin (by decide))
          fun part further found => ?_
        cases found with
        | none => rfl
        | @some part further like =>
            obtain ⟨data, small⟩ := part
            obtain ⟨again, less⟩ := further
            rcases like with equal | exchanged
            · dsimp only at equal
              subst equal
              cases again with
              | list items =>
                  cases items with
                  | nil => rfl
                  | cons first rest => cases rest <;> rfl
              | _ => rfl
            · cases exchanged with
              | field | first | second => rfl
              | @item _ front back part further inside =>
                  -- Only a lone argument is looked at.
                  cases front with
                  | nil =>
                      cases back with
                      | nil =>
                          exact bind_eq_of_agree (agree_expectLike (.inr inside))
                            fun _ _ argument =>
                            sourceOfArgument?_twins opened argument
                      | cons => rfl
                  | cons first rest => cases rest <;> rfl

theorem ofPattern_like (opened : Opened old new) {data further : Data}
    (like : Like old new .part data further) : ofPattern further = ofPattern data := by
  refine bind_eq_of_agree (agree_expectLike like) fun property again twin => ?_
  dsimp only
  rw [twin.kind]
  split
  · refine bind_eq_of_agree (agree_childLike opened twin (by decide)) fun key further inner => ?_
    rw [eq_of_agree (agree_labelLike opened inner (by decide))]
  · refine bind_eq_of_agree (agree_fieldLike opened twin (by decide)) fun key further inner => ?_
    rw [nameOfPart?_like opened inner]
    refine bind_congr fun imported => ?_
    cases imported with
    | none => rfl
    | some imported =>
        refine bind_eq_of_agree (agree_childLike opened twin (by decide))
          fun target further inner => ?_
        rw [inner.isKind, eq_of_agree (agree_labelLike opened inner (by decide))]
  · rfl

theorem ofTarget_twins (opened : Opened old new) (twin : Twins old new .part node other) :
    ofTarget other = ofTarget node := by
  unfold ofTarget
  rw [twin.kind]
  split
  · rw [eq_of_agree (agree_labelLike opened twin (by decide))]
  · rename_i tagged
    refine bind_eq_of_agree (agree_itemsAt opened twin (by decide) (by decide))
      fun row again each => ?_
    have place : (Site.part.ofField node.kind (.text "properties")).ofItem = .part := by
      simp [Site.ofField, tagged, Site.ofItem]
    rw [place] at each
    rw [collect_like (fun _ _ => ofPattern_like opened) each]
  · rfl

theorem ofRequire_twins (opened : Opened old new) (twin : Twins old new .part node other) :
    ofRequire settings other = ofRequire settings node := by
  have asked : requireAsked settings other = requireAsked settings node := by
    unfold requireAsked
    rw [twin.isKind]
    split
    · rfl
    · refine bind_eq_of_agree (agree_field?Like opened twin (by decide)) fun part again found => ?_
      cases found with
      | none => rfl
      | some like =>
          refine bind_eq_of_agree (agree_expectLike like) fun call again inner => ?_
          rw [requiredModule?_twins opened inner]
  rw [ofRequire_eq, ofRequire_eq, asked]
  congr 1
  refine bind_congr fun known => ?_
  split
  · exact bind_eq_of_agree (agree_childLike opened twin (by decide)) fun _ _ target =>
      ofTarget_twins opened target
  · rfl

end Declarations

section Constants

variable {old new node other : Node} {table : ScopeTable}

theorem constantOf?_like (opened : Opened old new)
    (same : Fold.eval table new = Fold.eval table old) {data further : Data}
    (like : Like old new .part data further) :
    Survey.constantOf? table further = Survey.constantOf? table data := by
  refine bind_eq_of_agree (agree_expectLike like) fun declarator again twin => ?_
  refine bind_eq_of_agree (agree_field?Like opened twin (by decide)) fun initial again found => ?_
  cases found with
  | none => rfl
  | some like =>
      refine bind_eq_of_agree (agree_childLike opened twin (by decide)) fun target again inner => ?_
      dsimp only
      rw [inner.isKind, eq_of_agree (agree_labelLike opened inner (by decide)),
        Fold.evalPart_like opened same like]

theorem bindConstants_like (opened : Opened old new)
    (same : ∀ table, Fold.eval table new = Fold.eval table old) {items others : List Data}
    (each : List.Forall₂ (Like old new .part) items others) (table : ScopeTable) :
    Survey.bindConstants table others = Survey.bindConstants table items := by
  induction each generalizing table with
  | nil => rfl
  | cons first later ih =>
      simp only [Survey.bindConstants, constantOf?_like opened (same table) first, ih]

/-- The key of a property, when its node is the same in both trees or differs further below. -/
theorem keyOf?_twins (opened : Opened old new)
    (keys : Agree 0 (fun a b => Twins old new .part a.val b.val) (node.child "key")
      (other.child "key")) :
    Css.keyOf? table other = Css.keyOf? table node := by
  refine bind_eq_of_agree keys fun key again twin => ?_
  dsimp only
  rw [twin.kind]
  have label := eq_of_agree (agree_labelLike opened twin (by decide : IsCommon "value"))
  split
  · rw [label]
  · rw [label]
  · refine bind_eq_of_agree (agree_childLike opened twin (by decide))
      fun expression again inner => ?_
    rw [inner.kind, eq_of_agree (agree_labelLike opened inner (by decide))]
  · rfl

namespace Hover

theorem callerOf?_relatives (opened : Opened old new) (nesting : Nesting)
    {parent parent' : Option Node} (parents : Option.Rel (Walk.Relatives old new) parent parent') :
    callerOf? nesting parent' = callerOf? nesting parent := by
  cases parents with
  | none => rfl
  | @some above further relatives =>
      unfold callerOf?
      dsimp only
      rcases relatives with twin | ⟨first, second⟩
      · rw [twin.isKind]
        split
        · refine bind_eq_of_agree (agree_childLike opened twin (by decide))
            fun target again inner => ?_
          rw [inner.isKind, eq_of_agree (agree_labelLike opened inner (by decide))]
        · rfl
      · rw [first, second]
        rfl

theorem isKeyframesCall_twins (opened : Opened old new) (twin : Twins old new .part node other) :
    isKeyframesCall table other = isKeyframesCall table node := by
  unfold isKeyframesCall
  rw [twin.isKind]
  split
  · rfl
  · refine bind_eq_of_agree (agree_childLike opened twin (by decide)) fun callee again inner => ?_
    dsimp only
    rw [Fold.calledApi?_twins opened inner]

end Hover

end Constants

section Handlers

open Walk (attempt Relatives)

variable {old new node other : Node}

theorem attempt_bind_eq {World α β γ : Type} {relation : α → β → Prop} {first : Except Fault α}
    {second : Except Fault β} {next : α → EStateM Fault World γ} {after : β → EStateM Fault World γ}
    {world : World} (agree : Agree 0 relation first second)
    (onward : ∀ a b, relation a b → after b world = next a world) :
    (attempt second >>= after) world = (attempt first >>= next) world := by
  cases agree with
  | ok related => exact onward _ _ related
  | fault reworded => rw [reworded.same rfl]; rfl

theorem attempt_same {World α γ : Type} {first second : Except Fault α}
    {next after : α → EStateM Fault World γ} {world : World} (same : second = first)
    (onward : ∀ a, first = .ok a → after a world = next a world) :
    (attempt second >>= after) world = (attempt first >>= next) world := by
  rw [same]
  cases first with
  | ok a => exact onward a rfl
  | error fault => rfl

namespace Hover

/-- Values that a search for hovers cannot tell apart. -/
structure SameValue (table : ScopeTable) (value further : Node) : Prop where
  object : further.isKind .objectExpression = value.isKind .objectExpression
  arrow : further.isKind .arrowFunctionExpression = value.isKind .arrowFunctionExpression
  keyframes : isKeyframesCall table further = isKeyframesCall table value
  result : Fold.eval table further = Fold.eval table value

variable {query : Query} {nesting : Nesting} {survey : Survey Hover} {parent parent' : Option Node}

theorem onProperty_alike
    (keyed : Css.keyOf? survey.table other = Css.keyOf? survey.table node)
    (keys : Agree 0 (fun a b => Twins old new .part a.val b.val) (node.child "key")
      (other.child "key"))
    (values : ∀ key, keyOf? survey.table nesting node = .ok (some key) →
      Agree 0 (fun a b => SameValue survey.table a.val b.val) (node.child "value")
        (other.child "value")) :
    onProperty query other nesting parent' survey =
      onProperty query node nesting parent survey := by
  have named : keyOf? survey.table nesting other = keyOf? survey.table nesting node := by
    simp only [keyOf?, keyed]
  refine attempt_same named fun found read => ?_
  cases inside : nesting.inside with
  | none => rfl
  | some api =>
      cases found with
      | none => rfl
      | some key =>
          refine attempt_bind_eq (values key read) fun value again same => ?_
          dsimp only
          rw [same.object, same.arrow]
          split
          · rfl
          · refine attempt_same same.keyframes fun inline _ => ?_
            split
            · rfl
            · refine attempt_bind_eq keys fun keyNode keyAgain twin => ?_
              have placed : survey.place keyAgain.val = survey.place keyNode.val := by
                simp only [Survey.place, twin.span]
              refine attempt_same placed fun span _ => ?_
              split
              · rfl
              · exact attempt_same same.result fun folded _ => rfl

theorem sameValue_twins (opened : Opened old new)
    (same : ∀ table, Fold.eval table new = Fold.eval table old) {value further : Node}
    (twin : Twins old new .part value further) (table : ScopeTable) :
    SameValue table value further :=
  ⟨twin.isKind _, twin.isKind _, isKeyframesCall_twins opened twin,
    Fold.eval_twins opened (same table) (Fold.sameBelow opened (same table) value.size)
      (Nat.le_refl _) twin⟩

theorem onCall_twins (opened : Opened old new) (twin : Twins old new .part node other)
    (parents : Option.Rel (Relatives old new) parent parent') :
    onCall other nesting parent' survey = onCall node nesting parent survey := by
  refine attempt_bind_eq (agree_childLike opened twin (by decide)) fun callee again inner => ?_
  refine attempt_same (Fold.calledApi?_twins opened inner) fun found _ => ?_
  cases found with
  | none => rfl
  | some api =>
      have caller := callerOf?_relatives opened nesting parents
      cases api with
      | firstThatWorks => rfl
      | _ => exact attempt_same caller fun caller _ => rfl

/-- A property is treated alike in both trees, when its value is not the one that was exchanged or
that cannot be told apart from the other. -/
theorem onProperty_twins (opened : Opened old new)
    (same : ∀ table, Fold.eval table new = Fold.eval table old)
    (twin : Twins old new .property node other) (pair : node.kind = some .keyValueProperty)
    (value : Data.lookup? "value" node.entries = some (.map old.entries) →
      ∀ key, keyOf? survey.table nesting node = .ok (some key) → SameValue survey.table old new) :
    onProperty query other nesting parent' survey =
      onProperty query node nesting parent survey := by
  have keys := agree_key_child opened twin
  refine onProperty_alike (keyOf?_twins opened keys) keys fun key keyed => ?_
  have found := agree_mono (agree_fieldAt opened twin (by decide : Fold.IsPlain "value"))
    fun part further read _ like => (⟨like, (Fold.reads_of_field (by decide) read).found⟩ :
      _ ∧ Data.lookup? "value" node.entries = some part.val)
  have place : Site.property.ofField node.kind (.text "value") = .value := by
    simp [Site.ofField, pair, Data.isKey]
  rw [place] at found
  refine agree_bind found fun part further here => ?_
  obtain ⟨like, held⟩ := here
  obtain ⟨part, small⟩ := part
  obtain ⟨further, less⟩ := further
  dsimp only at like held
  rcases like_value like with ⟨rfl, rfl⟩ | like
  · have opening : Agree 0 (fun a b => SameValue survey.table a.val b.val)
        (Node.expect (.map old.entries)) (Node.expect (.map new.entries)) := by
      apply agree_val
      rw [Node.expect, Node.expect, openOr_map, openOr_map, opened.first, opened.second]
      exact .ok (value held key keyed)
    exact agree_bind opening fun _ _ same => .ok same
  · exact agree_bind (agree_expectLike like) fun _ _ twin =>
      .ok (sameValue_twins opened same twin survey.table)

theorem onProperty_part (opened : Opened old new)
    (same : ∀ table, Fold.eval table new = Fold.eval table old)
    (twin : Twins old new .part node other) :
    onProperty query other nesting parent' survey =
      onProperty query node nesting parent survey := by
  have keys := agree_childLike opened twin (by decide : IsCommon "key")
  refine onProperty_alike (keyOf?_twins opened keys) keys fun _ _ => ?_
  exact agree_mono (agree_childLike opened twin (by decide)) fun _ _ _ _ twin =>
    sameValue_twins opened same twin survey.table

end Hover

namespace Survey

variable {State Finding : Type} {query : Query} {state : State} {survey : Survey Finding}
  {parent parent' : Option Node} {site : Site}

theorem prune_twins (twin : Twins old new site node other) :
    prune query other state parent' survey = prune query node state parent survey := by
  have near : survey.isNear query other = survey.isNear query node := by
    simp only [isNear, twin.span, twin.kind]
  have run (node : Node) (parent : Option Node) : prune query node state parent survey =
      .ok (if survey.isNear query node then .keep else .skipChildren) survey := rfl
  rw [run, run, near]

theorem openFile_twins (twin : Twins old new site node other) :
    openFile query other state parent' survey = openFile query node state parent survey := by
  simp only [openFile, twin.span]

theorem takeImport_twins (opened : Opened old new) (twin : Twins old new .part node other) :
    takeImport query other state parent' survey = takeImport query node state parent survey := by
  simp only [takeImport, sourceOf?_twins opened twin, ofImport_twins opened twin]

theorem takeRequire_twins (opened : Opened old new) (twin : Twins old new .part node other) :
    takeRequire query other state parent' survey = takeRequire query node state parent survey := by
  simp only [takeRequire, ofRequire_twins opened twin]

theorem takeConstants_twins (opened : Opened old new)
    (same : ∀ table, Fold.eval table new = Fold.eval table old)
    (twin : Twins old new .part node other) :
    takeConstants other state parent' survey = takeConstants node state parent survey := by
  refine attempt_bind_eq (agree_fieldLike opened twin (by decide)) fun word again like => ?_
  obtain ⟨word, small⟩ := word
  obtain ⟨again, less⟩ := again
  rcases like with equal | exchanged
  · dsimp only at equal
    subst equal
    dsimp only
    split
    · refine attempt_bind_eq (agree_itemsLike opened twin (by decide) (by decide))
        fun row again each => ?_
      exact attempt_same (bindConstants_like opened same each survey.table) fun table _ => rfl
    · rfl
  · cases exchanged <;> rfl

end Survey

end Handlers

end StyleFold
