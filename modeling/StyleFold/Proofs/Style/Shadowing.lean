import StyleFold.Proofs.Style.Scopes

/-!
Computed keys that are names. A name stands for the constant that the nearest scope has for it. A
scope has only the constants that fold: where the nearest declaration of a name does not, the name
is seen through it. Main statement: what such a key is at every call of a search, and when it is
none although an outer scope is asked.
-/

namespace StyleFold

/-! Keys. -/

namespace Css

section Keys

variable {table : ScopeTable} {property : Node} {name : Label}

/-- The key of a property is computed, and it is a name. -/
structure NameKey (property : Node) (name : Label) : Prop where
  written : ∃ key expression, property.child "key" = .ok key ∧ key.val.kind = some .computed ∧
    key.val.child "expression" = .ok expression ∧ expression.val.kind = some .identifier ∧
    expression.val.label "value" = .ok name
  keys : name.canKey = true

def keyOfConstant (constant : Option Value) : Except Fault (Option Label) :=
  constant.elim (.ok none) constantKey

theorem keyOf?_of_name (named : NameKey property name) :
    keyOf? table property = keyOfConstant (table.lookup? name) := by
  obtain ⟨⟨key, expression, keyed, computed, inside, identifier, labelled⟩, keys⟩ := named
  have hashed : name.key = .ok name := by simp [Label.key, keys]
  by_cases closed : table.frames = []
  · have missing : table.lookup? name = none := by simp [ScopeTable.lookup?, closed]
    simp [keyOf?, keyOfConstant, keyed, computed, inside, identifier, labelled,
      closed, missing, bind, Except.bind, pure, Except.pure]
  · simp only [keyOf?, keyed, computed, inside, identifier, labelled, List.isEmpty_iff,
      closed, hashed, bind, Except.bind, if_false]
    cases table.lookup? name with
    | none => rfl
    | some constant => rfl

theorem keyOfConstant_eq_none {constant : Option Value} :
    keyOfConstant constant = .ok none ↔
      ∀ value, constant = some value → ∃ why, value.text = .error why ∧
        why.family = .indeterminate := by
  cases constant with
  | none => simp [keyOfConstant]
  | some value =>
      simp only [keyOfConstant, Option.elim_some, constantKey, Option.some.injEq, forall_eq']
      cases value.text with
      | ok text => simp
      | error why =>
          by_cases family : why.family = .indeterminate
          · simp [family]
          · simp [family]

end Keys

end Css

/-! Names that are declared. -/

namespace Survey

section Declared

open Walk (Address Occasion)

variable {State Finding : Type} {root : Node} {past : List (Occasion State (Survey Finding))}
  {scopes outer : List Address} {scope : Address} {name : Label}

def declaredName? (data : Data) : Option Label := do
  let declarator ← (Node.expect data).toOption
  let target ← (declarator.val.child "id").toOption
  guard (target.val.isKind .identifier)
  (target.val.label "value").toOption

def namesDeclared (node : Node) : List Label :=
  if isConstants node then
    ((node.items "declarations" .noAttribute).toOption.map (·.val.filterMap declaredName?)).getD []
  else []

def declaredIn (root : Node) (past : List (Occasion State (Survey Finding))) (scope : Address) :
    List Label :=
  past.flatMap fun event =>
    if event.call.stage = .enter ∧ (scopesAbove root event.address).getLast? = some scope then
      namesDeclared event.call.node
    else []

theorem declaredName?_of_constant {table : ScopeTable} {data : Data} {value : Value}
    (found : constant? table data = some (name, value)) : declaredName? data = some name := by
  simp only [constant?, Option.bind_eq_bind, Option.bind_eq_some_iff] at found
  obtain ⟨declarator, expected, initial, given, target, named, plain, guarded, result,
    folded, found⟩ := found
  have labelled : (target.val.label "value").toOption = some name := by
    cases result with
    | value v span =>
        simp only [Option.bind_eq_some_iff, Option.pure_def, Option.some.injEq,
          Prod.mk.injEq] at found
        obtain ⟨label, read, same, _⟩ := found
        rw [read, same]
    | _ => cases found
  simp only [declaredName?, expected, named, guarded, labelled, Option.bind_eq_bind,
    Option.bind_some]

theorem mem_declaredIn {value : Value} (bound : (name, value) ∈ boundIn root past scope) :
    name ∈ declaredIn root past scope := by
  obtain ⟨event, happened, binds⟩ := List.mem_flatMap.mp bound
  refine List.mem_flatMap.mpr ⟨event, happened, ?_⟩
  unfold boundBy at binds
  split at binds
  · rename_i here
    rw [if_pos here]
    unfold declared at binds
    split at binds
    · rename_i constants
      split at binds
      · rename_i items listed
        obtain ⟨item, member, found⟩ := List.mem_filterMap.mp binds
        simp only [namesDeclared, constants, listed, Except.toOption, Option.map_some,
          Option.getD_some, if_true]
        exact List.mem_filterMap.mpr ⟨item, member, declaredName?_of_constant found⟩
      · cases binds
    · cases binds
  · cases binds

def Declares (root : Node) (past : List (Occasion State (Survey Finding))) (name : Label)
    (scope : Address) :
    Prop :=
  ∃ other ∈ declaredIn root past scope, (name == other) = true

/-- A scope has a constant for a name. -/
def Binds (root : Node) (past : List (Occasion State (Survey Finding))) (name : Label)
    (scope : Address) :
    Prop :=
  ∃ constant ∈ boundIn root past scope, (name == constant.1) = true

theorem Binds.declares (binds : Binds root past name scope) : Declares root past name scope := by
  obtain ⟨⟨other, value⟩, bound, same⟩ := binds
  exact ⟨other, mem_declaredIn bound, same⟩

theorem lookup_boundIn_eq_none :
    (boundIn root past scope).reverse.lookup name = none ↔ ¬ Binds root past name scope := by
  rw [List.lookup_eq_none_iff]
  constructor
  · rintro missing ⟨constant, bound, same⟩
    have differs := missing constant (List.mem_reverse.mpr bound)
    simp [bne, same] at differs
  · intro unbound constant member
    rw [bne, Bool.not_eq_true', Bool.eq_false_iff]
    intro same
    exact unbound ⟨constant, List.mem_reverse.mp member, same⟩

/-- The constant of a name in the nearest of some scopes that has one;
scopes are outermost first. -/
def constantAt (root : Node) (past : List (Occasion State (Survey Finding))) (scopes : List Address)
    (name : Label) : Option Value :=
  scopes.reverse.findSome? fun scope => (boundIn root past scope).reverse.lookup name

theorem lookup?_of_framed {table : ScopeTable}
    (framed : List.Forall₂ (fun scope frame => Frame.Has frame (boundIn root past scope)) scopes
      table.frames.reverse) (name : Label) :
    table.lookup? name = constantAt root past scopes name := by
  have inward := List.forall₂_reverse_iff.mpr framed
  rw [List.reverse_reverse] at inward
  unfold ScopeTable.lookup? constantAt
  generalize table.frames = frames, scopes.reverse = nearest at inward
  induction inward with
  | nil => rfl
  | cons has _ ih => rw [List.findSome?_cons, List.findSome?_cons, has name, ih]

/-- The nearest scope that declares a name has no constant for it; `outer` are the
scopes around that one. -/
def Obscured (root : Node) (past : List (Occasion State (Survey Finding))) (scopes : List Address)
    (name : Label) (outer : List Address) : Prop :=
  ∃ scope inner, scopes = outer ++ scope :: inner ∧ Declares root past name scope ∧
    ¬ Binds root past name scope ∧ ∀ other ∈ inner, ¬ Declares root past name other

theorem constantAt_of_obscured (obscured : Obscured root past scopes name outer) :
    constantAt root past scopes name = constantAt root past outer name := by
  obtain ⟨scope, inner, rfl, _, unbound, silent⟩ := obscured
  have within :
      (inner.reverse.findSome? fun scope => (boundIn root past scope).reverse.lookup name) =
        none := by
    rw [List.findSome?_eq_none_iff]
    intro other member
    rw [lookup_boundIn_eq_none]
    intro binds
    exact silent other (List.mem_reverse.mp member) binds.declares
  simp only [constantAt, List.reverse_append, List.reverse_cons, List.findSome?_append, within,
    List.findSome?_cons, lookup_boundIn_eq_none.mpr unbound, List.findSome?_nil, Option.none_or]

/-- How names that are keys are read at a call. -/
structure ResolvesNames (root : Node) (past : List (Occasion State (Survey Finding)))
    (event : Occasion State (Survey Finding)) : Prop where
  nearest : ∀ property name, Css.NameKey property name →
    Css.keyOf? event.world.table property =
      Css.keyOfConstant (constantAt root past (scopesAt root event) name)
  obscured : ∀ property name outer, Css.NameKey property name →
    Obscured root past (scopesAt root event) name outer →
    (Css.keyOf? event.world.table property = .ok none ↔
      ∀ value, constantAt root past outer name = some value →
        ∃ why, value.text = .error why ∧ why.family = .indeterminate)

theorem resolvesNames {event : Occasion State (Survey Finding)}
    (framed : List.Forall₂ (fun scope frame => Frame.Has frame (boundIn root past scope))
      (scopesAt root event) event.world.table.frames.reverse) : ResolvesNames root past event := by
  have nearest (property : Node) (name : Label) (named : Css.NameKey property name) :
      Css.keyOf? event.world.table property =
        Css.keyOfConstant (constantAt root past (scopesAt root event) name) := by
    rw [Css.keyOf?_of_name named, lookup?_of_framed framed]
  constructor
  · exact nearest
  · intro property name outer named obscured
    rw [nearest property name named, constantAt_of_obscured obscured]
    exact Css.keyOfConstant_eq_none

end Declared

section Declaring

open Walk (Duty)

variable {State Finding : Type} {table : ScopeTable} {data : Data}
  {declarator : { node : Node // node.size < sizeOf data }} {initial : declarator.val.Part}
  {target : { inner : Node // inner.size < declarator.val.size }}

theorem constantOf?_folds {name : Label} {value : Value} {span : Option Span}
    (expected : Node.expect data = .ok declarator)
    (given : declarator.val.field? "init" = .ok (some initial))
    (named : declarator.val.child "id" = .ok target) (plain : target.val.isKind .identifier = true)
    (folded : Fold.evalPart table initial.val = .ok (.value value span))
    (labelled : target.val.label "value" = .ok name) :
    constantOf? table data = .ok (some (name, value)) := by
  simp [constantOf?, expected, given, named, plain, folded, labelled, bind, Except.bind,
    pure, Except.pure]

theorem constantOf?_unknown (expected : Node.expect data = .ok declarator)
    (given : declarator.val.field? "init" = .ok (some initial))
    (named : declarator.val.child "id" = .ok target) (plain : target.val.isKind .identifier = true)
    (folded : Fold.evalPart table initial.val = .ok .nonStatic) :
    constantOf? table data = .ok none := by
  simp [constantOf?, expected, given, named, plain, folded, bind, Except.bind, pure, Except.pure]

theorem respond_takeConstants {query : Query} {own : Kind → Option (Handler State Finding)}
    {duty : Duty State} {survey : Survey Finding} {word : duty.task.node.Part}
    {items : duty.task.node.Parts}
    (named : (visitor query own).handler duty.stage duty.task.node = some takeConstants)
    (read : duty.task.node.field "kind" = .ok word) (const : word.val = .text "const")
    (listed : duty.task.node.items "declarations" .noAttribute = .ok items)
    (bound : bindConstants survey.table items.val = .ok table) :
    (visitor query own).respond duty survey = .ok .keep { survey with table } := by
  have run : takeConstants duty.task.node duty.task.state duty.task.parent survey =
      .ok .keep { survey with table } := by
    simp [takeConstants, bind, EStateM.bind, Walk.attempt, read, const, listed, bound,
      Walk.get_apply, pure, EStateM.pure, Walk.modify_apply]
  simp only [Walk.Visitor.respond, named, Walk.call, run]

end Declaring

end Survey

open Survey (ResolvesNames) in
/-- In every search through a file, at every call of a handler: a computed key that is a name is the
text of the constant that the nearest scope has for it. Where the nearest declaration of the name
has no constant, there is no key just when the scopes around it have none to offer either. -/
theorem names_of_searches {tree : Data} {root : Node} (opened : Node.ofData tree = .ok root)
    (file : root.kind.any Survey.isUnit = true) (query : Query) (cancelled : Bool) :
    (∃ events ending,
      Walk.Told (Survey.visitor query (Hover.handlers query)) root {} { cancelled } events ending ∧
        ∀ past event later, events = past ++ event :: later → ResolvesNames root past event) ∧
    ∃ events ending,
      Walk.Told (Survey.visitor query (Completion.handlers query)) root {} { cancelled }
        events ending ∧
        ∀ past event later, events = past ++ event :: later → ResolvesNames root past event := by
  have whole := ofData_self opened
  constructor
  · obtain ⟨events, ending, kept⟩ :=
      Survey.keepsScopes file (Hover.discreet query) (Hover.prudent query) whole query {} cancelled
    exact ⟨events, ending, kept.told, fun past event later split =>
      Survey.resolvesNames (kept.frames past event later split)⟩
  · obtain ⟨events, ending, kept⟩ :=
      Survey.keepsScopes file (Completion.discreet query) (Completion.prudent query) whole
        query {} cancelled
    exact ⟨events, ending, kept.told, fun past event later split =>
      Survey.resolvesNames (kept.frames past event later split)⟩

section Redeclared

open Survey (written)

def declaratorOf (start stop : Int) (name : String) (initial : Data) : Data :=
  written "VariableDeclarator" start stop [
    ("id", written "Identifier" start (start + 1) [("value", .text name)]), ("init", initial)]

def constantOf (start stop : Int) (name : String) (initial : Data) : Data :=
  written "VariableDeclaration" start stop [("kind", .text "const"), ("declarations", .list [
    declaratorOf (start + 6) stop name initial])]

def wordInitial : Data := written "StringLiteral" 51 58 [("value", .text "color")]

def callInitial : Data :=
  written "CallExpression" 73 76 [
    ("callee", written "Identifier" 73 74 [("value", .text "f")]), ("arguments", .list [])]

def keyedStyles : Data :=
  written "ObjectExpression" 89 148 [("properties", .list [
    written "KeyValueProperty" 91 146 [
      ("key", written "Identifier" 91 92 [("value", .text "a")]),
      ("value", written "ObjectExpression" 94 146 [("properties", .list [
        written "KeyValueProperty" 96 144 [
          ("key", written "Computed" 96 99 [
            ("expression", written "Identifier" 97 98 [("value", .text "k")])]),
          ("value", written "StringLiteral" 101 106 [("value", .text "red")])]])])]])]

/-- A file with a constant, and a block that declares its name again and has styles. -/
def redeclaredRoot : Node where
  kind := some .moduleUnit
  span := some ⟨0, 200⟩
  entries := [(.text "type", .text "Module"),
    (.text "span", .map [(.text "start", .int 0), (.text "end", .int 200)]),
    (.text "body", .list [
      written "ImportDeclaration" 0 40 [
        ("specifiers", .list [written "ImportSpecifier" 8 14 [
          ("local", written "Identifier" 8 14 [("value", .text "create")])]]),
        ("source", written "StringLiteral" 22 40 [("value", .text "@stylexjs/stylex")])],
      constantOf 41 60 "k" wordInitial,
      written "BlockStatement" 61 160 [("stmts", .list [
        constantOf 63 80 "k" callInitial,
        written "ExpressionStatement" 82 150 [("expression", written "CallExpression" 82 149 [
          ("callee", written "Identifier" 82 88 [("value", .text "create")]),
          ("arguments", .list [.map [(.text "expression", keyedStyles)]])])]])]])]

def redeclared : Data := .map redeclaredRoot.entries

theorem ofData_redeclared : Node.ofData redeclared = .ok redeclaredRoot := rfl

def blockPlace : Walk.Address := [[⟨2, "body"⟩, ⟨2, "2"⟩]]

/-- The cursor is on the key. -/
def onKey : Query := ⟨97, {}, 0⟩

theorem names_of_redeclared :
    Node.ofData redeclared = .ok redeclaredRoot ∧ redeclaredRoot.kind.any Survey.isUnit = true ∧
      ∃ events ending,
        Walk.Told (Survey.visitor onKey (Hover.handlers onKey)) redeclaredRoot {} {} events ending ∧
          ∀ past event later, events = past ++ event :: later →
            Survey.ResolvesNames redeclaredRoot past event :=
  ⟨ofData_redeclared, rfl, (names_of_searches ofData_redeclared rfl onKey false).1⟩

def createImported (frames : List Frame) : ScopeTable :=
  { frames, imports := [("create", "create")] }

theorem wordInitial_folds (frames : List Frame) :
    Fold.evalPart (createImported frames) wordInitial =
      .ok (.value (.string "color") (some ⟨51, 58⟩)) := by
  rw [Fold.evalPart]
  change Fold.eval _ _ = _
  rw [Fold.eval]
  rfl

theorem callInitial_unknown (frames : List Frame) :
    Fold.evalPart (createImported frames) callInitial = .ok .nonStatic := by
  rw [Fold.evalPart]
  change Fold.eval _ _ = _
  rw [Fold.eval]
  rfl

theorem word_bound :
    Survey.bindConstants (createImported [[]]) [declaratorOf 47 60 "k" wordInitial] =
      .ok (createImported [[("k", .string "color")]]) := by
  have found : Survey.constantOf? (createImported [[]]) (declaratorOf 47 60 "k" wordInitial) =
      .ok (some ("k", .string "color")) :=
    Survey.constantOf?_folds rfl rfl rfl rfl (wordInitial_folds _) rfl
  simp only [Survey.bindConstants, found]
  rfl

theorem call_unbound (frames : List Frame) :
    Survey.bindConstants (createImported frames) [declaratorOf 69 80 "k" callInitial] =
      .ok (createImported frames) := by
  have found : Survey.constantOf? (createImported frames) (declaratorOf 69 80 "k" callInitial) =
      .ok none :=
    Survey.constantOf?_unknown rfl rfl rfl rfl (callInitial_unknown _)
  simp only [Survey.bindConstants, found]
  rfl

theorem comes_to_key : ∃ declaration key survey,
    Walk.Comes (Survey.visitor onKey (Hover.handlers onKey)) [.arrive
      (Walk.rootTask redeclaredRoot {})] {} [declaration] key survey ∧
    (declaration.call.stage = .enter ∧
      Survey.scopesAbove redeclaredRoot declaration.address = [[], blockPlace] ∧
      Survey.namesDeclared declaration.call.node = [.text "k"]) ∧
    (Survey.scopesAt redeclaredRoot (key.occasion survey) = [[], blockPlace] ∧
      survey.table.frames = [[], [(.text "k", .string "color")]]) ∧
    Css.NameKey key.task.node "k" ∧ Css.keyOf? survey.table key.task.node = .ok (some "color") ∧
    survey.cancelled = false ∧
    (Survey.visitor onKey (Hover.handlers onKey)).handler key.stage key.task.node =
      some (Hover.onProperty onKey) ∧
    ∃ later, Hover.onProperty onKey key.task.node key.task.state key.task.parent survey =
      .ok .abort later ∧
      Survey.Answers (some
        ⟨".a \x7b\n  color: red;\n\x7d", ⟨96, 99⟩, .value (.string "red") (some ⟨101, 106⟩)⟩)
        (.error .aborted later) := by
  apply Exists.intro
  apply Exists.intro
  apply Exists.intro
  constructor
  · -- The file and its import.
    apply Walk.comes_past rfl rfl rfl
    apply Walk.comes_past rfl rfl
      (Walk.next_children (by simp) rfl rfl (Walk.seatsLeft_sorted rfl (by decide)))
    apply Walk.comes_past rfl rfl rfl
    apply Walk.comes_past rfl rfl rfl
    apply Walk.comes_past rfl rfl rfl
    -- The constant of the file.
    apply Walk.comes_past rfl rfl rfl
    apply Walk.comes_past rfl (Survey.respond_takeConstants rfl rfl rfl rfl word_bound)
      (Walk.next_children (by simp) rfl rfl (Walk.seatsLeft_sorted rfl (by decide)))
    apply Walk.comes_past rfl rfl rfl
    apply Walk.comes_past rfl rfl
      (Walk.next_children (by simp) rfl rfl (Walk.seatsLeft_sorted rfl (by decide)))
    apply Walk.comes_past rfl rfl rfl
    apply Walk.comes_past rfl rfl rfl
    apply Walk.comes_past rfl rfl rfl
    apply Walk.comes_past rfl rfl rfl
    -- The block and its declaration.
    apply Walk.comes_past rfl rfl rfl
    apply Walk.comes_past rfl rfl
      (Walk.next_children (by simp) rfl rfl (Walk.seatsLeft_sorted rfl (by decide)))
    apply Walk.comes_past rfl rfl rfl
    apply Walk.comes_call rfl rfl (Survey.respond_takeConstants rfl rfl rfl rfl (call_unbound _))
      (Walk.next_children (by simp) rfl rfl (Walk.seatsLeft_sorted rfl (by decide)))
    apply Walk.comes_past rfl rfl rfl
    apply Walk.comes_past rfl rfl
      (Walk.next_children (by simp) rfl rfl (Walk.seatsLeft_sorted rfl (by decide)))
    apply Walk.comes_past rfl rfl rfl
    apply Walk.comes_past rfl rfl rfl
    apply Walk.comes_past rfl rfl rfl
    apply Walk.comes_past rfl rfl rfl
    -- The call of the library.
    apply Walk.comes_past rfl rfl rfl
    apply Walk.comes_past rfl rfl
      (Walk.next_children (by simp) rfl rfl (Walk.seatsLeft_sorted rfl (by decide)))
    apply Walk.comes_past rfl rfl rfl
    apply Walk.comes_past rfl rfl
      (Walk.next_children (by simp) rfl rfl (Walk.seatsLeft_sorted rfl (by decide)))
    apply Walk.comes_past rfl rfl rfl
    -- The class.
    apply Walk.comes_past rfl rfl rfl
    apply Walk.comes_past rfl rfl
      (Walk.next_children (by simp) rfl rfl (Walk.seatsLeft_sorted rfl (by decide)))
    apply Walk.comes_past rfl rfl rfl
    apply Walk.comes_past rfl rfl
      (Walk.next_children (by simp) rfl rfl (Walk.seatsLeft_sorted rfl (by decide)))
    apply Walk.comes_past rfl rfl rfl
    -- The property.
    apply Walk.comes_past rfl rfl rfl
    apply Walk.comes_past rfl rfl
      (Walk.next_children (by simp) rfl rfl (Walk.seatsLeft_sorted rfl (by decide)))
    apply Walk.comes_past rfl rfl rfl
    exact Walk.comes_here _ _ _
  · refine ⟨⟨rfl, rfl, rfl⟩, ⟨rfl, rfl⟩, ⟨⟨_, _, rfl, rfl, rfl, rfl, rfl⟩, rfl⟩, rfl, rfl, rfl, ?_⟩
    refine ⟨_,
      Hover.onProperty_found rfl rfl rfl rfl rfl rfl rfl (by decide) (by rw [Fold.eval]; rfl) rfl
      (by decide), _, _, rfl, rfl, ?_⟩
    exact congrArg some (congrArg (Hover.mk · _ _) (by decide +kernel))

/-- The key in the block is the word of the file, although the nearest declaration
of its name is a call. -/
theorem key_seen_through_redeclared :
    (∃ events ending,
      Walk.Told (Survey.visitor onKey (Hover.handlers onKey)) redeclaredRoot {} {} events ending ∧
      ∃ past event later outer, events = past ++ event :: later ∧ Css.NameKey event.call.node "k" ∧
        Survey.Obscured redeclaredRoot past (Survey.scopesAt redeclaredRoot event) "k" outer ∧
        Css.keyOf? event.world.table event.call.node = .ok (some "color")) ∧
    (Hover.find onKey false redeclared).outcome = .ok (some
      ⟨".a \x7b\n  color: red;\n\x7d", ⟨96, 99⟩, .value (.string "red") (some ⟨101, 106⟩)⟩) := by
  obtain ⟨declaration, key, survey, comes, ⟨entered, inside, names⟩, ⟨around, frames⟩,
    named, keyed, free, handled, later, answered, found⟩ := comes_to_key
  obtain ⟨past, made, run⟩ := comes.aborts free handled answered
  constructor
  · obtain ⟨events, ending, kept⟩ :=
      Survey.keepsScopes rfl (Hover.discreet onKey) (Hover.prudent onKey)
      (ofData_self ofData_redeclared) onKey {} false
    obtain ⟨rfl, rfl⟩ := run.unique kept.told.recorded
    refine ⟨_, _, kept.told, past, key.occasion survey, [], [[]], rfl, named, ?_, keyed⟩
    refine ⟨blockPlace, [], around, ?_, ?_, by simp⟩
    · have declares : Label.text "k" ∈ Survey.declaredIn redeclaredRoot past blockPlace := by
        refine List.mem_flatMap.mpr ⟨declaration, made List.mem_cons_self, ?_⟩
        simp [entered, inside, names]
      exact ⟨_, declares, rfl⟩
    · -- The frame of the block is empty, so nothing has been bound in the block.
      have framed := kept.frames past (key.occasion survey) [] rfl
      rw [around, show (key.occasion survey).world.table.frames = _ from frames] at framed
      cases framed with
      | cons _ rest =>
          cases rest with
          | cons empty _ =>
              rw [← Survey.lookup_boundIn_eq_none]
              exact (empty (.text "k")).symm
  · exact Survey.outcome_of_reaches ofData_redeclared rfl ⟨_, _, run, found⟩

end Redeclared

end StyleFold
