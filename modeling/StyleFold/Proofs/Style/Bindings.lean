import StyleFold.Proofs.Style.Specifiers

/-!
The names that import declarations and `require` calls bind. What a declaration binds is read off
the way it is written: specifiers one by one, or the entries of an object pattern. Main statement:
after any row of declarations a name stands for the library when one of them binds it so, and for an
entry point when the last of its bindings says so; what has nothing to do with the library changes
nothing. Both ways of writing the same names lead to the same table.
-/

namespace StyleFold

open Fold

section Declarations

/-- The bindings of a row, in order: what every item binds, if it binds anything. -/
inductive RowBinds (binds : Data → Binding → Prop) : List Data → List Binding → Prop where
  | nil : RowBinds binds [] []
  | bound {item : Data} {items : List Data} {binding : Binding} {bindings : List Binding}
      (first : binds item binding) (later : RowBinds binds items bindings) :
      RowBinds binds (item :: items) (binding :: bindings)
  | unbound {item : Data} {items : List Data} {bindings : List Binding}
      (none : ∀ binding, ¬ binds item binding) (later : RowBinds binds items bindings) :
      RowBinds binds (item :: items) bindings

/-- An import declaration from the library that is not for types only. -/
structure ImportsLibrary (settings : Settings) (node : Node) : Prop where
  kind : node.kind = some .importDeclaration
  unset : IsUnset node "typeOnly"
  source : ∃ inner name, Holds node "source" inner ∧ Spells inner (some (.text name)) ∧
    name ∈ settings.moduleNames

/-- The source that an argument of a `require` call writes. -/
structure Sources (argument source : Node) (name : String) : Prop where
  single : Lacks argument "spread"
  holds : Holds argument "expression" source
  kind : source.kind = some .stringLiteral
  writes : Reads source "value" (.text name)

structure Requires (call : Node) (name : String) : Prop where
  kind : call.kind = some .callExpression
  callee : ∃ callee, Holds call "callee" callee ∧ callee.kind = some .identifier ∧
    Reads callee "value" (.text "require")
  argument : ∃ entries argument source, Reads call "arguments" (.list [.map entries]) ∧
    Node.ofEntries entries = .ok argument ∧ Sources argument source name

/-- A declarator whose initializer requires the library. -/
structure RequiresLibrary (settings : Settings) (node : Node) : Prop where
  kind : node.kind = some .variableDeclarator
  call : ∃ call name, Holds node "init" call ∧ Requires call name ∧ name ∈ settings.moduleNames

def rowOf (node : Node) (name : String) : List Data :=
  match Data.lookup? name node.entries with
  | some (.list items) => items
  | _ => []

/-- A declaration that is handed over as an import, or as a declarator with a `require` call. -/
inductive Declaration where
  | imports (node : Node)
  | requires (node : Node)

/-- What the target of a declarator binds when the library is required. -/
inductive TargetBinds (target : Node) : List Binding → Prop where
  | name {name : Label} (kind : target.kind = some .identifier) (writes : Writes target name) :
      TargetBinds target [.library name]
  | pattern {bindings : List Binding} (kind : target.kind = some .objectPattern)
      (row : RowBinds EntryBinds (rowOf target "properties") bindings) : TargetBinds target bindings
  | other (noName : target.kind ≠ some .identifier)
      (noPattern : target.kind ≠ some .objectPattern) : TargetBinds target []

namespace Declaration

/-- What a declaration binds. -/
inductive Binds (settings : Settings) : Declaration → List Binding → Prop where
  | imports {node : Node} {bindings : List Binding} (library : ImportsLibrary settings node)
      (row : RowBinds SpecifierBinds (rowOf node "specifiers") bindings) :
      Binds settings (.imports node) bindings
  | requires {node target : Node} {bindings : List Binding}
      (library : RequiresLibrary settings node) (holds : Holds node "id" target)
      (binds : TargetBinds target bindings) : Binds settings (.requires node) bindings
  | otherImport {node : Node} (other : ¬ ImportsLibrary settings node) :
      Binds settings (.imports node) []
  | otherRequire {node : Node} (other : ¬ RequiresLibrary settings node) :
      Binds settings (.requires node) []

def read (settings : Settings) : Declaration → Declared
  | .imports node => Binding.ofImport settings node
  | .requires node => Binding.ofRequire settings node

/-- Hands a declaration over: whether it is about the library, and the table then. -/
def take (settings : Settings) (table : ScopeTable) (declaration : Declaration) :
    Except Fault (Bool × ScopeTable) := do
  let answer ← (declaration.read settings).outcome
  return (answer, table.recordAll (declaration.read settings).bindings)

/-- Hands declarations over one by one. -/
def takeAll (settings : Settings) (table : ScopeTable) : List Declaration → Except Fault ScopeTable
  | [] => return table
  | declaration :: rest => do
      let (_, later) ← declaration.take settings table
      takeAll settings later rest

end Declaration

end Declarations

section Rows

variable {read : Data → Except Fault (Option Binding)} {binds : Data → Binding → Prop}

theorem rowBinds_collect
    (same : ∀ item binding, read item = .ok (some binding) ↔ binds item binding) {items : List Data}
    {answer : Bool} (fine : (Declared.collect read items).outcome = .ok answer) :
    answer = true ∧ RowBinds binds items (Declared.collect read items).bindings := by
  induction items with
  | nil =>
      cases fine
      exact ⟨rfl, .nil⟩
  | cons item rest ih =>
      rw [Declared.collect] at fine ⊢
      cases given : read item with
      | error fault =>
          rw [given] at fine
          cases fine
      | ok found =>
          rw [given] at fine
          obtain ⟨holds, later⟩ := ih fine
          refine ⟨holds, ?_⟩
          cases found with
          | none =>
              refine .unbound ?_ later
              intro binding bound
              rw [(same item binding).mpr bound] at given
              cases given
          | some binding => exact .bound ((same item binding).mp given) later

theorem RowBinds.unique (same : ∀ item binding, read item = .ok (some binding) ↔ binds item binding)
    {items : List Data} {bindings others : List Binding} (first : RowBinds binds items bindings)
    (second : RowBinds binds items others) : bindings = others := by
  induction first generalizing others with
  | nil =>
      cases second
      rfl
  | @bound item items binding bindings here _ ih =>
      cases second with
      | @bound _ _ other _ there later =>
          have again := ((same item binding).mpr here).symm.trans ((same item other).mpr there)
          rw [Option.some.inj (Except.ok.inj again), ih later]
      | unbound none => exact absurd here (none binding)
  | unbound none _ ih =>
      cases second with
      | bound there => exact absurd there (none _)
      | unbound _ later => exact ih later

theorem collect_bound (same : ∀ item binding, read item = .ok (some binding) ↔ binds item binding)
    {items : List Data} {bindings : List Binding} (each : List.Forall₂ binds items bindings) :
    Declared.collect read items = ⟨bindings, .ok true⟩ := by
  induction each with
  | nil => rfl
  | @cons item binding items bindings bound _ ih =>
      rw [Declared.collect, (same item binding).mpr bound, ih]
      rfl

theorem ofSpecifier_eq_some (data : Data) (binding : Binding) :
    Binding.ofSpecifier data = .ok (some binding) ↔ SpecifierBinds data binding :=
  ⟨specifierBinds_of_ok, SpecifierBinds.ofSpecifier⟩

theorem ofPattern_eq_some (data : Data) (binding : Binding) :
    Binding.ofPattern data = .ok (some binding) ↔ EntryBinds data binding :=
  ⟨entryBinds_of_ok, EntryBinds.ofPattern⟩

theorem rowOf_items {node : Node} {name : String} {parts : node.Parts} {onText : Fault}
    (plain : IsPlain name) (run : node.items name onText = .ok parts) :
    parts.val = rowOf node name := by
  obtain ⟨part, given, run⟩ := ok_of_bind run
  unfold rowOf
  rw [(reads_of_field plain given).found]
  split at run
  · cases run
    rfl
  · split at run
    · cases run
      rfl
    · cases run
  · cases run

theorem rowOf_row {node : Node} {name : String} {parts : List node.Part} {onText : Fault}
    (run : node.row name onText = .ok (.ok parts)) : parts.map Subtype.val = rowOf node name := by
  obtain ⟨part, given, run⟩ := ok_of_bind run
  cases part with
  | none =>
      cases run
      unfold rowOf
      cases found : Data.lookup? name node.entries with
      | none => rfl
      | some data =>
          rw [lacks_of_field? given data found]
          rfl
  | some part =>
      obtain ⟨data, small⟩ := part
      unfold rowOf
      rw [(reads_of_field? given).1.found]
      cases data with
      | list items =>
          cases run
          exact parts_val node items _
      | text s =>
          by_cases empty : s.isEmpty = true
          · simp only [empty, if_true] at run
            cases run
            rfl
          · simp only [empty] at run
            cases run
      | _ => cases run

end Rows

section Asking

variable {settings : Settings} {node : Node}

theorem isLibrary_iff {source : Option String} :
    settings.isLibrary source = true ↔ ∃ name, source = some name ∧
    name ∈ settings.moduleNames := by
  cases source <;> simp [Settings.isLibrary]

theorem sourceOf?_eq_some {name : String} : Binding.sourceOf? node = .ok (some name) ↔
    ∃ inner, Holds node "source" inner ∧ Spells inner (some (.text name)) := by
  constructor
  · intro run
    obtain ⟨part, given, run⟩ := ok_of_bind run
    obtain ⟨found, spelled, run⟩ := ok_of_bind run
    have there : part.val ≠ .null := by
      intro null
      rw [null] at spelled
      cases spelled
      cases run
    obtain ⟨entries, inner, same, opened, spells⟩ := (nameOfPart?_eq_ok there).mp spelled
    have reads := reads_of_field (by decide) given
    rw [same] at reads
    have text : found = some (.text name) := by
      rcases found with _ | label
      · cases run
      · cases label <;> cases run
        rfl
    exact ⟨inner, ⟨entries, reads, opened⟩, text ▸ spells⟩
  · rintro ⟨inner, ⟨entries, reads, opened⟩, spells⟩
    have spelled := (nameOfPart?_eq_ok (by simp)).mpr ⟨entries, inner, rfl, opened, spells⟩
    rw [Binding.sourceOf?, reads.field (by decide), ok_bind, spelled]
    rfl

def importAsked (settings : Settings) (node : Node) : Except Fault Bool := do
  if !node.isKind .importDeclaration then return false
  if ← Binding.hasFlag node "typeOnly" then return false
  return settings.isLibrary (← Binding.sourceOf? node)

theorem ofImport_eq (settings : Settings) (node : Node) :
    Binding.ofImport settings node = Declared.ofExcept (do
      if ← importAsked settings node then
        match ← node.row "specifiers" .noAttribute with
        | .ok specifiers => return Declared.collect Binding.ofSpecifier (specifiers.map Subtype.val)
        | .error fault => return .refused fault
      else return .unrelated) := by
  unfold Binding.ofImport importAsked
  cases node.isKind .importDeclaration with
  | false => rfl
  | true =>
      simp only [Bool.not_true, Bool.false_eq_true, if_false, bind_assoc]
      congr 1
      apply bind_congr
      intro flag
      cases flag with
      | true => rfl
      | false =>
          simp only [Bool.false_eq_true, if_false, bind_assoc, pure_bind]
          apply bind_congr
          intro source
          cases settings.isLibrary source <;> rfl

theorem importAsked_iff : importAsked settings node = .ok true ↔ ImportsLibrary settings node := by
  unfold importAsked
  constructor
  · intro run
    cases kind : node.isKind .importDeclaration with
    | false =>
        rw [kind] at run
        cases run
    | true =>
        simp only [kind, Bool.not_true, Bool.false_eq_true, if_false] at run
        obtain ⟨flag, flagged, run⟩ := ok_of_bind run
        cases flag with
        | true => cases run
        | false =>
            obtain ⟨source, given, run⟩ := ok_of_bind run
            obtain ⟨name, rfl, known⟩ := isLibrary_iff.mp (Except.ok.inj run)
            obtain ⟨inner, holds, spells⟩ := sourceOf?_eq_some.mp given
            exact ⟨isKind_iff.mp kind, hasFlag_eq_false.mp flagged, inner, name,
              holds, spells, known⟩
  · rintro ⟨kind, unset, inner, name, holds, spells, known⟩
    rw [isKind_iff.mpr kind, hasFlag_eq_false.mpr unset, ok_bind,
      sourceOf?_eq_some.mpr ⟨inner, holds, spells⟩]
    exact congrArg Except.ok (isLibrary_iff.mpr ⟨name, rfl, known⟩)

theorem word?_eq_some {name word : String} (plain : IsPlain name) (seen : Seen name) :
    node.word? name = .ok (some word) ↔ Reads node name (.text word) := by
  constructor
  · intro run
    obtain ⟨⟨data, small⟩, given, run⟩ := ok_of_bind run
    cases data with
    | text s =>
        cases run
        exact reads_of_field plain given
    | _ => cases run
  · intro reads
    rw [Node.word?, reads.field seen]
    rfl

def sourceOfArgument? (argument : Node) : Except Fault (Option String) := do
  if (← argument.field? "spread").isSome then return none
  let source ← argument.child "expression"
  if !source.val.isKind .stringLiteral then return none
  source.val.word? "value"

theorem sourceOfArgument?_eq_some {argument : Node} {name : String} :
    sourceOfArgument? argument = .ok (some name) ↔ ∃ source, Sources argument source name := by
  unfold sourceOfArgument?
  constructor
  · intro run
    obtain ⟨mark, marked, run⟩ := ok_of_bind run
    cases mark with
    | some part => cases run
    | none =>
        obtain ⟨source, child, run⟩ := ok_of_bind run
        split at run
        · cases run
        · rename_i kind
          simp only [Bool.not_eq_true', Bool.not_eq_false] at kind
          exact ⟨source.val, lacks_of_field? marked, holds_of_child (by decide) child,
            isKind_iff.mp kind, (word?_eq_some (by decide) (by decide)).mp run⟩
  · rintro ⟨source, single, holds, kind, writes⟩
    obtain ⟨small, child⟩ := child_of_holds holds (by decide)
    rw [single.field?, ok_bind, child, ok_bind]
    simp only [isKind_iff.mpr kind, (word?_eq_some (by decide) (by decide)).mpr writes]
    rfl

theorem requires_of_ok {call : Node} {name : String}
    (run : Binding.requiredModule? call = .ok (some name)) : Requires call name := by
  unfold Binding.requiredModule? at run
  split at run
  · cases run
  rename_i kind
  obtain ⟨callee, child, run⟩ := ok_of_bind run
  split at run
  · cases run
  rename_i plain
  obtain ⟨word, spelled, run⟩ := ok_of_bind run
  split at run
  · cases run
  rename_i required
  obtain ⟨arguments, given, run⟩ := ok_of_bind run
  obtain _ | ⟨data, small⟩ := arguments
  · cases run
  obtain ⟨argument, rfl, run⟩ : ∃ argument, data = .list [argument] ∧
      (do sourceOfArgument? (← Node.expect argument).val) = .ok (some name) := by
    cases data with
    | list items =>
        obtain _ | ⟨argument, _ | ⟨second, rest⟩⟩ := items
        · cases run
        · exact ⟨argument, rfl, run⟩
        · cases run
    | text s =>
        have refused : (if s.length == 1 then .error .noAttribute else .ok none) =
            (Except.ok (some name) : Except Fault (Option String)) := run
        split at refused <;> cases refused
    | _ => cases run
  obtain ⟨view, expected, run⟩ := ok_of_bind run
  obtain ⟨entries, rfl, opened⟩ := opened_of_openOr expected
  obtain ⟨source, sources⟩ := sourceOfArgument?_eq_some.mp run
  simp only [Bool.not_eq_true', Bool.not_eq_false, bne_iff_ne, ne_eq,
    not_not] at kind plain required
  subst required
  exact ⟨isKind_iff.mp kind, ⟨callee.val, holds_of_child (by decide) child, isKind_iff.mp plain,
    (word?_eq_some (by decide) (by decide)).mp spelled⟩,
    ⟨entries, view.val, source, (reads_of_field? given).1, opened, sources⟩⟩

theorem Requires.requiredModule? {call : Node} {name : String} (requires : Requires call name) :
    Binding.requiredModule? call = .ok (some name) := by
  obtain ⟨kind, ⟨callee, holds, plain, spelled⟩,
    ⟨entries, argument, source, reads, opened, sources⟩⟩ :=
    requires
  obtain ⟨small, child⟩ := child_of_holds holds (by decide)
  have word := (word?_eq_some (by decide) (by decide)).mpr spelled
  have given := sourceOfArgument?_eq_some.mpr ⟨source, sources⟩
  rw [Binding.requiredModule?, isKind_iff.mpr kind, child, ok_bind,
    isKind_iff.mpr plain, word, ok_bind, reads.field? (by simp), ok_bind]
  change (do sourceOfArgument? (← Node.expect (.map entries)).val) = _
  rw [Node.expect, openOr_eq opened, ok_bind]
  exact given

def requireAsked (settings : Settings) (node : Node) : Except Fault Bool := do
  if !node.isKind .variableDeclarator then return false
  let required ← match ← node.field? "init" with
    | some part => do
        let call ← Node.expect part.val
        Binding.requiredModule? call.val
    | none => pure none
  return settings.isLibrary required

def ofTarget (target : Node) : Except Fault Declared := do
  match target.kind with
  | some .identifier => return ⟨[.library (← (← target.label "value").key)], .ok true⟩
  | some .objectPattern =>
      let properties ← target.items "properties" .noAttribute
      return Declared.collect Binding.ofPattern properties.val
  | _ => return .unrelated

theorem ofRequire_eq (settings : Settings) (node : Node) :
    Binding.ofRequire settings node = Declared.ofExcept (do
      if ← requireAsked settings node then
        let target ← node.child "id"
        ofTarget target.val
      else return .unrelated) := by
  unfold Binding.ofRequire requireAsked
  cases node.isKind .variableDeclarator with
  | false => rfl
  | true =>
      simp only [Bool.not_true, Bool.false_eq_true, if_false, bind_assoc]
      congr 1
      apply bind_congr
      intro part
      have rest (required : Option String) :
          (if !settings.isLibrary required then (return .unrelated : Except Fault Declared) else do
            let target ← node.child "id"
            ofTarget target.val) = (do
          if ← (pure (settings.isLibrary required) : Except Fault Bool) then
            let target ← node.child "id"
            ofTarget target.val
          else return .unrelated) := by
        cases settings.isLibrary required <;> rfl
      cases part with
      | none => exact rest none
      | some part =>
          simp only [bind_assoc]
          apply bind_congr
          intro call
          apply bind_congr
          intro required
          exact rest required

theorem requireAsked_iff :
    requireAsked settings node = .ok true ↔ RequiresLibrary settings node := by
  unfold requireAsked
  constructor
  · intro run
    cases kind : node.isKind .variableDeclarator with
    | false =>
        rw [kind] at run
        cases run
    | true =>
        simp only [kind, Bool.not_true, Bool.false_eq_true, if_false] at run
        obtain ⟨part, given, run⟩ := ok_of_bind run
        cases part with
        | none => cases run
        | some part =>
            simp only at run
            obtain ⟨call, expected, run⟩ := ok_of_bind run
            obtain ⟨required, called, run⟩ := ok_of_bind run
            obtain ⟨name, rfl, known⟩ := isLibrary_iff.mp (Except.ok.inj run)
            obtain ⟨entries, same, opened⟩ := opened_of_openOr expected
            have reads := (reads_of_field? given).1
            rw [same] at reads
            exact ⟨isKind_iff.mp kind, call.val, name, ⟨entries, reads, opened⟩,
              requires_of_ok called, known⟩
  · rintro ⟨kind, call, name, ⟨entries, reads, opened⟩, requires, known⟩
    rw [isKind_iff.mpr kind, reads.field? (by simp)]
    simp only [ok_bind, Node.expect, openOr_eq opened, requires.requiredModule?]
    exact congrArg Except.ok (isLibrary_iff.mpr ⟨name, rfl, known⟩)

end Asking

section Reading

variable {settings : Settings}

theorem Holds.unique {node first second : Node} {name : String} (one : Holds node name first)
    (other : Holds node name second) : first = second := by
  obtain ⟨entries, reads, opened⟩ := one
  obtain ⟨others, again, openedToo⟩ := other
  cases reads.found.symm.trans again.found
  exact Except.ok.inj (opened.symm.trans openedToo)

theorem TargetBinds.unique {target : Node} {bindings others : List Binding}
    (first : TargetBinds target bindings) (second : TargetBinds target others) :
    bindings = others := by
  cases first with
  | name kind writes =>
      cases second with
      | name _ again =>
          rw [Except.ok.inj ((label_of_writes writes).symm.trans (label_of_writes again))]
      | pattern other =>
          rw [kind] at other
          cases other
      | other noName => exact absurd kind noName
  | pattern kind row =>
      cases second with
      | name other =>
          rw [kind] at other
          cases other
      | pattern _ again => exact row.unique ofPattern_eq_some again
      | other _ noPattern => exact absurd kind noPattern
  | other noName noPattern =>
      cases second with
      | name kind => exact absurd kind noName
      | pattern kind => exact absurd kind noPattern
      | other => rfl

theorem Declaration.Binds.unique {declaration : Declaration} {bindings others : List Binding}
    (first : declaration.Binds settings bindings) (second : declaration.Binds settings others) :
    bindings = others := by
  cases first with
  | imports library row =>
      cases second with
      | imports _ again => exact row.unique ofSpecifier_eq_some again
      | otherImport other => exact absurd library other
  | requires library holds binds =>
      cases second with
      | requires _ again bindsToo =>
          cases holds.unique again
          exact binds.unique bindsToo
      | otherRequire other => exact absurd library other
  | otherImport other =>
      cases second with
      | imports library => exact absurd library other
      | otherImport => rfl
  | otherRequire other =>
      cases second with
      | requires library => exact absurd library other
      | otherRequire => rfl

/-- What was read is what is written, and it is nothing unless it is about the library. -/
def Faithful (binds : List Binding → Prop) (declared : Declared) : Prop :=
  ∀ answer, declared.outcome = .ok answer →
    binds declared.bindings ∧ (answer = false → declared.bindings = [])

theorem faithful_ofTarget {target : Node} {declared : Declared}
    (run : ofTarget target = .ok declared) : Faithful (TargetBinds target) declared := by
  intro answer fine
  unfold ofTarget at run
  split at run
  · rename_i kind
    obtain ⟨label, labelled, run⟩ := ok_of_bind run
    obtain ⟨name, keyed, last⟩ := ok_of_bind run
    cases last
    obtain ⟨rfl, _⟩ := key_eq_ok.mp keyed
    cases fine
    exact ⟨.name kind (writes_of_label labelled), by simp⟩
  · rename_i kind
    obtain ⟨parts, listed, run⟩ := ok_of_bind run
    cases run
    obtain ⟨rfl, row⟩ := rowBinds_collect ofPattern_eq_some fine
    rw [rowOf_items (by decide) listed] at row ⊢
    exact ⟨.pattern kind row, by simp⟩
  · rename_i noName noPattern
    cases run
    exact ⟨.other noName noPattern, fun _ => rfl⟩

theorem faithful_ofExcept {binds : List Binding → Prop} {run : Except Fault Declared}
    (each : ∀ declared, run = .ok declared → Faithful binds declared) :
    Faithful binds (Declared.ofExcept run) := by
  cases run with
  | error fault =>
      intro answer fine
      cases fine
  | ok declared => exact each declared rfl

theorem faithful_ofImport (node : Node) :
    Faithful ((Declaration.imports node).Binds settings) (Binding.ofImport settings node) := by
  rw [ofImport_eq]
  apply faithful_ofExcept
  intro declared run
  obtain ⟨known, asked, run⟩ := ok_of_bind run
  cases known with
  | false =>
      cases run
      intro answer fine
      refine ⟨.otherImport ?_, fun _ => rfl⟩
      intro library
      rw [importAsked_iff.mpr library] at asked
      cases asked
  | true =>
      obtain ⟨row, listed, run⟩ := ok_of_bind run
      intro answer fine
      cases row with
      | error fault =>
          cases run
          cases fine
      | ok parts =>
          cases run
          obtain ⟨rfl, bound⟩ := rowBinds_collect ofSpecifier_eq_some fine
          refine ⟨.imports (importAsked_iff.mp asked) ?_, by simp⟩
          rw [← rowOf_row listed]
          exact bound

theorem faithful_ofRequire (node : Node) :
    Faithful ((Declaration.requires node).Binds settings) (Binding.ofRequire settings node) := by
  rw [ofRequire_eq]
  apply faithful_ofExcept
  intro declared run
  obtain ⟨known, asked, run⟩ := ok_of_bind run
  cases known with
  | false =>
      cases run
      intro answer fine
      refine ⟨.otherRequire ?_, fun _ => rfl⟩
      intro library
      rw [requireAsked_iff.mpr library] at asked
      cases asked
  | true =>
      obtain ⟨target, child, run⟩ := ok_of_bind run
      intro answer fine
      obtain ⟨binds, nothing⟩ := faithful_ofTarget run answer fine
      exact ⟨.requires (requireAsked_iff.mp asked) (holds_of_child (by decide) child) binds,
        nothing⟩

theorem faithful_read (declaration : Declaration) :
    Faithful (declaration.Binds settings) (declaration.read settings) := by
  cases declaration with
  | imports node => exact faithful_ofImport node
  | requires node => exact faithful_ofRequire node

end Reading

section Tables

variable {settings : Settings}

/-- Names bound to exports, each with the name of the export. -/
def namedEntries (bindings : List Binding) : List (Label × Label) :=
  bindings.filterMap fun
    | .entry name imported => some (name, imported)
    | .library _ => none

theorem imports_recordAll (table : ScopeTable) (bindings : List Binding) :
    (table.recordAll bindings).imports = Assoc.putAll table.imports (namedEntries bindings) := by
  unfold ScopeTable.recordAll
  induction bindings generalizing table with
  | nil => rfl
  | cons binding rest ih =>
      rw [List.foldl_cons, ih]
      cases binding with
      | entry name imported => rfl
      | library name =>
          have kept : (table.record (.library name)).imports = table.imports := by
            rw [ScopeTable.record, ScopeTable.addNamespace]
            split <;> rfl
          rw [kept]
          rfl

theorem isNamespace_addNamespace (table : ScopeTable) (name : Label) (asked : String) :
    (table.addNamespace name).isNamespace (.text asked) = true ↔
      name = .text asked ∨ table.isNamespace (.text asked) = true := by
  unfold ScopeTable.addNamespace ScopeTable.isNamespace
  split
  · rename_i known
    constructor
    · exact .inr
    · rintro (rfl | there)
      · exact known
      · exact there
  · simp only [List.contains_eq_any_beq, List.any_append, List.any_cons,
      List.any_nil, Bool.or_false, Bool.or_eq_true, text_beq_iff]
    exact or_comm

theorem isNamespace_recordAll (table : ScopeTable) (bindings : List Binding) (asked : String) :
    (table.recordAll bindings).isNamespace (.text asked) = true ↔
      .library (.text asked) ∈ bindings ∨ table.isNamespace (.text asked) = true := by
  unfold ScopeTable.recordAll
  induction bindings generalizing table with
  | nil => simp
  | cons binding rest ih =>
      rw [List.foldl_cons, ih]
      cases binding with
      | entry name imported =>
          simp [ScopeTable.record, ScopeTable.addImport, ScopeTable.isNamespace]
      | library name =>
          rw [ScopeTable.record, isNamespace_addNamespace]
          simp only [List.mem_cons, Binding.library.injEq]
          tauto

theorem ofLabel?_eq_some {label : Label} {api : Api} :
    Api.ofLabel? label = some api ↔ label = .text api.name := by
  constructor
  · intro named
    cases label with
    | text s =>
        have found := List.find?_some named
        rw [beq_iff_eq.mp found]
    | _ => cases named
  · rintro rfl
    exact Api.ofName?_name api

theorem recordAll_append (table : ScopeTable) (first second : List Binding) :
    table.recordAll (first ++ second) = (table.recordAll first).recordAll second :=
  List.foldl_append

/-- Declarations that are handed over without a fault leave what they bind, in order. -/
theorem table_of_takeAll {table later : ScopeTable} {declarations : List Declaration}
    (run : Declaration.takeAll settings table declarations = .ok later) :
    ∃ bound, List.Forall₂ (Declaration.Binds settings) declarations bound ∧
      later = table.recordAll bound.flatten := by
  induction declarations generalizing table with
  | nil =>
      cases run
      exact ⟨[], .nil, rfl⟩
  | cons declaration rest ih =>
      obtain ⟨⟨answer, middle⟩, taken, run⟩ := ok_of_bind run
      obtain ⟨again, fine, last⟩ := ok_of_bind taken
      cases last
      obtain ⟨bound, each, rfl⟩ := ih run
      have binds := (faithful_read declaration _ fine).1
      refine ⟨_ :: bound, .cons binds each, ?_⟩
      rw [List.flatten_cons, recordAll_append]

theorem forall₂_binds_unique {declarations : List Declaration} {bound others : List (List Binding)}
    (first : List.Forall₂ (Declaration.Binds settings) declarations bound)
    (second : List.Forall₂ (Declaration.Binds settings) declarations others) : bound = others := by
  induction first generalizing others with
  | nil =>
      cases second
      rfl
  | cons here _ ih =>
      cases second with
      | cons there later => rw [here.unique there, ih later]

end Tables

section Pairs

variable {settings : Settings} {pairs : List (String × String)}

/-- A specifier for an export and its local name; one name is enough when they are the same. -/
def SpecifierOf (data : Data) (pair : String × String) : Prop :=
  NamesExport (.text pair.2) (some (.text pair.1)) data ∨
    pair.1 = pair.2 ∧ NamesExport (.text pair.2) none data

def bindingOf (pair : String × String) : Binding := .entry (.text pair.2) (.text pair.1)

/-- An import declaration with a specifier for each pair of an export and its local name. -/
structure ImportsPairs (settings : Settings) (pairs : List (String × String)) (node : Node) :
    Prop where
  library : ImportsLibrary settings node
  specifiers : ∃ items, Data.lookup? "specifiers" node.entries = some (.list items) ∧
    List.Forall₂ SpecifierOf items pairs

/-- A declarator with an object pattern that has an entry for each pair. -/
structure RequiresPairs (settings : Settings) (pairs : List (String × String)) (node : Node) :
    Prop where
  library : RequiresLibrary settings node
  pattern : ∃ target items, Holds node "id" target ∧ target.kind = some .objectPattern ∧
    Data.lookup? "properties" target.entries = some (.list items) ∧
    List.Forall₂ (fun item pair => EntryBinds item (bindingOf pair)) items pairs

theorem SpecifierOf.binds {pair : String × String} {data : Data} (written : SpecifierOf data pair)
    (named : pair.1 ≠ "") : SpecifierBinds data (bindingOf pair) := by
  rcases written with renamed | ⟨same, alone⟩
  · have full : (Label.text pair.1).isEmpty = false := by simpa [Label.isEmpty] using named
    have binds := SpecifierBinds.entry renamed rfl
    rwa [exportName, full] at binds
  · rw [bindingOf, same]
    exact SpecifierBinds.entry alone rfl

theorem check_of_specifier {data : Data} {binding : Binding} (binds : SpecifierBinds data binding) :
    Node.check data = .ok () := by
  cases binds with
  | library opened => exact check_opened opened
  | entry names =>
      cases names with
      | intro opened => exact check_opened opened

theorem check_of_entry {data : Data} {binding : Binding} (binds : EntryBinds data binding) :
    Node.check data = .ok () := by
  cases binds with
  | shorthand opened => exact check_opened opened
  | renamed opened => exact check_opened opened

theorem checkAll_of_binds {binds : Data → Binding → Prop} {items : List Data}
    {bindings : List Binding} (each : List.Forall₂ binds items bindings)
    (sound : ∀ item binding, binds item binding → Node.check item = .ok ()) :
    Node.checkAll items = .ok () := by
  induction each with
  | nil => rfl
  | cons first _ ih => simp only [Node.checkAll, sound _ _ first, ih]

theorem specifiers_bind {items : List Data} (each : List.Forall₂ SpecifierOf items pairs)
    (named : ∀ pair ∈ pairs, pair.1 ≠ "") :
    List.Forall₂ SpecifierBinds items (pairs.map bindingOf) := by
  induction each with
  | nil => exact .nil
  | @cons item pair items pairs first _ ih =>
      have later : ∀ pair ∈ pairs, pair.1 ≠ "" := by
        intro other member
        exact named other (List.mem_cons_of_mem _ member)
      exact .cons (first.binds (named pair List.mem_cons_self)) (ih later)

theorem read_imports {node : Node} (written : ImportsPairs settings pairs node)
    (named : ∀ pair ∈ pairs, pair.1 ≠ "") :
    (Declaration.imports node).read settings = ⟨pairs.map bindingOf, .ok true⟩ := by
  obtain ⟨library, items, found, each⟩ := written
  have binds := specifiers_bind each named
  have reads := (reads_list found).mpr (checkAll_of_binds binds fun _ _ => check_of_specifier)
  rw [Declaration.read, ofImport_eq, importAsked_iff.mpr library, ok_bind, if_pos rfl, reads.row,
    ok_bind]
  simp only [parts_val, collect_bound ofSpecifier_eq_some binds]
  rfl

theorem read_requires {node : Node} (written : RequiresPairs settings pairs node) :
    (Declaration.requires node).read settings = ⟨pairs.map bindingOf, .ok true⟩ := by
  obtain ⟨library, target, items, holds, kind, found, each⟩ := written
  have binds : List.Forall₂ EntryBinds items (pairs.map bindingOf) :=
    List.forall₂_map_right_iff.mpr each
  have reads := (reads_list found).mpr (checkAll_of_binds binds fun _ _ => check_of_entry)
  obtain ⟨small, child⟩ := child_of_holds holds (by decide)
  rw [Declaration.read, ofRequire_eq, requireAsked_iff.mpr library, ok_bind,
    if_pos rfl, child, ok_bind, ofTarget, kind]
  simp only [reads.items (by decide), ok_bind, collect_bound ofPattern_eq_some binds]
  rfl

end Pairs

section Names

/-- After declarations a name stands for the library when one of them binds it so, and for an entry
point when its last binding says so. What is not about the library leaves the table as it is, and
pairs of names lead to the same table whether they are imported or required. -/
theorem names_of_declarations (settings : Settings) :
    (∀ declarations table, Declaration.takeAll settings {} declarations = .ok table →
      (∃ bound, List.Forall₂ (Declaration.Binds settings) declarations bound) ∧
      ∀ bound, List.Forall₂ (Declaration.Binds settings) declarations bound → ∀ name : String,
        (table.isNamespace (.text name) = true ↔
          ∃ bindings ∈ bound, Binding.library (.text name) ∈ bindings) ∧
        ∀ api, table.api? (.text name) = some api ↔
          (valuesOf (.text name) (namedEntries bound.flatten)).getLast? = some (.text api.name)) ∧
    (∀ declaration table later, Declaration.take settings table declaration = .ok (false, later) →
      later = table) ∧
    ∀ pairs importing requiring table, (∀ pair ∈ pairs, pair.1 ≠ "") →
      ImportsPairs settings pairs importing → RequiresPairs settings pairs requiring →
      ∃ later, Declaration.take settings table (.imports importing) = .ok (true, later) ∧
        Declaration.take settings table (.requires requiring) = .ok (true, later) := by
  refine ⟨?_, ?_, ?_⟩
  · intro declarations table run
    obtain ⟨found, each, rfl⟩ := table_of_takeAll run
    refine ⟨⟨found, each⟩, ?_⟩
    intro bound again name
    cases forall₂_binds_unique each again
    constructor
    · rw [isNamespace_recordAll, List.mem_flatten]
      simp [ScopeTable.isNamespace]
    · intro api
      rw [ScopeTable.api?, imports_recordAll, lookup_putAll_nil, Option.bind_eq_some_iff]
      simp only [ofLabel?_eq_some]
      constructor
      · rintro ⟨imported, last, rfl⟩
        exact last
      · intro last
        exact ⟨_, last, rfl⟩
  · intro declaration table later run
    obtain ⟨answer, fine, last⟩ := ok_of_bind run
    cases last
    rw [(faithful_read declaration _ fine).2 rfl]
    rfl
  · intro pairs importing requiring table named imports requires
    refine ⟨table.recordAll (pairs.map bindingOf), ?_, ?_⟩
    · rw [Declaration.take, read_imports imports named]
      rfl
    · rw [Declaration.take, read_requires requires]
      rfl

/-- An import of two exports, one of them renamed. -/
def importedPairs : Node := ⟨some .importDeclaration, none,
  [(.text "specifiers", .list
      [taggedData "ImportSpecifier" [("local", nameData "c"), ("imported", textData "create")],
        taggedData "ImportSpecifier" [("local", nameData "keyframes")]]),
    (.text "source", textData "stylex")]⟩

/-- The same exports, taken from a `require` call. -/
def requiredPairs : Node := ⟨some .variableDeclarator, none,
  [(.text "id", taggedData "ObjectPattern" [("properties", .list
      [taggedData "KeyValuePatternProperty" [("key", nameData "create"), ("value", nameData "c")],
        taggedData "AssignmentPatternProperty" [("key", nameData "keyframes")]])]),
    (.text "init", taggedData "CallExpression" [("callee", nameData "require"),
      ("arguments", .list [.map [(.text "expression", textData "stylex")]])])]⟩

def twoPairs : List (String × String) := [("create", "c"), ("keyframes", "keyframes")]

theorem writes_text {node : Node} {name : String}
    (found : Data.lookup? "value" node.entries = some (.text name)) :
    Writes node (.text name) := ⟨.text name, ⟨found, rfl⟩, rfl⟩

theorem importsPairs_importedPairs : ImportsPairs {} twoPairs importedPairs where
  library := ⟨rfl, (by intro part found; cases found), _, "stylex",
    ⟨_, ⟨rfl, rfl⟩, rfl⟩, ⟨.inr rfl, writes_text rfl, by simp⟩, by decide⟩
  specifiers := by
    refine ⟨_, rfl, .cons (.inl ?_) (.cons (.inr ⟨rfl, ?_⟩) .nil)⟩
    · exact .intro rfl rfl (by intro part found; cases found) ⟨_, ⟨rfl, rfl⟩, rfl⟩ (writes_text rfl)
        ⟨_, ⟨_, ⟨rfl, rfl⟩, rfl⟩, .inr rfl, writes_text rfl, by simp⟩
    · exact .intro rfl rfl (by intro part found; cases found) ⟨_, ⟨rfl, rfl⟩, rfl⟩ (writes_text rfl)
        (.inl (by intro part found; cases found))

theorem requiresPairs_requiredPairs : RequiresPairs {} twoPairs requiredPairs where
  library := ⟨rfl, _, "stylex", ⟨_, ⟨rfl, rfl⟩, rfl⟩,
    ⟨rfl, ⟨_, ⟨_, ⟨rfl, rfl⟩, rfl⟩, rfl, rfl, rfl⟩,
      _, _, _, ⟨rfl, rfl⟩, rfl, (by intro part found; cases found), ⟨_, ⟨rfl, rfl⟩, rfl⟩,
      rfl, rfl, rfl⟩,
    by decide⟩
  pattern := by
    refine ⟨_, _, ⟨_, ⟨rfl, rfl⟩, rfl⟩, rfl, rfl, .cons ?_ (.cons ?_ .nil)⟩
    · exact .renamed rfl rfl ⟨_, ⟨rfl, rfl⟩, rfl⟩ ⟨.inl rfl, writes_text rfl, by simp⟩
        ⟨_, ⟨rfl, rfl⟩, rfl⟩ rfl (writes_text rfl) rfl
    · exact .shorthand rfl rfl ⟨_, ⟨rfl, rfl⟩, rfl⟩ (writes_text rfl) rfl

/-- Imported or required, the renamed export is known by its local name, and the library is not. -/
theorem names_of_twoPairs :
    ∃ table, Declaration.take {} {} (.imports importedPairs) = .ok (true, table) ∧
      Declaration.take {} {} (.requires requiredPairs) = .ok (true, table) ∧
      table.api? (.text "c") = some .create ∧ table.isNamespace (.text "c") ≠ true := by
  obtain ⟨after, _, same⟩ := names_of_declarations {}
  obtain ⟨table, imports, requires⟩ := same twoPairs importedPairs requiredPairs {} (by decide)
    importsPairs_importedPairs requiresPairs_requiredPairs
  have run : Declaration.takeAll {} {} [.imports importedPairs] = .ok table := by
    rw [Declaration.takeAll, imports]
    rfl
  have binds : (Declaration.imports importedPairs).Binds {} (twoPairs.map bindingOf) := by
    have read := read_imports importsPairs_importedPairs (by decide)
    have faithful := @faithful_read {} (.imports importedPairs) true (by rw [read])
    rw [read] at faithful
    exact faithful.1
  have asked := (after _ _ run).2 _ (.cons binds .nil) "c"
  refine ⟨table, imports, requires, (asked.2 .create).mpr (by decide), ?_⟩
  rw [ne_eq, asked.1]
  decide

end Names

end StyleFold
