import StyleFold.Proofs.Fold.Contribution
import StyleFold.Style.Binding

/-!
How names for the library and its exports are written: in specifiers of an import declaration, and
in entries of an object pattern. Main statements: a specifier and an entry are read to a binding
exactly when they write it.
-/

namespace StyleFold

open Fold

section Writing

def Holds (node : Node) (name : String) (inner : Node) : Prop :=
  ∃ entries, Reads node name (.map entries) ∧ Node.ofEntries entries = .ok inner

/-- A node that names something by its value. -/
def Writes (node : Node) (name : Label) : Prop :=
  ∃ part, Reads node "value" part ∧ name = Label.ofData part

/-- The name that a node spells: an identifier or a text its value, and anything else none. -/
def Spells (node : Node) : Option Label → Prop
  | some name => (node.kind = some .identifier ∨ node.kind = some .stringLiteral) ∧
      Writes node name ∧ name ≠ .null
  | none => (node.kind ≠ some .identifier ∧ node.kind ≠ some .stringLiteral) ∨ Writes node .null

def IsUnset (node : Node) (key : String) : Prop :=
  ∀ part, Data.lookup? key node.entries = some part → isEmptyPart part = true

variable {node : Node} {name : String}

theorem child_of_holds {inner : Node} (holds : Holds node name inner) (seen : Seen name) :
    ∃ small, node.child name = .ok ⟨inner, small⟩ := by
  obtain ⟨entries, reads, opened⟩ := holds
  exact reads.child seen opened

theorem holds_of_child {inner : { inner : Node // inner.size < node.size }} (plain : IsPlain name)
    (run : node.child name = .ok inner) : Holds node name inner.val := reads_of_child plain run

theorem label_of_writes {label : Label} (writes : Writes node label) :
    node.label "value" = .ok label := by
  obtain ⟨part, reads, rfl⟩ := writes
  exact reads.label (by decide)

theorem writes_of_label {label : Label} (run : node.label "value" = .ok label) :
    Writes node label :=
  reads_of_label (by decide) run

theorem key_eq_ok {label found : Label} :
    label.key = .ok found ↔ found = label ∧ label.canKey = true := by
  unfold Label.key
  by_cases canKey : label.canKey = true
  · simp [canKey, eq_comm]
  · simp [canKey]

theorem spells_unlessNull {label : Label} (writes : Writes node label)
    (kind : node.kind = some .identifier ∨ node.kind = some .stringLiteral) :
    Spells node label.unlessNull := by
  by_cases there : label = .null
  · subst there
    exact .inr writes
  · have same : label.unlessNull = some label := by
      cases label <;> first | exact absurd rfl there | rfl
    rw [same]
    exact ⟨kind, writes, there⟩

theorem spells_of_nameOf? {found : Option Label} (run : Binding.nameOf? node = .ok found) :
    Spells node found := by
  unfold Binding.nameOf? at run
  split at run
  · rename_i kind
    obtain ⟨label, labelled, run⟩ := ok_of_bind run
    cases run
    exact spells_unlessNull (writes_of_label labelled) (.inl kind)
  · rename_i kind
    obtain ⟨label, labelled, run⟩ := ok_of_bind run
    cases run
    exact spells_unlessNull (writes_of_label labelled) (.inr kind)
  · rename_i noName noText
    cases run
    exact .inl ⟨noName, noText⟩

theorem nameOf?_of_spells {name : Label} (spells : Spells node (some name)) :
    Binding.nameOf? node = .ok (some name) := by
  obtain ⟨kind, writes, there⟩ := spells
  have same : name.unlessNull = some name := by
    cases name <;> first | exact absurd rfl there | rfl
  unfold Binding.nameOf?
  rcases kind with kind | kind <;> simp only [kind, label_of_writes writes, ok_bind, same] <;> rfl

theorem nameOf?_of_spells_none (spells : Spells node none) : Binding.nameOf? node = .ok none := by
  unfold Binding.nameOf?
  split
  · rename_i kind
    rcases spells with other | writes
    · exact absurd kind other.1
    · rw [label_of_writes writes]
      rfl
  · rename_i kind
    rcases spells with other | writes
    · exact absurd kind other.2
    · rw [label_of_writes writes]
      rfl
  · rfl

theorem nameOf?_eq_ok {found : Option Label} :
    Binding.nameOf? node = .ok found ↔ Spells node found := by
  constructor
  · exact spells_of_nameOf?
  · cases found with
    | some name => exact nameOf?_of_spells
    | none => exact nameOf?_of_spells_none

theorem nameOfPart?_eq_ok {data : Data} {found : Option Label} (there : data ≠ .null) :
    Binding.nameOfPart? data = .ok found ↔
      ∃ entries view, data = .map entries ∧ Node.ofEntries entries = .ok view ∧
      Spells view found := by
  constructor
  · intro run
    rw [Binding.nameOfPart?] at run
    · obtain ⟨view, expected, run⟩ := ok_of_bind run
      obtain ⟨entries, same, opened⟩ := opened_of_openOr expected
      exact ⟨entries, view.val, same, opened, nameOf?_eq_ok.mp run⟩
    · exact there
  · rintro ⟨entries, view, rfl, opened, spells⟩
    rw [Binding.nameOfPart?, Node.expect, openOr_eq opened]
    · exact nameOf?_eq_ok.mpr spells
    · simp

theorem check_empty {part : Data} (empty : isEmptyPart part = true) : Node.check part = .ok () := by
  cases part with
  | list items =>
      cases items with
      | nil => rfl
      | cons item rest => cases empty
  | pair | map => cases empty
  | _ => rfl

theorem hasFlag_eq_false {key : String} :
    Binding.hasFlag node key = .ok false ↔ IsUnset node key := by
  unfold Binding.hasFlag
  constructor
  · intro run data found
    obtain ⟨part, given, run⟩ := ok_of_bind run
    cases part with
    | none =>
        rw [lacks_of_field? given data found]
        rfl
    | some part =>
        have same := Option.some.inj (found.symm.trans (reads_of_field? given).1.found)
        simpa [same, Binding.isSet, pure, Except.pure] using run
  · intro unset
    by_cases lacks : Lacks node key
    · rw [lacks.field?]
      rfl
    · unfold Lacks at lacks
      push Not at lacks
      obtain ⟨data, found, there⟩ := lacks
      have empty := unset data found
      rw [Reads.field? ⟨found, check_empty empty⟩ there, ok_bind]
      simp [Binding.isSet, empty, pure, Except.pure]

end Writing

section Items

/-- What a specifier imports from the library: the export that it names, if it names one. -/
def ImportedAs (view : Node) : Option Label → Prop
  | some name => ∃ inner, Holds view "imported" inner ∧ Spells inner (some name)
  | none => Lacks view "imported" ∨ ∃ inner, Holds view "imported" inner ∧ Spells inner none

/-- A specifier of a value: its local name, and the name of the export if it is written. -/
inductive NamesExport (loc : Label) (imported : Option Label) : Data → Prop where
  | intro {entries : Entries} {view inner : Node} (opened : Node.ofEntries entries = .ok view)
      (kind : view.kind = some .importSpecifier) (unset : IsUnset view "isTypeOnly")
      (holds : Holds view "local" inner) (writes : Writes inner loc)
      (imports : ImportedAs view imported) : NamesExport loc imported (.map entries)

def exportName (loc : Label) : Option Label → Label
  | some name => if name.isEmpty then loc else name
  | none => loc

inductive SpecifierBinds : Data → Binding → Prop where
  | library {entries : Entries} {view inner : Node} {name : Label}
      (opened : Node.ofEntries entries = .ok view)
      (kind : view.kind = some .importDefaultSpecifier ∨ view.kind = some .importNamespaceSpecifier)
      (holds : Holds view "local" inner) (writes : Writes inner name)
      (canKey : name.canKey = true) : SpecifierBinds (.map entries) (.library name)
  | entry {data : Data} {loc : Label} {imported : Option Label}
      (names : NamesExport loc imported data) (canKey : loc.canKey = true) :
      SpecifierBinds data (.entry loc (exportName loc imported))

/-- What an entry of an object pattern binds: the name that it writes, with a default or without, or
the plain name that its key is renamed to. -/
inductive EntryBinds : Data → Binding → Prop where
  | shorthand {entries : Entries} {view key : Node} {name : Label}
      (opened : Node.ofEntries entries = .ok view)
      (kind : view.kind = some .assignmentPatternProperty) (holds : Holds view "key" key)
      (writes : Writes key name) (canKey : name.canKey = true) :
      EntryBinds (.map entries) (.entry name name)
  | renamed {entries : Entries} {view key target : Node} {name imported : Label}
      (opened : Node.ofEntries entries = .ok view)
      (kind : view.kind = some .keyValuePatternProperty) (holds : Holds view "key" key)
      (spells : Spells key (some imported)) (given : Holds view "value" target)
      (plain : target.kind = some .identifier) (writes : Writes target name)
      (canKey : name.canKey = true) : EntryBinds (.map entries) (.entry name imported)

theorem localOf_eq_ok {view : Node} {name : Label} :
    Binding.localOf view = .ok name ↔ ∃ inner, Holds view "local" inner ∧ Writes inner name := by
  constructor
  · intro run
    obtain ⟨inner, child, run⟩ := ok_of_bind run
    exact ⟨inner.val, holds_of_child (by decide) child, writes_of_label run⟩
  · rintro ⟨inner, holds, writes⟩
    obtain ⟨small, child⟩ := child_of_holds holds (by decide)
    rw [Binding.localOf, child]
    exact label_of_writes writes

theorem exportName_eq (loc : Label) (imported : Option Label) :
    (imported.filter fun label => !label.isEmpty).getD loc = exportName loc imported := by
  cases imported with
  | none => rfl
  | some name => cases empty : name.isEmpty <;> simp [exportName, Option.filter, empty]

def importedOf? (view : Node) : Except Fault (Option Label) := do
  match ← view.field? "imported" with
  | some part => Binding.nameOfPart? part.val
  | none => pure none

theorem importedOf?_eq_ok {view : Node} {found : Option Label} :
    importedOf? view = .ok found ↔ ImportedAs view found := by
  unfold importedOf?
  constructor
  · intro run
    obtain ⟨part, given, run⟩ := ok_of_bind run
    cases part with
    | none =>
        cases run
        exact .inl (lacks_of_field? given)
    | some part =>
        obtain ⟨reads, there⟩ := reads_of_field? given
        obtain ⟨entries, inner, same, opened, spells⟩ := (nameOfPart?_eq_ok there).mp run
        rw [same] at reads
        cases found with
        | none => exact .inr ⟨inner, ⟨entries, reads, opened⟩, spells⟩
        | some name => exact ⟨inner, ⟨entries, reads, opened⟩, spells⟩
  · have held {inner : Node} (holds : Holds view "imported" inner) (spells : Spells inner found) :
        (do match ← view.field? "imported" with
          | some part => Binding.nameOfPart? part.val
          | none => pure none) = Except.ok found := by
      obtain ⟨entries, reads, opened⟩ := holds
      rw [reads.field? (by simp), ok_bind]
      exact (nameOfPart?_eq_ok (by simp)).mpr ⟨entries, inner, rfl, opened, spells⟩
    intro imports
    cases found with
    | none =>
        rcases imports with lacks | ⟨inner, holds, spells⟩
        · rw [lacks.field?]
          rfl
        · exact held holds spells
    | some name =>
        obtain ⟨inner, holds, spells⟩ := imports
        exact held holds spells

def isLibrarySpecifier (kind : Option Kind) : Prop :=
  kind = some .importDefaultSpecifier ∨ kind = some .importNamespaceSpecifier

theorem ofSpecifier_library {entries : Entries} {view : Node}
    (opened : Node.ofEntries entries = .ok view) (kind : isLibrarySpecifier view.kind) :
    Binding.ofSpecifier (.map entries) = (do
      let name ← Binding.localOf view
      let name ← name.key
      return some (.library name)) := by
  rw [Binding.ofSpecifier, Node.expect, openOr_eq opened]
  rcases kind with kind | kind <;> simp only [ok_bind, kind]

theorem ofSpecifier_entry {entries : Entries} {view : Node}
    (opened : Node.ofEntries entries = .ok view) (kind : view.kind = some .importSpecifier) :
    Binding.ofSpecifier (.map entries) = (do
      if ← Binding.hasFlag view "isTypeOnly" then return none
      let name ← Binding.localOf view
      let imported ← importedOf? view
      let key ← name.key
      return some (.entry key (exportName name imported))) := by
  rw [Binding.ofSpecifier, Node.expect, openOr_eq opened]
  simp only [ok_bind, kind, importedOf?, bind_assoc, exportName_eq]
  refine bind_congr fun flag => ?_
  split
  · rfl
  · refine bind_congr fun name => bind_congr fun part => ?_
    cases part <;> rfl

theorem ofSpecifier_other {entries : Entries} {view : Node}
    (opened : Node.ofEntries entries = .ok view) (library : ¬ isLibrarySpecifier view.kind)
    (entry : view.kind ≠ some .importSpecifier) :
    Binding.ofSpecifier (.map entries) = .ok none := by
  rw [Binding.ofSpecifier, Node.expect, openOr_eq opened]
  simp only [ok_bind]
  split
  · rename_i kind
    exact absurd (.inl kind) library
  · rename_i kind
    exact absurd (.inr kind) library
  · rename_i kind
    exact absurd kind entry
  · rfl

theorem specifierBinds_of_ok {data : Data} {binding : Binding}
    (run : Binding.ofSpecifier data = .ok (some binding)) : SpecifierBinds data binding := by
  have whole := run
  unfold Binding.ofSpecifier at run
  obtain ⟨⟨view, _⟩, expected, _⟩ := ok_of_bind run
  obtain ⟨entries, rfl, opened⟩ := opened_of_openOr expected
  by_cases library : isLibrarySpecifier view.kind
  · rw [ofSpecifier_library opened library] at whole
    obtain ⟨name, named, body⟩ := ok_of_bind whole
    obtain ⟨key, keyed, last⟩ := ok_of_bind body
    cases last
    obtain ⟨rfl, canKey⟩ := key_eq_ok.mp keyed
    obtain ⟨inner, holds, writes⟩ := localOf_eq_ok.mp named
    exact .library opened library holds writes canKey
  · by_cases kind : view.kind = some .importSpecifier
    · rw [ofSpecifier_entry opened kind] at whole
      obtain ⟨flag, flagged, body⟩ := ok_of_bind whole
      cases flag with
      | true => cases body
      | false =>
          obtain ⟨name, named, body⟩ := ok_of_bind body
          obtain ⟨imported, given, body⟩ := ok_of_bind body
          obtain ⟨key, keyed, last⟩ := ok_of_bind body
          cases last
          obtain ⟨rfl, canKey⟩ := key_eq_ok.mp keyed
          obtain ⟨inner, holds, writes⟩ := localOf_eq_ok.mp named
          exact .entry (.intro opened kind (hasFlag_eq_false.mp flagged) holds writes
            (importedOf?_eq_ok.mp given)) canKey
    · rw [ofSpecifier_other opened library kind] at whole
      cases whole

theorem SpecifierBinds.ofSpecifier {data : Data} {binding : Binding}
    (binds : SpecifierBinds data binding) : Binding.ofSpecifier data = .ok (some binding) := by
  cases binds with
  | library opened kind holds writes canKey =>
      rw [ofSpecifier_library opened kind, localOf_eq_ok.mpr ⟨_, holds, writes⟩, ok_bind,
        key_eq_ok.mpr ⟨rfl, canKey⟩]
      rfl
  | entry names canKey =>
      cases names with
      | intro opened kind unset holds writes imports =>
          rw [ofSpecifier_entry opened kind, hasFlag_eq_false.mpr unset, ok_bind,
            localOf_eq_ok.mpr ⟨_, holds, writes⟩, importedOf?_eq_ok.mpr imports]
          simp only [ok_bind, key_eq_ok.mpr ⟨rfl, canKey⟩]
          rfl

theorem ofPattern_shorthand {entries : Entries} {view : Node}
    (opened : Node.ofEntries entries = .ok view)
    (kind : view.kind = some .assignmentPatternProperty) :
    Binding.ofPattern (.map entries) = (do
      let key ← view.child "key"
      let name ← key.val.label "value"
      let name ← name.key
      return some (.entry name name)) := by
  rw [Binding.ofPattern, Node.expect, openOr_eq opened]
  simp only [ok_bind, kind]

theorem ofPattern_renamed {entries : Entries} {view : Node}
    (opened : Node.ofEntries entries = .ok view)
    (kind : view.kind = some .keyValuePatternProperty) :
    Binding.ofPattern (.map entries) = (do
      let key ← view.field "key"
      match ← Binding.nameOfPart? key.val with
      | none => return none
      | some imported =>
          let target ← view.child "value"
          if target.val.isKind .identifier then
            let name ← target.val.label "value"
            let name ← name.key
            return some (.entry name imported)
          else return none) := by
  have step := Binding.ofPattern.eq_def (.map entries)
  simp only [Node.expect, openOr_eq opened, ok_bind, kind] at step
  exact step

theorem isKind_iff {node : Node} {kind : Kind} :
    node.isKind kind = true ↔ node.kind = some kind := by
  simp [Node.isKind]

theorem entryBinds_of_ok {data : Data} {binding : Binding}
    (run : Binding.ofPattern data = .ok (some binding)) : EntryBinds data binding := by
  have whole := run
  unfold Binding.ofPattern at run
  obtain ⟨⟨view, _⟩, expected, run⟩ := ok_of_bind run
  obtain ⟨entries, rfl, opened⟩ := opened_of_openOr expected
  by_cases shorthand : view.kind = some .assignmentPatternProperty
  · rw [ofPattern_shorthand opened shorthand] at whole
    obtain ⟨key, child, body⟩ := ok_of_bind whole
    obtain ⟨label, labelled, body⟩ := ok_of_bind body
    obtain ⟨name, keyed, last⟩ := ok_of_bind body
    cases last
    obtain ⟨rfl, canKey⟩ := key_eq_ok.mp keyed
    exact .shorthand opened shorthand (holds_of_child (by decide) child) (writes_of_label labelled)
      canKey
  · by_cases renamed : view.kind = some .keyValuePatternProperty
    · rw [ofPattern_renamed opened renamed] at whole
      obtain ⟨key, given, body⟩ := ok_of_bind whole
      obtain ⟨found, spelled, body⟩ := ok_of_bind body
      cases found with
      | none => cases body
      | some imported =>
          obtain ⟨target, child, body⟩ := ok_of_bind body
          have there : key.val ≠ .null := by
            intro null
            rw [null] at spelled
            cases spelled
          obtain ⟨keyEntries, inner, same, openedKey, spells⟩ :=
            (nameOfPart?_eq_ok there).mp spelled
          have reads := reads_of_field (by decide) given
          rw [same] at reads
          split at body
          · rename_i plain
            obtain ⟨label, labelled, body⟩ := ok_of_bind body
            obtain ⟨name, keyed, last⟩ := ok_of_bind body
            cases last
            obtain ⟨rfl, canKey⟩ := key_eq_ok.mp keyed
            exact .renamed opened renamed ⟨keyEntries, reads, openedKey⟩ spells
              (holds_of_child (by decide) child) (isKind_iff.mp plain)
              (writes_of_label labelled) canKey
          · cases body
    · simp only at run
      cases run

theorem EntryBinds.ofPattern {data : Data} {binding : Binding} (binds : EntryBinds data binding) :
    Binding.ofPattern data = .ok (some binding) := by
  cases binds with
  | shorthand opened kind holds writes canKey =>
      obtain ⟨small, child⟩ := child_of_holds holds (by decide)
      rw [ofPattern_shorthand opened kind, child, ok_bind, label_of_writes writes, ok_bind,
        key_eq_ok.mpr ⟨rfl, canKey⟩]
      rfl
  | renamed opened kind holds spells given plain writes canKey =>
      obtain ⟨keyEntries, reads, openedKey⟩ := holds
      obtain ⟨small, child⟩ := child_of_holds given (by decide)
      have spelled := (nameOfPart?_eq_ok (by simp)).mpr ⟨keyEntries, _, rfl, openedKey, spells⟩
      rw [ofPattern_renamed opened kind, reads.field (by decide), ok_bind]
      simp only [spelled, ok_bind, child, isKind_iff.mpr plain, if_true, label_of_writes writes,
        key_eq_ok.mpr ⟨rfl, canKey⟩]
      rfl

end Items

end StyleFold
