import Mathlib.Data.List.Forall2
import StyleFold.Proofs.Fold.Replacement
import StyleFold.Proofs.Scope

/-!
What the properties of an object literal contribute to it. Every property contributes a row of
results, each to a key: an entry one result to the key it is written under, however that key is
spelled, and a spread what it spreads. Main statement: all that can be asked of the folded object is
read off these rows. A key is in it when something is contributed to the key, reading a member gives
the last contribution, and the keys are listed in the order of their first ones.
-/

namespace StyleFold

section Keys

variable {Key Val : Type} [BEq Key]

/-- Keys that were there come first; the others follow in the order in which they first came up. -/
theorem keys_putAll (entries additions : List (Key × Val)) :
    (Assoc.putAll entries additions).map Prod.fst = entries.map Prod.fst ++
      ((additions.map Prod.fst).filter fun key => !(entries.map Prod.fst).any
        (key == ·)).eraseDups := by
  unfold Assoc.putAll
  induction additions generalizing entries with
  | nil => simp
  | cons addition rest ih =>
      obtain ⟨key, value⟩ := addition
      rw [List.foldl_cons, ih, Assoc.keys_put, List.map_cons]
      by_cases known : (entries.map Prod.fst).any (key == ·) = true
      · rw [if_pos known, List.filter_cons_of_neg (by simp [known])]
      · rw [if_neg known, List.filter_cons_of_pos (by simp [known]), List.eraseDups_cons,
          List.filter_filter, List.append_assoc, List.singleton_append]
        congr 3
        apply List.filter_congr
        intro other _
        rw [List.any_append, Bool.not_or, Bool.and_comm]
        simp

theorem keys_putAll_nil (additions : List (Key × Val)) :
    (Assoc.putAll [] additions).map Prod.fst = (additions.map Prod.fst).eraseDups := by
  rw [keys_putAll, List.filter_eq_self.mpr (by simp)]
  rfl

/-- The values given to a key, in order. -/
def valuesOf (key : Key) (entries : List (Key × Val)) : List Val :=
  (entries.filter fun entry => key == entry.1).map Prod.snd

theorem getLast?_valuesOf (key : Key) (entries : List (Key × Val)) :
    (valuesOf key entries).getLast? = entries.reverse.lookup key := by
  unfold valuesOf
  induction entries with
  | nil => rfl
  | cons entry rest ih =>
      obtain ⟨other, value⟩ := entry
      rw [List.reverse_cons, List.lookup_append, ← ih, List.lookup_cons]
      cases same : key == other with
      | true =>
          rw [List.filter_cons, if_pos same, List.map_cons, List.getLast?_cons]
          cases ((rest.filter fun entry => key == entry.1).map Prod.snd).getLast? <;> rfl
      | false =>
          rw [List.filter_cons, if_neg (by simp [same])]
          simp

theorem lookup_putAll_nil [EquivBEq Key] (additions : List (Key × Val)) (key : Key) :
    (Assoc.putAll [] additions).lookup key = (valuesOf key additions).getLast? := by
  rw [getLast?_valuesOf, lookup_putAll]
  simp

end Keys

namespace Fold

section Inversion

variable {node : Node} {name : String}

def IsPlain (name : String) : Prop := String.ofList (Node.camel name.toList) = name

instance (name : String) : Decidable (IsPlain name) := inferInstanceAs (Decidable (_ = _))

theorem reads_of_checked {part got : node.Part}
    (found : Data.lookup? name node.entries = some part.val) (run : node.checked part = .ok got) :
    Reads node name got.val := by
  unfold Node.checked at run
  split at run
  · rename_i sound
    cases run
    exact ⟨found, sound⟩
  · cases run

theorem reads_of_field {part : node.Part} (plain : IsPlain name)
    (run : node.field name = .ok part) :
    Reads node name part.val := by
  unfold Node.field at run
  split at run
  · cases run
  · cases found : Data.lookup? name node.entries with
    | none =>
        rw [plain, find?_none found] at run
        cases run
    | some data =>
        rw [find?_eq found] at run
        exact reads_of_checked found run

theorem field?_found {data : Data} (found : Data.lookup? name node.entries = some data)
    (there : data ≠ .null) :
    node.field? name = (node.checked ⟨data, Data.sizeOf_lookup? found⟩).map some := by
  unfold Node.field?
  rw [find?_eq found]
  cases data with
  | null => exact absurd rfl there
  | _ => rfl

theorem reads_of_field? {part : node.Part} (run : node.field? name = .ok (some part)) :
    Reads node name part.val ∧ part.val ≠ .null := by
  by_cases lacks : Lacks node name
  · rw [lacks.field?] at run
    cases run
  · unfold Lacks at lacks
    push Not at lacks
    obtain ⟨data, found, there⟩ := lacks
    rw [field?_found found there] at run
    cases checked : node.checked ⟨data, Data.sizeOf_lookup? found⟩ with
    | error fault =>
        rw [checked] at run
        cases run
    | ok got =>
        rw [checked] at run
        cases run
        have reads := reads_of_checked found checked
        have same : data = part.val := Option.some.inj (found.symm.trans reads.found)
        exact ⟨reads, same ▸ there⟩

theorem lacks_of_field? (run : node.field? name = .ok none) : Lacks node name := by
  intro data found
  by_contra there
  rw [field?_found found there] at run
  cases checked : node.checked ⟨data, Data.sizeOf_lookup? found⟩ with
  | error fault =>
      rw [checked] at run
      cases run
  | ok got =>
      rw [checked] at run
      cases run

theorem opened_of_openOr {fault : Fault} {data : Data}
    {inner : { node : Node // node.size < sizeOf data }}
    (run : Node.openOr fault data = .ok inner) :
    ∃ entries, data = .map entries ∧ Node.ofEntries entries = .ok inner.val := by
  cases data with
  | map entries =>
      simp only [Node.openOr] at run
      split at run
      · rename_i view opened
        cases run
        exact ⟨entries, rfl, opened⟩
      · cases run
  | _ => cases run

theorem reads_of_child {inner : { inner : Node // inner.size < node.size }} (plain : IsPlain name)
    (run : node.child name = .ok inner) :
    ∃ entries, Reads node name (.map entries) ∧ Node.ofEntries entries = .ok inner.val := by
  obtain ⟨part, given, run⟩ := ok_of_bind run
  obtain ⟨view, expected, run⟩ := ok_of_bind run
  obtain ⟨entries, same, opened⟩ := opened_of_openOr expected
  cases run
  exact ⟨entries, same ▸ reads_of_field plain given, opened⟩

theorem reads_of_label {label : Label} (plain : IsPlain name) (run : node.label name = .ok label) :
    ∃ part, Reads node name part ∧ label = Label.ofData part := by
  obtain ⟨part, given, run⟩ := ok_of_bind run
  cases run
  exact ⟨part.val, reads_of_field plain given, rfl⟩

theorem check_opened {entries : Entries} {view : Node}
    (opened : Node.ofEntries entries = .ok view) :
    Node.check (.map entries) = .ok () := by
  simp [Node.check, opened, Except.map]

theorem reads_list {node : Node} {name : String} {items : List Data}
    (found : Data.lookup? name node.entries = some (.list items)) :
    Reads node name (.list items) ↔ Node.checkAll items = .ok () := by
  constructor
  · intro reads
    simpa [Node.check] using reads.sound
  · intro sound
    exact ⟨found, by simpa [Node.check] using sound⟩

end Inversion

section PropertyKeys

variable (table : ScopeTable)

/-- The key that a property is written under: a name as it stands, a number or an expression by
the text of its value. -/
inductive KeyIs (key : Node) : Label → Prop where
  | name {part : Data} (kind : key.kind = some .identifier ∨ key.kind = some .stringLiteral)
      (written : Reads key "value" part) (there : part ≠ .null) : KeyIs key (Label.ofData part)
  | folded {v : Value} {span : Option Span} {text : String}
      (kind : key.kind = some .numericLiteral ∨ key.kind = some .bigIntLiteral ∨
        key.kind = some .computed)
      (folded : eval table key = .ok (.value v span)) (spelled : v.text = .ok text) :
      KeyIs key (.text text)

/-- Nothing tells the key that a property is written under. -/
inductive Keyless (key : Node) : Prop where
  | kind (unknown : isUnknownKey key.kind = true)
  | null (kind : key.kind = some .identifier ∨ key.kind = some .stringLiteral)
      (written : Reads key "value" .null)
  | notStatic {result : Result} (kind : key.kind = some .computed)
      (folded : eval table key = .ok result) (unknown : ∀ v span, result ≠ .value v span)
  | noText {v : Value} {span : Option Span} {why : Refusal} (kind : key.kind = some .computed)
      (folded : eval table key = .ok (.value v span)) (refused : v.text = .error why)
      (unknown : why.family = .indeterminate)

def Keyed (key : Node) : Option Label → Prop
  | some name => KeyIs table key name
  | none => Keyless table key

variable {table} {key : Node}

theorem unlessNull_ofData {part : Data} (there : part ≠ .null) :
    (Label.ofData part).unlessNull = some (Label.ofData part) := by
  cases part with
  | null => exact absurd rfl there
  | list items =>
      simp only [Label.ofData]
      split <;> rfl
  | map entries =>
      simp only [Label.ofData]
      split <;> rfl
  | _ => rfl

theorem propertyKey_label {part : Data}
    (kind : key.kind = some .identifier ∨ key.kind = some .stringLiteral)
    (written : Reads key "value" part) :
    propertyKey table key = .ok (Label.ofData part).unlessNull := by
  rcases kind with kind | kind <;> rw [propertyKey, kind] <;>
    simp only [written.label (by decide)] <;> rfl

theorem propertyKey_value {inner : Data} (kind : key.kind = some .computed)
    (written : Reads key "expression" inner) :
    propertyKey table key = (do keyOf (← eval table key)) := by
  rw [propertyKey_computed table kind written, eval_passing table kind rfl written]

theorem reads_of_computed (kind : key.kind = some .computed) {result : Result}
    (folded : eval table key = .ok result) : ∃ inner, Reads key "expression" inner := by
  rw [eval, kind] at folded
  obtain ⟨part, given, _⟩ := ok_of_bind folded
  exact ⟨part.val, reads_of_field (by decide) given⟩

theorem reads_of_number (kind : key.kind = some .numericLiteral) {result : Result}
    (folded : eval table key = .ok result) : ∃ part, Reads key "value" part := by
  rw [eval, kind] at folded
  obtain ⟨part, given, _⟩ := ok_of_bind folded
  exact ⟨part.val, reads_of_field (by decide) given⟩

theorem KeyIs.propertyKey {name : Label} (is : KeyIs table key name) :
    Fold.propertyKey table key = .ok (some name) := by
  cases is with
  | name kind written there =>
      rw [propertyKey_label kind written, unlessNull_ofData there]
  | folded kind folded spelled =>
      rcases kind with kind | kind | kind
      · obtain ⟨part, written⟩ := reads_of_number kind folded
        rw [eval_number table kind written] at folded
        obtain ⟨x, number, run⟩ := ok_of_bind folded
        cases run
        cases spelled
        rw [propertyKey_number table kind written, number]
        rfl
      · rw [eval_bigint table kind] at folded
        obtain ⟨i, number, run⟩ := ok_of_bind folded
        cases run
        rw [Value.text] at spelled
        rw [propertyKey_bigint table kind, number, ok_bind, spelled]
        rfl
      · obtain ⟨inner, written⟩ := reads_of_computed kind folded
        rw [propertyKey_value kind written, folded, ok_bind]
        simp [keyOf, Value.propertyKey, spelled]

theorem Keyless.propertyKey (keyless : Keyless table key) :
    Fold.propertyKey table key = .ok none := by
  cases keyless with
  | kind unknown => exact propertyKey_unknown table unknown
  | null kind written => exact propertyKey_label kind written
  | notStatic kind folded unknown =>
      obtain ⟨inner, written⟩ := reads_of_computed kind folded
      rw [propertyKey_value kind written, folded, ok_bind]
      unfold keyOf
      split
      · exact absurd rfl (unknown _ _)
      · rfl
  | noText kind folded refused unknown =>
      obtain ⟨inner, written⟩ := reads_of_computed kind folded
      rw [propertyKey_value kind written, folded, ok_bind]
      simp [keyOf, Value.propertyKey, refused, unknown]

theorem keyed_name (kind : key.kind = some .identifier ∨ key.kind = some .stringLiteral)
    {found : Option Label} (run : propertyKey table key = .ok found) : Keyed table key found := by
  have labelled : ∃ label, key.label "value" = .ok label := by
    rcases kind with kind | kind <;> rw [propertyKey, kind] at run <;>
      exact (ok_of_bind run).imp fun _ both => both.1
  obtain ⟨label, labelled⟩ := labelled
  obtain ⟨part, written, _⟩ := reads_of_label (by decide) labelled
  rw [propertyKey_label kind written] at run
  by_cases there : part = .null
  · subst there
    cases run
    exact .null kind written
  · rw [unlessNull_ofData there] at run
    cases run
    exact .name kind written there

theorem keyed_number (kind : key.kind = some .numericLiteral) {found : Option Label}
    (run : propertyKey table key = .ok found) : Keyed table key found := by
  have whole := run
  rw [propertyKey, kind] at run
  obtain ⟨part, given, _⟩ := ok_of_bind run
  have written := reads_of_field (by decide) given
  rw [propertyKey_number table kind written] at whole
  obtain ⟨x, number, run⟩ := ok_of_bind whole
  cases run
  have folded : eval table key = .ok (.value (.number x) key.span) := by
    rw [eval_number table kind written, number]
    rfl
  exact .folded (.inl kind) folded rfl

theorem keyed_bigint (kind : key.kind = some .bigIntLiteral) {found : Option Label}
    (run : propertyKey table key = .ok found) : Keyed table key found := by
  rw [propertyKey_bigint table kind] at run
  obtain ⟨i, number, run⟩ := ok_of_bind run
  obtain ⟨text, spelled, run⟩ := ok_of_bind run
  cases run
  have folded : eval table key = .ok (.value (.bigint i) key.span) := by
    rw [eval_bigint table kind, number]
    rfl
  exact .folded (.inr (.inl kind)) folded (by rw [Value.text, mapError_eq_ok.mp spelled])

theorem keyed_computed (kind : key.kind = some .computed) {found : Option Label}
    (run : propertyKey table key = .ok found) : Keyed table key found := by
  have whole := run
  rw [propertyKey, kind] at run
  obtain ⟨part, given, _⟩ := ok_of_bind run
  rw [propertyKey_value kind (reads_of_field (by decide) given)] at whole
  obtain ⟨result, folded, run⟩ := ok_of_bind whole
  unfold keyOf at run
  split at run
  · split at run
    · rename_i text spelled
      cases run
      exact .folded (.inr (.inr kind)) folded spelled
    · rename_i why refused
      split at run
      · rename_i unknown
        cases run
        exact .noText kind folded refused unknown
      · cases run
  · rename_i unknown
    cases run
    exact .notStatic kind folded unknown

theorem keyed_of_propertyKey {found : Option Label} (run : propertyKey table key = .ok found) :
    Keyed table key found := by
  by_cases unknown : isUnknownKey key.kind = true
  · rw [propertyKey_unknown table unknown] at run
    cases run
    exact .kind unknown
  · unfold isUnknownKey at unknown
    split at unknown
    · rename_i kind
      exact keyed_name (.inl kind) run
    · rename_i kind
      exact keyed_name (.inr kind) run
    · rename_i kind
      exact keyed_number kind run
    · rename_i kind
      exact keyed_bigint kind run
    · rename_i kind
      exact keyed_computed kind run
    · exact absurd rfl unknown

end PropertyKeys

section Contributions

variable (table : ScopeTable)

/-- What a property contributes, in order. -/
inductive Contributes : Data → Members → Prop where
  | entry {entries keyEntries : Entries} {view key : Node} {name : Label} {value : Data}
      {result : Result} (opened : Node.ofEntries entries = .ok view)
      (kind : view.kind = some .keyValueProperty ∨ view.kind = some .assignmentProperty)
      (written : Reads view "key" (.map keyEntries))
      (openedKey : Node.ofEntries keyEntries = .ok key) (under : KeyIs table key name)
      (canKey : name.canKey = true) (given : Reads view "value" value)
      (folded : evalPart table value = .ok result) : Contributes (.map entries) [(name, result)]
  | keyless {entries keyEntries : Entries} {view key : Node}
      (opened : Node.ofEntries entries = .ok view)
      (kind : view.kind = some .keyValueProperty ∨ view.kind = some .assignmentProperty)
      (written : Reads view "key" (.map keyEntries))
      (openedKey : Node.ofEntries keyEntries = .ok key) (unknown : Keyless table key) :
      Contributes (.map entries) []
  /-- A name that stands alone contributes its own result. -/
  | shorthand {entries : Entries} {view : Node} {part : Data} {result : Result}
      (opened : Node.ofEntries entries = .ok view) (kind : view.kind = some .identifier)
      (written : Reads view "value" part) (canKey : (Label.ofData part).canKey = true)
      (folded : evalPart table (.map entries) = .ok result) :
      Contributes (.map entries) [(Label.ofData part, result)]
  | object {entries : Entries} {view : Node} {source : Data} {members : Members}
      {span : Option Span} (opened : Node.ofEntries entries = .ok view)
      (kind : view.kind = some .spreadElement) (given : Reads view "arguments" source)
      (folded : evalPart table source = .ok (.value (.object members) span)) :
      Contributes (.map entries) members
  | array {entries : Entries} {view : Node} {source : Data} {elements : List Result}
      {span : Option Span} (opened : Node.ofEntries entries = .ok view)
      (kind : view.kind = some .spreadElement) (given : Reads view "arguments" source)
      (folded : evalPart table source = .ok (.value (.array elements) span)) :
      Contributes (.map entries) (indexed elements)
  | text {entries : Entries} {view : Node} {source : Data} {s : String}
      {span : Option Span} (opened : Node.ofEntries entries = .ok view)
      (kind : view.kind = some .spreadElement) (given : Reads view "arguments" source)
      (folded : evalPart table source = .ok (.value (.string s) span)) :
      Contributes (.map entries) (indexed (charResults s span))
  | unspread {entries : Entries} {view : Node} {source : Data} {result : Result}
      (opened : Node.ofEntries entries = .ok view) (kind : view.kind = some .spreadElement)
      (given : Reads view "arguments" source) (folded : evalPart table source = .ok result)
      (noObject : ∀ members span, result ≠ .value (.object members) span)
      (noArray : ∀ elements span, result ≠ .value (.array elements) span)
      (noText : ∀ s span, result ≠ .value (.string s) span) : Contributes (.map entries) []
  | dropped {entries : Entries} {view : Node} (opened : Node.ofEntries entries = .ok view)
      (dropped : isDropped view.kind = true) : Contributes (.map entries) []

variable {table}

theorem evalProperties_label {entries : Entries} {view : Node} {part : Data}
    (opened : Node.ofEntries entries = .ok view) (kind : view.kind = some .identifier)
    (written : Reads view "value" part) (members : Members) (rest : List Data) :
    evalProperties table members (.map entries :: rest) = (do
      let name ← (Label.ofData part).key
      evalProperties table (Members.put name (named name view.span) members) rest) := by
  rw [evalProperties, Node.expect, openOr_eq opened]
  simp only [ok_bind, kind, written.label (by decide)]

theorem evalProperties_keyless {entries keyEntries : Entries} {view key : Node}
    (opened : Node.ofEntries entries = .ok view)
    (kind : view.kind = some .keyValueProperty ∨ view.kind = some .assignmentProperty)
    (written : Reads view "key" (.map keyEntries)) (openedKey : Node.ofEntries keyEntries = .ok key)
    (unknown : propertyKey table key = .ok none) (members : Members) (rest : List Data) :
    evalProperties table members (.map entries :: rest) = evalProperties table members rest := by
  obtain ⟨small, child⟩ := written.child (by decide) openedKey
  rw [evalProperties, Node.expect, openOr_eq opened]
  rcases kind with kind | kind <;> simp only [ok_bind, kind, child, unknown]

theorem spreadMembers_other {result : Result}
    (noObject : ∀ members span, result ≠ .value (.object members) span)
    (noArray : ∀ elements span, result ≠ .value (.array elements) span)
    (noText : ∀ s span, result ≠ .value (.string s) span) : spreadMembers result = [] := by
  unfold spreadMembers
  split
  · exact absurd rfl (noObject _ _)
  · exact absurd rfl (noArray _ _)
  · exact absurd rfl (noText _ _)
  · rfl

theorem Contributes.evalProperties {property : Data} {additions : Members}
    (contributes : Contributes table property additions) (members : Members) (rest : List Data) :
    Fold.evalProperties table members (property :: rest) =
      Fold.evalProperties table (Members.putAll members additions) rest := by
  cases contributes with
  | entry opened kind written openedKey under canKey given folded =>
      rw [evalProperties_entry table opened kind written openedKey given,
        under.propertyKey, ok_bind]
      simp only [folded, ok_bind, Label.key, canKey, if_true]
      rfl
  | keyless opened kind written openedKey unknown =>
      exact evalProperties_keyless opened kind written openedKey unknown.propertyKey members rest
  | shorthand opened kind written canKey folded =>
      rw [evalPart_map table opened, eval_identifier table kind written] at folded
      cases folded
      rw [evalProperties_label opened kind written]
      simp only [Label.key, canKey, if_true, ok_bind]
      rfl
  | object opened kind given folded =>
      rw [evalProperties_spread table opened kind given, folded, ok_bind]
      rfl
  | array opened kind given folded =>
      rw [evalProperties_spread table opened kind given, folded, ok_bind]
      rfl
  | text opened kind given folded =>
      rw [evalProperties_spread table opened kind given, folded, ok_bind]
      rfl
  | unspread opened kind given folded noObject noArray noText =>
      rw [evalProperties_spread table opened kind given, folded, ok_bind,
        spreadMembers_other noObject noArray noText]
  | dropped opened dropped => exact evalProperties_dropped table opened dropped members rest

theorem contributes_spread {entries : Entries} {view : Node} {source : Data} {result : Result}
    (opened : Node.ofEntries entries = .ok view) (kind : view.kind = some .spreadElement)
    (given : Reads view "arguments" source) (folded : evalPart table source = .ok result) :
    ∃ additions, Contributes table (.map entries) additions := by
  by_cases object : ∃ members span, result = .value (.object members) span
  · obtain ⟨members, span, rfl⟩ := object
    exact ⟨members, .object opened kind given folded⟩
  · by_cases array : ∃ elements span, result = .value (.array elements) span
    · obtain ⟨elements, span, rfl⟩ := array
      exact ⟨_, .array opened kind given folded⟩
    · by_cases text : ∃ s span, result = .value (.string s) span
      · obtain ⟨s, span, rfl⟩ := text
        exact ⟨_, .text opened kind given folded⟩
      · simp only [not_exists] at object array text
        exact ⟨[], .unspread opened kind given folded object array text⟩

theorem contributes_entry {entries : Entries} {view : Node}
    {members later : Members} {rest : List Data} (opened : Node.ofEntries entries = .ok view)
    (kind : view.kind = some .keyValueProperty ∨ view.kind = some .assignmentProperty)
    (run : evalProperties table members (.map entries :: rest) = .ok later) :
    ∃ additions, Contributes table (.map entries) additions := by
  rw [evalProperties, Node.expect, openOr_eq opened, ok_bind] at run
  have body : ∃ inner, view.child "key" = .ok inner ∧ ∃ found,
      propertyKey table inner.val = .ok found ∧ ∀ name, found = some name →
        name.canKey = true ∧ ∃ value result, view.field "value" = .ok value ∧
          evalPart table value.val = .ok result := by
    rcases kind with kind | kind <;> simp only [kind] at run
    all_goals
      obtain ⟨inner, child, run⟩ := ok_of_bind run
      obtain ⟨found, known, run⟩ := ok_of_bind run
      refine ⟨inner, child, found, known, ?_⟩
      rintro name rfl
      obtain ⟨value, given, run⟩ := ok_of_bind run
      obtain ⟨result, folded, run⟩ := ok_of_bind run
      obtain ⟨label, keyed, run⟩ := ok_of_bind run
      unfold Label.key at keyed
      split at keyed
      · rename_i canKey
        exact ⟨canKey, value, result, given, folded⟩
      · cases keyed
  obtain ⟨inner, child, found, known, rest⟩ := body
  obtain ⟨keyEntries, written, openedKey⟩ := reads_of_child (by decide) child
  cases found with
  | none =>
      exact ⟨[], .keyless opened kind written openedKey (keyed_of_propertyKey known)⟩
  | some name =>
      obtain ⟨canKey, value, result, given, folded⟩ := rest name rfl
      exact ⟨_, .entry opened kind written openedKey (keyed_of_propertyKey known) canKey
        (reads_of_field (by decide) given) folded⟩

theorem contributes_shorthand {entries : Entries} {view : Node}
    {members later : Members} {rest : List Data} (opened : Node.ofEntries entries = .ok view)
    (kind : view.kind = some .identifier)
    (run : evalProperties table members (.map entries :: rest) = .ok later) :
    ∃ additions, Contributes table (.map entries) additions := by
  rw [evalProperties, Node.expect, openOr_eq opened, ok_bind] at run
  simp only [kind] at run
  obtain ⟨label, labelled, run⟩ := ok_of_bind run
  obtain ⟨name, keyed, run⟩ := ok_of_bind run
  obtain ⟨part, written, rfl⟩ := reads_of_label (by decide) labelled
  unfold Label.key at keyed
  split at keyed
  · rename_i canKey
    have folded : evalPart table (.map entries) = .ok (named (Label.ofData part) view.span) := by
      rw [evalPart_map table opened, eval_identifier table kind written]
    exact ⟨_, .shorthand opened kind written canKey folded⟩
  · cases keyed

/-- Every property of an object that is evaluated without a fault contributes something. -/
theorem exists_contributes {property : Data} {members later : Members} {rest : List Data}
    (run : evalProperties table members (property :: rest) = .ok later) :
    ∃ additions, Contributes table property additions := by
  have whole := run
  rw [evalProperties] at run
  obtain ⟨view, expected, run⟩ := ok_of_bind run
  obtain ⟨entries, rfl, opened⟩ := opened_of_openOr expected
  by_cases dropped : isDropped view.val.kind = true
  · exact ⟨[], .dropped opened dropped⟩
  · unfold isDropped at dropped
    split at dropped
    · rename_i kind
      simp only [kind] at run
      obtain ⟨source, given, run⟩ := ok_of_bind run
      obtain ⟨result, folded, run⟩ := ok_of_bind run
      exact contributes_spread opened kind (reads_of_field (by decide) given) folded
    · rename_i kind
      exact contributes_entry opened (.inl kind) whole
    · rename_i kind
      exact contributes_entry opened (.inr kind) whole
    · rename_i kind
      exact contributes_shorthand opened kind whole
    · exact absurd rfl dropped

theorem evalProperties_contributed {properties : List Data} {contributed : List Members}
    (each : List.Forall₂ (Contributes table) properties contributed) (members : Members) :
    evalProperties table members properties = .ok (Members.putAll members contributed.flatten) := by
  induction each generalizing members with
  | nil => exact evalProperties_nil table members
  | cons first _ ih =>
      rw [first.evalProperties, ih, List.flatten_cons]
      simp only [Members.putAll, Assoc.putAll, List.foldl_append]

theorem exists_contributed {properties : List Data} {members later : Members}
    (run : evalProperties table members properties = .ok later) :
    ∃ contributed, List.Forall₂ (Contributes table) properties contributed := by
  induction properties generalizing members with
  | nil => exact ⟨[], .nil⟩
  | cons property rest ih =>
      obtain ⟨additions, contributes⟩ := exists_contributes run
      rw [contributes.evalProperties] at run
      obtain ⟨contributed, each⟩ := ih run
      exact ⟨additions :: contributed, .cons contributes each⟩

end Contributions

section Questions

variable (table : ScopeTable)

/-- The properties that an object literal writes. -/
def writtenProperties (node : Node) : List Data :=
  match Data.lookup? "properties" node.entries with
  | some (.list items) => items
  | _ => []

/-- A node asks whether a key is in what another expression gives. -/
structure AsksIn (asking : Node) (key : String) (object : Data) : Prop where
  kind : asking.kind = some .binaryExpression
  operator : Reads asking "operator" (.text "in")
  left : ∃ part v span, Reads asking "left" part ∧ evalPart table part = .ok (.value v span) ∧
    v.text = .ok key
  right : Reads asking "right" object

/-- A member is named as it is written, or by the text of what is computed. -/
inductive NamesMember (property : Node) (key : String) : Prop where
  | name (kind : property.kind = some .identifier) (written : Reads property "value" (.text key))
  | privateName {entries : Entries} {id : Node} (kind : property.kind = some .privateName)
      (inner : Reads property "id" (.map entries)) (opened : Node.ofEntries entries = .ok id)
      (written : Reads id "value" (.text key))
  | computed {v : Value} {span : Option Span} (kind : property.kind = some .computed)
      (folded : eval table property = .ok (.value v span)) (spelled : v.text = .ok key)

/-- A node reads a member of what another expression gives. -/
structure ReadsMember (reading : Node) (key : String) (object : Data) : Prop where
  kind : reading.kind = some .memberExpression
  object : Reads reading "object" object
  property : ∃ entries property, Reads reading "property" (.map entries) ∧
    Node.ofEntries entries = .ok property ∧ NamesMember table property key

/-- The last contribution to a key, seen from elsewhere. Without one, a name that every object
inherits gives something unknown, and any other nothing. -/
def lastContribution (key : String) (contributed : List Members) (span : Option Span) : Result :=
  match (valuesOf (.text key) contributed.flatten).getLast? with
  | some result => result.respan span
  | none => if key ∈ inherited then .nonStatic else .value .undefined span

variable {table}

theorem text_beq_iff (key : String) (name : Label) :
    (Label.text key == name) = true ↔ name = .text key := by
  rw [Label.beq_iff]
  constructor
  · intro same
    cases name with
    | float x =>
        simp only [Label.worth] at same
        split at same
        · split at same <;> cases same
        · cases same
    | text s => exact same.symm
    | _ => cases same
  · rintro rfl
    rfl

theorem valuesOf_ne_nil {Val : Type} (key : String) (entries : List (Label × Val)) :
    valuesOf (.text key) entries ≠ [] ↔ ∃ value, (.text key, value) ∈ entries := by
  rw [valuesOf, ne_eq, List.map_eq_nil_iff, List.filter_eq_nil_iff]
  push Not
  constructor
  · rintro ⟨⟨name, value⟩, member, same⟩
    rw [(text_beq_iff key name).mp same] at member
    exact ⟨value, member⟩
  · rintro ⟨value, member⟩
    exact ⟨_, member, (text_beq_iff key _).mpr rfl⟩

theorem evalProperties_of_object {node : Node} {result : Result}
    (kind : node.kind = some .objectExpression) (folded : eval table node = .ok result) :
    ∃ members, evalProperties table [] (writtenProperties node) = .ok members ∧
      result = .value (.object members) node.span := by
  rw [eval, kind] at folded
  obtain ⟨⟨items, small⟩, listed, run⟩ := ok_of_bind folded
  obtain ⟨members, evaluated, run⟩ := ok_of_bind run
  cases run
  have same : writtenProperties node = items := by
    unfold Node.items at listed
    obtain ⟨part, given, run⟩ := ok_of_bind listed
    have written := (reads_of_field (by decide) given).found
    unfold writtenProperties
    rw [written]
    split at run
    · cases run
      rfl
    · split at run
      · cases run
        rfl
      · cases run
    · cases run
  exact ⟨members, same ▸ evaluated, rfl⟩

theorem memberKey_of_names {property : Node} {key : String}
    (names : NamesMember table property key) :
    memberKey table property = .ok (some (.text key)) := by
  cases names with
  | name kind written => exact memberKey_name table kind written
  | privateName kind inner opened written => exact memberKey_private table kind inner opened written
  | computed kind folded spelled =>
      obtain ⟨inner, written⟩ := reads_of_computed kind folded
      rw [eval_passing table kind rfl written] at folded
      rw [memberKey_computed table kind written, folded, ok_bind]
      simp [keyOf, Value.propertyKey, spelled]

theorem eval_asks {asking : Node} {key : String} {object : Data} {container : Value} {held : Bool}
    {span : Option Span} (asks : AsksIn table asking key object)
    (folded : evalPart table object = .ok (.value container span))
    (holds : ∀ v, v.text = .ok key → Value.hasProperty v container = .ok held) :
    eval table asking = .ok (.value (.bool held) asking.span) := by
  obtain ⟨part, v, leftSpan, left, value, spelled⟩ := asks.left
  rw [eval_binary table asks.kind asks.operator left asks.right, value, ok_bind, folded]
  change binary "in" v container asking.span = _
  have symbol : binary "in" v container asking.span =
    orNonStatic asking.span (throwIsFalse (Value.hasProperty v container)) := rfl
  rw [symbol, holds v spelled]
  rfl

theorem eval_asksIn {asking : Node} {key : String} {object : Data} {members : Members}
    {span : Option Span} (asks : AsksIn table asking key object)
    (folded : evalPart table object = .ok (.value (.object members) span)) :
    eval table asking = .ok (.value (.bool (Members.has members key)) asking.span) := by
  refine eval_asks asks folded fun v spelled => ?_
  simp [Value.hasProperty, Value.isContainer, Value.propertyKey, spelled, bind, Except.bind]

theorem eval_readsMember {reading : Node} {key : String} {object : Data} {v : Value}
    {span : Option Span} (reads : ReadsMember table reading key object)
    (folded : evalPart table object = .ok (.value v span)) :
    eval table reading = (readMember v key reading.span).mapError Fault.refused := by
  obtain ⟨entries, property, written, opened, names⟩ := reads.property
  rw [eval_member table reads.kind reads.object written opened, folded, ok_bind]
  simp only [memberKey_of_names names, ok_bind]
  rfl

/-- What an object literal folds to is decided by what its properties contribute. -/
theorem object_of_contributions {node : Node} {members : Members} {span : Option Span}
    (kind : node.kind = some .objectExpression)
    (folded : eval table node = .ok (.value (.object members) span)) :
    (∃ contributed, List.Forall₂ (Contributes table) (writtenProperties node) contributed) ∧
    ∀ contributed, List.Forall₂ (Contributes table) (writtenProperties node) contributed →
      members.map Prod.fst = (contributed.flatten.map Prod.fst).eraseDups ∧
      ∀ (key : String) (object : Data), evalPart table object = eval table node →
        (∀ asking, AsksIn table asking key object →
          ∃ holds, eval table asking = .ok (.value (.bool holds) asking.span) ∧
            (holds = true ↔ ∃ additions ∈ contributed, ∃ result, (.text key, result) ∈ additions)) ∧
        (∀ reading, ReadsMember table reading key object →
          eval table reading = .ok (lastContribution key contributed reading.span)) := by
  obtain ⟨found, run, same⟩ := evalProperties_of_object kind folded
  cases same
  refine ⟨exists_contributed run, ?_⟩
  intro contributed each
  rw [evalProperties_contributed each] at run
  cases run
  constructor
  · exact keys_putAll_nil contributed.flatten
  · intro key object holds
    rw [folded] at holds
    constructor
    · intro asking asks
      refine ⟨_, eval_asksIn asks holds, ?_⟩
      rw [Members.has, Members.get?, Members.putAll, lookup_putAll_nil, List.getLast?_isSome,
        valuesOf_ne_nil]
      constructor
      · rintro ⟨result, member⟩
        obtain ⟨additions, contributes, inside⟩ := List.mem_flatten.mp member
        exact ⟨additions, contributes, result, inside⟩
      · rintro ⟨additions, contributes, result, inside⟩
        exact ⟨result, List.mem_flatten.mpr ⟨additions, contributes, inside⟩⟩
    · intro reading reads
      rw [eval_readsMember reads holds]
      simp only [readMember, Members.get?, Members.putAll, lookup_putAll_nil, lastContribution]
      cases (valuesOf (.text key) contributed.flatten).getLast? <;> simp [mapError_ok]

/-- A property with a key and a value. -/
def entryData (key value : Data) : Data :=
  taggedData "KeyValueProperty" [("key", key), ("value", value)]

def objectData (properties : List Data) : Data :=
  taggedData "ObjectExpression" [("properties", .list properties)]

/-- A key written twice, once as a name and once as a text, around one that is computed. -/
def rewrittenKey : List Data :=
  [entryData (nameData "a") (textData "x"),
    entryData (taggedData "Computed" [("expression", textData "b")]) (textData "y"),
    entryData (textData "a") (textData "z")]

def rewrittenKeyContributes : List Members :=
  [[(.text "a", .value (.string "x") none)], [(.text "b", .value (.string "y") none)],
    [(.text "a", .value (.string "z") none)]]

theorem evalPart_textData (table : ScopeTable) (text : String) :
    evalPart table (textData text) = .ok (.value (.string text) none) := by
  rw [textData, taggedData, evalPart_map table rfl, eval_literal table (.inl rfl) ⟨rfl, rfl⟩]
  rfl

theorem evaluate_textData (table : ScopeTable) (text : String) :
    evaluate table (textData text) = .ok (.value (.string text) none) :=
  (evaluate_map table _).trans (evalPart_textData table text)

theorem rewrittenKey_contributed :
    List.Forall₂ (Contributes {}) rewrittenKey rewrittenKeyContributes := by
  have computed : eval {} ⟨some .computed, none,
      [(.text "type", .text "Computed"), (.text "expression", textData "b")]⟩ =
      .ok (.value (.string "b") none) := by
    rw [eval_passing {} rfl rfl ⟨rfl, rfl⟩, evalPart_textData]
  refine .cons ?_ (.cons ?_ (.cons ?_ .nil))
  · exact .entry rfl (.inl rfl) ⟨rfl, rfl⟩ rfl
      (@KeyIs.name _ _ (.text "a") (.inl rfl) ⟨rfl, rfl⟩ (by simp)) rfl ⟨rfl, rfl⟩
      (evalPart_textData {} "x")
  · exact .entry rfl (.inl rfl) ⟨rfl,
      rfl⟩ rfl (.folded (.inr (.inr rfl)) computed rfl) rfl ⟨rfl, rfl⟩
      (evalPart_textData {} "y")
  · exact .entry rfl (.inl rfl) ⟨rfl, rfl⟩ rfl
      (@KeyIs.name _ _ (.text "a") (.inr rfl) ⟨rfl, rfl⟩ (by simp)) rfl ⟨rfl, rfl⟩
      (evalPart_textData {} "z")

/-- The key that is written twice keeps its place, and what was written last is read. -/
theorem object_of_rewrittenKey :
    ∃ members, evaluate {} (objectData rewrittenKey) = .ok (.value (.object members) none) ∧
      members.map Prod.fst = [.text "a", .text "b"] ∧
      evaluate {} (taggedData "MemberExpression"
        [("object", objectData rewrittenKey), ("property", nameData "a")]) =
          .ok (.value (.string "z") none) := by
  have folded : evalPart {} (objectData rewrittenKey) =
      .ok (.value (.object (Members.putAll [] rewrittenKeyContributes.flatten)) none) := by
    rw [objectData, taggedData, evalPart_map {} rfl, eval_object {} rfl ⟨rfl, rfl⟩,
      evalProperties_contributed rewrittenKey_contributed]
    rfl
  have opened := folded
  rw [objectData, taggedData, evalPart_map {} rfl] at opened
  obtain ⟨keys, asked⟩ := (object_of_contributions rfl opened).2 _ rewrittenKey_contributed
  refine ⟨_, ?_, keys, ?_⟩
  · rw [objectData, taggedData, evaluate_map]
    exact folded
  · rw [taggedData, evaluate_map, evalPart_map {} rfl]
    refine (asked "a" (objectData rewrittenKey) (folded.trans opened.symm)).2 _ ?_
    exact ⟨rfl, ⟨rfl, rfl⟩, _, _, ⟨rfl, rfl⟩, rfl, .name rfl ⟨rfl, rfl⟩⟩

end Questions

end Fold

end StyleFold
