import StyleFold.Proofs.Fold.Contribution

/-!
Spreads of literals. Main statement: a literal that is spread in an array, in the arguments of a
call or in an object counts like its contents in its place. An object that is spread is folded on
its own first, which keeps one value for each of its keys, so this rests on a law of ordered
associations: to put entries into an empty list first and then the outcome into another list is
to put them there at once.
-/

namespace StyleFold

section Putting

variable {Key Val : Type} [BEq Key]

def IsDistinct (entries : List (Key × Val)) : Prop :=
  (entries.map Prod.fst).Pairwise fun left right => (left == right) = false

def HasKey (key : Key) (entries : List (Key × Val)) : Prop :=
  (entries.map Prod.fst).any (key == ·) = true

variable [EquivBEq Key]

theorem isDistinct_put {entries : List (Key × Val)} (distinct : IsDistinct entries) (key : Key)
    (value : Val) : IsDistinct (Assoc.put key value entries) := by
  unfold IsDistinct
  rw [Assoc.keys_put]
  by_cases known : (entries.map Prod.fst).any (key == ·) = true
  · rw [if_pos known]
    exact distinct
  · rw [if_neg known, List.pairwise_append]
    constructor
    · exact distinct
    · constructor
      · exact List.pairwise_singleton _ _
      · intro other member last single
        rw [List.mem_singleton.mp single, BEq.comm]
        simp only [List.any_eq_true, not_exists, not_and, Bool.not_eq_true] at known
        exact known other member

theorem isDistinct_putAll {entries : List (Key × Val)} (distinct : IsDistinct entries)
    (additions : List (Key × Val)) : IsDistinct (Assoc.putAll entries additions) := by
  unfold Assoc.putAll
  induction additions generalizing entries with
  | nil => exact distinct
  | cons addition rest ih => exact ih (isDistinct_put distinct addition.1 addition.2)

theorem put_put_same {first second : Key} (same : (second == first) = true) (old new : Val)
    (entries : List (Key × Val)) :
    Assoc.put second new (Assoc.put first old entries) = Assoc.put first new entries := by
  induction entries with
  | nil => simp [Assoc.put, same]
  | cons entry rest ih =>
      obtain ⟨other, value⟩ := entry
      have alike : (second == other) = (first == other) := BEq.congr_left same
      by_cases here : (first == other) = true
      · simp [Assoc.put, here, alike]
      · simp [Assoc.put, here, alike, ih]

/-- A key that is there keeps its place, so that another one may be put before or after. -/
theorem put_comm {first second : Key} (apart : (second == first) = false) (one other : Val)
    {entries : List (Key × Val)} (there : HasKey second entries) :
    Assoc.put second other (Assoc.put first one entries) =
      Assoc.put first one (Assoc.put second other entries) := by
  induction entries with
  | nil => simp [HasKey] at there
  | cons entry rest ih =>
      obtain ⟨key, value⟩ := entry
      by_cases here : (second == key) = true
      · have differs : (first == key) = false := by
          rw [← BEq.congr_right here, BEq.comm]
          exact apart
        simp [Assoc.put, here, differs]
      · have later : HasKey second rest := by
          simpa [HasKey, here] using there
        by_cases firstHere : (first == key) = true
        · simp [Assoc.put, here, firstHere]
        · simp [Assoc.put, here, firstHere, ih later]

theorem hasKey_put (key : Key) (value : Val) (entries : List (Key × Val)) {asked : Key}
    (there : HasKey asked entries ∨ (asked == key) = true) :
    HasKey asked (Assoc.put key value entries) := by
  unfold HasKey at *
  rw [Assoc.keys_put]
  split
  · rename_i known
    rcases there with there | same
    · exact there
    · simpa only [BEq.congr_left same] using known
  · rcases there with there | same <;> simp_all

theorem put_putAll {key : Key} (value : Val) {entries additions : List (Key × Val)}
    (there : HasKey key entries)
    (apart : ∀ other ∈ additions.map Prod.fst, (key == other) = false) :
    Assoc.put key value (Assoc.putAll entries additions) =
      Assoc.putAll (Assoc.put key value entries) additions := by
  unfold Assoc.putAll
  induction additions generalizing entries with
  | nil => rfl
  | cons addition rest ih =>
      have first := apart addition.1 (by simp)
      rw [List.foldl_cons, List.foldl_cons, ih (hasKey_put _ _ _ (.inl there)),
        put_comm first _ _ there]
      intro other member
      exact apart other (by simp [member])

theorem putAll_put {additions : List (Key × Val)} (distinct : IsDistinct additions) (key : Key)
    (value : Val) (entries : List (Key × Val)) :
    Assoc.putAll entries (Assoc.put key value additions) =
      Assoc.put key value (Assoc.putAll entries additions) := by
  induction additions generalizing entries with
  | nil => rfl
  | cons addition rest ih =>
      obtain ⟨other, old⟩ := addition
      obtain ⟨apart, distinct⟩ := List.pairwise_cons.mp distinct
      by_cases same : (key == other) = true
      · have elsewhere : ∀ later ∈ rest.map Prod.fst, (key == later) = false := by
          intro later member
          rw [BEq.congr_left same]
          exact apart later member
        have placed := put_putAll value (hasKey_put other old entries (.inr same)) elsewhere
        simp only [Assoc.put, same, if_true]
        calc Assoc.putAll entries ((other, value) :: rest)
            = Assoc.putAll (Assoc.put other value entries) rest := rfl
          _ = Assoc.putAll (Assoc.put key value (Assoc.put other old entries)) rest := by
              rw [put_put_same same]
          _ = Assoc.put key value (Assoc.putAll entries ((other, old) :: rest)) := placed.symm
      · simp only [Assoc.put, same]
        exact ih distinct (Assoc.put other old entries)

theorem putAll_putAll_nil (entries additions : List (Key × Val)) :
    Assoc.putAll entries (Assoc.putAll [] additions) = Assoc.putAll entries additions := by
  induction additions using List.reverseRecOn with
  | nil => rfl
  | append_singleton additions addition ih =>
      have last (start : List (Key × Val)) : Assoc.putAll start (additions ++ [addition]) =
          Assoc.put addition.1 addition.2 (Assoc.putAll start additions) := by
        simp [Assoc.putAll, List.foldl_append]
      have distinct : IsDistinct (Assoc.putAll [] additions) := by
        apply isDistinct_putAll
        exact List.Pairwise.nil
      rw [last, last, putAll_put distinct, ih]

end Putting

namespace Fold

section Rows

/-- An element or argument that spreads an array literal. -/
inductive SpreadsArray (inner : List Data) : Data → Prop where
  | intro {entries arrayEntries : Entries} {view array : Node} {mark : Data}
      (opened : Node.ofEntries entries = .ok view) (marked : Reads view "spread" mark)
      (there : mark ≠ .null)
      (written : Data.lookup? "expression" view.entries = some (.map arrayEntries))
      (openedArray : Node.ofEntries arrayEntries = .ok array)
      (kind : array.kind = some .arrayExpression)
      (elements : Data.lookup? "elements" array.entries = some (.list inner)) :
      SpreadsArray inner (.map entries)

inductive SpreadsObject (inner : List Data) : Data → Prop where
  | intro {entries objectEntries : Entries} {view object : Node}
      (opened : Node.ofEntries entries = .ok view) (spreads : view.kind = some .spreadElement)
      (written : Data.lookup? "arguments" view.entries = some (.map objectEntries))
      (openedObject : Node.ofEntries objectEntries = .ok object)
      (kind : object.kind = some .objectExpression)
      (properties : Data.lookup? "properties" object.entries = some (.list inner)) :
      SpreadsObject inner (.map entries)

/-- Two nodes alike, but for a field that spreads a literal in one of them and has its contents in
its place in the other. -/
structure Flattened (shape : Kind) (field : String) (spread : Data) (inner : List Data)
    (node flat : Node) : Prop where
  kind : node.kind = some shape
  flatKind : flat.kind = some shape
  span : flat.span = node.span
  row : ∃ before after,
    Data.lookup? field node.entries = some (.list (before ++ spread :: after)) ∧
    Data.lookup? field flat.entries = some (.list (before ++ inner ++ after))

variable {table : ScopeTable}

theorem checkAll_append (front back : List Data) :
    Node.checkAll (front ++ back) = .ok () ↔
      Node.checkAll front = .ok () ∧ Node.checkAll back = .ok () := by
  induction front with
  | nil => simp [Node.checkAll]
  | cons item rest ih =>
      simp only [List.cons_append, Node.checkAll]
      cases Node.check item with
      | ok => exact ih
      | error fault => simp

theorem checkAll_spread {spread : Data} {inner before after : List Data}
    (sound : Node.check spread = .ok ()) (innerSound : Node.checkAll inner = .ok ()) :
    Node.checkAll (before ++ spread :: after) = .ok () ↔
      Node.checkAll (before ++ inner ++ after) = .ok () := by
  simp only [checkAll_append, innerSound, and_true, Node.checkAll, sound]

theorem checkAll_of_items {node : Node} {name : String} {items : List Data} {parts : node.Parts}
    {onText : Fault} (plain : IsPlain name)
    (found : Data.lookup? name node.entries = some (.list items))
    (run : node.items name onText = .ok parts) : Node.checkAll items = .ok () := by
  obtain ⟨part, given, _⟩ := ok_of_bind run
  have reads := reads_of_field plain given
  rw [reads.found] at found
  rw [Option.some.inj found] at reads
  simpa [Node.check] using reads.sound

end Rows

section Elements

variable {table : ScopeTable}

theorem evalElements_append (span : Option Span) (front back : List Data) :
    evalElements table span (front ++ back) = (do
      let first ← evalElements table span front
      return first ++ (← evalElements table span back)) := by
  induction front with
  | nil =>
      rw [List.nil_append, evalElements_nil, ok_bind]
      simp
  | cons item rest ih =>
      rw [List.cons_append, evalElements_head, ih, evalElements_head table span item rest]
      simp only [bind_assoc, pure_bind, List.append_assoc]

theorem evalElements_span {items : List Data} (full : Data.null ∉ items)
    (span other : Option Span) :
    evalElements table span items = evalElements table other items := by
  induction items with
  | nil => rw [evalElements_nil, evalElements_nil]
  | cons item rest ih =>
      have first : item ≠ .null := by
        rintro rfl
        exact full (by simp)
      have later : Data.null ∉ rest := by
        intro member
        exact full (by simp [member])
      rw [evalElements, evalElements, ih later]
      all_goals exact first

theorem eval_array_ok {node : Node} {items : List Data} {result : Result}
    (kind : node.kind = some .arrayExpression)
    (found : Data.lookup? "elements" node.entries = some (.list items)) :
    eval table node = .ok result ↔ Node.checkAll items = .ok () ∧
      ∃ entries, evalElements table node.span items = .ok entries ∧
        result = .value (.array entries) node.span := by
  constructor
  · intro run
    have sound : Node.checkAll items = .ok () := by
      rw [eval, kind] at run
      obtain ⟨parts, listed, _⟩ := ok_of_bind run
      exact checkAll_of_items (by decide) found listed
    rw [eval_array table kind ((reads_list found).mpr sound)] at run
    obtain ⟨entries, evaluated, run⟩ := ok_of_bind run
    cases run
    exact ⟨sound, entries, evaluated, rfl⟩
  · rintro ⟨sound, entries, evaluated, rfl⟩
    rw [eval_array table kind ((reads_list found).mpr sound), evaluated]
    rfl

theorem evalElements_spreads {spread : Data} {inner : List Data}
    (spreads : SpreadsArray inner spread) (full : Data.null ∉ inner) (span : Option Span)
    {entries : List Result} :
    evalElements table span [spread] = .ok entries ↔
      Node.checkAll inner = .ok () ∧ evalElements table span inner = .ok entries := by
  cases spreads with
  | @intro _ _ view array mark opened marked there written openedArray kind elements =>
      have reads : Reads view "expression" _ := ⟨written, check_opened openedArray⟩
      rw [evalElements_cons table span opened reads (marked.field? there), evalElements_nil,
        evalPart_map table openedArray, evalElements_span full span array.span]
      constructor
      · intro run
        obtain ⟨result, folded, run⟩ := ok_of_bind run
        obtain ⟨sound, given, evaluated, rfl⟩ := (eval_array_ok kind elements).mp folded
        simp only [ok_bind, elementEntries, spreadEntries, List.append_nil] at run
        cases run
        exact ⟨sound, evaluated⟩
      · rintro ⟨sound, evaluated⟩
        rw [(eval_array_ok kind elements).mpr ⟨sound, entries, evaluated, rfl⟩]
        simp only [ok_bind, elementEntries, spreadEntries, List.append_nil]
        rfl

theorem check_spreadsArray {spread : Data} {inner : List Data}
    (spreads : SpreadsArray inner spread) :
    Node.check spread = .ok () := by
  cases spreads with
  | intro opened => exact check_opened opened

theorem elements_flattened {spread : Data} {inner : List Data} (spreads : SpreadsArray inner spread)
    (full : Data.null ∉ inner) (span : Option Span) (before after : List Data)
    (entries : List Result) :
    (Node.checkAll (before ++ spread :: after) = .ok () ∧
      evalElements table span (before ++ spread :: after) = .ok entries) ↔
    (Node.checkAll (before ++ inner ++ after) = .ok () ∧
      evalElements table span (before ++ inner ++ after) = .ok entries) := by
  have sound := check_spreadsArray spreads
  -- Both rows are evaluated in three parts, and only the middle one differs.
  have split : evalElements table span (before ++ spread :: after) = (do
      let first ← evalElements table span before
      let second ← evalElements table span [spread]
      return first ++ (second ++ (← evalElements table span after))) := by
    rw [evalElements_append, evalElements_head]
    simp only [bind_assoc, pure_bind]
  have joined : evalElements table span (before ++ inner ++ after) = (do
      let first ← evalElements table span before
      let second ← evalElements table span inner
      return first ++ (second ++ (← evalElements table span after))) := by
    rw [List.append_assoc, evalElements_append, evalElements_append]
    simp only [bind_assoc, pure_bind]
  constructor
  · rintro ⟨checked, run⟩
    rw [split] at run
    obtain ⟨first, ran, run⟩ := ok_of_bind run
    obtain ⟨second, spread, run⟩ := ok_of_bind run
    obtain ⟨innerSound, same⟩ := (evalElements_spreads spreads full span).mp spread
    refine ⟨(checkAll_spread sound innerSound).mp checked, ?_⟩
    rw [joined, ran, ok_bind, same]
    exact run
  · rintro ⟨checked, run⟩
    have innerSound : Node.checkAll inner = .ok () := by
      rw [checkAll_append, checkAll_append] at checked
      exact checked.1.2
    rw [joined] at run
    obtain ⟨first, ran, run⟩ := ok_of_bind run
    obtain ⟨second, same, run⟩ := ok_of_bind run
    refine ⟨(checkAll_spread sound innerSound).mpr checked, ?_⟩
    rw [split, ran, ok_bind, (evalElements_spreads spreads full span).mpr ⟨innerSound, same⟩]
    exact run

/-- A call is static when its callee is the fallback helper, and then it has
its arguments in reverse. -/
theorem eval_call_ok {node : Node} {items : List Data} {result : Result}
    (kind : node.kind = some .callExpression)
    (found : Data.lookup? "arguments" node.entries = some (.list items)) :
    eval table node = .ok result ↔ ∃ entries callee api, Reads node "callee" (.map entries) ∧
      Node.ofEntries entries = .ok callee ∧ table.calledApi? callee = .ok api ∧
      ((api = some .firstThatWorks ∧ ∃ results, (Node.checkAll items = .ok () ∧
        evalElements table node.span items = .ok results) ∧
        result = .value (.array results.reverse) node.span) ∨
      (api ≠ some .firstThatWorks ∧ result = .nonStatic)) := by
  constructor
  · intro run
    rw [eval, kind] at run
    obtain ⟨inner, child, run⟩ := ok_of_bind run
    obtain ⟨api, called, run⟩ := ok_of_bind run
    obtain ⟨entries, written, opened⟩ := reads_of_child (by decide) child
    refine ⟨entries, inner.val, api, written, opened, called, ?_⟩
    split at run
    · rename_i helper
      obtain ⟨parts, listed, run⟩ := ok_of_bind run
      have sound := checkAll_of_items (by decide) found listed
      rw [((reads_list found).mpr sound).items (by decide)] at listed
      cases listed
      obtain ⟨results, evaluated, run⟩ := ok_of_bind run
      cases run
      exact .inl ⟨helper, results, ⟨sound, evaluated⟩, rfl⟩
    · rename_i other
      cases run
      exact .inr ⟨other, rfl⟩
  · rintro ⟨entries, callee, api, written, opened, called, answer⟩
    obtain ⟨small, child⟩ := written.child (by decide) opened
    rw [eval, kind]
    simp only [child, ok_bind, called]
    rcases answer with ⟨rfl, results, ⟨sound, evaluated⟩, rfl⟩ | ⟨other, rfl⟩
    · rw [((reads_list found).mpr sound).items (by decide)]
      simp only [ok_bind, evaluated, if_true]
      rfl
    · rw [if_neg other]
      rfl

theorem array_flattened {spread : Data} {inner : List Data} {node flat : Node}
    (spreads : SpreadsArray inner spread) (full : Data.null ∉ inner)
    (flattened : Flattened .arrayExpression "elements" spread inner node flat) (result : Result) :
    eval table node = .ok result ↔ eval table flat = .ok result := by
  obtain ⟨before, after, written, writtenFlat⟩ := flattened.row
  rw [eval_array_ok flattened.kind written, eval_array_ok flattened.flatKind writtenFlat,
    flattened.span]
  constructor
  · rintro ⟨checked, entries, run, rfl⟩
    have moved := (elements_flattened spreads full _ _ _ _).mp ⟨checked, run⟩
    exact ⟨moved.1, entries, moved.2, rfl⟩
  · rintro ⟨checked, entries, run, rfl⟩
    have moved := (elements_flattened spreads full _ _ _ _).mpr ⟨checked, run⟩
    exact ⟨moved.1, entries, moved.2, rfl⟩

theorem call_flattened {spread : Data} {inner : List Data} {node flat : Node}
    (spreads : SpreadsArray inner spread) (full : Data.null ∉ inner)
    (flattened : Flattened .callExpression "arguments" spread inner node flat)
    (called : Data.lookup? "callee" flat.entries = Data.lookup? "callee" node.entries)
    (result : Result) : eval table node = .ok result ↔ eval table flat = .ok result := by
  obtain ⟨before, after, written, writtenFlat⟩ := flattened.row
  have callee (entries : Entries) :
      Reads flat "callee" (.map entries) ↔ Reads node "callee" (.map entries) := by
    constructor
    · rintro ⟨found, sound⟩
      exact ⟨called ▸ found, sound⟩
    · rintro ⟨found, sound⟩
      exact ⟨called ▸ found, sound⟩
  rw [eval_call_ok flattened.kind written, eval_call_ok flattened.flatKind writtenFlat,
    flattened.span]
  simp only [callee, elements_flattened spreads full]

end Elements

section Properties

variable {table : ScopeTable}

theorem evalProperties_ok {properties : List Data} {members later : Members} :
    evalProperties table members properties = .ok later ↔
      ∃ contributed, List.Forall₂ (Contributes table) properties contributed ∧
        later = Members.putAll members contributed.flatten := by
  constructor
  · intro run
    obtain ⟨contributed, each⟩ := exists_contributed run
    rw [evalProperties_contributed each] at run
    cases run
    exact ⟨contributed, each, rfl⟩
  · rintro ⟨contributed, each, rfl⟩
    exact evalProperties_contributed each members

theorem evalProperties_from {properties : List Data} {members later : Members} :
    evalProperties table members properties = .ok later ↔
      ∃ own, evalProperties table [] properties = .ok own ∧ later = Members.putAll members own := by
  simp only [evalProperties_ok]
  constructor
  · rintro ⟨contributed, each, rfl⟩
    exact ⟨_, ⟨contributed, each, rfl⟩, (putAll_putAll_nil members contributed.flatten).symm⟩
  · rintro ⟨own, ⟨contributed, each, rfl⟩, rfl⟩
    exact ⟨contributed, each, putAll_putAll_nil members contributed.flatten⟩

theorem evalProperties_append (members : Members) (front back : List Data) :
    evalProperties table members (front ++ back) = (do
      evalProperties table (← evalProperties table members front) back) := by
  induction front generalizing members with
  | nil => rw [List.nil_append, evalProperties_nil, ok_bind]
  | cons property rest ih =>
      rw [List.cons_append, evalProperties_head, evalProperties_head table members property rest]
      simp only [bind_assoc, ih]

theorem eval_object_ok {node : Node} {items : List Data} {result : Result}
    (kind : node.kind = some .objectExpression)
    (found : Data.lookup? "properties" node.entries = some (.list items)) :
    eval table node = .ok result ↔ Node.checkAll items = .ok () ∧
      ∃ members, evalProperties table [] items = .ok members ∧
        result = .value (.object members) node.span := by
  constructor
  · intro run
    have sound : Node.checkAll items = .ok () := by
      rw [eval, kind] at run
      obtain ⟨parts, listed, _⟩ := ok_of_bind run
      exact checkAll_of_items (by decide) found listed
    rw [eval_object table kind ((reads_list found).mpr sound)] at run
    obtain ⟨members, evaluated, run⟩ := ok_of_bind run
    cases run
    exact ⟨sound, members, evaluated, rfl⟩
  · rintro ⟨sound, members, evaluated, rfl⟩
    rw [eval_object table kind ((reads_list found).mpr sound), evaluated]
    rfl

theorem evalProperties_spreads {spread : Data} {inner : List Data}
    (spreads : SpreadsObject inner spread) {members later : Members} :
    evalProperties table members [spread] = .ok later ↔
      Node.checkAll inner = .ok () ∧ evalProperties table members inner = .ok later := by
  cases spreads with
  | @intro _ _ view object opened spreads written openedObject kind properties =>
      have reads : Reads view "arguments" _ := ⟨written, check_opened openedObject⟩
      rw [evalProperties_spread table opened spreads reads, evalPart_map table openedObject,
        evalProperties_from]
      constructor
      · intro run
        obtain ⟨result, folded, run⟩ := ok_of_bind run
        obtain ⟨sound, own, evaluated, rfl⟩ := (eval_object_ok kind properties).mp folded
        rw [evalProperties_nil] at run
        cases run
        exact ⟨sound, own, evaluated, rfl⟩
      · rintro ⟨sound, own, evaluated, rfl⟩
        rw [(eval_object_ok kind properties).mpr ⟨sound, own, evaluated, rfl⟩, ok_bind,
          evalProperties_nil]
        rfl

theorem check_spreadsObject {spread : Data} {inner : List Data}
    (spreads : SpreadsObject inner spread) : Node.check spread = .ok () := by
  cases spreads with
  | intro opened => exact check_opened opened

theorem properties_flattened {spread : Data} {inner : List Data}
    (spreads : SpreadsObject inner spread) (before after : List Data) (members later : Members) :
    (Node.checkAll (before ++ spread :: after) = .ok () ∧
      evalProperties table members (before ++ spread :: after) = .ok later) ↔
    (Node.checkAll (before ++ inner ++ after) = .ok () ∧
      evalProperties table members (before ++ inner ++ after) = .ok later) := by
  have sound := check_spreadsObject spreads
  constructor
  · rintro ⟨checked, run⟩
    rw [evalProperties_append] at run
    obtain ⟨first, ran, run⟩ := ok_of_bind run
    rw [evalProperties_head] at run
    obtain ⟨second, spread, run⟩ := ok_of_bind run
    obtain ⟨innerSound, same⟩ := (evalProperties_spreads spreads).mp spread
    refine ⟨(checkAll_spread sound innerSound).mp checked, ?_⟩
    rw [List.append_assoc, evalProperties_append, ran, ok_bind, evalProperties_append, same]
    exact run
  · rintro ⟨checked, run⟩
    have innerSound : Node.checkAll inner = .ok () := by
      rw [checkAll_append, checkAll_append] at checked
      exact checked.1.2
    rw [List.append_assoc, evalProperties_append] at run
    obtain ⟨first, ran, run⟩ := ok_of_bind run
    rw [evalProperties_append] at run
    obtain ⟨second, same, run⟩ := ok_of_bind run
    refine ⟨(checkAll_spread sound innerSound).mpr checked, ?_⟩
    rw [evalProperties_append, ran, ok_bind, evalProperties_head,
      (evalProperties_spreads spreads).mpr ⟨innerSound, same⟩]
    exact run

theorem object_flattened {spread : Data} {inner : List Data} {node flat : Node}
    (spreads : SpreadsObject inner spread)
    (flattened : Flattened .objectExpression "properties" spread inner node flat)
    (result : Result) :
    eval table node = .ok result ↔ eval table flat = .ok result := by
  obtain ⟨before, after, written, writtenFlat⟩ := flattened.row
  rw [eval_object_ok flattened.kind written, eval_object_ok flattened.flatKind writtenFlat,
    flattened.span]
  constructor
  · rintro ⟨checked, members, run, rfl⟩
    have moved := (properties_flattened spreads _ _ _ _).mp ⟨checked, run⟩
    exact ⟨moved.1, members, moved.2, rfl⟩
  · rintro ⟨checked, members, run, rfl⟩
    have moved := (properties_flattened spreads _ _ _ _).mpr ⟨checked, run⟩
    exact ⟨moved.1, members, moved.2, rfl⟩

end Properties

section Literals

/-- A node that spreads a literal, and the node with the contents of the literal in its place. A
hole in an array that is spread would be found elsewhere, so there is none. -/
inductive SpreadInPlace (node flat : Node) : Prop where
  | array {spread : Data} {inner : List Data} (spreads : SpreadsArray inner spread)
      (full : Data.null ∉ inner)
      (flattened : Flattened .arrayExpression "elements" spread inner node flat)
  | call {spread : Data} {inner : List Data} (spreads : SpreadsArray inner spread)
      (full : Data.null ∉ inner)
      (flattened : Flattened .callExpression "arguments" spread inner node flat)
      (called : Data.lookup? "callee" flat.entries = Data.lookup? "callee" node.entries)
  | object {spread : Data} {inner : List Data} (spreads : SpreadsObject inner spread)
      (flattened : Flattened .objectExpression "properties" spread inner node flat)

/-- To spread a literal is to write its contents in its place. -/
theorem eval_spread_in_place {node flat : Node} (place : SpreadInPlace node flat)
    (table : ScopeTable) (result : Result) :
    eval table node = .ok result ↔ eval table flat = .ok result := by
  cases place with
  | array spreads full flattened => exact array_flattened spreads full flattened result
  | call spreads full flattened called => exact call_flattened spreads full flattened called result
  | object spreads flattened => exact object_flattened spreads flattened result

/-- An element that spreads an expression. -/
def spreadElementData (expression : Data) : Data :=
  .map [(.text "spread", .bool true), (.text "expression", expression)]

def spreadPropertyData (source : Data) : Data := taggedData "SpreadElement" [("arguments", source)]

def helperTable : ScopeTable := { imports := [(.text "first", .text "firstThatWorks")] }

def helperCall (arguments : List Data) : Data :=
  taggedData "CallExpression" [("callee", nameData "first"), ("arguments", .list arguments)]

def textRow : List Data := [.map [(.text "expression", textData "x")]]

theorem evalElements_textRow (table : ScopeTable) (span : Option Span) :
    evalElements table span textRow = .ok [.value (.string "x") none] := by
  have single : Lacks ⟨none, none, [(.text "expression", textData "x")]⟩ "spread" := by
    intro other found
    simp [Data.lookup?, Data.isKey] at found
  rw [textRow, evalElements_cons table span rfl ⟨rfl, rfl⟩ single.field?, evalPart_textData,
    evalElements_nil]
  rfl

theorem spreadsArray_textRow : SpreadsArray textRow (spreadElementData (rowData (textData "x"))) :=
  @SpreadsArray.intro _ _ _ _ _ (.bool true) rfl ⟨rfl, rfl⟩ (by simp) rfl rfl rfl rfl

/-- An array, a call of the fallback helper and an object, each with a literal that is spread. -/
theorem eval_spread_in_place_samples :
    evaluate {} (taggedData "ArrayExpression"
        [("elements", .list [spreadElementData (rowData (textData "x"))])]) =
      .ok (.value (.array [.value (.string "x") none]) none) ∧
    evaluate helperTable (helperCall [spreadElementData (rowData (textData "x"))]) =
      .ok (.value (.array [.value (.string "x") none]) none) ∧
    evaluate {} (objectData (rewrittenKey.take 1 ++
        [spreadPropertyData (objectData (rewrittenKey.drop 1))])) =
      .ok (.value (.object (Members.putAll [] rewrittenKeyContributes.flatten)) none) := by
  have full : Data.null ∉ textRow := by simp [textRow]
  constructor
  · have flat : eval {} ⟨some .arrayExpression, none, [(.text "elements", .list textRow)]⟩ =
        .ok (.value (.array [.value (.string "x") none]) none) :=
      (eval_array_ok rfl rfl).mpr ⟨rfl, _, evalElements_textRow {} none, rfl⟩
    rw [taggedData, evaluate_map, evalPart_map {} rfl]
    refine (eval_spread_in_place ?_ {} _).mpr flat
    exact .array spreadsArray_textRow full ⟨rfl, rfl, rfl, [], [], rfl, rfl⟩
  constructor
  · have flat : eval helperTable ⟨some .callExpression, none,
        [(.text "callee", nameData "first"), (.text "arguments", .list textRow)]⟩ =
        .ok (.value (.array [.value (.string "x") none]) none) :=
      (eval_call_ok rfl rfl).mpr ⟨_, _, _, ⟨rfl, rfl⟩, rfl, rfl,
        .inl ⟨rfl, _, ⟨rfl, evalElements_textRow helperTable none⟩, rfl⟩⟩
    rw [helperCall, taggedData, evaluate_map, evalPart_map helperTable rfl]
    refine (eval_spread_in_place ?_ helperTable _).mpr flat
    exact .call spreadsArray_textRow full ⟨rfl, rfl, rfl, [], [], rfl, rfl⟩ rfl
  · have flat : eval {} ⟨some .objectExpression, none, [(.text "properties", .list rewrittenKey)]⟩ =
        .ok (.value (.object (Members.putAll [] rewrittenKeyContributes.flatten)) none) :=
      (eval_object_ok rfl rfl).mpr
        ⟨rfl, _, evalProperties_contributed rewrittenKey_contributed [], rfl⟩
    rw [objectData, taggedData, evaluate_map, evalPart_map {} rfl]
    refine (eval_spread_in_place ?_ {} _).mpr flat
    exact .object (@SpreadsObject.intro (rewrittenKey.drop 1) _ _ _ _ rfl rfl rfl rfl rfl rfl)
      ⟨rfl, rfl, rfl, rewrittenKey.take 1, [], rfl, rfl⟩

end Literals

end Fold

end StyleFold
