import StyleFold.Proofs.Fold.Contribution
import StyleFold.Proofs.Fold.Shift

/-!
Trees that differ in the value of one property of an object, where the second tree has another node.
What is read from two such trees differs in the same way or not at all, and the faults are the same.
Main statement: when the two nodes are evaluated alike, so are the trees.
-/

namespace StyleFold

section Relation

/-- Where data stand in a tree: as the row of properties of an object, as one of them, as the value
of such a property, or as any other part. -/
inductive Site where
  | part
  | properties
  | property
  | value
  deriving DecidableEq

namespace Site

def ofField (site : Site) (kind : Option Kind) (key : Data) : Site :=
  if kind = some .objectExpression ∧ Data.isKey "properties" key then .properties
  else if site = .property ∧ kind = some .keyValueProperty ∧ Data.isKey "value" key then .value
  else .part

def ofItem : Site → Site
  | .properties => .property
  | _ => .part

end Site

def writtenKind (entries : Entries) : Option Kind :=
  (Node.kindOf (Data.lookup? "type" entries)).toOption.join

def isWritten (kind : Option Kind) (key : Data) : Bool :=
  kind.any fun kind => (writtenFields kind).any fun name => Data.isKey name key

/-- Data that differ in one place: the value of a property of an object is one node in the first and
another in the second. -/
inductive Exchanged (old new : Node) : Site → Data → Data → Prop where
  | here : Exchanged old new .value (.map old.entries) (.map new.entries)
  | field {site : Site} {before after : Entries} {key part other : Data}
      (free : Node.isReserved key = false)
      (unwritten : isWritten (writtenKind (before ++ (key, part) :: after)) key = false)
      (inside : Exchanged old new (site.ofField (writtenKind (before ++ (key, part) :: after)) key)
        part other) :
      Exchanged old new site (.map (before ++ (key, part) :: after))
        (.map (before ++ (key, other) :: after))
  | item {site : Site} {before after : List Data} {part other : Data}
      (inside : Exchanged old new site.ofItem part other) :
      Exchanged old new site (.list (before ++ part :: after)) (.list (before ++ other :: after))
  | first {site : Site} {key other value : Data} (inside : Exchanged old new .part key other) :
      Exchanged old new site (.pair key value) (.pair other value)
  | second {site : Site} {key value other : Data} (inside : Exchanged old new .part value other) :
      Exchanged old new site (.pair key value) (.pair key other)

def Like (old new : Node) (site : Site) (data other : Data) : Prop :=
  other = data ∨ Exchanged old new site data other

inductive Twins (old new : Node) (site : Site) : Node → Node → Prop where
  | same (node : Node) : Twins old new site node node
  | field {kind : Option Kind} {span : Option Span} {before after : Entries} {key part other : Data}
      (free : Node.isReserved key = false) (unwritten : isWritten kind key = false)
      (inside : Exchanged old new (site.ofField kind key) part other) :
      Twins old new site ⟨kind, span, before ++ (key, part) :: after⟩
        ⟨kind, span, before ++ (key, other) :: after⟩

structure Opened (old new : Node) : Prop where
  first : Node.ofEntries old.entries = .ok old
  second : Node.ofEntries new.entries = .ok new

variable {old new node other : Node} {site : Site}

theorem Like.refl (data : Data) : Like old new site data data := .inl rfl

theorem Twins.kind (twin : Twins old new site node other) : other.kind = node.kind := by
  cases twin <;> rfl

theorem Twins.span (twin : Twins old new site node other) : other.span = node.span := by
  cases twin <;> rfl

theorem Twins.isKind (twin : Twins old new site node other) (kind : Kind) :
    other.isKind kind = node.isKind kind := by
  rw [Node.isKind, twin.kind, Node.isKind]

theorem ofField_apart {kind : Option Kind}
    (apart : site ≠ .property ∨ kind ≠ some .keyValueProperty) (key : Data) :
    site.ofField kind key = Site.part.ofField kind key := by
  rcases apart with apart | apart <;> simp [Site.ofField, apart]

theorem ofField_part {kind : Option Kind} {name : String} (apart : name ≠ "properties") :
    Site.part.ofField kind (.text name) = .part := by
  simp [Site.ofField, Data.isKey, apart]

end Relation

section Opening

variable {old new node other : Node} {site : Site} {before after : Entries}
  {key part further : Data}

theorem ofEntries_exchanged (free : Node.isReserved key = false) :
    Node.ofEntries (before ++ (key, further) :: after) =
      (Node.ofEntries (before ++ (key, part) :: after)).map fun node =>
        { node with entries := before ++ (key, further) :: after } := by
  have apart := free
  simp only [Node.isReserved, Bool.or_eq_false_iff] at apart
  unfold Node.ofEntries
  rw [@Fold.lookup?_apart before after key part further "type" apart.1.1,
    @Fold.lookup?_apart before after key part further "span" apart.1.2]
  cases Node.kindOf (Data.lookup? "type" (before ++ (key, part) :: after)) with
  | error fault => rfl
  | ok kind => cases Node.spanOf (Data.lookup? "span" (before ++ (key, part) :: after)) <;> rfl

theorem writtenKind_of_opened {entries : Entries} (opened : Node.ofEntries entries = .ok node) :
    writtenKind entries = node.kind := by
  rw [writtenKind, (ofEntries_parts opened).1]
  rfl

theorem agree_openedField (free : Node.isReserved key = false)
    (unwritten : isWritten (writtenKind (before ++ (key, part) :: after)) key = false)
    (inside : Exchanged old new (site.ofField (writtenKind (before ++ (key, part) :: after)) key)
      part further) :
    Agree 0 (Twins old new site) (Node.ofEntries (before ++ (key, part) :: after))
      (Node.ofEntries (before ++ (key, further) :: after)) := by
  rw [@ofEntries_exchanged before after key part further free]
  cases opened : Node.ofEntries (before ++ (key, part) :: after) with
  | error fault => exact agree_fault (ofEntries_unscoped opened)
  | ok view =>
      have same := Node.entries_of_ofEntries opened
      have kind := writtenKind_of_opened opened
      obtain ⟨tag, span, entries⟩ := view
      dsimp only at same kind
      subst same
      rw [kind] at unwritten inside
      exact .ok (.field free unwritten inside)

theorem agree_opened {entries others : Entries} (apart : site ≠ .value)
    (exchanged : Exchanged old new site (.map entries) (.map others)) :
    Agree 0 (Twins old new site) (Node.ofEntries entries) (Node.ofEntries others) := by
  cases exchanged with
  | here => exact absurd rfl apart
  | field free unwritten inside => exact agree_openedField free unwritten inside

theorem check_map (entries : Entries) :
    Node.check (.map entries) = (Node.ofEntries entries).map fun _ => () := by
  rw [Node.check]

theorem checkAll_middle (front back : List Data) {item other : Data}
    (same : Node.check other = Node.check item) :
    Node.checkAll (front ++ other :: back) = Node.checkAll (front ++ item :: back) := by
  induction front with
  | nil => simp only [List.nil_append, Node.checkAll, same]
  | cons first rest ih => simp only [List.cons_append, Node.checkAll, ih]

theorem check_exchanged (opened : Opened old new) {data other : Data}
    (exchanged : Exchanged old new site data other) : Node.check other = Node.check data := by
  induction exchanged with
  | here => rw [check_map, check_map, opened.first, opened.second]; rfl
  | @field _ before after key part further free _ _ _ =>
      rw [check_map, check_map, @ofEntries_exchanged before after key part further free]
      cases Node.ofEntries (before ++ (key, part) :: after) <;> rfl
  | @item _ front back part further _ ih =>
      simp only [Node.check]
      exact checkAll_middle front back ih
  | first _ ih => simp only [Node.check, ih]
  | second _ ih => simp only [Node.check, ih]

theorem check_like (opened : Opened old new) {data other : Data}
    (like : Like old new site data other) :
    Node.check other = Node.check data := by
  rcases like with rfl | exchanged
  · rfl
  · exact check_exchanged opened exchanged

theorem check_unscoped {data : Data} {fault : Fault} (failed : Node.check data = .error fault) :
    fault.family ≠ .scope :=
  unscoped_of_agree (agree_check data (each_movable_zero data)) failed

theorem innerWord_like {data other : Data} (like : Like old new site data other) :
    Node.innerWord other = Node.innerWord data := by
  rcases like with rfl | exchanged
  · rfl
  · cases exchanged <;> rfl

theorem agree_openLike {data other : Data} (apart : site ≠ .value)
    (like : Like old new site data other) {fault : Fault} (unscoped : fault.family ≠ .scope) :
    Agree 0 (fun a b => Twins old new site a.val b.val) (Node.openOr fault data)
      (Node.openOr fault other) := by
  apply agree_val
  rcases like with rfl | exchanged
  · cases opened : (Node.openOr fault other).map Subtype.val with
    | ok view => exact .ok (.same view)
    | error late =>
        refine agree_fault ?_
        cases other with
        | map entries =>
            rw [openOr_map] at opened
            exact ofEntries_unscoped opened
        | _ =>
            simp only [Node.openOr, Except.map, Except.error.injEq] at opened
            exact opened ▸ unscoped
  · cases exchanged with
    | here => exact absurd rfl apart
    | field free unwritten inside =>
        rw [openOr_map, openOr_map]
        exact agree_opened apart (.field free unwritten inside)
    | item | first | second => exact agree_fault unscoped

theorem agree_expectLike {data other : Data} (like : Like old new .part data other) :
    Agree 0 (fun a b => Twins old new .part a.val b.val) (Node.expect data) (Node.expect other) :=
  agree_openLike (by simp) like (by decide)

theorem agree_operandLike {data other : Data} (like : Like old new .part data other) :
    Agree 0 (fun a b => Twins old new .part a.val b.val) (Node.operand data)
      (Node.operand other) := by
  unfold Node.operand
  rw [innerWord_like like]
  exact agree_openLike (by simp) like (by simp [Fault.family])

end Opening

section Reading

variable {old new node other : Node} {site : Site} {name : String}

theorem lookup?_twins (twin : Twins old new site node other) (name : String) :
    Option.Rel (Like old new (site.ofField node.kind (.text name)))
      (Data.lookup? name node.entries) (Data.lookup? name other.entries) := by
  have same (found : Option Data) : Option.Rel (Like old new (site.ofField node.kind (.text name)))
      found found := by
    cases found with
    | none => exact .none
    | some part => exact .some (.refl part)
  cases twin with
  | same => exact same _
  | @field kind span before after key part further free unwritten inside =>
      rcases Fold.lookup?_entry before after key part further name with
          equal | ⟨matched, first, second⟩
      · simp only [← equal]
        exact same _
      · simp only [first, second]
        rw [Data.isKey_iff.mp matched] at inside
        exact .some (.inr inside)

theorem lookup?_written (twin : Twins old new site node other) {kind : Kind}
    (tagged : node.kind = some kind) (written : name ∈ writtenFields kind) :
    Option.Rel Eq (Data.lookup? name node.entries) (Data.lookup? name other.entries) := by
  have same (found : Option Data) : Option.Rel Eq found found := by
    cases found with
    | none => exact .none
    | some part => exact .some rfl
  cases twin with
  | same => exact same _
  | @field tag span before after key part further free unwritten inside =>
      rcases Fold.lookup?_entry before after key part further name with
          equal | ⟨matched, first, second⟩
      · simp only [← equal]
        exact same _
      · dsimp only at tagged
        rw [tagged, isWritten, Option.any_some, List.any_eq_false] at unwritten
        exact absurd matched (unwritten name written)

def Checks (relation : Data → Data → Prop) : Prop :=
  ∀ part further, relation part further → Node.check further = Node.check part

theorem checks_eq : Checks Eq := by
  rintro part _ rfl
  rfl

theorem checks_like (opened : Opened old new) : Checks (Like old new site) :=
  fun _ _ => check_like opened

variable {relation : Data → Data → Prop}

theorem find?_related (found : Option.Rel relation (Data.lookup? name node.entries)
    (Data.lookup? name other.entries)) :
    Option.Rel (fun a b => relation a.val b.val) (node.find? name) (other.find? name) := by
  unfold Node.find?
  split
  · rename_i part here
    split
    · rename_i further there
      rw [here, there] at found
      cases found with
      | some related => exact .some related
    · rename_i absent
      rw [here, absent] at found
      cases found
  · rename_i absent
    split
    · rename_i further there
      rw [absent, there] at found
      cases found
    · exact .none

theorem agree_checkedRelated (checks : Checks relation) {part : node.Part} {further : other.Part}
    (related : relation part.val further.val) :
    Agree 0 (fun a b => relation a.val b.val) (node.checked part) (other.checked further) := by
  unfold Node.checked
  rw [checks _ _ related]
  cases checked : Node.check part.val with
  | ok => exact .ok related
  | error fault => exact agree_fault (check_unscoped checked)

theorem agree_fieldRelated (checks : Checks relation) (kind : other.kind = node.kind)
    (plain : Fold.IsPlain name) (found : Option.Rel relation (Data.lookup? name node.entries)
      (Data.lookup? name other.entries)) :
    Agree 0 (fun a b => relation a.val b.val) (node.field name) (other.field name) := by
  have here := find?_related found
  unfold Node.field
  rw [plain, kind]
  split
  · exact agree_fault (by decide)
  · generalize node.find? name = a, other.find? name = b at here
    cases here with
    | some related => exact agree_checkedRelated checks related
    | none => exact agree_fault (by simp [Fault.family])

theorem agree_field?Related (checks : Checks relation)
    (null : ∀ part further, relation part further → (part = .null ↔ further = .null))
    (found : Option.Rel relation (Data.lookup? name node.entries)
      (Data.lookup? name other.entries)) :
    Agree 0 (Option.Rel fun a b => relation a.val b.val) (node.field? name)
      (other.field? name) := by
  have here := find?_related found
  unfold Node.field?
  generalize node.find? name = a, other.find? name = b at here
  cases here with
  | none => exact .ok .none
  | @some part further related =>
      have both := null _ _ related
      dsimp only
      split
      · rename_i missing
        rw [both.mp missing]
        exact .ok .none
      · rename_i full
        split
        · rename_i missing
          exact absurd (both.mpr missing) full
        · exact agree_map (agree_checkedRelated checks related) fun _ _ found => .some found

theorem null_of_like (part further : Data) (like : Like old new site part further) :
    part = .null ↔ further = .null := by
  rcases like with rfl | exchanged
  · rfl
  · cases exchanged <;> simp

theorem agree_fieldAt (opened : Opened old new) (twin : Twins old new site node other)
    (plain : Fold.IsPlain name) :
    Agree 0 (fun a b => Like old new (site.ofField node.kind (.text name)) a.val b.val)
      (node.field name) (other.field name) :=
  agree_fieldRelated (checks_like opened) twin.kind plain (lookup?_twins twin name)

def IsCommon (name : String) : Prop := Fold.IsPlain name ∧ name ≠ "properties"

instance (name : String) : Decidable (IsCommon name) := inferInstanceAs (Decidable (_ ∧ _))

theorem agree_fieldLike (opened : Opened old new) (twin : Twins old new .part node other)
    (common : IsCommon name) :
    Agree 0 (fun a b => Like old new .part a.val b.val) (node.field name) (other.field name) := by
  have found := agree_fieldAt opened twin common.1
  rwa [ofField_part common.2] at found

theorem agree_field?Like (opened : Opened old new) (twin : Twins old new .part node other)
    (common : IsCommon name) :
    Agree 0 (Option.Rel fun a b => Like old new .part a.val b.val) (node.field? name)
      (other.field? name) := by
  have found := lookup?_twins twin name
  rw [ofField_part common.2] at found
  exact agree_field?Related (checks_like opened) null_of_like found

theorem agree_fieldWritten (twin : Twins old new site node other) {kind : Kind}
    (tagged : node.kind = some kind) (written : name ∈ writtenFields kind)
    (plain : Fold.IsPlain name) :
    Agree 0 (fun a b => a.val = b.val) (node.field name) (other.field name) :=
  agree_fieldRelated checks_eq twin.kind plain (lookup?_written twin tagged written)

theorem agree_field?Written (twin : Twins old new site node other) {kind : Kind}
    (tagged : node.kind = some kind) (written : name ∈ writtenFields kind) :
    Agree 0 (Option.Rel fun a b => a.val = b.val) (node.field? name) (other.field? name) :=
  agree_field?Related checks_eq (by rintro part _ rfl; rfl) (lookup?_written twin tagged written)

theorem forall₂_like {front back : List Data} {part further : Data}
    (like : Like old new site part further) :
    List.Forall₂ (Like old new site) (front ++ part :: back) (front ++ further :: back) :=
  List.rel_append (List.forall₂_same.mpr fun item _ => .refl item)
    (.cons like (List.forall₂_same.mpr fun item _ => .refl item))

theorem items_like {items others : List Data}
    (like : Like old new site (.list items) (.list others)) :
    List.Forall₂ (Like old new site.ofItem) items others := by
  rcases like with same | exchanged
  · cases same
    exact List.forall₂_same.mpr fun item _ => .refl item
  · generalize first : Data.list items = data, second : Data.list others = further at exchanged
    cases exchanged with
    | item inside =>
        cases first
        cases second
        exact forall₂_like (.inr inside)
    | _ => cases first

theorem agree_itemsAt (opened : Opened old new) (twin : Twins old new site node other)
    (plain : Fold.IsPlain name) {onText : Fault} (unscoped : onText.family ≠ .scope) :
    Agree 0 (fun a b => List.Forall₂
        (Like old new (site.ofField node.kind (.text name)).ofItem) a.val b.val)
      (node.items name onText) (other.items name onText) := by
  refine agree_bind (agree_fieldAt opened twin plain) fun part further like => ?_
  obtain ⟨data, small⟩ := part
  obtain ⟨again, less⟩ := further
  dsimp only at like
  generalize site.ofField node.kind (.text name) = place at like ⊢
  rcases like with rfl | exchanged
  · cases again with
    | list items => exact .ok (List.forall₂_same.mpr fun item _ => .refl item)
    | text s =>
        dsimp only
        split
        · exact .ok .nil
        · exact agree_fault unscoped
    | _ => exact agree_fault (by decide)
  · cases exchanged with
    | item inside => exact .ok (items_like (.inr (.item inside)))
    | here | field | first | second => exact agree_fault (by decide)

theorem agree_itemsLike (opened : Opened old new) (twin : Twins old new .part node other)
    (common : IsCommon name) {onText : Fault} (unscoped : onText.family ≠ .scope) :
    Agree 0 (fun a b => List.Forall₂ (Like old new .part) a.val b.val) (node.items name onText)
      (other.items name onText) := by
  have found := agree_itemsAt opened twin common.1 unscoped
  rwa [ofField_part common.2] at found

theorem forall₂_parts {row : node.Parts} {further : other.Parts}
    (each : List.Forall₂ relation row.val further.val) :
    List.Forall₂ relation ((node.parts row).map Subtype.val)
      ((other.parts further).map Subtype.val) := by
  simpa [Node.parts] using each

abbrev RowLike (old new : Node) {node other : Node} (row : Except Fault (List node.Part))
    (further : Except Fault (List other.Part)) : Prop :=
  Agree 0 (fun a b => List.Forall₂ (Like old new .part) (a.map Subtype.val) (b.map Subtype.val))
    row further

theorem agree_rowLike (opened : Opened old new) (twin : Twins old new .part node other)
    (common : IsCommon name) {onText : Fault} (unscoped : onText.family ≠ .scope) :
    Agree 0 (RowLike old new) (node.row name onText) (other.row name onText) := by
  refine agree_bind (agree_field?Like opened twin common) fun part further found => ?_
  cases found with
  | none => exact .ok (.ok .nil)
  | @some part further like =>
      obtain ⟨data, small⟩ := part
      obtain ⟨again, less⟩ := further
      dsimp only at like
      rcases like with rfl | exchanged
      · cases again with
        | list items =>
            exact .ok (.ok (forall₂_parts (List.forall₂_same.mpr fun item _ => .refl item)))
        | text s =>
            refine .ok ?_
            split
            · exact .ok .nil
            · exact agree_fault unscoped
        | _ => exact .ok (agree_fault (by decide))
      · cases exchanged with
        | item inside => exact .ok (.ok (forall₂_parts (items_like (.inr (.item inside)))))
        | field | first | second => exact .ok (agree_fault (by decide))

theorem agree_childLike (opened : Opened old new) (twin : Twins old new .part node other)
    (common : IsCommon name) :
    Agree 0 (fun a b => Twins old new .part a.val b.val) (node.child name) (other.child name) := by
  refine agree_bind (agree_fieldLike opened twin common) fun part further like => ?_
  exact agree_bind (agree_expectLike like) fun _ _ inner => .ok inner

theorem agree_wordLike (opened : Opened old new) (twin : Twins old new .part node other)
    (common : IsCommon name) : Agree 0 Eq (node.word? name) (other.word? name) := by
  refine agree_bind (agree_fieldLike opened twin common) fun part further like => ?_
  rcases like with same | exchanged
  · rw [same]
    cases part.val <;> exact .ok rfl
  · generalize part.val = data, further.val = again at exchanged
    cases exchanged <;> exact .ok rfl

end Reading

section Labels

variable {old new node other : Node} {site : Site} {name : String}

theorem shown_twins (twin : Twins old new site node other) : other.shown = node.shown := by
  cases twin with
  | same => rfl
  | @field kind span before after key part further =>
      cases kind with
      | none => simp only [Node.shown, List.map_append, List.map_cons]
      | some kind => rfl

theorem check_middle {front back : List Data} {item : Data}
    (checked : Node.checkAll (front ++ item :: back) = .ok ()) : Node.check item = .ok () := by
  induction front with
  | nil =>
      simp only [List.nil_append, Node.checkAll] at checked
      split at checked
      · assumption
      · cases checked
  | cons first rest ih =>
      simp only [List.cons_append, Node.checkAll] at checked
      split at checked
      · exact ih checked
      · cases checked

theorem opened_of_check {entries : Entries} (checked : Node.check (.map entries) = .ok ()) :
    ∃ view, Node.ofEntries entries = .ok view := by
  rw [check_map] at checked
  cases opened : Node.ofEntries entries with
  | error fault => simp [opened, Except.map] at checked
  | ok view => exact ⟨view, rfl⟩

theorem shownParts_middle (front back : List Data) {item further : Data}
    (same : Node.shownPart further = Node.shownPart item) :
    Node.shownParts (front ++ further :: back) = Node.shownParts (front ++ item :: back) := by
  induction front with
  | nil => simp only [List.nil_append, Node.shownParts, same]
  | cons first rest ih => simp only [List.cons_append, Node.shownParts, ih]

theorem twins_of_opened {entries others : Entries} {view : Node} (apart : site ≠ .value)
    (exchanged : Exchanged old new site (.map entries) (.map others))
    (opened : Node.ofEntries entries = .ok view) :
    ∃ again, Node.ofEntries others = .ok again ∧ Twins old new site view again := by
  have agree := agree_opened apart exchanged
  rw [opened] at agree
  generalize result : Node.ofEntries others = outcome at agree
  cases agree with
  | ok twin => exact ⟨_, rfl, twin⟩

theorem shownPart_exchanged {data other : Data} (exchanged : Exchanged old new site data other)
    (apart : site ≠ .value) (checked : Node.check data = .ok ()) :
    Node.shownPart other = Node.shownPart data := by
  induction exchanged with
  | here => exact absurd rfl apart
  | field free unwritten inside _ =>
      obtain ⟨view, opened⟩ := opened_of_check checked
      obtain ⟨again, reopened, twin⟩ := twins_of_opened apart (.field free unwritten inside) opened
      simp only [Node.shownPart, opened, reopened, shown_twins twin]
  | @item site front back part further inside ih =>
      have place : site.ofItem ≠ .value := by cases site <;> simp [Site.ofItem]
      simp only [Node.shownPart, shownParts_middle front back (ih place (check_middle checked))]
  | first inside ih =>
      simp only [Node.check] at checked
      split at checked
      · simp only [Node.shownPart, ih (by simp) (by assumption)]
      · cases checked
  | second inside ih =>
      simp only [Node.check] at checked
      split at checked
      · simp only [Node.shownPart, ih (by simp) checked]
      · cases checked

theorem shownPart_like {data other : Data} (like : Like old new .part data other)
    (checked : Node.check data = .ok ()) : Node.shownPart other = Node.shownPart data := by
  rcases like with rfl | exchanged
  · rfl
  · exact shownPart_exchanged exchanged (by simp) checked

theorem canKeyAll_middle (front back : List Data) {item : Data}
    (lacks : Label.canKeyData item = false) : Label.canKeyAll (front ++ item :: back) = false := by
  induction front with
  | nil => simp only [List.nil_append, Label.canKeyAll, lacks, Bool.false_and]
  | cons first rest ih => simp only [List.cons_append, Label.canKeyAll, ih, Bool.and_false]

theorem canKey_exchanged {data other : Data} (exchanged : Exchanged old new site data other) :
    Label.canKeyData data = false ∧ Label.canKeyData other = false := by
  induction exchanged with
  | here | field => exact ⟨rfl, rfl⟩
  | @item _ front back part further _ ih =>
      simp only [Label.canKeyData]
      exact ⟨canKeyAll_middle front back ih.1, canKeyAll_middle front back ih.2⟩
  | first _ ih => simp only [Label.canKeyData, ih.1, ih.2, Bool.false_and, and_self]
  | second _ ih => simp only [Label.canKeyData, ih.1, ih.2, Bool.and_false, and_self]

theorem label_exchanged {data other : Data} (exchanged : Exchanged old new site data other)
    (apart : site ≠ .value) (checked : Node.check data = .ok ()) :
    Label.ofData other = Label.ofData data := by
  have shown := shownPart_exchanged exchanged apart checked
  have keys := canKey_exchanged exchanged
  cases exchanged with
  | here => exact absurd rfl apart
  | field free unwritten inside =>
      obtain ⟨view, opened⟩ := opened_of_check checked
      obtain ⟨again, reopened, twin⟩ := twins_of_opened apart (.field free unwritten inside) opened
      simp only [Label.ofData, opened, reopened, shown_twins twin, twin.kind]
  | item inside =>
      simp only [Label.canKeyData] at keys
      simp only [Label.ofData, keys.1, keys.2, shown, Bool.false_eq_true, if_false]
  | first | second => simp only [Label.ofData, keys.1, keys.2, shown]

theorem agree_labelLike (opened : Opened old new) (twin : Twins old new .part node other)
    (common : IsCommon name) : Agree 0 Eq (node.label name) (other.label name) := by
  refine agree_bind (agree_mono (agree_fieldLike opened twin common) fun part further read _ like =>
    (⟨like, (Fold.reads_of_field common.1 read).sound⟩ :
      Like old new .part part.val further.val ∧ Node.check part.val = .ok ()))
    fun part further here => .ok ?_
  obtain ⟨same | exchanged, checked⟩ := here
  · rw [same]
  · exact (label_exchanged exchanged (by simp) checked).symm

end Labels

section Outcomes

variable {α β γ : Type}

theorem eq_of_agree {first second : Except Fault α} (agree : Agree 0 Eq first second) :
    second = first := by
  cases agree with
  | ok same => rw [same]
  | fault reworded => rw [reworded.same rfl]

theorem bind_eq_of_agree {relation : α → β → Prop} {first : Except Fault α}
    {second : Except Fault β} {next : α → Except Fault γ} {after : β → Except Fault γ}
    (agree : Agree 0 relation first second) (onward : ∀ a b, relation a b → after b = next a) :
    (second >>= after) = (first >>= next) := by
  cases agree with
  | ok related => exact onward _ _ related
  | fault reworded => rw [reworded.same rfl]; rfl

end Outcomes

section Sites

variable {old new node other : Node}

theorem twins_part {site : Site} (twin : Twins old new site node other)
    (apart : site ≠ .property ∨ node.kind ≠ some .keyValueProperty) :
    Twins old new .part node other := by
  cases twin with
  | same => exact .same _
  | field free unwritten inside =>
      rw [ofField_apart apart] at inside
      exact .field free unwritten inside

theorem like_value {data further : Data} (like : Like old new .value data further) :
    (data = .map old.entries ∧ further = .map new.entries) ∨ Like old new .part data further := by
  rcases like with rfl | exchanged
  · exact .inr (.refl _)
  · cases exchanged with
    | here => exact .inl ⟨rfl, rfl⟩
    | field free unwritten inside =>
        rw [ofField_apart (.inl (by simp))] at inside
        exact .inr (.inr (.field free unwritten inside))
    | item inside => exact .inr (.inr (.item inside))
    | first inside => exact .inr (.inr (.first inside))
    | second inside => exact .inr (.inr (.second inside))

theorem agree_key_child (opened : Opened old new) (twin : Twins old new .property node other) :
    Agree 0 (fun a b => Twins old new .part a.val b.val) (node.child "key")
      (other.child "key") := by
  have found := agree_fieldAt opened twin (by decide : Fold.IsPlain "key")
  have place : Site.property.ofField node.kind (.text "key") = .part := by
    simp [Site.ofField, Data.isKey]
  rw [place] at found
  refine agree_bind found fun part further like => ?_
  exact agree_bind (agree_expectLike like) fun _ _ inner => .ok inner

end Sites

namespace Fold

section Evaluation

variable {old new node other : Node} {table : ScopeTable} {bound : Nat} {site : Site}
  {name : String}

theorem numberOf_like {data further : Data} (like : Like old new site data further) :
    numberOf further = numberOf data := by
  rcases like with rfl | exchanged
  · rfl
  · cases exchanged <;> rfl

theorem isEmptyPart_like {data further : Data} (like : Like old new site data further) :
    isEmptyPart further = isEmptyPart data := by
  rcases like with rfl | exchanged
  · rfl
  · cases exchanged with
    | @item _ before => cases before <;> rfl
    | _ => rfl

theorem isLibraryName_twins (opened : Opened old new) (twin : Twins old new .part node other) :
    table.isLibraryName other = table.isLibraryName node := by
  unfold ScopeTable.isLibraryName
  rw [twin.isKind, eq_of_agree (agree_labelLike opened twin (by decide))]

theorem calledApi?_twins (opened : Opened old new) (twin : Twins old new .part node other) :
    table.calledApi? other = table.calledApi? node := by
  unfold ScopeTable.calledApi?
  rw [twin.kind]
  split
  · refine bind_eq_of_agree (agree_fieldLike opened twin (by decide)) fun base again first => ?_
    refine bind_eq_of_agree (agree_fieldLike opened twin (by decide))
      fun member further second => ?_
    refine bind_eq_of_agree (agree_expectLike first) fun base again first => ?_
    dsimp only
    rw [isLibraryName_twins opened first]
    refine bind_congr fun known => ?_
    split
    · rfl
    · refine bind_eq_of_agree (agree_expectLike second) fun member further second => ?_
      rw [second.isKind, eq_of_agree (agree_wordLike opened second (by decide))]
  · rw [eq_of_agree (agree_labelLike opened twin (by decide))]
  · rfl

theorem bigintOf_twins (opened : Opened old new) (twin : Twins old new .part node other) :
    bigintOf other = bigintOf node := by
  have raw {data further : Data} (same : Node.shownPart further = Node.shownPart data) :
      bigintOfRaw other further = bigintOfRaw node data := by
    refine bind_eq_of_agree (agree_field?Like opened twin (by decide)) fun part again found => ?_
    cases found with
    | none => simp only [same]
    | @some part again like =>
        obtain ⟨text, small⟩ := part
        obtain ⟨text', less⟩ := again
        rcases like with equal | exchanged
        · dsimp only at equal
          subst equal
          cases text' <;> simp only [bigintOf.readText, same]
        · cases exchanged <;> simp only [same]
  refine bind_eq_of_agree (agree_mono (agree_field?Like opened twin (by decide))
    fun part further read _ found => (⟨found, read⟩ : _ ∧ node.field? "value" = .ok part))
    fun part further here => ?_
  obtain ⟨found, read⟩ := here
  cases found with
  | none => exact raw rfl
  | @some part further like =>
      have shown := shownPart_like like (reads_of_field? read).1.sound
      obtain ⟨data, small⟩ := part
      obtain ⟨again, less⟩ := further
      rcases like with equal | exchanged
      · dsimp only at equal
        subst equal
        cases again <;> first | rfl | exact raw rfl
      · cases exchanged <;> exact raw shown

theorem pieceValue_twins (twin : Twins old new .part node other)
    (tagged : node.kind = some .templateElement) : pieceValue other = pieceValue node := by
  have raw : rawPieceValue other = rawPieceValue node := by
    refine bind_eq_of_agree (agree_field?Written twin tagged
      (by decide : "raw" ∈ writtenFields .templateElement)) fun part further found => ?_
    cases found with
    | none => rfl
    | some same => simp only [same]
  refine bind_eq_of_agree (agree_field?Written twin tagged
    (by decide : "cooked" ∈ writtenFields .templateElement)) fun part further found => ?_
  cases found with
  | none => exact raw
  | some same =>
      dsimp only
      rw [same]
      split
      · exact raw
      · rfl

def SameBelow (old new : Node) (table : ScopeTable) (bound : Nat) : Prop :=
  ∀ data further, sizeOf data < bound → Like old new .part data further →
    evalPart table further = evalPart table data

theorem bind_evalField {α : Type} {next : Result → Except Fault α} (opened : Opened old new)
    (below : SameBelow old new table bound) (small : node.size ≤ bound)
    (twin : Twins old new .part node other) (common : IsCommon name)
    {after : Result → Except Fault α} (onward : ∀ result, after result = next result) :
    (do after (← evalPart table (← other.field name).val)) =
      (do next (← evalPart table (← node.field name).val)) := by
  refine bind_eq_of_agree (agree_fieldLike opened twin common) fun part further like => ?_
  have lower := part.property
  rw [below _ _ (by omega) like]
  exact bind_congr onward

theorem evalField_twins (opened : Opened old new) (below : SameBelow old new table bound)
    (small : node.size ≤ bound) (twin : Twins old new .part node other) (common : IsCommon name) :
    (do evalPart table (← other.field name).val) = (do evalPart table (← node.field name).val) := by
  refine bind_eq_of_agree (agree_fieldLike opened twin common) fun part further like => ?_
  have lower := part.property
  exact below _ _ (by omega) like

theorem evalElements_like (opened : Opened old new) (below : SameBelow old new table bound)
    (span : Option Span) {items others : List Data} (small : sizeOf items < bound)
    (each : List.Forall₂ (Like old new .part) items others) :
    evalElements table span others = evalElements table span items := by
  induction each with
  | nil => rfl
  | @cons item further rest others first later ih =>
      simp only [List.cons.sizeOf_spec] at small
      have onward := ih (by omega)
      by_cases hole : item = .null
      · have same := (null_of_like item further first).mp hole
        subst hole same
        rw [evalElements_hole, evalElements_hole, onward]
      · have there : further ≠ .null :=
          fun null => hole ((null_of_like item further first).mpr null)
        rw [evalElements_element table span rest hole, evalElements_element table span others there]
        refine bind_eq_of_agree (agree_expectLike first) fun element again twin => ?_
        refine bind_eq_of_agree (agree_fieldLike opened twin (by decide)) fun part again like => ?_
        have lower := Nat.lt_trans part.property element.property
        rw [below _ _ (by omega) like]
        refine bind_congr fun result => ?_
        refine bind_eq_of_agree (agree_field?Like opened twin (by decide))
          fun mark again found => ?_
        have entries : elementEntries result again = elementEntries result mark := by
          cases found <;> rfl
        rw [onward, entries]

theorem propertyKey_twins (opened : Opened old new) (below : SameBelow old new table bound)
    (small : node.size ≤ bound) (twin : Twins old new .part node other) :
    propertyKey table other = propertyKey table node := by
  have label := eq_of_agree (agree_labelLike opened twin (by decide : IsCommon "value"))
  rw [propertyKey, propertyKey, twin.kind]
  split
  · rw [label]
  · rw [label]
  · refine bind_eq_of_agree (agree_fieldLike opened twin (by decide)) fun part further like => ?_
    rw [numberOf_like like]
  · rw [bigintOf_twins opened twin]
  · exact bind_evalField opened below small twin (by decide) fun _ => rfl
  · rfl

theorem memberKey_twins (opened : Opened old new) (below : SameBelow old new table bound)
    (small : node.size ≤ bound) (twin : Twins old new .part node other) :
    memberKey table other = memberKey table node := by
  rw [memberKey, memberKey, twin.kind]
  split
  · rw [eq_of_agree (agree_labelLike opened twin (by decide))]
  · refine bind_eq_of_agree (agree_childLike opened twin (by decide)) fun id further inner => ?_
    rw [eq_of_agree (agree_labelLike opened inner (by decide))]
  · exact bind_evalField opened below small twin (by decide) fun _ => rfl
  · rfl

theorem evalPart_value (opened : Opened old new) (same : eval table new = eval table old)
    (below : SameBelow old new table bound) {data further : Data} (small : sizeOf data < bound)
    (like : Like old new .value data further) : evalPart table further = evalPart table data := by
  rcases like_value like with ⟨first, second⟩ | inside
  · rw [first, second, evalPart_map table opened.first,
      evalPart_map table opened.second, same]
  · exact below _ _ small inside

theorem evalEntry_twins (opened : Opened old new) (same : eval table new = eval table old)
    (below : SameBelow old new table bound) (small : node.size ≤ bound)
    (twin : Twins old new .property node other) {rest others : List Data}
    (onward : ∀ members, evalProperties table members others = evalProperties table members rest)
    (members : Members) :
    evalEntry table members other others = evalEntry table members node rest := by
  refine bind_eq_of_agree (agree_key_child opened twin) fun key again inner => ?_
  have lower := key.property
  rw [propertyKey_twins opened below (by omega) inner]
  refine bind_congr fun found => ?_
  cases found with
  | none => exact onward members
  | some name =>
      refine bind_eq_of_agree (agree_fieldAt opened twin (by decide)) fun value further like => ?_
      have less := value.property
      have result : evalPart table further.val = evalPart table value.val := by
        by_cases pair : node.kind = some .keyValueProperty
        · have place : Site.property.ofField node.kind (.text "value") = .value := by
            simp [Site.ofField, pair, Data.isKey]
          rw [place] at like
          exact evalPart_value opened same below (by omega) like
        · rw [ofField_apart (.inr pair), ofField_part (by decide)] at like
          exact below _ _ (by omega) like
      rw [result]
      exact bind_congr fun result => bind_congr fun name => onward _

theorem evalProperties_like (opened : Opened old new) (same : eval table new = eval table old)
    (below : SameBelow old new table bound) {items others : List Data}
    (small : sizeOf items < bound) (each : List.Forall₂ (Like old new .property) items others)
    (members : Members) :
    evalProperties table members others = evalProperties table members items := by
  induction each generalizing members with
  | nil => rfl
  | @cons item further rest others first later ih =>
      simp only [List.cons.sizeOf_spec] at small
      have onward := ih (by omega)
      rw [evalProperties, evalProperties]
      refine bind_eq_of_agree (agree_openLike (by simp) first (by decide))
        fun property again twin => ?_
      have lower := property.property
      have entry := evalEntry_twins opened same below (by omega) twin onward members
      dsimp only
      rw [twin.kind]
      split
      · rename_i tagged
        refine bind_evalField opened below (by omega)
          (twins_part twin (.inr (by simp [tagged]))) (by decide) fun spread => onward _
      · exact entry
      · exact entry
      · rename_i tagged
        have plain := twins_part twin (.inr (by simp [tagged]))
        rw [eq_of_agree (agree_labelLike opened plain (by decide)), twin.span]
        exact bind_congr fun label => bind_congr fun name => onward _
      · exact onward members

theorem evalPieces_like (below : SameBelow old new table bound) (small : node.size ≤ bound)
    {pieces : List node.Part} {others : List other.Part}
    (each : List.Forall₂ (Like old new .part) (pieces.map Subtype.val) (others.map Subtype.val))
    {expressions : Except Fault (List node.Part)} {further : Except Fault (List other.Part)}
    (row : RowLike old new expressions further) (done : List String) :
    evalPieces table other others further done = evalPieces table node pieces expressions done := by
  induction pieces generalizing others expressions further done with
  | nil =>
      cases others with
      | nil => rw [evalPieces, evalPieces]
      | cons => cases each
  | cons piece rest ih =>
      cases others with
      | nil => cases each
      | cons again others =>
          simp only [List.map_cons, List.forall₂_cons] at each
          have lower := piece.property
          rw [evalPieces_cons, evalPieces_cons, below _ _ (by omega) each.1]
          refine bind_congr fun result => ?_
          cases result with
          | value v span =>
              refine bind_congr fun text => ?_
              cases row with
              | fault reworded => rw [reworded.same rfl]
              | @ok found further row =>
                  cases found with
                  | nil =>
                      cases further with
                      | nil => exact ih each.2 (.ok .nil) _
                      | cons => cases row
                  | cons expression more =>
                      cases further with
                      | nil => cases row
                      | cons expression' more' =>
                          simp only [List.map_cons, List.forall₂_cons] at row
                          have less := expression.property
                          dsimp only
                          rw [below _ _ (by omega) row.1]
                          refine bind_congr fun result => bind_congr fun inner => ?_
                          cases inner with
                          | none => rfl
                          | some inner => exact ih each.2 (.ok row.2) _
          | _ => rfl

theorem evalBinary_twins (opened : Opened old new) (below : SameBelow old new table bound)
    (small : node.size ≤ bound) (twin : Twins old new .part node other)
    (tagged : node.kind = some .binaryExpression) : eval table other = eval table node := by
  rw [eval, eval, twin.kind, tagged, twin.span]
  refine bind_eq_of_agree (agree_mono (agree_fieldLike opened twin (by decide))
    fun part further read _ like => (⟨like, read⟩ : _ ∧ node.field "operator" = .ok part))
    fun operator again here => ?_
  obtain ⟨like, read⟩ := here
  have checked := (reads_of_field (by decide) read).sound
  refine bind_evalField opened below small twin (by decide) fun left => ?_
  obtain ⟨operator, _⟩ := operator
  obtain ⟨again, _⟩ := again
  -- An operator that is no text is a name, and that is the same in both trees.
  have label : Label.ofData again = Label.ofData operator := by
    rcases like with equal | exchanged
    · exact congrArg Label.ofData equal
    · exact label_exchanged exchanged (by simp) checked
  rcases like with equal | exchanged
  · dsimp only at equal
    subst equal
    cases again with
    | text symbol =>
        dsimp only
        cases Logical.ofSymbol? symbol with
        | some operator =>
            cases left with
            | value v span =>
                refine bind_congr fun decided => ?_
                split
                · rfl
                · exact bind_evalField opened below small twin (by decide) fun right => rfl
            | _ => rfl
        | none => exact bind_evalField opened below small twin (by decide) fun right => rfl
    | _ => exact bind_evalField opened below small twin (by decide) fun right => rfl
  · cases exchanged
    all_goals
      refine bind_evalField opened below small twin (by decide) fun right => ?_
      dsimp only at label ⊢
      rw [label]

theorem evalUnary_twins (opened : Opened old new) (below : SameBelow old new table bound)
    (small : node.size ≤ bound) (twin : Twins old new .part node other)
    (tagged : node.kind = some .unaryExpression) : eval table other = eval table node := by
  rw [eval, eval, twin.kind, tagged, twin.span]
  refine bind_eq_of_agree (agree_mono (agree_fieldLike opened twin (by decide))
    fun part further read _ like => (⟨like, read⟩ : _ ∧ node.field "operator" = .ok part))
    fun operator again here => ?_
  obtain ⟨like, read⟩ := here
  have shown := shownPart_like like (reads_of_field (by decide) read).sound
  obtain ⟨operator, _⟩ := operator
  obtain ⟨again, _⟩ := again
  rcases like with equal | exchanged
  · dsimp only at equal
    subst equal
    dsimp only
    split
    · rfl
    · exact bind_evalField opened below small twin (by decide) fun result => rfl
  · cases exchanged <;>
      refine bind_evalField opened below small twin (by decide) fun result => ?_ <;>
      cases result <;> simp only [shown]

theorem evalSequence_twins (opened : Opened old new) (below : SameBelow old new table bound)
    (small : node.size ≤ bound) (twin : Twins old new .part node other)
    (tagged : node.kind = some .sequenceExpression) : eval table other = eval table node := by
  rw [eval, eval, twin.kind, tagged]
  refine bind_eq_of_agree (agree_itemsLike opened twin (by decide) (by simp [Fault.family]))
    fun row others each => ?_
  have lower := row.property
  have ends : Option.Rel (Like old new .part) row.val.getLast? others.val.getLast? := by
    generalize row.val = items, others.val = more at each
    induction each with
    | nil => exact .none
    | cons first later ih =>
        cases later with
        | nil => exact .some first
        | cons => simpa using ih
  dsimp only
  split
  · rename_i last found
    split
    · rename_i again here
      rw [found, here] at ends
      cases ends with
      | some like =>
          have member := List.sizeOf_lt_of_mem (List.mem_of_getLast? here)
          exact below _ _ (by omega) like
    · rename_i missing
      rw [found, missing] at ends
      cases ends
  · rename_i missing
    split
    · rename_i again here
      rw [here, missing] at ends
      cases ends
    · rfl

theorem evalConditional_twins (opened : Opened old new) (below : SameBelow old new table bound)
    (small : node.size ≤ bound) (twin : Twins old new .part node other)
    (tagged : node.kind = some .conditionalExpression) : eval table other = eval table node := by
  rw [eval, eval, twin.kind, tagged]
  refine bind_evalField opened below small twin (by decide) fun result => ?_
  cases result with
  | value v span =>
      refine bind_congr fun holds => ?_
      split
      · exact evalField_twins opened below small twin (by decide)
      · exact evalField_twins opened below small twin (by decide)
  | _ => rfl

theorem evalCall_twins (opened : Opened old new) (below : SameBelow old new table bound)
    (small : node.size ≤ bound) (twin : Twins old new .part node other)
    (tagged : node.kind = some .callExpression) : eval table other = eval table node := by
  rw [eval, eval, twin.kind, tagged, twin.span]
  refine bind_eq_of_agree (agree_childLike opened twin (by decide)) fun callee again inner => ?_
  rw [calledApi?_twins opened inner]
  refine bind_congr fun api => ?_
  split
  · refine bind_eq_of_agree (agree_itemsLike opened twin (by decide) (by decide))
      fun given others each => ?_
    have lower := given.property
    exact congrArg (· >>= _) (evalElements_like opened below node.span (by omega) each)
  · rfl

theorem evalMember_twins (opened : Opened old new) (below : SameBelow old new table bound)
    (small : node.size ≤ bound) (twin : Twins old new .part node other)
    (tagged : node.kind = some .memberExpression) : eval table other = eval table node := by
  rw [eval, eval, twin.kind, tagged, twin.span]
  refine bind_evalField opened below small twin (by decide) fun base => ?_
  cases base with
  | nonStatic => rfl
  | _ =>
      refine bind_eq_of_agree (agree_childLike opened twin (by decide))
        fun property again inner => ?_
      have lower := property.property
      exact congrArg (· >>= _) (memberKey_twins opened below (by omega) inner)

theorem eval_twins (opened : Opened old new) (same : eval table new = eval table old)
    (below : SameBelow old new table bound) (small : node.size ≤ bound)
    (twin : Twins old new .part node other) : eval table other = eval table node := by
  have pass {kind : Kind} {name : String} (tagged : node.kind = some kind)
      (passes : passesOn kind = some name) : eval table other = eval table node := by
    rw [eval_passes table tagged passes, eval_passes table (twin.kind.trans tagged) passes]
    refine evalField_twins opened below small twin ?_
    cases kind <;> cases passes <;> decide
  cases tagged : node.kind with
  | none => rw [eval, eval, twin.kind, tagged]
  | some kind =>
      have written (literal : kind = .stringLiteral ∨ kind = .booleanLiteral) :
          eval table other = eval table node := by
        rw [eval, eval, twin.kind, tagged, twin.span]
        rcases literal with rfl | rfl <;>
          refine bind_eq_of_agree (agree_fieldWritten twin tagged (by decide) (by decide))
            fun part further equal => ?_ <;>
          rw [equal]
      cases kind with
      | stringLiteral => exact written (.inl rfl)
      | booleanLiteral => exact written (.inr rfl)
      | numericLiteral =>
          rw [eval, eval, twin.kind, tagged, twin.span]
          refine bind_eq_of_agree (agree_fieldLike opened twin (by decide))
            fun part further like => ?_
          rw [numberOf_like like]
      | bigIntLiteral => rw [eval, eval, twin.kind, tagged, twin.span, bigintOf_twins opened twin]
      | nullLiteral => rw [eval, eval, twin.kind, tagged, twin.span]
      | regExpLiteral =>
          rw [eval, eval, twin.kind, tagged, twin.span,
            eq_of_agree (agree_labelLike opened twin (by decide))]
          refine bind_congr fun pattern => ?_
          refine bind_eq_of_agree (agree_field?Written twin tagged
            (by decide : "flags" ∈ writtenFields .regExpLiteral)) fun flags further found => ?_
          cases found with
          | none => rfl
          | some equal => simp only [Option.map_some, equal]
      | invalid => rw [eval, eval, twin.kind, tagged]
      | identifier =>
          rw [eval, eval, twin.kind, tagged, twin.span,
            eq_of_agree (agree_labelLike opened twin (by decide : IsCommon "value"))]
      | arrayExpression =>
          rw [eval, eval, twin.kind, tagged, twin.span]
          refine bind_eq_of_agree (agree_itemsLike opened twin (by decide) (by decide))
            fun items others each => ?_
          have lower := items.property
          exact congrArg (· >>= _) (evalElements_like opened below node.span (by omega) each)
      | objectExpression =>
          rw [eval, eval, twin.kind, tagged, twin.span]
          refine bind_eq_of_agree (agree_itemsAt opened twin (by decide) (by decide))
            fun items others each => ?_
          have lower := items.property
          have place : (Site.part.ofField node.kind (.text "properties")).ofItem = .property := by
            simp [Site.ofField, tagged, Data.isKey, Site.ofItem]
          rw [place] at each
          exact congrArg (· >>= _) (evalProperties_like opened same below (by omega) each [])
      | binaryExpression => exact evalBinary_twins opened below small twin tagged
      | unaryExpression => exact evalUnary_twins opened below small twin tagged
      | conditionalExpression => exact evalConditional_twins opened below small twin tagged
      | templateLiteral =>
          rw [eval, eval, twin.kind, tagged, twin.span]
          refine bind_eq_of_agree (agree_rowLike opened twin (by decide) (by simp [Fault.family]))
            fun expressions further inner => ?_
          refine bind_eq_of_agree (agree_itemsLike opened twin (by decide) (by simp [Fault.family]))
            fun quasis others each => ?_
          rw [evalPieces_like below small (forall₂_parts each) inner []]
      | templateElement =>
          rw [eval, eval, twin.kind, tagged, twin.span, pieceValue_twins twin tagged]
      | callExpression => exact evalCall_twins opened below small twin tagged
      | memberExpression => exact evalMember_twins opened below small twin tagged
      | sequenceExpression => exact evalSequence_twins opened below small twin tagged
      | _ =>
          first
            | exact pass tagged rfl
            | rw [eval_unread table tagged rfl, eval_unread table (twin.kind.trans tagged) rfl]

theorem sameBelow (opened : Opened old new) (same : eval table new = eval table old) (bound : Nat) :
    SameBelow old new table bound := by
  induction bound with
  | zero =>
      intro data further small
      exact absurd small (Nat.not_lt_zero _)
  | succ bound below =>
      intro data further small like
      rw [evalPart, evalPart]
      refine bind_eq_of_agree (agree_operandLike like) fun node again twin => ?_
      have lower := node.property
      exact eval_twins opened same below (by omega) twin

/-- A tree is evaluated alike with any value in it exchanged for one that is evaluated alike. -/
theorem evalPart_like (opened : Opened old new) (same : eval table new = eval table old)
    {data further : Data} (like : Like old new .part data further) :
    evalPart table further = evalPart table data :=
  sameBelow opened same (sizeOf data + 1) data further (Nat.lt_succ_self _) like

end Evaluation

end Fold

end StyleFold
