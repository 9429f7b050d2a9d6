import StyleFold.Proofs.Fold.Refinement

/-!
Replacing an expression that is not static. Main statement: the result of a tree around it can only
become better known, so nothing that was folded hangs on it. The callee of the fallback helper is
the one part that counts although it has no value of its own.
-/

namespace StyleFold.Fold

section Relation

/-- Places where an expression can stand by itself. -/
def isOpen : Role → Bool
  | .expression | .callee | .member => true
  | _ => false

def isRead (wanted : List Demand) (view : Node) (key : Data) : Bool :=
  Node.isReserved key || (demandFor? wanted key).isSome ||
    (view.isKind .bigIntLiteral && (Data.isKey "value" key || Data.isKey "raw" key))

/-- Trees that differ in one part: the first has one expression there and the second another, in a
place that is admitted, or the part lies where evaluation never looks. -/
inductive Replaced (admits : Role → Prop) (u w : Data) : Role → Data → Data → Prop where
  | here {role : Role} (admitted : admits role) : Replaced admits u w role u w
  | field {role : Role} {before after : Entries} {name : String} {part other : Data} {view : Node}
      {wanted : List Demand} {demand : Demand}
      (opened : Node.ofEntries (before ++ (.text name, part) :: after) = .ok view)
      (asked : demands .fixed role view.kind = some wanted)
      (demanded : demandFor? wanted (.text name) = some demand)
      (inside : Replaced admits u w demand.role part other) :
      Replaced admits u w role (.map (before ++ (.text name, part) :: after))
        (.map (before ++ (.text name, other) :: after))
  | aside {role : Role} {before after : Entries} {key part other : Data} {view : Node}
      {wanted : List Demand}
      (opened : Node.ofEntries (before ++ (key, part) :: after) = .ok view)
      (asked : demands .fixed role view.kind = some wanted)
      (unread : isRead wanted view key = false) :
      Replaced admits u w role (.map (before ++ (key, part) :: after))
        (.map (before ++ (key, other) :: after))
  | item {row role : Role} {before after : List Data} {part other : Data}
      (inRow : row = .many role ∨ row = .oneOrMore role)
      (inside : Replaced admits u w role part other) :
      Replaced admits u w row (.list (before ++ part :: after)) (.list (before ++ other :: after))

theorem replaced_solid {admits : Role → Prop} {u w : Data} {role : Role} {part other : Data}
    (replaced : Replaced admits u w role part other) (old : u ≠ .null) (new : w ≠ .null) :
    part ≠ .null ∧ other ≠ .null := by
  cases replaced with
  | here => exact ⟨old, new⟩
  | field | aside | item => exact ⟨by simp, by simp⟩

end Relation

section Entry

variable {before after : Entries} {key part other : Data}

theorem lookup?_entry (before after : Entries) (key part other : Data) (name : String) :
    Data.lookup? name (before ++ (key, part) :: after) =
        Data.lookup? name (before ++ (key, other) :: after) ∨
      Data.isKey name key = true ∧
        Data.lookup? name (before ++ (key, part) :: after) = some part ∧
        Data.lookup? name (before ++ (key, other) :: after) = some other := by
  induction before with
  | nil =>
      by_cases matched : Data.isKey name key = true
      · exact .inr ⟨matched, by simp [Data.lookup?, matched], by simp [Data.lookup?, matched]⟩
      · exact .inl (by simp [Data.lookup?, matched])
  | cons entry rest ih =>
      -- An entry further ahead with the same key hides the one that changes.
      by_cases matched : Data.isKey name entry.1 = true
      · exact .inl (by simp [Data.lookup?, matched])
      · simpa only [List.cons_append, Data.lookup?, if_neg matched] using ih

theorem lookup?_apart {name : String} (apart : Data.isKey name key = false) :
    Data.lookup? name (before ++ (key, other) :: after) =
      Data.lookup? name (before ++ (key, part) :: after) := by
  rcases lookup?_entry before after key part other name with same | ⟨matched, _⟩
  · exact same.symm
  · simp [apart] at matched

theorem lookup?_append {name : String} (missing : Data.lookup? name before = none) :
    Data.lookup? name (before ++ after) = Data.lookup? name after := by
  induction before with
  | nil => rfl
  | cons entry rest ih =>
      by_cases matched : Data.isKey name entry.1 = true
      · simp [Data.lookup?, matched] at missing
      · simp only [Data.lookup?, if_neg matched] at missing
        simp only [List.cons_append, Data.lookup?, if_neg matched, ih missing]

theorem ofEntries_entry {view : Node} (free : Node.isReserved key = false)
    (opened : Node.ofEntries (before ++ (key, part) :: after) = .ok view) :
    Node.ofEntries (before ++ (key, other) :: after) =
      .ok { view with entries := before ++ (key, other) :: after } := by
  simp only [Node.isReserved, Bool.or_eq_false_iff] at free
  unfold Node.ofEntries at opened ⊢
  rw [lookup?_apart free.1.1, lookup?_apart free.1.2]
  cases kind : Node.kindOf (Data.lookup? "type" (before ++ (key, part) :: after)) with
  | error fault => simp [kind, bind, Except.bind] at opened
  | ok tag =>
      cases span : Node.spanOf (Data.lookup? "span" (before ++ (key, part) :: after)) with
      | error fault => simp [kind, span, bind, Except.bind] at opened
      | ok range =>
          simp only [kind, span, ok_bind] at opened ⊢
          cases opened
          rfl

theorem formedFields_append (fragment : Fragment) (wanted : List Demand) (before after : Entries) :
    formedFields fragment wanted (before ++ after) =
      (formedFields fragment wanted before && formedFields fragment wanted after) := by
  induction before with
  | nil => simp [formedFields]
  | cons entry rest ih => simp [formedFields, ih, Bool.and_assoc]

theorem formedFields_free (fragment : Fragment) (entries : Entries) :
    formedFields fragment [] entries = true := by
  induction entries with
  | nil => rfl
  | cons entry rest ih => simpa [formedFields, demandFor?] using ih

theorem name_of_demandFor? {wanted : List Demand} {name : String} {demand : Demand}
    (demanded : demandFor? wanted (.text name) = some demand) :
    demand ∈ wanted ∧ demand.name = name := by
  have same : name = demand.name := by simpa [Data.isKey_iff] using List.find?_some demanded
  exact ⟨List.mem_of_find?_eq_some demanded, same.symm⟩

theorem hasFields_entry {wanted : List Demand}
    (present : hasFields wanted (before ++ (key, part) :: after) = true) :
    hasFields wanted (before ++ (key, other) :: after) = true := by
  simp only [hasFields, List.all_eq_true, Bool.or_eq_true] at present ⊢
  intro demand member
  refine (present demand member).imp id fun there => ?_
  rcases lookup?_entry before after key part other demand.name with same | ⟨_, _, found⟩
  · rw [← same]
    exact there
  · rw [found]
    rfl

theorem formedFields_entry {wanted : List Demand}
    (form : formedFields .fixed wanted (before ++ (key, part) :: after) = true)
    (fits : ∀ demand, demandFor? wanted key = some demand → Formed .fixed demand.role other) :
    formedFields .fixed wanted (before ++ (key, other) :: after) = true := by
  simp only [formedFields_append, formedFields, Bool.and_eq_true] at form ⊢
  refine ⟨form.1, ?_, form.2.2⟩
  cases demanded : demandFor? wanted key with
  | none => rfl
  | some demand =>
      have formed : formed .fixed demand.role other = true := fits demand demanded
      simp [formed]

theorem field?_same {view further : Node} {name : String}
    (same : Data.lookup? name further.entries = Data.lookup? name view.entries) :
    (∃ fault, view.field? name = .error fault ∧ further.field? name = .error fault) ∨
      (view.field? name = .ok none ∧ further.field? name = .ok none) ∨
      ∃ part small less, view.field? name = .ok (some ⟨part, small⟩) ∧
        further.field? name = .ok (some ⟨part, less⟩) := by
  cases found : Data.lookup? name view.entries with
  | none =>
      have missing : Lacks view name := fun part there => by simp [found] at there
      have missingToo : Lacks further name := fun part there => by simp [same, found] at there
      exact .inr (.inl ⟨missing.field?, missingToo.field?⟩)
  | some part =>
      have foundToo := same.trans found
      by_cases null : part = .null
      · have missing : Lacks view name := fun other there => by simp_all
        have missingToo : Lacks further name := fun other there => by simp_all
        exact .inr (.inl ⟨missing.field?, missingToo.field?⟩)
      · cases sound : Node.check part with
        | ok => exact .inr (.inr ⟨part, _, _, Reads.field? ⟨found, sound⟩ null,
            Reads.field? ⟨foundToo, sound⟩ null⟩)
        | error fault =>
            have fails {node : Node} (there : Data.lookup? name node.entries = some part) :
                node.field? name = .error fault := by
              unfold Node.field?
              rw [find?_eq there]
              cases part <;> simp_all [Node.checked, Except.map]
            exact .inl ⟨fault, fails found, fails foundToo⟩

theorem bigintOf_entry {view further : Node}
    (value : Data.lookup? "value" further.entries = Data.lookup? "value" view.entries)
    (raw : Data.lookup? "raw" further.entries = Data.lookup? "raw" view.entries) :
    bigintOf view = bigintOf further := by
  unfold bigintOf
  rcases field?_same value with ⟨_, first, again⟩ | ⟨first, again⟩ | ⟨_, _, _, first, again⟩ <;>
    rcases field?_same raw with ⟨_, second, more⟩ | ⟨second, more⟩ | ⟨part, _, _, second, more⟩ <;>
    simp only [first, again, second, more, ok_bind, Option.map_some, Option.map_none]
  case inr.inl.inr.inr | inr.inr.inr.inr => cases part <;> rfl
  all_goals rfl

theorem alike_entry {table : ScopeTable} {wanted : List Demand} {view : Node}
    (opened : Node.ofEntries (before ++ (key, part) :: after) = .ok view)
    (follows : Follows .fixed wanted view)
    (literal : view.kind = some .bigIntLiteral →
      Data.isKey "value" key = false ∧ Data.isKey "raw" key = false)
    (fits : ∀ demand, demandFor? wanted key = some demand → part ≠ .null ∧ other ≠ .null ∧
      Formed .fixed demand.role other ∧ Known table demand.role part other) :
    Alike table wanted view { view with entries := before ++ (key, other) :: after } := by
  have entries := Node.entries_of_ofEntries opened
  obtain ⟨present, bigint, fields⟩ := follows
  rw [entries] at present bigint fields
  exact {
    kind := rfl
    span := rfl
    follows := {
      present := hasFields_entry present
      bigint := by
        intro kind
        have written := bigint kind
        unfold writesBigint at written ⊢
        rwa [lookup?_apart (literal kind).1, lookup?_apart (literal kind).2]
      fields := formedFields_entry fields fun demand demanded => (fits demand demanded).2.2.1 }
    bigint := fun kind => bigintOf_entry
      (by rw [entries, lookup?_apart (literal kind).1])
      (by rw [entries, lookup?_apart (literal kind).2])
    lacks := by
      intro name demand demanded
      unfold Lacks
      rw [entries]
      -- A name either does not ask for the entry that changed, or asks for just this one.
      rcases lookup?_entry before after key part other name with same | ⟨matched, found, again⟩
      · rw [same]
      · cases Data.isKey_iff.mp matched
        obtain ⟨there, stays, _⟩ := fits demand demanded
        simp [found, again, there, stays]
    parts := by
      intro name demand first second demanded reads readsToo form
      have found := reads.found
      have again := readsToo.found
      rw [entries] at found
      rcases lookup?_entry before after key part other name with same | ⟨matched, here, there⟩
      · cases found.symm.trans (same.trans again)
        exact known_same form
      · cases Data.isKey_iff.mp matched
        cases here.symm.trans found
        cases there.symm.trans again
        exact (fits demand demanded).2.2.2 }

end Entry

section Schema

theorem expressionDemands_free {kind : Kind} {wanted : List Demand}
    (asked : expressionDemands kind = some wanted) :
    ∀ demand ∈ wanted, Node.isReserved (.text demand.name) = false := by
  unfold expressionDemands at asked
  split at asked <;> (try split at asked) <;> cases asked <;> decide

theorem demands_free {fragment : Fragment} {role : Role} {kind : Option Kind} {wanted : List Demand}
    (asked : demands fragment role kind = some wanted) :
    ∀ demand ∈ wanted, Node.isReserved (.text demand.name) = false := by
  unfold demands at asked
  split at asked
  case h_1 | h_2 => exact expressionDemands_free asked
  all_goals (try split at asked) <;> cases asked <;> simp [Node.isReserved, Data.isKey]

theorem demands_bigint {fragment : Fragment} {role : Role} {wanted : List Demand}
    (asked : demands fragment role (some .bigIntLiteral) = some wanted) :
    ∀ demand ∈ wanted, Data.isKey "value" (.text demand.name) = false ∧
      Data.isKey "raw" (.text demand.name) = false := by
  cases role <;> cases asked <;> simp [Data.isKey]

end Schema

section Hole

variable {table : ScopeTable} {u w : Data}

/-- Places where an expression may be replaced: all but that of the helper itself, in a table that
takes `undefined` for a name of the library. -/
def Admits (table : ScopeTable) (u : Data) (role : Role) : Prop :=
  isOpen role = true ∧
    (role = .callee → table.isNamespace (.text "undefined") = true → isFallback table u = false)

theorem named_ne_nonStatic (label : Label) (span : Option Span) :
    named label span ≠ .nonStatic := by
  unfold named
  split <;> simp

theorem eval_of_unknown {entries : Entries} {view : Node}
    (unknown : evaluate table (.map entries) = .ok .nonStatic)
    (opened : Node.ofEntries entries = .ok view) : eval table view = .ok .nonStatic := by
  rwa [evaluate_map, evalPart_map table opened] at unknown

theorem no_name_of_unknown (unknown : evaluate table u = .ok .nonStatic) (name : String) :
    ¬ IsName u name := by
  rintro ⟨entries, view, rfl, opened, kind, reads⟩
  have run := eval_of_unknown unknown opened
  rw [eval_identifier table kind reads] at run
  exact named_ne_nonStatic _ _ (Except.ok.inj run)

theorem memberName_unknown (unknown : evaluate table u = .ok .nonStatic)
    (form : Formed .fixed .member u) : memberName table u = .ok none := by
  obtain ⟨entries, rfl⟩ := map_of_formed rfl form
  obtain ⟨view, wanted, opened, asked, follows⟩ := formed_view form
  have run := eval_of_unknown unknown opened
  rw [memberName_map opened]
  by_cases name : view.kind = some .identifier
  · obtain ⟨s, reads⟩ := name_of_formed (.inr (.inr rfl)) form opened name
    exact absurd ⟨entries, view, rfl, opened, name, reads⟩ (no_name_of_unknown unknown s)
  by_cases hidden : view.kind = some .privateName
  · rw [hidden] at asked
    cases asked
    obtain ⟨_, reads, idForm⟩ := follows.given "id" rfl
    obtain ⟨fields, id, s, rfl, openedId, kind, value⟩ := name_of_identifier idForm
    rw [eval_passing table hidden rfl reads, ← evaluate_map] at run
    exact absurd ⟨fields, id, rfl, openedId, kind, value⟩ (no_name_of_unknown run s)
  by_cases computed : view.kind = some .computed
  · rw [computed] at asked
    cases asked
    obtain ⟨inner, reads, _⟩ := follows.given "expression" rfl
    rw [eval_passing table computed rfl reads] at run
    rw [memberKey_computed table computed reads, run]
    rfl
  · refine memberKey_unknown table ?_
    unfold isUnknownMember
    split <;> simp_all

theorem namespace_of_fallback (unknown : evaluate table u = .ok .nonStatic)
    (form : Formed .fixed .callee u) (fallback : isFallback table u = true) :
    table.isNamespace (.text "undefined") = true := by
  obtain ⟨entries, rfl⟩ := map_of_formed rfl form
  obtain ⟨view, _, opened, _, _⟩ := formed_view form
  obtain ⟨api, answered, recognised⟩ := calledApi?_answers table form opened
  have helper : api = some .firstThatWorks := by
    simpa [isFallback_map opened answered] using fallback
  have run := eval_of_unknown unknown opened
  cases recognised helper with
  | binding kind value _ =>
      rw [eval_identifier table kind value] at run
      exact absurd (Except.ok.inj run) (named_ne_nonStatic _ _)
  | @member object property s t kind base name library known helper api =>
      -- A member of any other name is a longer name, and that is static.
      obtain ⟨_, baseView, rfl, baseOpened, baseKind, baseValue⟩ := library
      obtain ⟨_, memberView, rfl, memberOpened, memberKind, memberValue⟩ := helper
      by_cases same : s = "undefined"
      · rwa [← same]
      · rw [eval_member table kind base name memberOpened, evalPart_map table baseOpened,
          eval_identifier table baseKind baseValue,
            memberKey_name table memberKind memberValue] at run
        simp [named, Label.ofData, same, ok_bind, readNamed, readResult] at run

theorem formed_open {role : Role} (place : isOpen role = true)
    (form : Formed .fixed .expression w) :
    Formed .fixed role w := by
  obtain ⟨entries, rfl⟩ := map_of_formed rfl form
  obtain ⟨view, wanted, opened, asked, follows⟩ := formed_view form
  cases role with
  | expression => exact form
  | callee =>
      refine formed_of_view opened ?_ follows
      cases kind : view.kind with
      | none => simp [kind, demands] at asked
      | some kind => simpa [kind, demands] using asked
  | member =>
      by_cases reads : isUnknownMember view.kind = true
      · -- As the name of a member such a node is not read, so nothing is wanted of it.
        have free : demands .fixed .member view.kind = some [] := by
          unfold isUnknownMember at reads
          unfold demands
          split at reads <;> simp_all
        exact formed_of_view opened free ⟨rfl, follows.bigint, formedFields_free _ _⟩
      · refine formed_of_view opened ?_ follows
        unfold isUnknownMember at reads
        split at reads <;> simp_all [demands, expressionDemands]
  | _ => cases place

theorem known_hole {role : Role} (unknown : evaluate table u = .ok .nonStatic)
    (admitted : Admits table u role) (form : Formed .fixed role u) : Known table role u w := by
  obtain ⟨place, apart⟩ := admitted
  have unnamed : KeepsName u w := fun name named => absurd named (no_name_of_unknown unknown name)
  cases role with
  | expression =>
      obtain ⟨entries, rfl⟩ := map_of_formed rfl form
      rw [evaluate_map] at unknown
      refine ⟨?_, unnamed⟩
      rw [unknown]
      exact rises_unknown _
  | callee =>
      intro fallback
      simp [apart rfl (namespace_of_fallback unknown form fallback)] at fallback
  | member =>
      refine ⟨?_, unnamed⟩
      rw [memberName_unknown unknown form]
      exact fuller_none _
  | _ => cases place

end Hole

section Tree

variable {table : ScopeTable} {u w : Data}

theorem known_field {role : Role} {before after : Entries} {key part other : Data} {view : Node}
    {wanted : List Demand}
    (opened : Node.ofEntries (before ++ (key, part) :: after) = .ok view)
    (asked : demands .fixed role view.kind = some wanted) (follows : Follows .fixed wanted view)
    (free : Node.isReserved key = false)
    (alike : Alike table wanted view { view with entries := before ++ (key, other) :: after }) :
    Formed .fixed role (.map (before ++ (key, other) :: after)) ∧
      Known table role (.map (before ++ (key, part) :: after))
        (.map (before ++ (key, other) :: after)) := by
  have openedToo : Node.ofEntries (before ++ (key, other) :: after) =
      .ok { view with entries := before ++ (key, other) :: after } := ofEntries_entry free opened
  exact ⟨formed_of_view openedToo asked alike.follows,
    known_node opened openedToo asked follows alike⟩

theorem follows_of_formed {role : Role} {entries : Entries} {view : Node} {wanted : List Demand}
    (form : Formed .fixed role (.map entries)) (opened : Node.ofEntries entries = .ok view)
    (asked : demands .fixed role view.kind = some wanted) : Follows .fixed wanted view := by
  obtain ⟨other, demanded, again, askedToo, follows⟩ := formed_view form
  cases opened.symm.trans again
  cases asked.symm.trans askedToo
  exact follows

theorem each_of_row {row role : Role} {items : List Data}
    (inRow : row = .many role ∨ row = .oneOrMore role) (form : Formed .fixed row (.list items)) :
    ∀ item ∈ items, Formed .fixed role item := by
  rcases inRow with rfl | rfl
  · obtain ⟨_, same, each⟩ := items_of_formed form
    cases same
    exact each
  · obtain ⟨_, same, _, each⟩ := oneOrMore_of_formed form
    cases same
    exact each

theorem known_row {row role : Role} {before after : List Data} {part other : Data}
    (inRow : row = .many role ∨ row = .oneOrMore role)
    (form : Formed .fixed row (.list (before ++ part :: after)))
    (formToo : Formed .fixed role other) (known : Known table role part other) :
    Formed .fixed row (.list (before ++ other :: after)) ∧
      Known table row (.list (before ++ part :: after)) (.list (before ++ other :: after)) := by
  have each := each_of_row inRow form
  have eachToo : formedItems .fixed role (before ++ other :: after) = true := by
    refine formedItems_iff.mpr fun item member => ?_
    simp only [List.mem_append, List.mem_cons] at each member
    rcases member with earlier | rfl | later
    · exact each item (.inl earlier)
    · exact formToo
    · exact each item (.inr (.inr later))
  have unchanged (items : List Data) (inside : ∀ item ∈ items, item ∈ before ++ part :: after) :
      List.Forall₂ (Known table role) items items :=
    List.forall₂_same.mpr fun item member => known_same (each item (inside item member))
  have pointwise : List.Forall₂ (Known table role) (before ++ part :: after)
      (before ++ other :: after) :=
    List.rel_append (unchanged before fun item member => by simp [member])
      (.cons known (unchanged after fun item member => by simp [member]))
  rcases inRow with rfl | rfl
  · exact ⟨eachToo, _, _, rfl, rfl, pointwise⟩
  · exact ⟨by simp [Formed, formed, eachToo], _, _, rfl, rfl, pointwise⟩

/-- A tree stays formed and becomes better known, by induction over where the part lies. -/
theorem known_replaced {role : Role} {first second : Data}
    (unknown : evaluate table u = .ok .nonStatic) (formW : Formed .fixed .expression w)
    (replaced : Replaced (Admits table u) u w role first second) (form : Formed .fixed role first) :
    Formed .fixed role second ∧ Known table role first second := by
  have old : u ≠ .null := by
    rintro rfl
    cases unknown
  have new : w ≠ .null := by
    rintro rfl
    exact absurd formW (by decide)
  induction replaced with
  | here admitted => exact ⟨formed_open admitted.1 formW, known_hole unknown admitted form⟩
  | @field role before after name part other view wanted demand opened asked demanded inside ih =>
      have follows := follows_of_formed form opened asked
      obtain ⟨there, stays⟩ := replaced_solid inside old new
      obtain ⟨member, rfl⟩ := name_of_demandFor? demanded
      -- An optional field may be null instead of formed, but not where something is replaced.
      have partForm : Formed .fixed demand.role part := by
        have fields := follows.fields
        rw [Node.entries_of_ofEntries opened, formedFields_append] at fields
        simp only [formedFields, demanded, Bool.and_eq_true, Bool.or_eq_true] at fields
        refine fields.2.1.resolve_left fun skipped => there ?_
        cases part <;> simp_all [isNull]
      obtain ⟨otherForm, known⟩ := ih partForm
      refine known_field opened asked follows (demands_free asked demand member)
        (alike_entry opened follows (fun kind => demands_bigint (kind ▸ asked) demand member) ?_)
      intro again same
      cases demanded.symm.trans same
      exact ⟨there, stays, otherForm, known⟩
  | aside opened asked unread =>
      have follows := follows_of_formed form opened asked
      simp only [isRead, Bool.or_eq_false_iff, Bool.and_eq_false_iff] at unread
      obtain ⟨⟨free, unasked⟩, literal⟩ := unread
      refine known_field opened asked follows free (alike_entry opened follows ?_ ?_)
      · intro kind
        simpa [Node.isKind, kind] using literal
      · intro demand demanded
        simp [demanded] at unasked
  | item inRow inside ih =>
      obtain ⟨otherForm, known⟩ := ih (each_of_row inRow form _ (by simp))
      exact known_row inRow form otherForm known

/-- Whatever stands in for an expression that is not static, the result of the tree around it is
known at least as well, and a primitive that was folded is the same one. -/
theorem evaluate_replaced (table : ScopeTable) {u w tree other : Data} {result further : Result}
    (form : Formed .fixed .expression tree) (unknown : evaluate table u = .ok .nonStatic)
    (formW : Formed .fixed .expression w)
    (replaced : Replaced (Admits table u) u w .expression tree other)
    (run : evaluate table tree = .ok result) (again : evaluate table other = .ok further) :
    BelowResult result further ∧
      ∀ v span, result = .value v span → v.isContainer = false →
        ∃ moved, further = .value v moved := by
  obtain ⟨formToo, rises, _⟩ := known_replaced unknown formW replaced form
  obtain ⟨entries, rfl⟩ := map_of_formed rfl form
  obtain ⟨others, rfl⟩ := map_of_formed rfl formToo
  rw [evaluate_map] at run again
  have below := rises _ _ run again
  refine ⟨below, ?_⟩
  rintro v span rfl primitive
  cases below with
  | value inner _ moved =>
      rcases eq_or_container inner with rfl | ⟨container, _⟩
      · exact ⟨moved, rfl⟩
      · simp [primitive] at container

def nameData (name : String) : Data := taggedData "Identifier" [("value", .text name)]

def textData (text : String) : Data := taggedData "StringLiteral" [("value", .text text)]

def callData (callee : Data) : Data :=
  taggedData "CallExpression" [("callee", callee), ("arguments", .list [])]

/-- Reading a member of what an expression gives. -/
def memberData (object property : Data) : Data :=
  taggedData "MemberExpression" [("object", object), ("property", property)]

def computedData (expression : Data) : Data := taggedData "Computed" [("expression", expression)]

def arrayData (elements : List Data) : Data :=
  taggedData "ArrayExpression" [("elements", .list elements)]

/-- An array with one entry. -/
def rowData (part : Data) : Data :=
  taggedData "ArrayExpression" [("elements", .list [.map [(.text "expression", part)]])]

theorem evaluate_callData {name : String} (plain : table.api? (.text name) = none) :
    evaluate table (callData (nameData name)) = .ok .nonStatic := by
  have answered : table.calledApi? ⟨some .identifier, none,
      [(.text "type", .text "Identifier"), (.text "value", .text name)]⟩ = .ok none := by
    unfold ScopeTable.calledApi?
    exact congrArg Except.ok plain
  rw [callData, taggedData, evaluate_map, evalPart_map table rfl,
    eval_call table rfl ⟨rfl, rfl⟩ rfl ⟨rfl, rfl⟩]
  exact congrArg (· >>= _) answered

theorem evaluate_rowData {entries : Entries} {result : Result}
    (sound : Node.check (.map entries) = .ok ())
    (run : evaluate table (.map entries) = .ok result) :
    evaluate table (rowData (.map entries)) = .ok (.value (.array [result]) none) := by
  have single : Lacks ⟨none, none, [(.text "expression", .map entries)]⟩ "spread" := by
    intro other found
    simp [Data.lookup?, Data.isKey] at found
  have elements : evalElements table none [.map [(.text "expression", .map entries)]] =
      .ok [result] := by
    rw [evalElements_cons table none rfl ⟨rfl, sound⟩ single.field?, ← evaluate_map, run,
      evalElements_nil]
    rfl
  rw [rowData, taggedData, evaluate_map, evalPart_map table rfl, eval_array table rfl ⟨rfl, rfl⟩]
  exact congrArg (· >>= _) elements

/-- An array of a call whose result is unknown, and one of a text in its place. -/
theorem evaluate_replaced_rowData :
    BelowResult (.value (.array [.nonStatic]) none)
      (.value (.array [.value (.string "b") none]) none) := by
  have call : evaluate {} (callData (nameData "f")) = .ok .nonStatic := evaluate_callData rfl
  have text : evaluate {} (textData "b") = .ok (.value (.string "b") none) := by
    rw [textData, taggedData, evaluate_map, evalPart_map {} rfl,
      eval_literal {} (.inl rfl) ⟨rfl, rfl⟩]
    rfl
  have replaced : Replaced (Admits {} (callData (nameData "f"))) (callData (nameData "f"))
      (textData "b") .expression (rowData (callData (nameData "f"))) (rowData (textData "b")) :=
    @Replaced.field _ _ _ .expression [(.text "type", .text "ArrayExpression")] [] "elements" _ _ _
      _ _ rfl rfl rfl <|
    @Replaced.item _ _ _ _ .element [] [] _ _ (.inl rfl) <|
    @Replaced.field _ _ _ .element [] [] "expression" _ _ _ _ _ rfl rfl rfl <|
    .here ⟨rfl, by simp⟩
  exact (evaluate_replaced {} (by decide) call (by decide) replaced
    (evaluate_rowData rfl call) (evaluate_rowData rfl text)).1

def undefinedTable : ScopeTable := { namespaces := [.text "undefined"] }

def undefinedHelper : Data := taggedData "MemberExpression"
  [("object", nameData "undefined"), ("property", nameData "firstThatWorks")]

/-- A callee that is recognised counts even if it is not static: with `undefined` for a name of the
library, a call of its member is an array, and a call of another function is not static. -/
theorem evaluate_replaced_callee :
    ¬ ∀ (table : ScopeTable) (u w tree other : Data) (result further : Result),
      Formed .fixed .expression tree → evaluate table u = .ok .nonStatic →
      Formed .fixed .expression w → Replaced (isOpen · = true) u w .expression tree other →
      evaluate table tree = .ok result → evaluate table other = .ok further →
      BelowResult result further := by
  intro claim
  have unknown : evaluate undefinedTable undefinedHelper = .ok .nonStatic := by
    rw [undefinedHelper, taggedData, evaluate_map, evalPart_map _ rfl,
      eval_member _ rfl ⟨rfl, rfl⟩ ⟨rfl, rfl⟩ rfl, nameData, taggedData, evalPart_map _ rfl,
      eval_identifier _ rfl ⟨rfl, rfl⟩, memberKey_name _ rfl ⟨rfl, rfl⟩]
    rfl
  have folded : evaluate undefinedTable (callData undefinedHelper) =
      .ok (.value (.array []) none) := by
    rw [callData, taggedData, evaluate_map, evalPart_map _ rfl,
      eval_call _ rfl ⟨rfl, rfl⟩ rfl ⟨rfl, rfl⟩, evalElements_nil]
    rfl
  have replaced : Replaced (isOpen · = true) undefinedHelper (nameData "x") .expression
      (callData undefinedHelper) (callData (nameData "x")) :=
    @Replaced.field _ _ _ .expression [(.text "type", .text "CallExpression")]
      [(.text "arguments", .list [])] "callee" _ _ _ _ _ rfl rfl rfl (.here rfl)
  have below := claim _ _ _ _ _ _ _ (by decide) unknown (by decide) replaced folded
    (evaluate_callData rfl)
  cases below

end Tree

end StyleFold.Fold
