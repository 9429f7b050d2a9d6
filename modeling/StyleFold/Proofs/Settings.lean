import StyleFold.Settings
import StyleFold.Proofs.Number.Digits

/-!
Settings from mappings. A field has one or two spellings, entries are taken one at a time, and the
first entry with a wrong value ends it. Main statement: settings are refused just when some entry
that names a field has a value of the wrong kind for it; otherwise the last entry that names a
field is the one that counts, in whichever spelling, and entries that name none make no difference
to the settings or the fault.
-/

namespace StyleFold.Settings

section Fields

namespace Field

/-- The keys that name a field. -/
def spellings : Field → List String
  | .hover => ["hover"]
  | .suggestions => ["suggestions"]
  | .useRem => ["use_rem_for_font_size", "useRemForFontSize"]
  | .aliases => ["alias_module_names", "aliasModuleNames"]

/-- An entry that names a field, in one of its spellings. -/
def names (field : Field) (entry : Data × Data) : Bool :=
  field.spellings.any fun key => Data.isKey key entry.1

/-- A value of the right kind for a field. -/
inductive Fits : Field → Data → Prop where
  | truth {field : Field} (flag : field ≠ .aliases) (b : Bool) : Fits field (.bool b)
  | names {value : Data} (names : List String) (given : items? value = some (names.map .text)) :
      Fits .aliases value

/-- A value as it is kept: a tuple becomes a list. -/
def kept (value : Data) : Data :=
  match items? value with
  | some items => .list items
  | none => value

/-- What a field is set to, as data. -/
def valueIn (settings : Settings) : Field → Data
  | .hover => .bool settings.hover
  | .suggestions => .bool settings.suggestions
  | .useRem => .bool settings.useRem
  | .aliases => .list (settings.aliases.map .text)

def complaint (field : Field) (key : String) (value : Data) : Fault :=
  match field with
  | .aliases => .settingNotNames key
  | _ => if value.holdsOverlong then .refused .tooManyDigits else .settingNotTruth key value.shown

end Field

variable {key : String} {value : Data} {field : Field} {settings : Settings}

theorem fieldOf?_eq_some : fieldOf? key = some field ↔ key ∈ field.spellings := by
  constructor
  · intro named
    unfold fieldOf? at named
    split at named <;> cases named <;> decide
  · intro member
    cases field <;> simp only [Field.spellings, List.mem_cons, List.not_mem_nil, or_false] at member
    · subst member
      rfl
    · subst member
      rfl
    · rcases member with rfl | rfl <;> rfl
    · rcases member with rfl | rfl <;> rfl

theorem names?_eq_some {items : List Data} {names : List String} :
    names? items = some names ↔ items = names.map .text := by
  induction items generalizing names with
  | nil => cases names <;> simp [names?]
  | cons item rest ih =>
      cases item with
      | text s =>
          rw [names?, Option.map_eq_some_iff]
          constructor
          · rintro ⟨others, found, rfl⟩
            rw [ih.mp found, List.map_cons]
          · intro same
            cases names with
            | nil => cases same
            | cons first others =>
                cases same
                exact ⟨others, ih.mpr rfl, rfl⟩
      | _ => cases names <;> simp [names?]

theorem truthOf_unfit (unfit : ∀ b, value ≠ .bool b) : truthOf key value =
    .error (if value.holdsOverlong then .refused .tooManyDigits
      else .settingNotTruth key value.shown) := by
  cases value with
  | bool b => exact absurd rfl (unfit b)
  | _ => rfl

theorem bind_names?_eq_some {names : List String} :
    (items? value).bind names? = some names ↔ items? value = some (names.map .text) := by
  rw [Option.bind_eq_some_iff]
  constructor
  · rintro ⟨items, given, read⟩
    rw [given, names?_eq_some.mp read]
  · intro given
    exact ⟨_, given, names?_eq_some.mpr rfl⟩

theorem namesOf_names {names : List String} (given : items? value = some (names.map .text)) :
    namesOf key value = .ok names := by
  rw [namesOf, bind_names?_eq_some.mpr given]

theorem namesOf_unfit (unfit : ∀ names : List String, items? value ≠ some (names.map .text)) :
    namesOf key value = .error (.settingNotNames key) := by
  have unread : (items? value).bind names? = none := by
    rw [Option.eq_none_iff_forall_ne_some]
    intro names read
    exact unfit names (bind_names?_eq_some.mp read)
  rw [namesOf, unread]

end Fields

section Entries

variable {key : String} {value : Data} {field : Field} {settings : Settings}

/-- An entry with a value of the right kind sets the field that it names, and no other. -/
theorem set_fits (settings : Settings) (named : key ∈ field.spellings) (fits : field.Fits value) :
    ∃ next, settings.set key value = .ok next ∧
      ∀ other : Field, other.valueIn next =
        if other = field then Field.kept value else other.valueIn settings := by
  have found := fieldOf?_eq_some.mpr named
  cases fits with
  | truth flag b =>
      cases field with
      | aliases => exact absurd rfl flag
      | _ => exact ⟨_, by rw [set, found]; rfl, fun other => by cases other <;> rfl⟩
  | names names given =>
      refine ⟨{ settings with aliases := names }, ?_, fun other => ?_⟩
      · rw [set, found]
        simp [namesOf_names given, Except.map]
      · have kept : Field.kept value = .list (names.map .text) := by rw [Field.kept, given]
        cases other <;> simp [Field.valueIn, kept]

theorem set_unfit (named : key ∈ field.spellings) (unfit : ¬ field.Fits value) :
    settings.set key value = .error (field.complaint key value) := by
  have found := fieldOf?_eq_some.mpr named
  rw [set, found]
  cases field with
  | aliases =>
      have unnamed : ∀ names : List String, items? value ≠ some (names.map .text) :=
        fun names given => unfit (.names names given)
      simp only [namesOf_unfit unnamed]
      rfl
  | _ =>
      have untrue : ∀ b, value ≠ .bool b := by
        rintro b rfl
        exact unfit (.truth (by simp) b)
      simp only [truthOf_unfit untrue]
      rfl

theorem set_unnamed (unnamed : ∀ field : Field, key ∉ field.spellings) :
    settings.set key value = .ok settings := by
  have missing : fieldOf? key = none := by
    rw [Option.eq_none_iff_forall_ne_some]
    intro field found
    exact unnamed field (fieldOf?_eq_some.mp found)
  rw [set, missing]

theorem Field.names_iff {entry : Data × Data} :
    field.names entry = true ↔ ∃ key ∈ field.spellings, entry.1 = .text key := by
  simp [Field.names, Data.isKey_iff]

theorem setAll_text (rest : Entries) : settings.setAll ((.text key, value) :: rest) =
    (do (← settings.set key value).setAll rest) := by
  rw [setAll]
  cases settings.set key value <;> rfl

theorem setAll_unnamed {entry : Data × Data} (unnamed : ∀ field : Field, field.names entry = false)
    (rest : Entries) : settings.setAll (entry :: rest) = settings.setAll rest := by
  obtain ⟨key, value⟩ := entry
  cases key with
  | text key =>
      have other : ∀ field : Field, key ∉ field.spellings := by
        intro field member
        have named : field.names (.text key, value) = true := Field.names_iff.mpr ⟨key, member, rfl⟩
        simp [unnamed field] at named
      rw [setAll_text, set_unnamed other]
      rfl
  | _ => rfl

end Entries

section Runs

/-- An entry that names a field and has a value of the wrong kind, with the fault that this is. -/
inductive Wrong : Data × Data → Fault → Prop where
  | intro {field : Field} {key : String} {value : Data} (named : key ∈ field.spellings)
      (unfit : ¬ field.Fits value) : Wrong (.text key, value) (field.complaint key value)

/-- The value of the last entry that names a field, as it is kept. -/
def lastOf (field : Field) (entries : Entries) : Option Data :=
  (entries.filter field.names).getLast?.map fun entry => Field.kept entry.2

variable {settings : Settings} {entries : Entries}

theorem lastOf_cons (field : Field) (entry : Data × Data) (rest : Entries) (default : Data) :
    (lastOf field (entry :: rest)).getD default =
      (lastOf field rest).getD (if field.names entry then Field.kept entry.2 else default) := by
  unfold lastOf
  cases named : field.names entry with
  | false => simp [named]
  | true =>
      simp only [List.filter_cons, named, if_true, List.getLast?_cons]
      cases (rest.filter field.names).getLast? <;> rfl

theorem spellings_apart {key : String} {first second : Field} (one : key ∈ first.spellings)
    (two : key ∈ second.spellings) : first = second :=
  Option.some.inj ((fieldOf?_eq_some.mpr one).symm.trans (fieldOf?_eq_some.mpr two))

/-- Entries of the right kind set every field to the value of the last one that names it. -/
theorem setAll_fits (settings : Settings)
    (right : ∀ entry ∈ entries, ∀ fault, ¬ Wrong entry fault) :
    ∃ next, settings.setAll entries = .ok next ∧
      ∀ field : Field, field.valueIn next =
        (lastOf field entries).getD (field.valueIn settings) := by
  induction entries generalizing settings with
  | nil => exact ⟨settings, rfl, fun _ => rfl⟩
  | cons entry rest ih =>
      have later := fun entry member => right entry (List.mem_cons_of_mem _ member)
      by_cases named : ∃ field : Field, field.names entry = true
      · obtain ⟨field, named⟩ := named
        obtain ⟨key, spelt, keyed⟩ := Field.names_iff.mp named
        obtain ⟨_, value⟩ := entry
        cases keyed
        have fits : field.Fits value := by
          by_contra unfit
          exact right _ List.mem_cons_self _ (.intro spelt unfit)
        obtain ⟨middle, here, sets⟩ := set_fits settings spelt fits
        obtain ⟨next, run, final⟩ := ih middle later
        refine ⟨next, by rw [setAll_text, here]; exact run, fun other => ?_⟩
        have same : (other.names (.text key, value) = true) = (other = field) := by
          refine propext ⟨fun names => ?_, fun same => same ▸ named⟩
          obtain ⟨_, again, ⟨⟩⟩ := Field.names_iff.mp names
          exact spellings_apart again spelt
        rw [final, sets, lastOf_cons]
        simp only [same]
      · have unnamed : ∀ field : Field, field.names entry = false := by simpa using named
        obtain ⟨next, run, final⟩ := ih settings later
        refine ⟨next, by rw [setAll_unnamed unnamed, run], fun field => ?_⟩
        rw [final, lastOf_cons, unnamed]
        rfl

theorem setAll_append (settings : Settings) (before after : Entries) :
    settings.setAll (before ++ after) = (do (← settings.setAll before).setAll after) := by
  induction before generalizing settings with
  | nil => rfl
  | cons entry rest ih =>
      obtain ⟨key, value⟩ := entry
      cases key with
      | text key =>
          rw [List.cons_append, setAll_text, setAll_text, bind_assoc]
          exact bind_congr fun next => ih next
      | _ => exact ih settings

theorem setAll_wrong (settings : Settings) {before after : Entries} {entry : Data × Data}
    {fault : Fault} (right : ∀ entry ∈ before, ∀ fault, ¬ Wrong entry fault)
    (wrong : Wrong entry fault) :
    settings.setAll (before ++ entry :: after) = .error fault := by
  obtain ⟨next, run, -⟩ := setAll_fits settings right
  rw [setAll_append, run]
  cases wrong with
  | intro named unfit =>
      change setAll next _ = _
      rw [setAll_text, set_unfit named unfit]
      rfl

theorem exists_first_wrong {entry : Data × Data} {fault : Fault} (member : entry ∈ entries)
    (wrong : Wrong entry fault) : ∃ before first after fault, entries = before ++ first :: after ∧
      (∀ other ∈ before, ∀ fault, ¬ Wrong other fault) ∧ Wrong first fault := by
  induction entries with
  | nil => cases member
  | cons head rest ih =>
      by_cases here : ∃ fault, Wrong head fault
      · obtain ⟨fault, here⟩ := here
        exact ⟨[], head, rest, fault, rfl, by simp, here⟩
      · rcases List.mem_cons.mp member with rfl | member
        · exact absurd ⟨fault, wrong⟩ here
        · obtain ⟨before, first, after, fault, rfl, right, found⟩ := ih member
          refine ⟨head :: before, first, after, fault, rfl, fun other inside => ?_, found⟩
          rcases List.mem_cons.mp inside with rfl | inside
          · exact fun fault wrong => here ⟨fault, wrong⟩
          · exact right other inside

theorem family_of_wrong {entry : Data × Data} {fault : Fault} (wrong : Wrong entry fault)
    (shown : ∀ field : Field, field ≠ .aliases → field.names entry = true →
      entry.2.holdsOverlong = false) :
    fault.family = .settings := by
  cases wrong with
  | @intro field key value named unfit =>
      cases field with
      | aliases => rfl
      | hover | suggestions | useRem =>
          have short : value.holdsOverlong = false :=
            shown _ (by simp) (Field.names_iff.mpr ⟨key, named, rfl⟩)
          simp only [Field.complaint, short]
          rfl

/-- An entry with a key of a field. -/
def isKnown (entry : Data × Data) : Bool :=
  [Field.hover, .suggestions, .useRem, .aliases].any fun field => field.names entry

theorem isKnown_eq_false {entry : Data × Data} (unknown : isKnown entry = false) (field : Field) :
    field.names entry = false := by
  simp only [isKnown, List.any_cons, List.any_nil, Bool.or_false, Bool.or_eq_false_iff] at unknown
  cases field
  · exact unknown.1
  · exact unknown.2.1
  · exact unknown.2.2.1
  · exact unknown.2.2.2

theorem setAll_known (settings : Settings) (entries : Entries) :
    settings.setAll (entries.filter isKnown) = settings.setAll entries := by
  induction entries generalizing settings with
  | nil => rfl
  | cons entry rest ih =>
      cases known : isKnown entry with
      | false =>
          rw [List.filter_cons_of_neg (by simp [known]), ih,
            setAll_unnamed (isKnown_eq_false known)]
      | true =>
          rw [List.filter_cons_of_pos known]
          obtain ⟨key, value⟩ := entry
          cases key with
          | text key =>
              rw [setAll_text, setAll_text]
              exact bind_congr fun next => ih next
          | _ => exact ih settings

end Runs

/-- A mapping is refused just when an entry with a key of a field, in either spelling, has a value
of the wrong kind for it, and the refusal is one of settings as long as the values of truth fields
can be shown. Otherwise every field is the value of the last entry with a key of it, or its default.
Entries with other keys make no difference, whatever is in them. -/
theorem ofData_map (entries : Entries) :
    ((∃ fault, ofData (.map entries) = .error fault) ↔
      ∃ (field : Field) (key : String) (value : Data),
        (.text key, value) ∈ entries ∧ key ∈ field.spellings ∧ ¬ field.Fits value) ∧
    ((∀ entry ∈ entries, ∀ field : Field, field ≠ .aliases → field.names entry = true →
        entry.2.holdsOverlong = false) →
      ∀ fault, ofData (.map entries) = .error fault → fault.family = .settings) ∧
    ((∀ (field : Field) (key : String) (value : Data),
        (.text key, value) ∈ entries → key ∈ field.spellings → field.Fits value) →
      ∃ settings, ofData (.map entries) = .ok settings ∧
        ∀ field : Field, field.valueIn settings = (lastOf field entries).getD (field.valueIn {})) ∧
    ∀ others : Entries, others.filter isKnown = entries.filter isKnown →
      ofData (.map others) = ofData (.map entries) := by
  have right (fits : ∀ (field : Field) (key : String) (value : Data),
      (.text key, value) ∈ entries → key ∈ field.spellings → field.Fits value) :
      ∀ entry ∈ entries, ∀ fault, ¬ Wrong entry fault := by
    rintro _ member _ ⟨named, unfit⟩
    exact unfit (fits _ _ _ member named)
  have cause {fault : Fault} (refused : ofData (.map entries) = .error fault) :
      ∃ (field : Field) (key : String) (value : Data),
        (.text key, value) ∈ entries ∧ key ∈ field.spellings ∧ ¬ field.Fits value := by
    by_contra fits
    push Not at fits
    obtain ⟨settings, run, -⟩ := setAll_fits {} (right fits)
    exact absurd (run.symm.trans refused) (by simp)
  refine ⟨⟨fun ⟨_, refused⟩ => cause refused, ?_⟩, fun shown fault refused => ?_,
    fun fits => setAll_fits {} (right fits), fun others same => ?_⟩
  · rintro ⟨field, key, value, member, named, unfit⟩
    obtain ⟨before, first, after, fault, rfl, others, wrong⟩ :=
      exists_first_wrong member (.intro named unfit)
    exact ⟨fault, setAll_wrong {} others wrong⟩
  · obtain ⟨field, key, value, member, named, unfit⟩ := cause refused
    obtain ⟨before, first, after, other, rfl, others, wrong⟩ :=
      exists_first_wrong member (.intro named unfit)
    have same : fault = other :=
      Except.error.inj (refused.symm.trans (setAll_wrong {} others wrong))
    exact same ▸ family_of_wrong wrong (shown first (List.mem_append_right _ List.mem_cons_self))
  · change setAll {} others = setAll {} entries
    rw [← setAll_known, same, setAll_known]

/-- The flag for font sizes in both spellings, with an entry for an editor between them. -/
def bothSpellings : Entries :=
  [(.text "useRemForFontSize", .bool true), (.text "colorDecorators", .text "on"),
   (.text "use_rem_for_font_size", .bool false)]

/-- The second of two spellings counts; a text is no truth value, and is
refused under either of them. -/
theorem ofData_map_bothSpellings :
    (∃ settings, ofData (.map bothSpellings) = .ok settings ∧ settings.useRem = false) ∧
    ∃ fault, ofData (.map (bothSpellings ++ [(.text "useRemForFontSize", .text "yes")])) =
      .error fault ∧
      fault.family = .settings := by
  constructor
  · have fits : ∀ (field : Field) (key : String) (value : Data),
        (.text key, value) ∈ bothSpellings → key ∈ field.spellings → field.Fits value := by
      intro field key value member named
      have known := fieldOf?_eq_some.mpr named
      simp only [bothSpellings, List.mem_cons, List.not_mem_nil, or_false, Prod.mk.injEq,
        Data.text.injEq] at member
      rcases member with ⟨rfl, rfl⟩ | ⟨rfl, rfl⟩ | ⟨rfl, rfl⟩
      · cases known
        exact .truth (by simp) true
      · cases known
      · cases known
        exact .truth (by simp) false
    obtain ⟨settings, run, values⟩ := (ofData_map bothSpellings).2.2.1 fits
    have last : Field.useRem.valueIn settings = .bool false := values .useRem
    exact ⟨settings, run, Data.bool.inj last⟩
  · have refusal := ofData_map (bothSpellings ++ [(.text "useRemForFontSize", .text "yes")])
    obtain ⟨fault, refused⟩ := refusal.1.mpr
      ⟨.useRem, "useRemForFontSize", .text "yes", by simp, by decide, by rintro ⟨⟩⟩
    refine ⟨fault, refused, refusal.2.1 (fun entry member _ _ _ => ?_) fault refused⟩
    simp only [bothSpellings, List.cons_append, List.nil_append, List.mem_cons, List.not_mem_nil,
      or_false] at member
    rcases member with rfl | rfl | rfl | rfl <;> rfl

/-- A tuple is no list, and its names are taken all the same. A whole number under a truth field is
of the wrong kind, but one that cannot be shown is no fault of settings. -/
theorem ofData_tuple_and_overlong :
    ofData (.map [(.text "aliasModuleNames", .pair (.text "a") (.text "b"))]) =
      .ok { aliases := ["a", "b"] } ∧
    ∃ fault, ofData (.map [(.text "hover", .int (10 ^ digitLimit : Nat))]) = .error fault ∧
      fault.family = .value := by
  refine ⟨rfl, .refused .tooManyDigits, ?_, rfl⟩
  have overlong : (Data.int (10 ^ digitLimit : Nat)).holdsOverlong = true := by
    rw [Data.holdsOverlong, isOverlong_iff, Int.natAbs_natCast]
  change setAll {} _ = _
  rw [setAll_text, set_unfit (show "hover" ∈ Field.hover.spellings by decide) (by rintro ⟨⟩)]
  simp only [Field.complaint, overlong]
  rfl

end StyleFold.Settings
