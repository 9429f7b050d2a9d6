import Mathlib.Data.String.Basic
import StyleFold.Proofs.Style.Declaration

/-!
Selectors of classes. The name of a class and the pseudo keys under it are put into one descending
order, as texts. Main statement: a name above the colon, as every name that begins with a letter is,
stands before the pseudo keys, and a name below it, such as one that begins with a dollar sign,
stands after them; in either case the order in which the pseudo keys are nested does not matter.
-/

namespace StyleFold

section Descending

theorem mergeSort_descending (names : List String) :
    (names.mergeSort fun left right => decide (right ≤ left)).Pairwise
      fun left right => right ≤ left :=
  (List.pairwise_mergeSort
    (fun _ _ _ first second =>
      decide_eq_true ((of_decide_eq_true second).trans (of_decide_eq_true first)))
    (fun left right => by simpa using le_total right left) names).imp of_decide_eq_true

theorem mergeSort_eq_of_descending {names sorted : List String} (perm : sorted.Perm names)
    (descending : sorted.Pairwise fun left right => right ≤ left) :
    names.mergeSort (fun left right => decide (right ≤ left)) = sorted := by
  refine List.Perm.eq_of_pairwise (fun left right _ _ => ?_) (mergeSort_descending names) descending
    ((List.mergeSort_perm _ _).trans perm.symm)
  exact fun first second => le_antisymm second first

namespace Place

variable {name pseudo : String}

theorem isPseudo_iff : isPseudo name = true ↔ ∃ rest, name.toList = ':' :: rest := by
  simp only [isPseudo, Text.begins, List.isPrefixOf_iff_prefix]
  constructor
  · rintro ⟨rest, whole⟩
    exact ⟨rest, whole.symm⟩
  · rintro ⟨rest, whole⟩
    exact ⟨rest, whole.symm⟩

theorem not_isDefault_of_isPseudo (begins : isPseudo name = true) : isDefault name = false := by
  obtain ⟨rest, whole⟩ := isPseudo_iff.mp begins
  rw [isDefault, beq_eq_false_iff_ne]
  rintro rfl
  simp at whole

theorem pseudo_le_of_above (plain : isPseudo name = false) (above : ":" < name)
    (begins : isPseudo pseudo = true) : pseudo ≤ name := by
  obtain ⟨rest, whole⟩ := isPseudo_iff.mp begins
  rw [String.lt_iff_toList_lt] at above
  apply le_of_lt
  rw [String.lt_iff_toList_lt, whole]
  cases spelt : name.toList with
  | nil => simp [spelt] at above
  | cons first others =>
      rw [spelt] at above
      rcases List.cons_lt_cons_iff.mp above with higher | ⟨rfl, -⟩
      · exact List.cons_lt_cons_iff.mpr (.inl higher)
      · exact absurd (isPseudo_iff.mpr ⟨others, spelt⟩) (by simp [plain])

theorem le_pseudo_of_below (below : name < ":") (begins : isPseudo pseudo = true) :
    name ≤ pseudo := by
  obtain ⟨rest, whole⟩ := isPseudo_iff.mp begins
  refine below.le.trans ?_
  rw [← not_lt, String.lt_iff_toList_lt, whole]
  simp

end Place

end Descending

/-! Selectors. -/

namespace Place

section Selectors

variable {name : String} {others pseudo : List String}

/-- How the name of a class is written with its pseudo keys. -/
structure Selects (name : String) (pseudo : List String) (selector : String) : Prop where
  above : ":" < name → selector = "." ++ name ++ String.join pseudo
  below : name < ":" → name ≠ "" → selector = "." ++ String.join pseudo ++ name
  unnamed : name = "" → selector = "." ++ if pseudo = [] then "unknown" else String.join pseudo

theorem classSelector_of_sorted {sorted : List String}
    (perm : sorted.Perm (name :: others.filter isPseudo))
    (descending : sorted.Pairwise fun left right => right ≤ left) :
    classSelector (name :: others) =
      "." ++ if (String.join sorted).isEmpty then "unknown" else String.join sorted := by
  have pseudo : (others.filter fun other => !isDefault other && isPseudo other) =
      others.filter isPseudo :=
    List.filter_congr fun other _ => by
      cases begins : isPseudo other with
      | true => simp [not_isDefault_of_isPseudo begins]
      | false => simp
  simp only [classSelector, List.take_succ_cons, List.take_zero, List.drop_succ_cons,
    List.drop_zero, List.singleton_append, pseudo, mergeSort_eq_of_descending perm descending]

theorem join_eq_empty {names : List String} :
    String.join names = "" ↔ ∀ name ∈ names, name = "" := by
  induction names with
  | nil => simp
  | cons name rest ih => simp [String.join_cons, ih]

theorem selects_classSelector (plain : isPseudo name = false)
    (perm : pseudo.Perm (others.filter isPseudo))
    (descending : pseudo.Pairwise fun left right => right ≤ left) :
    Selects name pseudo (classSelector (name :: others)) := by
  have begins : ∀ key ∈ pseudo, isPseudo key = true := fun key member =>
    (List.mem_filter.mp (perm.mem_iff.mp member)).2
  have before (first : ∀ key ∈ pseudo, key ≤ name) :=
    classSelector_of_sorted (perm.cons name) (List.pairwise_cons.mpr ⟨first, descending⟩)
  have behind (last : ∀ key ∈ pseudo, name ≤ key) :=
    classSelector_of_sorted ((List.perm_append_singleton name pseudo).trans (perm.cons name))
      (List.pairwise_append.mpr ⟨descending, List.pairwise_singleton _ _, by simpa using last⟩)
  -- The name goes before all pseudo keys or behind all of them, by its first character.
  constructor
  · intro above
    have named : ¬ (String.join (name :: pseudo)).isEmpty = true := by
      rw [String.isEmpty_iff, join_eq_empty]
      rintro empty
      rw [empty name List.mem_cons_self] at above
      exact absurd above (by decide)
    rw [before fun key member => pseudo_le_of_above plain above (begins key member), if_neg named,
      String.join_cons, String.append_assoc]
  · intro below nonempty
    have named : ¬ (String.join (pseudo ++ [name])).isEmpty = true := by
      rw [String.isEmpty_iff, join_eq_empty]
      exact fun empty => nonempty (empty name (by simp))
    rw [behind fun key member => le_pseudo_of_below below (begins key member), if_neg named,
      String.join_append, String.append_assoc]
    simp [String.join_cons]
  · rintro rfl
    have empty : (String.join (pseudo ++ [""])).isEmpty = true ↔ pseudo = [] := by
      rw [String.isEmpty_iff, join_eq_empty]
      constructor
      · intro empty
        by_contra some
        obtain ⟨key, member⟩ := List.exists_mem_of_ne_nil _ some
        obtain ⟨rest, whole⟩ := isPseudo_iff.mp (begins key member)
        rw [empty key (by simp [member])] at whole
        simp at whole
      · rintro rfl
        simp
    rw [behind fun key member => le_pseudo_of_below (by decide) (begins key member),
      if_congr empty rfl rfl]
    simp [String.join_append, String.join_cons]

theorem classSelector_congr {more : List String}
    (same : (more.filter isPseudo).Perm (others.filter isPseudo)) :
    classSelector (name :: more) = classSelector (name :: others) := by
  have descending := mergeSort_descending (name :: others.filter isPseudo)
  have perm :=
    List.mergeSort_perm (name :: others.filter isPseudo) fun left right => decide (right ≤ left)
  rw [classSelector_of_sorted perm descending,
    classSelector_of_sorted (perm.trans (same.symm.cons name)) descending]

end Selectors

/-- What has a rule: something to declare, or a list, with numbers that can be written. -/
structure Displayable (folded : Result) : Prop where
  writable : isWritable folded = true
  shown : Declarable folded ∨ ∃ entries span, folded = .value (.array entries) span

theorem declared?_isSome {settings : Settings} {property : String} {folded : Result} :
    (declared? settings property folded).isSome = true ↔
      Declarable folded ∨ ∃ entries span, folded = .value (.array entries) span := by
  unfold declared?
  split
  · simp
  · rename_i other
    rw [Option.isSome_map, entryText?_isSome]
    exact ⟨.inl, fun shown => shown.resolve_right fun ⟨entries, span, list⟩ =>
      other entries span list⟩

end Place

section Lines

theorem Rule.lines_selector (rule : Rule) :
    rule.lines[rule.atRules.length]? = some (Rule.opening rule.atRules.length rule.selector) := by
  simp [Rule.lines]

namespace Hover

variable {settings : Settings} {name key : String} {others : List String} {caller : Option Label}
  {folded : Result} {rule : Rule}

theorem names_text (names : List String) : Nesting.names .create (names.map .text) = .ok names := by
  have spelt : (names.map Label.text).mapM Label.spelling = .ok names := by
    induction names with
    | nil => rfl
    | cons name rest ih =>
        simp [List.mapM_cons, Label.spelling, ih, bind, Except.bind, pure, Except.pure]
  exact spelt

/-- The way down to a property of a class. -/
def classNesting (name : String) (others : List String) (caller : Option Label) : Nesting :=
  ⟨(name :: others).map .text, some .create, caller⟩

theorem place_classNesting :
    ∃ called, (classNesting name others caller).place .create = .ok ⟨name :: others, called⟩ :=
  ⟨_, by rw [Nesting.place, classNesting, names_text]; rfl⟩

theorem selector_of_ruleOf?
    (ruled : ruleOf? settings (classNesting name others caller) .create (.text key) folded =
      .ok (some rule)) :
    rule.selector = Place.classSelector (name :: (others ++ [key])) := by
  obtain ⟨place, spelt, placed, ⟨⟩, -, ruled⟩ := ruleOf?_eq_some.mp ruled
  obtain ⟨called, same⟩ := @place_classNesting name others caller
  cases placed.symm.trans same
  obtain ⟨values, -, rfl⟩ := Option.map_eq_some_iff.mp ruled
  rfl

theorem exists_rule {nesting : Nesting} {api : Api} {label : Label} {place : Place}
    (placed : nesting.place api = .ok place) (spelt : label.spelling = .ok key)
    (displayable : Place.Displayable folded) :
    ∃ rule, ruleOf? settings nesting api label folded = .ok (some rule) := by
  obtain ⟨values, declared⟩ := Option.isSome_iff_exists.mp
    ((@Place.declared?_isSome settings (place.property api key) folded).mpr displayable.shown)
  exact ⟨_, ruleOf?_eq_some.mpr ⟨place, key, placed, spelt, displayable.writable,
    by rw [Place.rule?, declared]; rfl⟩⟩

theorem exists_ruleOf? (displayable : Place.Displayable folded) :
    ∃ rule, ruleOf? settings (classNesting name others caller) .create (.text key) folded =
      .ok (some rule) := by
  obtain ⟨called, placed⟩ := @place_classNesting name others caller
  exact exists_rule placed rfl displayable

/-- The selector line of a rule in a class has the name of the class before the pseudo keys, in
descending order, when the name is above the colon, and behind them when it is below. Nesting the
pseudo keys in another order, under whatever other keys, gives the same selector. -/
theorem selectorLine_of_class (settings : Settings) (name : String) (others : List String)
    (caller : Option Label) (key : String) (folded : Result) (plain : Place.isPseudo name = false)
    (displayable : Place.Displayable folded) :
    ∃ rule pseudo,
      ruleOf? settings (classNesting name others caller) .create (.text key) folded =
        .ok (some rule) ∧
      rule.lines[rule.atRules.length]? =
        some (Rule.indent rule.atRules.length ++ rule.selector ++ " \x7b") ∧
      pseudo.Perm ((others ++ [key]).filter Place.isPseudo) ∧
      (pseudo.Pairwise fun left right => right ≤ left) ∧ Place.Selects name pseudo rule.selector ∧
      ∀ settings more last caller folded other,
        ((more ++ [last]).filter Place.isPseudo).Perm ((others ++ [key]).filter Place.isPseudo) →
        ruleOf? settings (classNesting name more caller) .create (.text last) folded =
          .ok (some other) →
        other.selector = rule.selector := by
  obtain ⟨rule, ruled⟩ := @exists_ruleOf? settings name key others caller folded displayable
  have selector := selector_of_ruleOf? ruled
  have perm := List.mergeSort_perm ((others ++ [key]).filter Place.isPseudo) fun left right =>
    decide (right ≤ left)
  have descending := mergeSort_descending ((others ++ [key]).filter Place.isPseudo)
  refine ⟨rule, _, ruled, rule.lines_selector, perm, descending, ?_, ?_⟩
  · rw [selector]
    exact Place.selects_classSelector plain perm descending
  · intro settings more last caller folded other same ruled
    rw [selector, selector_of_ruleOf? ruled]
    exact Place.classSelector_congr same

/-- A class that is named by a letter stands first. -/
theorem selectorLine_hover :
    Place.isPseudo "a" = false ∧ Place.Displayable (.value (.string "red") none) ∧
    ∃ rule, ruleOf? {} (classNesting "a" ["color"] none) .create (.text ":hover")
      (.value (.string "red") none) =
        .ok (some rule) ∧
      rule.lines[rule.atRules.length]? =
        some (Rule.indent rule.atRules.length ++ ".a:hover" ++ " \x7b") := by
  have displayable : Place.Displayable (.value (.string "red") none) :=
    ⟨rfl, .inl (.text "red" none)⟩
  obtain ⟨rule, pseudo, ruled, line, perm, -, selects, -⟩ :=
    selectorLine_of_class {} "a" ["color"] none ":hover" _ rfl displayable
  obtain rfl : pseudo = [":hover"] := List.perm_singleton.mp perm
  have selector : rule.selector = ".a:hover" := (selects.above (by decide)).trans (by decide)
  rw [selector] at line
  exact ⟨rfl, displayable, rule, ruled, line⟩

/-- A dollar sign is below the colon, so that a pseudo key comes before the class. -/
theorem selectorLine_pseudo_first :
    Place.isPseudo "$a" = false ∧ Place.Displayable (.value (.string "red") none) ∧
    ∃ rule, ruleOf? {} (classNesting "$a" ["color"] none) .create (.text ":hover")
      (.value (.string "red") none) =
      .ok (some rule) ∧ rule.lines = [".:hover$a \x7b", "  color: red;", "\x7d"] := by
  have selects : Place.Selects "$a" [":hover"] (Place.classSelector ["$a", "color", ":hover"]) :=
    Place.selects_classSelector rfl (.refl _) (List.pairwise_singleton _ _)
  refine ⟨rfl, ⟨rfl, .inl (.text "red" none)⟩,
    ⟨[], Place.classSelector ["$a", "color", ":hover"], "color", ["red"]⟩, rfl, ?_⟩
  rw [selects.below (by decide) (by decide)]
  decide +kernel

end Hover

end Lines

end StyleFold
