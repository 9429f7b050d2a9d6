import StyleFold.Proofs.Fold.Reading
import StyleFold.Proofs.Style.Finding

/-!
Rules without declarations. A list of values is declared entry by entry, and entries that cannot be
shown are left out, so that nothing may be left of it. Whether a rule is worth a hover is told from
the number of its lines. Main statement: a hover has a declaration whenever no at-rule is around it;
inside at-rules a property without declarations is answered by a rule that is empty.
-/

namespace StyleFold

section Declared

namespace Place

/-- What can stand in one declaration. -/
inductive Declarable : Result → Prop where
  | reference (id : Label) (span : Option Span) : Declarable (.reference id span)
  | absent {v : Value} (span : Option Span) (nullish : v.isNullish = true) :
      Declarable (.value v span)
  | text (s : String) (span : Option Span) : Declarable (.value (.string s) span)
  | number {v : Value} (span : Option Span) (number : v.isNumber = true)
      (rounds : v.rounds = true) : Declarable (.value v span)

/-- A list in which there is nothing to declare. -/
def Undeclared (folded : Result) : Prop :=
  ∃ entries span, folded = .value (.array entries) span ∧ ∀ entry ∈ entries, ¬ Declarable entry

variable {settings : Settings} {property : String}

theorem scalarText?_whole (i : Int) :
    (scalarText? settings property (.whole i)).isSome = (Value.whole i).rounds := by
  cases read : Double.ofInt? i <;>
    simp [scalarText?, Css.valueText, numberOfWhole, Value.rounds, read,
      Except.mapError, Except.map, Except.toOption]

theorem entryText?_isSome (result : Result) :
    (entryText? settings property result).isSome = true ↔ Declarable result := by
  constructor
  · intro shown
    cases result with
    | nonStatic | bare v => simp [entryText?] at shown
    | reference id span => exact .reference id span
    | value v span =>
        simp only [entryText?] at shown
        cases v with
        | undefined | null => exact .absent span rfl
        | string s => exact .text s span
        | number x => exact .number span rfl rfl
        | whole i => exact .number span rfl (by rwa [scalarText?_whole] at shown)
        | _ => simp [scalarText?] at shown
  · intro declarable
    cases declarable with
    | reference | text => rfl
    | @absent v span nullish =>
        cases v with
        | undefined | null => rfl
        | _ => cases nullish
    | @number v span number rounds =>
        cases v with
        | number x => rfl
        | whole i => rwa [entryText?, scalarText?_whole]
        | _ => cases number

theorem declared?_eq_nil (folded : Result) :
    declared? settings property folded = some [] ↔ Undeclared folded := by
  unfold declared?
  split
  · rename_i entries span
    rw [Option.some.injEq, List.filterMap_eq_nil_iff]
    constructor
    · intro none
      refine ⟨entries, span, rfl, fun entry member declarable => ?_⟩
      have shown : (entryText? settings property entry).isSome = true :=
        (entryText?_isSome entry).mpr declarable
      simp [none entry member] at shown
    · rintro ⟨_, _, ⟨⟩, silent⟩ entry member
      rw [← Option.not_isSome_iff_eq_none, entryText?_isSome]
      exact silent entry member
  · rename_i other
    constructor
    · intro single
      simp at single
    · rintro ⟨entries, span, rfl, -⟩
      exact absurd rfl (other entries span)

end Place

namespace Rule

theorem lines_le_two (rule : Rule) :
    rule.lines.length ≤ 2 ↔ rule.atRules = [] ∧ rule.values = [] := by
  rw [length_lines, ← List.length_eq_zero_iff, ← List.length_eq_zero_iff]
  omega

theorem declaration_mem_lines {rule : Rule} {value : String} (member : value ∈ rule.values) :
    declaration (rule.atRules.length + 1) rule.property value ∈ rule.lines := by
  simp only [lines, List.mem_append, List.mem_map]
  exact .inl (.inl (.inr ⟨value, member, rfl⟩))

end Rule

end Declared

namespace Hover

section AtKey

variable {query : Query} {node : Node} {nesting : Nesting} {parent : Option Node}
  {survey later : Survey Hover}
  {api : Api} {key : Label} {span : Span} {folded : Result} {rule : Rule}

/-- The cursor is on the key of a property in a styling call, at the end of the way, with what
its value is folded to. -/
structure AtKey (query : Query) (survey : Survey Hover) (node : Node) (nesting : Nesting)
    (api : Api) (key : Label) (span : Span) (folded : Result) : Prop where
  inside : nesting.inside = some api
  keyed : keyOf? survey.table nesting node = .ok (some key)
  valued : ∃ value, node.child "value" = .ok value ∧
    (value.val.isKind .objectExpression || value.val.isKind .arrowFunctionExpression) = false ∧
    isKeyframesCall survey.table value.val = .ok false ∧
    Fold.eval survey.table value.val = .ok folded
  placed : ∃ keyNode, node.child "key" = .ok keyNode ∧ survey.place keyNode.val = .ok span
  near : span.contains query.cursor = true

/-- What is noticed when a hover is found. -/
def noticed (span : Span) (rule : Rule) : String := "found hover " ++ span.shown ++ " " ++ rule.text

/-- A property under the cursor that has a rule is answered by it, unless
that has two lines only. -/
theorem onProperty_atKey (here : AtKey query survey node nesting api key span folded)
    (ruled : ruleOf? query.settings nesting api key folded = .ok (some rule)) :
    onProperty query node nesting parent survey =
      if rule.lines.length ≤ 2 then .ok .keep survey
      else .ok .abort (survey.report ⟨rule.text, span, folded⟩ (noticed span rule)) := by
  obtain ⟨inside, keyed, ⟨value, valued, flat, plain, evaluated⟩, ⟨keyNode, named, placed⟩, near⟩ :=
    here
  by_cases short : rule.lines.length ≤ 2
  · rw [if_pos short]
    simp [onProperty, bind, EStateM.bind, Walk.get_apply, inside, keyed, Walk.attempt,
      pure, EStateM.pure, valued, flat, plain, named, placed, near, evaluated, ruled, short]
  · rw [if_neg short]
    exact onProperty_found inside keyed valued flat plain named placed near evaluated ruled short

theorem atKey_of_found (run : onProperty query node nesting parent survey = .ok .abort later)
    (new : later.found ≠ survey.found) :
    ∃ api key span folded rule, AtKey query survey node nesting api key span folded ∧
      ruleOf? query.settings nesting api key folded = .ok (some rule) ∧ ¬ rule.lines.length ≤ 2 ∧
      later.found = some ⟨rule.text, span, folded⟩ := by
  have answered := run
  obtain ⟨found, keyed, run⟩ := Survey.ok_of_attempt run
  -- Every way that does not end at the rule answers something else than an abort, or finds nothing
  -- new.
  cases inside : nesting.inside with
  | none =>
      rw [inside] at run
      cases run
  | some api =>
      rw [inside] at run
      cases found with
      | none => cases run
      | some key =>
          obtain ⟨value, valued, run⟩ := Survey.ok_of_attempt run
          dsimp only at run
          cases flat : value.val.isKind .objectExpression ||
            value.val.isKind .arrowFunctionExpression with
          | true =>
              rw [flat] at run
              cases run
          | false =>
              rw [flat] at run
              obtain ⟨inline, plain, run⟩ := Survey.ok_of_attempt run
              cases inline with
              | true =>
                  obtain ⟨_, _, run⟩ := Survey.ok_of_attempt run
                  cases run
              | false =>
                  obtain ⟨keyNode, named, run⟩ := Survey.ok_of_attempt run
                  obtain ⟨span, placed, run⟩ := Survey.ok_of_attempt run
                  cases near : span.contains query.cursor with
                  | false =>
                      rw [near] at run
                      cases run
                  | true =>
                      rw [near] at run
                      obtain ⟨folded, evaluated, run⟩ := Survey.ok_of_attempt run
                      obtain ⟨answer, ruled, run⟩ := Survey.ok_of_attempt run
                      have here : AtKey query survey node nesting api key span folded :=
                        ⟨inside, keyed, ⟨value, valued, flat, plain, evaluated⟩,
                          ⟨keyNode, named, placed⟩, near⟩
                      cases answer with
                      | none =>
                          cases run
                          exact absurd rfl new
                      | some rule =>
                          rw [onProperty_atKey here ruled] at answered
                          split at answered
                          · cases answered
                          · rename_i long
                            cases answered
                            exact ⟨api, key, span, folded, rule, here, ruled, long, rfl⟩

theorem closing (query : Query) : Survey.Closing (handlers query) := by
  intro kind handler named node nesting parent survey
  cases kind with
  | callExpression =>
      cases named
      have deed := @atCall node parent nesting survey
      generalize onCall node nesting parent survey = result at deed
      cases deed with
      | misread => exact .fails rfl
      | leaves | enters => exact .passes rfl
  | keyValueProperty =>
      cases named
      have deed := @atProperty node parent query nesting survey
      generalize onProperty query node nesting parent survey = result at deed
      cases deed with
      | misread => exact .fails rfl
      | keeps | descends => exact .passes rfl
      | refuses | finds => exact .stops
  | _ => cases named

end AtKey

section Answers

variable {query : Query} {cancelled : Bool} {tree : Data} {hover : Hover}

theorem atKey_of_finds {duty : Walk.Duty Nesting} {survey : Survey Hover}
    (finds : Survey.Finds (handlers query) duty survey hover) :
    duty.task.node.kind = some .keyValueProperty ∧ ∃ api key rule,
      AtKey query survey duty.task.node duty.task.state api key hover.span hover.value ∧
      ruleOf? query.settings duty.task.state api key hover.value = .ok (some rule) ∧
      ¬ rule.lines.length ≤ 2 ∧ hover.css = rule.text := by
  obtain ⟨kind, handler, later, tagged, named, run, found⟩ := finds.found
  cases kind with
  | callExpression =>
      cases named
      have deed := @atCall duty.task.node duty.task.parent duty.task.state survey
      rw [run] at deed
      cases deed with
      | enters _ _ _ onward => simp at onward
  | keyValueProperty =>
      cases named
      have new : later.found ≠ survey.found := by simp [found, finds.nothing]
      obtain ⟨api, key, span, folded, rule, here, ruled, long, reported⟩ := atKey_of_found run new
      rw [found, Option.some.injEq] at reported
      subst reported
      exact ⟨tagged, api, key, rule, here, ruled, long, rfl⟩
  | _ => cases named

/-- A rule is that of a place and a key that are text, with a value that can be written. -/
theorem ruleOf?_eq_some {settings : Settings} {nesting : Nesting} {api : Api} {key : Label}
    {folded : Result} {rule : Rule} : ruleOf? settings nesting api key folded = .ok (some rule) ↔
      ∃ place name, nesting.place api = .ok place ∧ key.spelling = .ok name ∧
        Place.isWritable folded = true ∧ place.rule? settings api name folded = some rule := by
  unfold ruleOf?
  cases nesting.place api with
  | error fault => simp [bind, Except.bind]
  | ok place =>
      cases key.spelling with
      | error fault => simp [bind, Except.bind]
      | ok name => cases Place.isWritable folded <;> simp [bind, Except.bind, pure, Except.pure]

theorem values_eq_nil {settings : Settings} {nesting : Nesting} {api : Api} {key : Label}
    {folded : Result} {rule : Rule}
    (ruled : ruleOf? settings nesting api key folded = .ok (some rule)) :
    rule.values = [] ↔ Place.Undeclared folded := by
  obtain ⟨place, name, -, -, -, ruled⟩ := ruleOf?_eq_some.mp ruled
  obtain ⟨values, declared, rfl⟩ := Option.map_eq_some_iff.mp ruled
  rw [← Place.declared?_eq_nil, declared, Option.some.injEq]

theorem atRules_of_keyframes {settings : Settings} {nesting : Nesting} {key : Label}
    {folded : Result} {rule : Rule}
    (ruled : ruleOf? settings nesting .keyframes key folded = .ok (some rule)) :
    rule.atRules ≠ [] := by
  obtain ⟨place, name, -, -, -, ruled⟩ := ruleOf?_eq_some.mp ruled
  obtain ⟨values, -, rfl⟩ := Option.map_eq_some_iff.mp ruled
  simp [Place.atRules]

/-- The property that a search stops at, and the rule that it answers. -/
structure Ruled (query : Query) (event : Walk.Occasion Nesting (Survey Hover)) (hover : Hover)
    (rule : Rule) :
    Prop where
  entered : event.call.stage = .enter
  kind : event.call.node.kind = some .keyValueProperty
  ruled : ∃ api key, AtKey query event.world event.call.node event.call.state api key
    hover.span hover.value ∧
    ruleOf? query.settings event.call.state api key hover.value = .ok (some rule)
  css : hover.css = rule.text

/-- A hover is the rule of the property under the cursor, and it has a declaration unless it is
that of a list which leaves nothing to declare, in an at-rule. A property with such a list is
passed over when it stands in no at-rule; in an at-rule, and so everywhere in keyframes, it is
answered by the empty rule. -/
theorem find_declares (query : Query) (cancelled : Bool) (tree : Data) :
    (∀ hover, (find query cancelled tree).outcome = .ok (some hover) →
      ∃ root past event ending rule, Node.ofData tree = .ok root ∧
      Walk.Told (Survey.visitor query (handlers query)) root {} { cancelled }
        (past ++ [event]) ending ∧
      Ruled query event hover rule ∧
      ((∃ value ∈ rule.values, Rule.declaration (rule.atRules.length + 1) rule.property value ∈
        rule.lines) ∨
        rule.values = [] ∧ rule.atRules ≠ [] ∧ Place.Undeclared hover.value)) ∧
    ∀ survey node nesting parent api key span folded rule,
      AtKey query survey node nesting api key span folded → Place.Undeclared folded →
      ruleOf? query.settings nesting api key folded = .ok (some rule) →
      rule.values = [] ∧ (api = .keyframes → rule.atRules ≠ []) ∧
      onProperty query node nesting parent survey =
        if rule.atRules = [] then .ok .keep survey
        else .ok .abort (survey.report ⟨rule.text, span, folded⟩ (noticed span rule)) := by
  constructor
  · intro hover found
    unfold find at found
    split at found
    · obtain ⟨root, opened, tagged, found⟩ := Survey.opened_of_answer found
      obtain ⟨past, duty, survey, ending, told, finds⟩ :=
        Survey.finds_of_answer (closing query) tagged found
      obtain ⟨kind, api, key, rule, here, ruled, long, css⟩ := atKey_of_finds finds
      refine ⟨root, past, _, ending, rule, opened, told,
        ⟨finds.entering, kind, ⟨api, key, here, ruled⟩, css⟩, ?_⟩
      by_cases silent : rule.values = []
      · have undeclared := (values_eq_nil ruled).mp silent
        exact .inr ⟨silent,
          fun alone => long ((Rule.lines_le_two rule).mpr ⟨alone, silent⟩), undeclared⟩
      · obtain ⟨value, member⟩ := List.exists_mem_of_ne_nil _ silent
        exact .inl ⟨value, member, Rule.declaration_mem_lines member⟩
    · cases found
  · intro survey node nesting parent api key span folded rule here undeclared ruled
    have silent := (values_eq_nil ruled).mpr undeclared
    refine ⟨silent, fun keyframes => atRules_of_keyframes (keyframes ▸ ruled), ?_⟩
    rw [onProperty_atKey here ruled]
    simp only [Rule.lines_le_two, silent, and_true]

end Answers

section Print

open Survey (written)

def printStyles (color : Data) : Data :=
  written "ObjectExpression" 55 88 [("properties", .list [
    written "KeyValueProperty" 57 86 [
      ("key", written "StringLiteral" 57 71 [("value", .text "@media print")]),
      ("value", written "ObjectExpression" 73 86 [("properties", .list [
        written "KeyValueProperty" 75 84 [
          ("key", written "Identifier" 75 80 [("value", .text "color")]), ("value", color)]])])]])]

/-- A file with one class that has them. -/
def printFile (color : Data) : Data :=
  written "Module" 0 92 [("body", .list [
    written "ImportDeclaration" 0 42 [
      ("specifiers", .list [written "ImportSpecifier" 9 15 [
        ("local", written "Identifier" 9 15 [("value", .text "create")])]]),
      ("source", written "StringLiteral" 23 41 [("value", .text "@stylexjs/stylex")])],
    written "ExpressionStatement" 43 92 [("expression", written "CallExpression" 43 91 [
      ("callee", written "Identifier" 43 49 [("value", .text "create")]),
      ("arguments", .list [.map [(.text "expression",
        written "ObjectExpression" 50 90 [("properties", .list [
          written "KeyValueProperty" 52 88 [
            ("key", written "Identifier" 52 53 [("value", .text "a")]),
            ("value", printStyles color)]])])]])])]])]

/-- The cursor is on the key of the color. -/
def onPrinted : Query := ⟨76, {}, 0⟩

def noColors : Data := written "ArrayExpression" 82 84 [("elements", .list [])]

def styled : ScopeTable := { frames := [[]], imports := [("create", "create")] }

/-- The property with the color. -/
def noColor : Node where
  kind := some .keyValueProperty
  span := some ⟨75, 84⟩
  entries := [(.text "type", .text "KeyValueProperty"),
    (.text "span", .map [(.text "start", .int 75), (.text "end", .int 84)]),
    (.text "key", written "Identifier" 75 80 [("value", .text "color")]), (.text "value", noColors)]

theorem atKey_noColor (classes : List Label) (trace : List String) :
    AtKey onPrinted { table := styled, trace } noColor ⟨classes, some .create, none⟩ .create
      (.text "color") ⟨75, 80⟩ (.value (.array []) (some ⟨82, 84⟩)) := by
  refine ⟨rfl, rfl, ⟨_, rfl, rfl, rfl, ?_⟩, ⟨_, rfl, rfl⟩, by decide⟩
  rw [Fold.eval_array _ rfl ⟨rfl, rfl⟩, Fold.evalElements]
  rfl

/-- A color is declared, and a list of no colors in a class is passed over. -/
theorem find_declares_noColors :
    (∃ (hover : Hover) (rule : Rule), (find ⟨32, {}, 0⟩ false (nodeNamed 0)).outcome =
      .ok (some hover) ∧
      hover.css = rule.text ∧
      ∃ value ∈ rule.values, Rule.declaration (rule.atRules.length + 1) rule.property value ∈
        rule.lines) ∧
    Place.Undeclared (.value (.array []) (some ⟨82, 84⟩)) ∧
    onProperty onPrinted noColor ⟨[.text "a"], some .create, none⟩ none { table := styled } =
      .ok .keep { table := styled } := by
  constructor
  · have found := hover_nodeNamed (.inl rfl)
    obtain ⟨_, _, _, _, rule, -, -, ruled, declares | ⟨-, -, _, _, ⟨⟩, -⟩⟩ :=
      (find_declares _ _ _).1 _ found
    exact ⟨_, rule, found, ruled.css, declares⟩
  · have undeclared : Place.Undeclared (.value (.array []) (some ⟨82, 84⟩)) :=
      ⟨[], _, rfl, by simp⟩
    have ruled : ruleOf? {} ⟨[.text "a"], some .create, none⟩ .create (.text "color")
        (.value (.array []) (some ⟨82, 84⟩)) =
          .ok (some ⟨[], Place.classSelector ["a", "color"], "color", []⟩) := rfl
    exact ⟨undeclared, ((find_declares onPrinted false (printFile noColors)).2 _ _ _ none _ _ _ _ _
      (atKey_noColor [.text "a"] []) undeclared ruled).2.2⟩

theorem find_noColors : (find onPrinted false (printFile noColors)).outcome = .ok (some
    ⟨Rule.text ⟨["@media print"], Place.classSelector ["a", "@media print", "color"],
      "color", []⟩, ⟨75, 80⟩, .value (.array []) (some ⟨82, 84⟩)⟩) := by
  have opened : Node.ofData (printFile noColors) = .ok ⟨some .moduleUnit, some ⟨0, 92⟩, _⟩ := rfl
  refine Survey.outcome_of_reaches opened rfl ?_
  -- The file and its import.
  refine Walk.reaches_next rfl rfl rfl ?_
  refine Walk.reaches_children rfl rfl (by simp) rfl rfl
    (Walk.seatsLeft_pair rfl rfl (show (0 : Int) ≤ 43 by decide)) ?_
  refine Walk.reaches_next rfl rfl rfl ?_
  refine Walk.reaches_next rfl rfl rfl ?_
  refine Walk.reaches_next rfl rfl rfl ?_
  -- The call.
  refine Walk.reaches_next rfl rfl rfl ?_
  refine Walk.reaches_children rfl rfl (by simp) rfl rfl
    (Walk.seatsLeft_sorted rfl (List.pairwise_singleton _ _)) ?_
  refine Walk.reaches_next rfl rfl rfl ?_
  refine Walk.reaches_children rfl rfl (by simp) rfl rfl
    (Walk.seatsLeft_pair rfl rfl (show (43 : Int) ≤ 50 by decide)) ?_
  refine Walk.reaches_next rfl rfl rfl ?_
  refine Walk.reaches_next rfl rfl rfl ?_
  refine Walk.reaches_children rfl rfl (by simp) rfl rfl
    (Walk.seatsLeft_sorted rfl (List.pairwise_singleton _ _)) ?_
  -- The class.
  refine Walk.reaches_next rfl rfl rfl ?_
  refine Walk.reaches_children rfl rfl (by simp) rfl rfl
    (Walk.seatsLeft_pair rfl rfl (show (52 : Int) ≤ 55 by decide)) ?_
  refine Walk.reaches_next rfl rfl rfl ?_
  refine Walk.reaches_next rfl rfl rfl ?_
  refine Walk.reaches_children rfl rfl (by simp) rfl rfl
    (Walk.seatsLeft_sorted rfl (List.pairwise_singleton _ _)) ?_
  -- The condition.
  refine Walk.reaches_next rfl rfl rfl ?_
  refine Walk.reaches_children rfl rfl (by simp) rfl rfl
    (Walk.seatsLeft_pair rfl rfl (show (57 : Int) ≤ 73 by decide)) ?_
  refine Walk.reaches_next rfl rfl rfl ?_
  refine Walk.reaches_next rfl rfl rfl ?_
  refine Walk.reaches_children rfl rfl (by simp) rfl rfl
    (Walk.seatsLeft_sorted rfl (List.pairwise_singleton _ _)) ?_
  -- The color.
  refine Walk.reaches_next rfl rfl rfl ?_
  have ruled : ruleOf? {} ⟨[.text "a", .text "@media print"], some .create, none⟩ .create
      (.text "color") (.value (.array []) (some ⟨82, 84⟩)) =
      .ok (some ⟨["@media print"], Place.classSelector ["a", "@media print", "color"],
        "color", []⟩) := rfl
  exact Walk.reaches_abort rfl rfl
    ((onProperty_atKey (atKey_noColor _ _) ruled).trans (if_neg (by simp [Rule.length_lines])))
    ⟨_, _, rfl, rfl, rfl⟩

/-- For print the list is answered by a rule in which nothing is declared. -/
theorem find_empty_rule :
    ∃ hover, (find onPrinted false (printFile noColors)).outcome = .ok (some hover) ∧
      Place.Undeclared hover.value ∧
      hover.css = "\n".intercalate ["@media print \x7b", "  .a \x7b", "  \x7d", "\x7d"] ∧
      ∀ depth property value,
        Rule.declaration depth property value ∉ ["@media print \x7b", "  .a \x7b",
          "  \x7d", "\x7d"] := by
  refine ⟨_, find_noColors, ⟨[], _, rfl, by simp⟩, by decide +kernel, ?_⟩
  intro depth property value member
  have last : ∀ line ∈ ["@media print \x7b", "  .a \x7b", "  \x7d", "\x7d"],
      line.toList.getLast? ≠ some ';' := by
    decide
  exact last _ member (by simp [Rule.declaration, List.getLast?_cons])

end Print

end Hover

end StyleFold
