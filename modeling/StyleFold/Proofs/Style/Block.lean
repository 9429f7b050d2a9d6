import StyleFold.Proofs.Fold.Spread
import StyleFold.Proofs.Style.LineBreak
import StyleFold.Proofs.Style.Selector

/-!
Rules as blocks. The lines that open blocks and those that close them are made apart from each
other, each row with its own depths. Main statement: every line is indented by the blocks that are
open before it, and each block that is opened is closed; the at-rules are the at-keys on the way to
the property, and the declarations render the entries of its value that can be declared, in order.
So the values that a call of the fallback helper prefers come last.
-/

namespace StyleFold

namespace Rule

section Blocks

inductive Line where
  | opening (head : String)
  | declaration (property value : String)
  | closing
  deriving DecidableEq

def Line.isOpening : Line → Bool
  | .opening _ => true
  | _ => false

/-- Lines as they are written where some blocks are open, and the number of blocks that are
open after them. A line is indented by the blocks around it, and a closing one as the line
that opened its block. -/
inductive Written : Nat → List Line → List String → Nat → Prop where
  | done (depth : Nat) : Written depth [] [] depth
  | opening {depth after : Nat} {rest : List Line} {texts : List String} (head : String)
      (onward : Written (depth + 1) rest texts after) :
      Written depth (.opening head :: rest) ((indent depth ++ head ++ " \x7b") :: texts) after
  | declaration {depth after : Nat} {rest : List Line} {texts : List String}
      (property value : String) (onward : Written depth rest texts after) :
      Written depth (.declaration property value :: rest)
        ((indent depth ++ property ++ ": " ++ value ++ ";") :: texts) after
  | closing {depth after : Nat} {rest : List Line} {texts : List String}
      (onward : Written depth rest texts after) :
      Written (depth + 1) (.closing :: rest) ((indent depth ++ "\x7d") :: texts) after

/-- No block is closed that is not open, and none is left open. -/
structure Balanced (lines : List Line) : Prop where
  closed : ∀ start, start <+: lines → start.count .closing ≤ start.countP Line.isOpening
  even : lines.count .closing = lines.countP Line.isOpening

variable {depth after : Nat} {lines front rest : List Line} {texts : List String} {rule : Rule}

theorem Written.count (written : Written depth lines texts after) :
    depth + lines.countP Line.isOpening = after + lines.count .closing := by
  induction written with
  | done => simp
  | opening head onward ih =>
      simp only [List.countP_cons, List.count_cons, Line.isOpening, beq_iff_eq, reduceCtorEq,
        if_true, if_false]
      omega
  | declaration property value onward ih =>
      simpa [List.countP_cons, List.count_cons, Line.isOpening] using ih
  | closing onward ih =>
      simp only [List.countP_cons, List.count_cons, Line.isOpening, beq_self_eq_true,
        Bool.false_eq_true, if_true, if_false]
      omega

theorem Written.closed (written : Written depth lines texts after) {start : List Line}
    (begins : start <+: lines) :
    start.count .closing ≤ depth + start.countP Line.isOpening := by
  induction written generalizing start with
  | done =>
      rw [List.prefix_nil.mp begins]
      simp
  | opening head onward ih =>
      rcases List.prefix_cons_iff.mp begins with rfl | ⟨start, rfl, inner⟩
      · simp
      · have closed := ih inner
        simp only [List.countP_cons, List.count_cons, Line.isOpening, beq_iff_eq, reduceCtorEq,
          if_true, if_false]
        omega
  | declaration property value onward ih =>
      rcases List.prefix_cons_iff.mp begins with rfl | ⟨start, rfl, inner⟩
      · simp
      · simpa [List.countP_cons, List.count_cons, Line.isOpening] using ih inner
  | closing onward ih =>
      rcases List.prefix_cons_iff.mp begins with rfl | ⟨start, rfl, inner⟩
      · simp
      · have closed := ih inner
        simp only [List.countP_cons, List.count_cons, Line.isOpening, beq_self_eq_true,
          Bool.false_eq_true, if_true, if_false]
        omega

theorem Written.balanced (written : Written 0 lines texts 0) : Balanced lines where
  closed start begins := by simpa using written.closed begins
  even := by
    have counted := written.count
    omega

theorem written_openings (heads : List String)
    (onward : Written (depth + heads.length) rest texts after) :
    Written depth (heads.map .opening ++ rest)
      ((heads.zipIdx depth).map (fun entry => opening entry.2 entry.1) ++ texts) after := by
  induction heads generalizing depth with
  | nil => exact onward
  | cons head others ih =>
      refine .opening head (ih ?_)
      rwa [List.length_cons, Nat.add_comm others.length, ← Nat.add_assoc] at onward

theorem written_declarations (property : String) (values : List String)
    (onward : Written depth rest texts after) :
    Written depth (values.map (.declaration property) ++ rest)
      (values.map (declaration depth property) ++ texts) after := by
  induction values with
  | nil => exact onward
  | cons value others ih => exact .declaration property value ih

theorem written_closings (depth : Nat) :
    Written depth (List.replicate depth .closing) ((List.range depth).reverse.map closing) 0 := by
  induction depth with
  | zero => exact .done 0
  | succ depth ih =>
      rw [List.range_succ, List.reverse_append]
      exact .closing ih

/-- The lines of a rule: at-rules and the selector open blocks, then come the declarations, and
the blocks are closed. -/
def parts (rule : Rule) : List Line :=
  rule.atRules.map .opening ++ [.opening rule.selector] ++ rule.values.map
    (.declaration rule.property) ++
    [.closing] ++ List.replicate rule.atRules.length .closing

theorem written_lines (rule : Rule) : Written 0 rule.parts rule.lines 0 := by
  -- What is inside the at-rules is written as deep as they lead, and ends all of them.
  have inner : Written rule.atRules.length
      ([.opening rule.selector] ++ rule.values.map (.declaration rule.property) ++ [.closing] ++
        List.replicate rule.atRules.length .closing)
      ([opening rule.atRules.length rule.selector] ++
        rule.values.map (declaration (rule.atRules.length + 1) rule.property) ++
          [closing rule.atRules.length] ++
        (List.range rule.atRules.length).reverse.map closing) 0 := by
    simp only [List.append_assoc]
    exact .opening _ (written_declarations _ _ (.closing (written_closings _)))
  have whole := @written_openings 0 _ _ _ rule.atRules (by rwa [Nat.zero_add])
  simpa [parts, lines, List.append_assoc] using whole

end Blocks

section Lines

variable {depth after : Nat} {lines : List Line} {texts : List String} {rule : Rule}

def Line.Unbroken : Line → Prop
  | .opening head => Text.Unbroken head
  | .declaration property value => Text.Unbroken property ∧ Text.Unbroken value
  | .closing => True

theorem unbroken_indent (depth : Nat) : Text.Unbroken (indent depth) := by
  simp [Text.Unbroken, indent]

theorem Written.unbroken (written : Written depth lines texts after)
    (each : ∀ line ∈ lines, line.Unbroken) :
    ∀ text ∈ texts, Text.Unbroken text := by
  induction written with
  | done => simp
  | opening head onward ih =>
      rw [List.forall_mem_cons] at each ⊢
      refine ⟨?_, ih each.2⟩
      simp only [Text.unbroken_append]
      exact ⟨⟨unbroken_indent _, each.1⟩, by decide⟩
  | declaration property value onward ih =>
      rw [List.forall_mem_cons] at each ⊢
      refine ⟨?_, ih each.2⟩
      simp only [Text.unbroken_append]
      exact ⟨⟨⟨⟨unbroken_indent _, each.1.1⟩, by decide⟩, each.1.2⟩, by decide⟩
  | closing onward ih =>
      rw [List.forall_mem_cons] at each ⊢
      refine ⟨?_, ih each.2⟩
      rw [Text.unbroken_append]
      exact ⟨unbroken_indent _, by decide⟩

/-- The lines of a text, cut at its line breaks. -/
def linesOf (text : String) : List String := (text.split '\n').toList.map (·.copy)

theorem linesOf_text (each : ∀ line ∈ rule.parts, line.Unbroken) :
    linesOf rule.text = rule.lines := by
  have split := String.toList_split_intercalate ((written_lines rule).unbroken each)
  have some : rule.lines ≠ [] := by simp [Rule.lines]
  rwa [if_neg some] at split

end Lines

end Rule

namespace Place

section Values

variable {settings : Settings} {property : String} {folded entry : Result} {text : String}

/-- How a result is written as the value of a property. -/
inductive Renders (settings : Settings) (property : String) : Result → String → Prop where
  | reference (id : Label) (span : Option Span) :
      Renders settings property (.reference id span) (referenceText property id)
  | absent {v : Value} (span : Option Span) (nullish : v.isNullish = true) :
      Renders settings property (.value v span) "initial"
  | text (s : String) (span : Option Span) :
      Renders settings property (.value (.string s) span)
        (String.ofList (Text.trim Text.isBlank s.toList))
  | number (x : Float) (span : Option Span) :
      Renders settings property (.value (.number x) span) (Css.numberValue settings property x)
  | whole {i : Int} {x : Float} (span : Option Span) (rounds : Double.ofInt? i = some x) :
      Renders settings property (.value (.whole i) span) (Css.numberValue settings property x)

instance : DecidablePred Declarable := fun result =>
  decidable_of_iff ((entryText? {} "" result).isSome = true) (entryText?_isSome result)

/-- What is declared one by one: the entries of a list, or else the value itself. -/
def entries : Result → List Result
  | .value (.array entries) _ => entries
  | other => [other]

theorem renders_of_entryText? (shown : entryText? settings property entry = some text) :
    Renders settings property entry text := by
  cases entry with
  | nonStatic | bare v => cases shown
  | reference id span =>
      cases shown
      exact .reference id span
  | value v span =>
      cases v with
      | undefined | null =>
          cases shown
          exact .absent span rfl
      | string s =>
          cases shown
          exact .text s span
      | number x =>
          cases shown
          exact .number x span
      | whole i =>
          cases rounds : Double.ofInt? i with
          | none =>
              simp [entryText?, scalarText?, Css.valueText, numberOfWhole, rounds,
                Except.mapError, Except.map,
              Except.toOption] at shown
          | some x =>
              simp only [entryText?, scalarText?, Css.valueText, numberOfWhole, rounds,
                Except.mapError, Except.map, Except.toOption, Option.some.injEq] at shown
              subst shown
              exact .whole span rounds
      | _ => cases shown

theorem rendered_entries (results : List Result) :
    List.Forall₂ (Renders settings property) (results.filter Declarable)
      (results.filterMap (entryText? settings property)) := by
  induction results with
  | nil => exact .nil
  | cons entry rest ih =>
      have shown := @entryText?_isSome settings property entry
      cases written : entryText? settings property entry with
      | none =>
          have hidden : ¬ Declarable entry := by simp [← shown, written]
          rw [List.filterMap_cons_none written, List.filter_cons_of_neg (by simpa using hidden)]
          exact ih
      | some text =>
          have declarable : Declarable entry := by simp [← shown, written]
          rw [List.filterMap_cons_some written, List.filter_cons_of_pos (by simpa using declarable)]
          exact .cons (renders_of_entryText? written) ih

theorem declared?_entries {values : List String}
    (declared : declared? settings property folded = some values) :
    values = (entries folded).filterMap (entryText? settings property) := by
  unfold declared? at declared
  unfold entries
  split at declared
  · cases declared
    rfl
  · obtain ⟨text, written, rfl⟩ := Option.map_eq_some_iff.mp declared
    simp [written]

/-- A result has no line break in the text that is declared for it. Blanks around a
text are not declared. -/
def Unbroken : Result → Prop
  | .reference id _ => Text.Unbroken id.plain
  | .value (.string s) _ => Text.Unbroken (String.ofList (Text.trim Text.isBlank s.toList))
  | _ => True

theorem Renders.unbroken (renders : Renders settings property entry text)
    (unbroken : Unbroken entry) :
    Text.Unbroken text := by
  cases renders with
  | reference id span =>
      unfold referenceText
      split
      · exact unbroken
      · simp only [Text.unbroken_append]
        exact ⟨⟨by decide, unbroken⟩, by decide⟩
  | absent => decide
  | text => exact unbroken
  | number | whole => exact Css.unbroken_numberValue settings property _

theorem unbroken_rendered {results : List Result} {values : List String}
    (rendered : List.Forall₂ (Renders settings property) results values)
    (each : ∀ entry ∈ results, Unbroken entry) : ∀ value ∈ values, Text.Unbroken value := by
  induction rendered with
  | nil => simp
  | cons renders rest ih =>
      rw [List.forall_mem_cons] at each ⊢
      exact ⟨renders.unbroken each.1, ih each.2⟩

theorem unbroken_classSelector {trail : List String} (each : ∀ name ∈ trail, Text.Unbroken name) :
    Text.Unbroken (classSelector trail) := by
  unfold classSelector
  dsimp only
  refine Text.unbroken_append.mpr ⟨by decide, ?_⟩
  split
  · decide
  · refine Text.unbroken_join fun name member => each name ?_
    rcases List.mem_append.mp (List.mem_mergeSort.mp member) with first | later
    · exact List.mem_of_mem_take first
    · exact List.mem_of_mem_drop (List.mem_of_mem_filter later)

theorem entryRounds_of_declarable (declarable : Declarable entry) : entryRounds entry = true := by
  cases declarable with
  | reference | text => rfl
  | @absent v span nullish => cases v <;> first | rfl | cases nullish
  | number span number rounds => exact rounds

theorem displayable_array {results : List Result} (each : ∀ result ∈ results, Declarable result)
    {span : Option Span} : Displayable (.value (.array results.reverse) span) where
  writable := List.all_eq_true.mpr fun entry member =>
    entryRounds_of_declarable (each entry (List.mem_reverse.mp member))
  shown := .inr ⟨_, _, rfl⟩

end Values

end Place

namespace Fold

section Preferred

variable {table : ScopeTable} {items : List Data} {results : List Result} {call : Node}

/-- An argument that is not spread, with what it is evaluated to. -/
inductive Argument (table : ScopeTable) : Data → Result → Prop where
  | intro {entries inner : Entries} {view : Node} {result : Result}
      (opened : Node.ofEntries entries = .ok view) (reads : Reads view "expression" (.map inner))
      (single : view.field? "spread" = .ok none)
      (evaluated : evaluate table (.map inner) = .ok result) : Argument table (.map entries) result

/-- A call of the helper, with what its arguments are evaluated to. -/
structure Prefers (table : ScopeTable) (call : Node) (results : List Result) : Prop where
  kind : call.kind = some .callExpression
  callee : ∃ entries callee, Reads call "callee" (.map entries) ∧
    Node.ofEntries entries = .ok callee ∧
    Recognised table callee
  arguments : ∃ items, Reads call "arguments" (.list items) ∧
    List.Forall₂ (Argument table) items results

theorem evalElements_arguments (each : List.Forall₂ (Argument table) items results)
    (span : Option Span) :
    evalElements table span items = .ok results := by
  induction each with
  | nil => exact evalElements_nil table span
  | cons argument rest ih =>
      obtain ⟨opened, reads, single, evaluated⟩ := argument
      rw [evaluate_map] at evaluated
      rw [evalElements_cons table span opened reads single, evaluated, ih]
      rfl

theorem Prefers.eval (prefers : Prefers table call results) :
    Fold.eval table call = .ok (.value (.array results.reverse) call.span) := by
  obtain ⟨kind, ⟨entries, callee, named, opened, recognised⟩, items, listed, each⟩ := prefers
  rw [eval_call table kind named opened listed, calledApi?_recognised recognised,
    ok_bind, if_pos rfl, evalElements_arguments each]
  rfl

end Preferred

end Fold

namespace Hover

namespace Nesting

section Ways

/-- The keys that are passed on the way, that of the property last. In calls that define variables
the first key is the variable and no style. -/
def keys (nesting : Nesting) (api : Api) (key : Label) : List String :=
  ((if Place.stylesDirectly api then nesting.classes
    else nesting.classes.drop 1) ++ [key]).map Label.plain

def callName? (nesting : Nesting) : Option String :=
  ((nesting.caller.filter fun label => !label.isEmpty).map Label.plain).filter
    fun name => !name.isEmpty

/-- The at-rules around a property are its keys that begin with an at sign; keyframes
are in one of their own. -/
def atRules (nesting : Nesting) (api : Api) (key : Label) : List String :=
  (if api = .keyframes then ["@keyframes " ++ nesting.callName?.getD "unknown"] else []) ++
    (nesting.keys api key).filter Place.isAtRule

/-- The last key that is no condition, or the name of the variable. -/
def property (nesting : Nesting) (api : Api) (key : Label) : String :=
  if Place.stylesDirectly api then
    let innermost := ((nesting.keys api key).filter fun name => !Place.isCondition name).getLastD ""
    if innermost = "" then "unknown" else innermost
  else "--" ++ ((nesting.classes ++ [key]).map Label.plain).headD ""

variable {nesting : Nesting} {api : Api} {key : Label} {place : Place} {name : String}

theorem spelling_eq_ok {label : Label} (spelt : label.spelling = .ok name) :
    name = label.plain := by
  cases label <;> cases spelt
  rfl

theorem mapM_spelling {labels : List Label} {names : List String}
    (spelt : labels.mapM Label.spelling = .ok names) :
    names = labels.map Label.plain := by
  induction labels generalizing names with
  | nil =>
      cases spelt
      rfl
  | cons label rest ih =>
      rw [List.mapM_cons] at spelt
      obtain ⟨first, one, spelt⟩ := ok_of_bind spelt
      obtain ⟨others, more, spelt⟩ := ok_of_bind spelt
      cases spelt
      rw [spelling_eq_ok one, ih more, List.map_cons]

theorem place_eq (placed : nesting.place api = .ok place) :
    place.classes = nesting.classes.map Label.plain ∧
    place.callerName? = nesting.callName? := by
  obtain ⟨found, named, placed⟩ := ok_of_bind placed
  cases placed
  refine ⟨?_, rfl⟩
  unfold names at named
  split at named
  · exact mapM_spelling named
  · split at named
    · rename_i empty
      cases named
      rw [empty]
      rfl
    · rename_i first rest split
      cases spelt : rest.mapM Label.spelling with
      | error fault => simp [spelt, Except.map] at named
      | ok others =>
          rw [spelt] at named
          cases named
          rw [split, mapM_spelling spelt]
          rfl

theorem trail_direct (direct : Place.stylesDirectly api = true)
    (placed : nesting.place api = .ok place) (spelt : key.spelling = .ok name) :
    place.trail api name = nesting.keys api key := by
  rw [Place.trail, if_pos direct, keys, if_pos direct, (place_eq placed).1, spelling_eq_ok spelt,
    List.map_append, List.map_singleton]

theorem trail_variable (direct : Place.stylesDirectly api = false)
    (placed : nesting.place api = .ok place) (spelt : key.spelling = .ok name) :
    place.trail api name =
      (nesting.callName?.map ("." ++ ·)).getD ":root" :: nesting.keys api key := by
  rw [Place.trail, if_neg (by simp [direct]), keys, if_neg (by simp [direct]), (place_eq placed).1,
    (place_eq placed).2, spelling_eq_ok spelt, List.map_append, List.map_singleton, List.map_drop,
    List.cons_append]

theorem atRules_eq (placed : nesting.place api = .ok place) (spelt : key.spelling = .ok name) :
    place.atRules api name = nesting.atRules api key := by
  have nested : (place.trail api name).filter Place.isAtRule =
      (nesting.keys api key).filter Place.isAtRule := by
    cases direct : Place.stylesDirectly api with
    | true => rw [trail_direct direct placed spelt]
    | false =>
        -- The name of the call begins with a point or a colon.
        rw [trail_variable direct placed spelt, List.filter_cons_of_neg]
        cases nesting.callName? <;> simp [Place.isAtRule, Text.begins]
  rw [Place.atRules, nested, (place_eq placed).2, atRules]
  split <;> rfl

theorem property_eq (placed : nesting.place api = .ok place) (spelt : key.spelling = .ok name) :
    place.property api name = nesting.property api key := by
  cases direct : Place.stylesDirectly api with
  | true =>
      rw [Place.property, if_pos direct, property, if_pos direct, trail_direct direct placed spelt,
        ← List.head?_filter, List.filter_reverse, List.head?_reverse, List.getLastD_eq_getLast?]
      cases ((nesting.keys api key).filter fun name => !Place.isCondition name).getLast? with
      | none => rfl
      | some innermost => by_cases empty : innermost = "" <;> simp [Option.filter, empty]
  | false =>
      rw [Place.property, if_neg (by simp [direct]), property, if_neg (by simp [direct]),
        (place_eq placed).1, spelling_eq_ok spelt]
      cases nesting.classes <;> rfl

/-- No key on the way has a line break, and neither has the name of the call. -/
structure Unbroken (nesting : Nesting) (key : Label) : Prop where
  keys : ∀ label ∈ nesting.classes ++ [key], Text.Unbroken label.plain
  caller : ∀ label, nesting.caller = some label → Text.Unbroken label.plain

theorem Unbroken.passed (unbroken : nesting.Unbroken key) (member : name ∈ nesting.keys api key) :
    Text.Unbroken name := by
  obtain ⟨label, among, rfl⟩ := List.mem_map.mp member
  refine unbroken.keys label ?_
  split at among
  · exact among
  · exact (List.mem_append.mp among).elim
      (fun passed => List.mem_append_left _ (List.mem_of_mem_drop passed)) (List.mem_append_right _)

theorem Unbroken.callName (unbroken : nesting.Unbroken key)
    (called : nesting.callName? = some name) :
    Text.Unbroken name := by
  obtain ⟨label, known, rfl⟩ := Option.map_eq_some_iff.mp (Option.filter_eq_some_iff.mp called).1
  exact unbroken.caller label (Option.filter_eq_some_iff.mp known).1

theorem Unbroken.atRules (unbroken : nesting.Unbroken key) :
    ∀ head ∈ nesting.atRules api key, Text.Unbroken head := by
  intro head member
  rcases List.mem_append.mp member with own | nested
  · split at own
    · rw [List.mem_singleton.mp own, Text.unbroken_append]
      refine ⟨by decide, ?_⟩
      cases called : nesting.callName? with
      | none => decide
      | some name => exact unbroken.callName called
    · cases own
  · exact unbroken.passed (List.mem_of_mem_filter nested)

theorem Unbroken.property (unbroken : nesting.Unbroken key) :
    Text.Unbroken (nesting.property api key) := by
  unfold Nesting.property
  dsimp only
  split
  · split
    · decide
    · rename_i some
      rw [List.getLastD_eq_getLast?] at some ⊢
      cases last : ((nesting.keys api key).filter fun name => !Place.isCondition name).getLast? with
      | none => simp [last] at some
      | some name => exact unbroken.passed (List.mem_of_mem_filter (List.mem_of_getLast? last))
  · rw [Text.unbroken_append]
    refine ⟨by decide, ?_⟩
    cases split : nesting.classes ++ [key] with
    | nil => simp at split
    | cons first rest => exact unbroken.keys first (by simp [split])

theorem Unbroken.selector (unbroken : nesting.Unbroken key) (placed : nesting.place api = .ok place)
    (spelt : key.spelling = .ok name) : Text.Unbroken (place.selector api name) := by
  have each : ∀ other ∈ place.trail api name, Text.Unbroken other := by
    cases direct : Place.stylesDirectly api with
    | true =>
        rw [trail_direct direct placed spelt]
        exact fun other member => unbroken.passed member
    | false =>
        rw [trail_variable direct placed spelt, List.forall_mem_cons]
        refine ⟨?_, fun other member => unbroken.passed member⟩
        cases called : nesting.callName? with
        | none => decide
        | some name => exact Text.unbroken_append.mpr ⟨by decide, unbroken.callName called⟩
  unfold Place.selector
  dsimp only
  split
  · exact Place.unbroken_classSelector each
  · cases passed : place.trail api name with
    | nil => decide
    | cons first rest => exact each first (by simp [passed])

end Ways

end Nesting

section Rules

variable {settings : Settings} {nesting : Nesting} {api : Api} {key : Label}
  {folded : Result} {rule : Rule}

/-- A rule says what the way to its property says, and declares what can be declared. -/
theorem rule_of_ruleOf? (ruled : ruleOf? settings nesting api key folded = .ok (some rule)) :
    rule.atRules = nesting.atRules api key ∧
      rule.property = Css.dashify (nesting.property api key) ∧
      List.Forall₂ (Place.Renders settings (nesting.property api key))
        ((Place.entries folded).filter Place.Declarable) rule.values := by
  obtain ⟨place, name, placed, spelt, -, ruled⟩ := ruleOf?_eq_some.mp ruled
  obtain ⟨values, declared, rfl⟩ := Option.map_eq_some_iff.mp ruled
  rw [Nesting.property_eq placed spelt] at declared
  refine ⟨Nesting.atRules_eq placed spelt,
    congrArg Css.dashify (Nesting.property_eq placed spelt), ?_⟩
  rw [Place.declared?_entries declared]
  exact Place.rendered_entries _

theorem unbroken_parts (ruled : ruleOf? settings nesting api key folded = .ok (some rule))
    (unbroken : nesting.Unbroken key)
    (values : ∀ entry ∈ Place.entries folded, Place.Unbroken entry) :
    ∀ line ∈ rule.parts, line.Unbroken := by
  obtain ⟨atRules, property, rendered⟩ := rule_of_ruleOf? ruled
  have selector : Text.Unbroken rule.selector := by
    obtain ⟨place, name, placed, spelt, -, ruled⟩ := ruleOf?_eq_some.mp ruled
    obtain ⟨_, -, rfl⟩ := Option.map_eq_some_iff.mp ruled
    exact unbroken.selector placed spelt
  have written := Place.unbroken_rendered rendered fun entry member =>
    values entry (List.mem_of_mem_filter member)
  intro line member
  simp only [Rule.parts, List.mem_append, List.mem_map, List.mem_singleton,
    List.mem_replicate] at member
  rcases member with (((⟨head, among, rfl⟩ | rfl) | ⟨value, among, rfl⟩) | rfl) | ⟨-, rfl⟩
  · rw [atRules] at among
    exact unbroken.atRules head among
  · exact selector
  · refine ⟨?_, written value among⟩
    rw [property]
    exact Css.unbroken_dashify unbroken.property
  · trivial
  · trivial

/-- The rule of a property in blocks: its at-rules are the at-keys of the way, in the order of the
way, behind the keyframes they are in; then come the selector, a declaration for each entry that
can be declared, in order, and the ends of all blocks. Each line is indented by the blocks that are
open before it, a closing line as the opening one. If no line break is in a key or a value, these
are the lines of the text. A call of the fallback helper has the declarations of its arguments from
the last to the first. -/
theorem ruleOf?_blocks (settings : Settings) (nesting : Nesting) (api : Api) (key : Label)
    (folded : Result) (rule : Rule)
    (ruled : ruleOf? settings nesting api key folded = .ok (some rule)) :
    Rule.Written 0 rule.parts rule.lines 0 ∧ Rule.Balanced rule.parts ∧
      rule.atRules = nesting.atRules api key ∧
        rule.property = Css.dashify (nesting.property api key) ∧
      List.Forall₂ (Place.Renders settings (nesting.property api key))
        ((Place.entries folded).filter Place.Declarable) rule.values ∧
      (nesting.Unbroken key → (∀ entry ∈ Place.entries folded, Place.Unbroken entry) →
        Rule.linesOf rule.text = rule.lines) ∧
      ∀ table call results, Fold.Prefers table call results →
      (∀ result ∈ results, Place.Declarable result) →
        ∃ fallback, Fold.eval table call = .ok (.value (.array results.reverse) call.span) ∧
          ruleOf? settings nesting api key (.value (.array results.reverse) call.span) =
            .ok (some fallback) ∧
          List.Forall₂ (Place.Renders settings (nesting.property api key)) results.reverse
            fallback.values := by
  obtain ⟨atRules, property, rendered⟩ := rule_of_ruleOf? ruled
  have written := Rule.written_lines rule
  refine ⟨written, written.balanced, atRules, property, rendered, ?_, ?_⟩
  · exact fun unbroken values => Rule.linesOf_text (unbroken_parts ruled unbroken values)
  · intro table call results prefers each
    obtain ⟨place, name, placed, spelt, -, -⟩ := ruleOf?_eq_some.mp ruled
    obtain ⟨fallback, further⟩ := exists_rule placed spelt (Place.displayable_array each)
    -- No argument is left out, as each can be declared.
    have whole := (rule_of_ruleOf? further).2.2
    rw [Place.entries, List.filter_eq_self.mpr fun entry member => by
      simpa using each entry (List.mem_reverse.mp member)] at whole
    exact ⟨fallback, prefers.eval, further, whole⟩

end Rules

/-! A position in print, sticky where that works and else fixed. -/

section Preferred

open Fold (textData helperTable evaluate_textData)

def sticky : Result := .value (.string "sticky") none

def fixed : Result := .value (.string "fixed") none

def position : Node where
  kind := some .callExpression
  span := none
  entries := [(.text "type", .text "CallExpression"), (.text "callee", Fold.nameData "first"),
    (.text "arguments", .list [.map [(.text "expression", textData "sticky")],
      .map [(.text "expression", textData "fixed")]])]

theorem prefers_position : Fold.Prefers helperTable position [sticky, fixed] where
  kind := rfl
  callee := ⟨_, _, ⟨rfl, rfl⟩, rfl, .binding rfl ⟨rfl, rfl⟩ rfl⟩
  arguments := ⟨_, ⟨rfl, rfl⟩, .cons (.intro rfl ⟨rfl, rfl⟩ rfl (evaluate_textData _ _))
    (.cons (.intro rfl ⟨rfl, rfl⟩ rfl (evaluate_textData _ _)) .nil)⟩

def printed : Rule :=
  ⟨["@media print"], Place.classSelector ["a", "@media print", "position"], "position",
    ["fixed", "sticky"]⟩

theorem ruleOf?_position :
    ruleOf? {} (classNesting "a" ["@media print"] none) .create (.text "position")
    (.value (.array [fixed, sticky]) none) = .ok (some printed) := rfl

/-- Two blocks deep, the position that is preferred comes last. -/
theorem ruleOf?_blocks_position :
    ruleOf? {} (classNesting "a" ["@media print"] none) .create (.text "position")
      (.value (.array [fixed, sticky]) none) = .ok (some printed) ∧
    Fold.eval helperTable position = .ok (.value (.array [fixed, sticky]) none) ∧
    printed.lines =
      ["@media print \x7b", "  .a \x7b", "    position: fixed;", "    position: sticky;",
        "  \x7d", "\x7d"] ∧
    Rule.linesOf printed.text = printed.lines := by
  obtain ⟨-, -, -, -, -, split, preferred⟩ := ruleOf?_blocks _ _ _ _ _ _ ruleOf?_position
  obtain ⟨_, evaluated, -⟩ := preferred _ _ _ prefers_position (by
    simp only [List.forall_mem_cons]
    exact ⟨.text _ _, .text _ _, by simp⟩)
  refine ⟨ruleOf?_position, evaluated, by decide +kernel, split ⟨by decide, by rintro _ ⟨⟩⟩ ?_⟩
  simp only [Place.entries, List.forall_mem_cons]
  exact ⟨(by decide : Text.Unbroken "fixed"), (by decide : Text.Unbroken "sticky"), by simp⟩

end Preferred

end Hover

end StyleFold
