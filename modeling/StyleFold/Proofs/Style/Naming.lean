import StyleFold.Proofs.Style.Finding

/-!
The property that a completion is for. A depth is counted through the properties of a styling call,
and the name is taken from the second of them; fallback calls leave the count alone, styling calls
start it anew, and other calls end it. Main statement: the name is that of the second property below
the innermost call that is no fallback, however deep the text is nested below it.
-/

namespace StyleFold.Completion

open Survey (visitor)
open Walk (Action Address Duty Occasion lineage nodeAt)

theorem closing (query : Query) : Survey.Closing (handlers query) := by
  intro kind handler named node context parent survey
  cases kind with
  | callExpression =>
      cases named
      have deed := @atCall node parent context survey
      generalize onCall node context parent survey = result at deed
      cases deed with
      | misread => exact .fails rfl
      | leaves | passes | enters => exact .passes rfl
  | keyValueProperty =>
      cases named
      have deed := @atProperty node parent context survey
      generalize onProperty node context parent survey = result at deed
      cases deed with
      | misread => exact .fails rfl
      | keeps | names | deepens | varies => exact .passes rfl
  | stringLiteral =>
      cases named
      have deed := @atString node parent query context survey
      generalize onString query node context parent survey = result at deed
      cases deed with
      | misread => exact .fails rfl
      | keeps | passes => exact .passes rfl
      | finds => exact .stops
  | _ => cases named

section Around

variable {query : Query} {root : Node} {past : List (Occasion Context (Survey Completion))}
  {address : Address}
  {call above : Address × Node} {api : Api} {between : List (Address × Node)} {context : Context}

structure Visit (past : List (Occasion Context (Survey Completion))) (above : Address × Node)
    (event : Occasion Context (Survey Completion)) : Prop where
  visited : event ∈ past
  entered : event.call.stage = .enter
  same : (event.address, event.call.node) = above

def Recognized (past : List (Occasion Context (Survey Completion))) (call : Address × Node)
    (api : Api) : Prop :=
  ∃ event callee, Visit past call event ∧ call.2.child "callee" = .ok callee ∧
    event.world.table.calledApi? callee.val = .ok (some api)

def Keyed (past : List (Occasion Context (Survey Completion))) (property : Address × Node)
    (key : Option Label) :
    Prop :=
  ∃ event, Visit past property event ∧ Css.keyOf? event.world.table property.2 = .ok key

/-- The innermost call around a position that is no fallback, and what is between them. -/
structure Inside (root : Node) (past : List (Occasion Context (Survey Completion)))
    (address : Address) (call : Address × Node) (api : Api) (between : List (Address × Node)) :
    Prop where
  split : ∃ above, lineage root address = above ++ call :: between
  calls : call.2.isKind .callExpression = true
  recognized : Recognized past call api
  styles : api ≠ .firstThatWorks
  fallbacks : ∀ other ∈ between, other.2.isKind .callExpression = true →
    Recognized past other .firstThatWorks

/-- Outermost first. -/
def properties (between : List (Address × Node)) : List (Address × Node) :=
  between.filter fun above => above.2.isKind .keyValueProperty

/-- What is known of the name and the depth, from the properties on the way. -/
structure Tracks (past : List (Occasion Context (Survey Completion))) (api : Api)
    (properties : List (Address × Node)) (context : Context) : Prop where
  depth : Place.stylesDirectly api = true → context.depth = properties.length + 1
  second : Place.stylesDirectly api = true → ∀ first second rest, properties =
    first :: second :: rest →
    Keyed past second context.property
  custom : Place.stylesDirectly api = false → properties ≠ [] → context.property =
    some (.text customProperty)

def Oriented (root : Node) (past : List (Occasion Context (Survey Completion))) (address : Address)
    (context : Context) : Prop :=
  ∀ api, context.inside = some api → ∃ call between,
    Inside root past address call api between ∧ Tracks past api (properties between) context

section Lasting

variable {event : Occasion Context (Survey Completion)} {key : Option Label}
  (new : List (Occasion Context (Survey Completion)))

theorem Visit.lasts (visit : Visit past above event) : Visit (past ++ new) above event :=
  { visit with visited := List.mem_append_left _ visit.visited }

theorem Recognized.lasts (recognized : Recognized past call api) :
    Recognized (past ++ new) call api := by
  obtain ⟨event, callee, visit, called⟩ := recognized
  exact ⟨event, callee, visit.lasts new, called⟩

theorem Keyed.lasts (keyed : Keyed past above key) : Keyed (past ++ new) above key := by
  obtain ⟨event, visit, read⟩ := keyed
  exact ⟨event, visit.lasts new, read⟩

theorem Inside.lasts (inside : Inside root past address call api between) :
    Inside root (past ++ new) address call api between :=
  { inside with
    recognized := inside.recognized.lasts new
    fallbacks := fun other member calls => (inside.fallbacks other member calls).lasts new }

theorem Tracks.lasts {properties : List (Address × Node)}
    (tracks : Tracks past api properties context) :
    Tracks (past ++ new) api properties context :=
  { tracks with second := fun direct _ _ _ split => (tracks.second direct _ _ _ split).lasts new }

theorem Oriented.lasts (oriented : Oriented root past address context) :
    Oriented root (past ++ new) address context := by
  intro api inside
  obtain ⟨call, between, within, tracks⟩ := oriented api inside
  exact ⟨call, between, within.lasts new, tracks.lasts new⟩

end Lasting

section Below

variable {node : Node} {trail : Walk.Trail}

theorem Inside.below (inside : Inside root past address call api between)
    (place : nodeAt root address = some node) (fallback : node.isKind .callExpression = true →
      Recognized past (address, node) .firstThatWorks) :
    Inside root past (address ++ [trail]) call api (between ++ [(address, node)]) := by
  obtain ⟨above, split⟩ := inside.split
  refine { inside with split := ⟨above, ?_⟩, fallbacks := ?_ }
  · rw [Walk.lineage_snoc place, split, List.append_assoc, List.cons_append]
  · intro other member calls
    rcases List.mem_append.mp member with old | last
    · exact inside.fallbacks other old calls
    · cases List.mem_singleton.mp last
      exact fallback calls

theorem properties_other (other : node.isKind .keyValueProperty = false) :
    properties (between ++ [(address, node)]) = properties between := by
  simp [properties, other]

theorem properties_property (property : node.isKind .keyValueProperty = true) :
    properties (between ++ [(address, node)]) = properties between ++ [(address, node)] := by
  simp [properties, property]

variable {found : List (Address × Node)} {survey : Survey Completion}

theorem Tracks.names {property : Address × Node} {key : Option Label}
    (tracks : Tracks past api found context) (direct : Place.stylesDirectly api = true)
    (second : context.depth = propertyDepth) (keyed : Keyed past property key) :
    Tracks past api (found ++ [property])
      { context with property := key, depth := propertyDepth + 1 } := by
  have one : found.length = 1 := by
    have depth := tracks.depth direct
    rw [second, propertyDepth] at depth
    omega
  obtain ⟨first, rfl⟩ := List.length_eq_one_iff.mp one
  refine ⟨fun _ => rfl, ?_, fun defines => by simp [direct] at defines⟩
  rintro - _ _ _ ⟨⟩
  exact keyed

theorem Tracks.deepens {property : Address × Node} (tracks : Tracks past api found context)
    (direct : Place.stylesDirectly api = true) (other : context.depth ≠ propertyDepth) :
    Tracks past api (found ++ [property]) { context with depth := context.depth + 1 } := by
  have depth := tracks.depth direct
  refine ⟨fun _ => ?_, ?_, fun defines => by simp [direct] at defines⟩
  · simp [depth]
  · intro _ first second rest split
    match found with
    | [] => simp at split
    | [_] => exact absurd depth other
    | _ :: _ :: _ =>
        cases split
        exact tracks.second direct _ _ _ rfl

theorem Tracks.varies {property : Address × Node} {depth : Nat}
    (defines : Place.stylesDirectly api = false) :
    Tracks past api (found ++ [property])
      { context with property := some (.text customProperty), depth } :=
  ⟨fun direct => by simp [direct] at defines, fun direct => by simp [direct] at defines,
    fun _ _ => rfl⟩

end Below

end Around

section Passing

variable {query : Query} {root : Node} {duty : Duty Context} {survey later : Survey Completion}
  {action : Action Context} {past : List (Occasion Context (Survey Completion))} {context : Context}
  {ignore : List String} {trail : Walk.Trail}

theorem visit_now (entering : duty.stage = .enter) :
    Visit (past ++ [duty.occasion survey]) (duty.task.address, duty.task.node)
      (duty.occasion survey) :=
  ⟨by simp, entering, rfl⟩

theorem oriented_call (entering : duty.stage = .enter)
    (tagged : duty.task.node.kind = some .callExpression)
    (place : nodeAt root duty.task.address = some duty.task.node)
    (oriented : Oriented root past duty.task.address duty.task.state)
    (answered : (visitor query (handlers query)).respond duty survey = .ok action later)
    (applied : Walk.applyAction action duty.task.state duty.ignore = .ok (context, ignore)) :
    Oriented root (past ++ (visitor query (handlers query)).heard duty survey)
      (duty.task.address ++ [trail]) context := by
  obtain ⟨run, heard⟩ := Survey.own_of_respond entering tagged rfl rfl answered
  have deed := @atCall duty.task.node duty.task.parent duty.task.state survey
  rw [run] at deed
  rw [heard]
  cases deed with
  | leaves =>
      cases applied
      rintro api ⟨⟩
  | passes called recognized =>
      cases applied
      intro api inside
      obtain ⟨call, between, within, tracks⟩ := oriented api inside
      refine ⟨call, _, (within.lasts _).below place fun _ => ⟨_, _, visit_now entering, called,
        recognized⟩, ?_⟩
      rw [properties_other (by simp [Node.isKind, tagged])]
      exact tracks.lasts _
  | @enters callee api _ called recognized styles onward =>
      have entered : context = { duty.task.state with inside := some api, depth := 1 } := by
        rcases onward with rfl | ⟨paths, rfl⟩ <;> cases applied <;> rfl
      subst entered
      rintro _ ⟨⟩
      refine ⟨(duty.task.address, duty.task.node), [], ⟨⟨_, Walk.lineage_snoc place trail⟩,
        by simp [Node.isKind,
            tagged], ⟨_, _, visit_now entering, called, recognized⟩, styles, by simp⟩, ?_⟩
      exact ⟨fun _ => rfl, by simp [properties], by simp [properties]⟩

theorem oriented_property (entering : duty.stage = .enter)
    (tagged : duty.task.node.kind = some .keyValueProperty)
    (place : nodeAt root duty.task.address = some duty.task.node)
    (oriented : Oriented root past duty.task.address duty.task.state)
    (answered : (visitor query (handlers query)).respond duty survey = .ok action later)
    (applied : Walk.applyAction action duty.task.state duty.ignore = .ok (context, ignore)) :
    Oriented root (past ++ (visitor query (handlers query)).heard duty survey)
      (duty.task.address ++ [trail]) context := by
  obtain ⟨run, heard⟩ := Survey.own_of_respond entering tagged rfl rfl answered
  have deed := @atProperty duty.task.node duty.task.parent duty.task.state survey
  rw [run] at deed
  rw [heard]
  -- The property is the last one on the way below it.
  have below {api : Api} {passed : Context} (inside : duty.task.state.inside = some api)
      (same : passed.inside = some api)
      (tracks : ∀ found, Tracks (past ++ [duty.occasion survey]) api found duty.task.state →
        Tracks (past ++ [duty.occasion survey]) api
          (found ++ [(duty.task.address, duty.task.node)]) passed) :
      Oriented root (past ++ [duty.occasion survey]) (duty.task.address ++ [trail]) passed := by
    intro other there
    cases same.symm.trans there
    obtain ⟨call, between, within, known⟩ := oriented.lasts [duty.occasion survey] api inside
    refine ⟨call, _, within.below place fun calls => ?_, ?_⟩
    · simp [Node.isKind, tagged] at calls
    · rw [properties_property (by simp [Node.isKind, tagged])]
      exact tracks _ known
  cases deed with
  | keeps outside =>
      cases applied
      intro api inside
      simp [outside] at inside
  | names inside direct second keyed =>
      cases applied
      exact below inside inside fun _ known => known.names direct second ⟨_,
        visit_now entering, keyed⟩
  | deepens inside direct other =>
      cases applied
      exact below inside inside fun _ known => known.deepens direct other
  | varies inside defines =>
      cases applied
      exact below inside inside fun _ _ => .varies defines

theorem state_of_other (noCall : duty.task.node.isKind .callExpression = false)
    (noProperty : duty.task.node.isKind .keyValueProperty = false)
    (answered : (visitor query (handlers query)).respond duty survey = .ok action later)
    (applied : Walk.applyAction action duty.task.state duty.ignore = .ok (context, ignore)) :
    context = duty.task.state := by
  have kept : action = .keep ∨ action = .skipChildren := by
    cases Survey.handles_of_ok answered with
    | shared serving deed => exact deed.action
    | @own kind handler _ tagged free named run =>
        cases kind with
        | callExpression => simp [Node.isKind, tagged] at noCall
        | keyValueProperty => simp [Node.isKind, tagged] at noProperty
        | stringLiteral =>
            cases named
            have deed := @atString duty.task.node duty.task.parent query duty.task.state survey
            rw [run] at deed
            cases deed with
            | keeps => exact .inl rfl
            | passes => exact .inr rfl
            | finds => exact absurd rfl (Walk.respond_ne_abort answered)
        | _ => cases named
  rcases kept with rfl | rfl <;> cases applied
  rfl

theorem descends (query : Query) (root : Node) :
    Survey.Descends query (handlers query) {} root (Oriented root) := by
  refine ⟨?_, fun _ new _ _ oriented => oriented.lasts new, ?_⟩
  · rintro _ _ _ ⟨⟩
  · intro past duty survey action later context ignore seat entering place oriented
      answered applied _
    cases calls : duty.task.node.isKind .callExpression with
    | true =>
        exact oriented_call entering (by simpa [Node.isKind] using calls) place oriented
          answered applied
    | false =>
        cases property : duty.task.node.isKind .keyValueProperty with
        | true =>
            exact oriented_property entering (by simpa [Node.isKind] using property) place oriented
              answered applied
        | false =>
            have same := state_of_other calls property answered applied
            subst same
            intro api inside
            obtain ⟨call, between, within, tracks⟩ := oriented.lasts _ api inside
            refine ⟨call, _, within.below place fun other => by simp [calls] at other, ?_⟩
            rwa [properties_other property]

end Passing

section Answers

variable {query : Query} {root : Node} {duty : Duty Context} {survey : Survey Completion}
  {completion : Completion}

/-- The name of the property that a key stands for, when it is known and when it is not. -/
inductive Names : Option Label → String → Prop where
  | unknown : Names none customProperty
  | empty {key : Label} (empty : key.isEmpty = true) : Names (some key) customProperty
  | text {name : String} (nonempty : name ≠ "") : Names (some (.text name)) (Css.dashify name)

theorem names_of_spelled {key : Option Label} {name : String}
    (spelled : ((key.filter fun label => !label.isEmpty).getD customProperty).spelling = .ok name) :
    Names key (Css.dashify name) := by
  have custom : Css.dashify customProperty = customProperty := rfl
  cases key with
  | none =>
      cases spelled
      exact .unknown
  | some key =>
      cases empty : key.isEmpty with
      | true =>
          simp only [Option.filter_some, empty] at spelled
          cases spelled
          exact .empty empty
      | false =>
          simp only [Option.filter_some, empty] at spelled
          cases key with
          | text s =>
              cases spelled
              refine .text fun blank => ?_
              subst blank
              cases empty
          | _ => cases spelled

structure AtText (query : Query) (survey : Survey Completion) (node : Node) (context : Context)
    (api : Api) (completion : Completion) : Prop where
  kind : node.kind = some .stringLiteral
  inside : context.inside = some api
  wanted : context.property ≠ some (.text freeProperty)
  placed : survey.place node = .ok completion.span
  near : completion.span.contains query.cursor = true
  named : Names context.property completion.property
  value : node.label "value" = .ok completion.value

theorem atText_of_finds (finds : Survey.Finds (handlers query) duty survey completion) :
    ∃ api, AtText query survey duty.task.node duty.task.state api completion := by
  obtain ⟨kind, handler, later, tagged, named, run, found⟩ := finds.found
  cases kind with
  | callExpression =>
      cases named
      have deed := @atCall duty.task.node duty.task.parent duty.task.state survey
      rw [run] at deed
      cases deed with
      | enters _ _ _ onward => simp at onward
  | keyValueProperty =>
      cases named
      have deed := @atProperty duty.task.node duty.task.parent duty.task.state survey
      rw [run] at deed
      cases deed
  | stringLiteral =>
      cases named
      have deed := @atString duty.task.node duty.task.parent query duty.task.state survey
      rw [run] at deed
      cases deed with
      | finds inside wanted placed near spelled read =>
          cases found
          exact ⟨_, tagged, inside, wanted, placed, near, names_of_spelled spelled, read⟩
  | _ => cases named

/-- Where a completion comes from: a text under the cursor, in a call that was recognized before. -/
structure Naming (query : Query) (root : Node) (past : List (Occasion Context (Survey Completion)))
    (event : Occasion Context (Survey Completion)) (completion : Completion) : Prop where
  entered : event.call.stage = .enter
  kind : event.call.node.kind = some .stringLiteral
  place : Walk.Located root event.address event.call.node
  spanned : ∃ span whole, event.call.node.span = some span ∧ root.span = some whole ∧
    completion.span = span.shifted (query.startOffset - whole.start)
  near : completion.span.contains query.cursor = true
  value : event.call.node.label "value" = .ok completion.value
  named : ∃ call api between, Inside root past event.address call api between ∧
    (api = .create ∨ api = .keyframes →
      ∀ first second rest, properties between = first :: second :: rest →
        ∃ key, Keyed past second key ∧ key ≠ some (.text freeProperty) ∧
          Names key completion.property) ∧
    (api = .createTheme ∨ api = .defineVars → properties between ≠ [] → completion.property =
      customProperty)

end Answers

/-- A completion is for a text under the cursor. The innermost call around the text that is no
fallback was recognized when it was entered. In a call whose keys are properties, the name is that
of the second property below the call, as it was read when that was entered; in one that defines
variables, the name below a property is that of any of them. -/
theorem find_names {tree : Data} {root : Node} (sole : Survey.isSoleFile tree = true)
    (opened : Node.ofData tree = .ok root) (query : Query) (cancelled : Bool)
    {completion : Completion}
    (found : (find query cancelled tree).outcome = .ok (some completion)) :
    ∃ past event ending,
      Walk.Told (visitor query (handlers query)) root {} { cancelled } (past ++ [event]) ending ∧
      Naming query root past event completion := by
  unfold find at found
  split at found
  · obtain ⟨past, duty, survey, whole, ending, told, finds, place, spanned, origin, oriented⟩ :=
      Survey.found_of_find (closing query) (discreet query) (descends query root)
        (by rintro (_ | _) unit <;> first | rfl | cases unit) sole opened found
    obtain ⟨api, text⟩ := atText_of_finds finds
    obtain ⟨call, between, within, tracks⟩ := oriented api text.inside
    refine ⟨past, _, ending, told, finds.entering, text.kind, Walk.located_of_nodeAt place, ?_,
      text.near, text.value, call, api, between, within, ?_, ?_⟩
    · obtain ⟨span, given, same⟩ := Survey.span_of_place origin text.placed
      exact ⟨span, whole, given, spanned, same⟩
    · intro direct first second rest split
      have styles : Place.stylesDirectly api = true := by rcases direct with rfl | rfl <;> rfl
      exact ⟨_, tracks.second styles first second rest split, text.wanted, text.named⟩
    · intro defines some
      have defining : Place.stylesDirectly api = false := by rcases defines with rfl | rfl <;> rfl
      have named := text.named
      rw [tracks.custom defining some] at named
      generalize completion.property = name at named ⊢
      cases named with
      | empty empty => rfl
      | text => rfl
  · cases found

section Fallback

open Survey (written)

/-- A class with a color that is one of several values. -/
def fallbackFile : Data :=
  written "Module" 0 100 [
    ("imported", written "ImportDeclaration" 0 5 [
      ("specifiers", .list [
        written "ImportSpecifier" 1
          2 [("local", written "Identifier" 1 2 [("value", .text "create")])],
        written "ImportSpecifier" 2
          3 [("local", written "Identifier" 2 3 [("value", .text "firstThatWorks")])]]),
      ("source", written "StringLiteral" 3 4 [("value", .text "@stylexjs/stylex")])]),
    ("called", written "CallExpression" 10 90 [
      ("callee", written "Identifier" 11 17 [("value", .text "create")]),
      ("class", written "KeyValueProperty" 20 80 [
        ("key", written "Identifier" 21 22 [("value", .text "a")]),
        ("value", written "KeyValueProperty" 30 70 [
          ("key", written "Identifier" 31 36 [("value", .text "color")]),
          ("value", written "CallExpression" 40 60 [
            ("callee", written "Identifier" 41 45 [("value", .text "firstThatWorks")]),
            ("fallback", written "StringLiteral" 50 55 [("value", .text "red")])])])])])]

theorem find_fallback :
    (find ⟨52, {}, 0⟩ false fallbackFile).outcome =
      .ok (some ⟨"color", .text "red", ⟨50, 55⟩⟩) := by
  have opened : Node.ofData fallbackFile = .ok ⟨some .moduleUnit, some ⟨0, 100⟩, _⟩ := rfl
  refine Survey.outcome_of_reaches opened rfl ?_
  -- The file and its import.
  refine Walk.reaches_next rfl rfl rfl ?_
  refine Walk.reaches_children rfl rfl (by simp) rfl rfl (Walk.seatsLeft_sorted rfl (by decide)) ?_
  refine Walk.reaches_next rfl rfl rfl ?_
  refine Walk.reaches_next rfl rfl rfl ?_
  refine Walk.reaches_next rfl rfl rfl ?_
  -- The call and the class in it.
  refine Walk.reaches_next rfl rfl rfl ?_
  refine Walk.reaches_children rfl rfl (by simp) rfl rfl (Walk.seatsLeft_sorted rfl (by decide)) ?_
  refine Walk.reaches_next rfl rfl rfl ?_
  refine Walk.reaches_next rfl rfl rfl ?_
  refine Walk.reaches_children rfl rfl (by simp) rfl rfl (Walk.seatsLeft_sorted rfl (by decide)) ?_
  -- The color.
  refine Walk.reaches_next rfl rfl rfl ?_
  refine Walk.reaches_next rfl rfl rfl ?_
  refine Walk.reaches_children rfl rfl (by simp) rfl rfl (Walk.seatsLeft_sorted rfl (by decide)) ?_
  refine Walk.reaches_next rfl rfl rfl ?_
  refine Walk.reaches_next rfl rfl rfl ?_
  -- The fallback call and the text in it.
  refine Walk.reaches_children rfl rfl (by simp) rfl rfl (Walk.seatsLeft_sorted rfl (by decide)) ?_
  refine Walk.reaches_next rfl rfl rfl ?_
  refine Walk.reaches_next rfl rfl rfl ?_
  exact Walk.reaches_abort rfl rfl (onString_found rfl rfl (by decide) rfl rfl) ⟨_,
    _, rfl, rfl, rfl⟩

/-- The name is that of the color, from within the call for its fallbacks. -/
theorem find_names_fallback :
    ∃ root, Survey.isSoleFile fallbackFile = true ∧ Node.ofData fallbackFile = .ok root ∧
      (find ⟨52, {}, 0⟩ false fallbackFile).outcome = .ok (some ⟨"color", .text "red", ⟨50, 55⟩⟩) ∧
      ∃ past event ending,
        Walk.Told (visitor ⟨52, {}, 0⟩ (handlers ⟨52, {}, 0⟩)) root {} {} (past ++ [event]) ending ∧
        Naming ⟨52, {}, 0⟩ root past event ⟨"color", .text "red", ⟨50, 55⟩⟩ :=
  ⟨_, rfl, rfl, find_fallback,
    find_names (show Survey.isSoleFile fallbackFile = true from rfl) rfl
      ⟨52, {}, 0⟩ false find_fallback⟩

end Fallback

end StyleFold.Completion
