import StyleFold.Proofs.Style.Conduct

/-!
Where a hover comes from. Main statement: a hover is that of a property in the tree whose key is
under the cursor, with the value folded when the property was entered, and the innermost call
around the property was recognized before as one that takes styles; the argument of a theme that
names its variables has none.
-/

namespace StyleFold.Hover

open Survey (Partial visitor)
open Walk (Address Duty Occasion Stage lineage nodeAt)

variable {query : Query} {root : Node} {past : List (Occasion Nesting (Survey Hover))}
  {address : Address}

section Calls

def nearestCall (root : Node) (address : Address) : Option (Address × Node) :=
  ((lineage root address).filter fun above => above.2.isKind .callExpression).getLast?

theorem nearestCall_of_call {node : Node} (place : nodeAt root address = some node)
    (calls : node.isKind .callExpression = true) (trail : Walk.Trail) :
    nearestCall root (address ++ [trail]) = some (address, node) := by
  simp [nearestCall, Walk.lineage_snoc place, calls]

theorem nearestCall_of_other {node : Node} (place : nodeAt root address = some node)
    (other : node.isKind .callExpression = false) (trail : Walk.Trail) :
    nearestCall root (address ++ [trail]) = nearestCall root address := by
  simp [nearestCall, Walk.lineage_snoc place, other]

/-- The innermost call around a position was recognized when it was entered, as
one that takes styles. -/
structure StyledBy (root : Node) (past : List (Occasion Nesting (Survey Hover))) (address : Address)
    (visit : Occasion Nesting (Survey Hover)) (api : Api) : Prop where
  nearest : nearestCall root address = some (visit.address, visit.call.node)
  visited : visit ∈ past
  entered : visit.call.stage = .enter
  recognized : ∃ callee, visit.call.node.child "callee" = .ok callee ∧
    visit.world.table.calledApi? callee.val = .ok (some api)
  styles : api ∈ [.create, .createTheme, .defineVars, .keyframes]
  /-- The first argument of a theme is left out. -/
  theme : api = .createTheme → ∀ trail rest, address = visit.address ++ trail :: rest →
    ¬ trail.Begins ["arguments.0"]

def Styled (root : Node) (past : List (Occasion Nesting (Survey Hover))) (address : Address) :
    Prop :=
  ∃ visit api, StyledBy root past address visit api

theorem Styled.lasts (styled : Styled root past address)
    (new : List (Occasion Nesting (Survey Hover))) :
    Styled root (past ++ new) address := by
  obtain ⟨visit, api, call⟩ := styled
  exact ⟨visit, api, { call with visited := List.mem_append_left _ call.visited }⟩

theorem Styled.child {node : Node} (styled : Styled root past address)
    (place : nodeAt root address = some node) (other : node.isKind .callExpression = false)
    (trail : Walk.Trail) : Styled root past (address ++ [trail]) := by
  obtain ⟨visit, api, call⟩ := styled
  refine ⟨visit, api, { call with
    nearest := (nearestCall_of_other place other trail).trans call.nearest, theme := ?_ }⟩
  intro theme first rest split
  -- The call is above the node, so the way down from it starts alike.
  obtain ⟨⟨tail, below⟩, apart⟩ := Walk.prefix_of_lineage
    (List.mem_filter.mp (List.mem_of_getLast? call.nearest)).1
  cases tail with
  | nil => exact absurd (by simpa using below) apart
  | cons step more =>
      rw [← below, List.append_assoc, List.append_cancel_left_eq] at split
      cases split
      exact call.theme theme first more below.symm

end Calls

section Answers

variable {duty : Duty Nesting} {survey later : Survey Hover} {action : Walk.Action Nesting}

/-- The handler for hovers that serves a node, if one does. -/
inductive Answers (query : Query) (duty : Duty Nesting) (survey : Survey Hover) :
    EStateM.Result Fault (Survey Hover) (Walk.Action Nesting) → Prop where
  | shared {role : Survey.Role}
      {result : EStateM.Result Fault (Survey Hover) (Walk.Action Nesting)}
      (other : duty.stage = .enter → duty.task.node.isKind .callExpression = false)
      (deed : Survey.Does query duty.task.node survey role result) :
      Answers query duty survey result
  | call {result : EStateM.Result Fault (Survey Hover) (Walk.Action Nesting)}
      (entering : duty.stage = .enter) (tagged : duty.task.node.kind = some .callExpression)
      (deed : AtCall duty.task.node duty.task.state survey result) :
      Answers query duty survey result
  | property {result : EStateM.Result Fault (Survey Hover) (Walk.Action Nesting)}
      (entering : duty.stage = .enter) (tagged : duty.task.node.kind = some .keyValueProperty)
      (deed : AtProperty query duty.task.node duty.task.state survey result) :
      Answers query duty survey result

theorem answers {handler : Survey.Handler Nesting Hover}
    (named : (visitor query (handlers query)).handler duty.stage duty.task.node = some handler) :
    Answers query duty survey (handler duty.task.node duty.task.state duty.task.parent survey) := by
  obtain ⟨stage, ⟨address, node, nesting, parent⟩, ignore⟩ := duty
  obtain ⟨role, serving, serves⟩ := @Survey.serves Nesting Hover stage node.kind
  rw [serves query (handlers query) node rfl] at named
  dsimp only at named serving ⊢
  by_cases mine : ∃ kind, role = .own kind
  · obtain ⟨kind, rfl⟩ := mine
    generalize tagged : node.kind = tag at serving
    cases serving
    cases kind with
    | callExpression =>
        cases named
        exact .call rfl tagged atCall
    | keyValueProperty =>
        cases named
        exact .property rfl tagged atProperty
    | _ => cases named
  · refine .shared (fun entering => ?_) (Survey.does (fun kind same => mine ⟨kind, same⟩) named)
    dsimp only at entering
    subst entering
    rw [Node.isKind]
    generalize node.kind = tag at serving
    cases serving with
    | @file kind unit => cases kind <;> first | rfl | cases unit
    | own => exact absurd ⟨_, rfl⟩ mine
    | _ => rfl

theorem found_of_respond
    (answered : (visitor query (handlers query)).respond duty survey = .ok action later) :
    later.found = survey.found := by
  rcases Walk.respond_ok answered with ⟨_, _, rfl⟩ | ⟨handler, named, run⟩
  · rfl
  · have deed := @answers query duty survey handler named
    rw [run] at deed
    cases deed with
    | shared other deed => exact deed.keeps.1
    | call entering tagged deed => cases deed <;> rfl
    | property entering tagged deed =>
        cases deed with
        | finds => exact absurd rfl (Walk.respond_ne_abort answered)
        | _ => rfl

/-- What is passed down: at a call whether it is recognized, elsewhere what came from above. -/
theorem inside_of_respond (entering : duty.stage = .enter)
    (answered : (visitor query (handlers query)).respond duty survey = .ok action later)
    {nesting : Nesting} {ignore : List String}
    (applied : Walk.applyAction action duty.task.state duty.ignore = .ok (nesting, ignore))
    (inside : nesting.inside.isSome) :
    (duty.task.node.isKind .callExpression = false ∧ duty.task.state.inside.isSome) ∨
      (duty.task.node.isKind .callExpression = true ∧
        (visitor query (handlers query)).heard duty survey = [duty.occasion survey] ∧
        ∃ callee api, duty.task.node.child "callee" = .ok callee ∧
          survey.table.calledApi? callee.val = .ok (some api) ∧ api ≠ .firstThatWorks ∧
          (api = .createTheme → "arguments.0" ∈ ignore)) := by
  have keeps (same : action = .keep ∨ action = .skipChildren) : nesting = duty.task.state := by
    rcases same with rfl | rfl
    · cases applied
      rfl
    · cases applied
  rcases Walk.respond_ok answered with ⟨missing, same, _⟩ | ⟨handler, named, run⟩
  · refine .inl ⟨?_, keeps (.inl same) ▸ inside⟩
    cases calls : duty.task.node.isKind .callExpression with
    | false => rfl
    | true =>
        have tagged : duty.task.node.kind = some .callExpression := by
          simpa [Node.isKind] using calls
        rw [entering, Walk.Visitor.handler, tagged] at missing
        cases missing
  -- Only a call changes what the nodes below it are inside of.
  · have deed := @answers query duty survey handler named
    rw [run] at deed
    cases deed with
    | shared other deed => exact .inl ⟨other entering, keeps deed.action ▸ inside⟩
    | property _ tagged deed =>
        refine .inl ⟨by simp [Node.isKind, tagged], ?_⟩
        cases deed with
        | keeps => exact keeps (.inl rfl) ▸ inside
        | descends styled => exact styled
        | refuses | finds => exact absurd rfl (Walk.respond_ne_abort answered)
    | call _ tagged deed =>
        refine .inr ⟨by simp [Node.isKind, tagged], Walk.heard_of_entering entering named, ?_⟩
        cases deed with
        | leaves =>
            cases applied
            cases inside
        | enters called recognized styles onward theme =>
            refine ⟨_, _, called, recognized, styles, fun same => ?_⟩
            rw [theme same] at applied
            cases applied
            simp

end Answers

section Searching

variable {duty : Duty Nesting} {rest more : List (Duty Nesting)} {survey later : Survey Hover}

/-- A node with no file in it, and with a recognized call around it if it is in one. -/
structure Sound (root : Node) (past : List (Occasion Nesting (Survey Hover)))
    (duty : Duty Nesting) : Prop where
  part : Partial duty.task.node
  styled : duty.task.state.inside.isSome → Styled root past duty.task.address

inductive Searching (query : Query) (root : Node) :
    List (Duty Nesting) → Survey Hover → List (Occasion Nesting (Survey Hover)) → Prop where
  | arriving {survey : Survey Hover} {past : List (Occasion Nesting (Survey Hover))}
      (nothing : survey.found = none) :
      Searching query root [.arrive (Walk.rootTask root {})] survey past
  | entering {survey : Survey Hover} {past : List (Occasion Nesting (Survey Hover))}
      (nothing : survey.found = none) :
      Searching query root [⟨.enter, Walk.rootTask root {}, []⟩] survey past
  | inside {agenda : List (Duty Nesting)} {survey : Survey Hover}
      {past : List (Occasion Nesting (Survey Hover))} {whole : Span} (nothing : survey.found = none)
      (spanned : root.span = some whole) (origin : survey.origin = whole.start - query.startOffset)
      (orderly : Walk.Orderly root agenda)
      (sound : ∀ duty ∈ agenda, duty.stage ≠ .leave → Sound root past duty) :
      Searching query root agenda survey past

theorem Sound.lasts {duty : Duty Nesting} (sound : Sound root past duty)
    (new : List (Occasion Nesting (Survey Hover))) : Sound root (past ++ new) duty :=
  ⟨sound.part, fun inside => (sound.styled inside).lasts new⟩

theorem sound_below {task : Walk.Task Nesting} {found : List Walk.Seat}
    (part : ∀ seat ∈ found, Partial seat.node) (styled : task.state.inside.isSome → ∀ seat ∈ found,
      Styled root past (task.address ++ [seat.trail])) :
    ∀ duty ∈ task.below found, duty.stage ≠ .leave → Sound root past duty := by
  intro duty member early
  rcases List.mem_append.mp member with child | last
  · obtain ⟨seat, present, rfl⟩ := List.mem_map.mp child
    exact ⟨part seat present, fun inside => styled inside seat present⟩
  · rw [List.mem_singleton.mp last] at early
    exact absurd rfl early

theorem sound_next (orderly : Walk.Orderly root (duty :: rest))
    (sound : duty.stage ≠ .leave → Sound root past duty) {action : Walk.Action Nesting}
    (answered : (visitor query (handlers query)).respond duty survey = .ok action later)
    (next : duty.Next action more) :
    ∀ other ∈ more, other.stage ≠ .leave →
      Sound root (past ++ (visitor query (handlers query)).heard duty survey) other := by
  cases next with
  | nothing => simp
  | @enter early nesting ignore applied =>
      have here := sound (by simp [early])
      have same : nesting = duty.task.state := by
        rcases Walk.respond_ok answered with ⟨_, rfl, _⟩ | ⟨handler, named, run⟩
        · cases applied
          rfl
        · have deed := @answers query duty survey handler named
          rw [run] at deed
          cases deed with
          | shared other deed =>
              rcases deed.action with rfl | rfl <;> cases applied
              rfl
          | call entering | property entering => simp [early] at entering
      subst same
      rintro other member -
      rw [List.mem_singleton.mp member]
      exact ⟨here.part, fun inside => (here.styled inside).lasts _⟩
  | skip entering skips => exact sound_below (by simp) (by simp)
  | @below entering nesting ignore applied found collected =>
      have here := sound (by simp [entering])
      have child {seat : Walk.Seat} (member : seat ∈ Walk.seatsLeft duty.task.node ignore) :=
        Walk.mem_seatsLeft.mp member
      refine sound_below (fun seat member => here.part.child (child member).1)
        fun inside seat member => ?_
      rcases inside_of_respond entering answered applied inside with
        ⟨other, before⟩ | ⟨calls, heard, callee, api, called, recognized, styles, theme⟩
      · exact ((here.styled before).lasts _).child orderly.1.node other seat.trail
      -- The node itself is the call that its children stand in.
      · refine ⟨duty.occasion survey, api, nearestCall_of_call orderly.1.node calls seat.trail,
          by simp [heard], entering, ⟨callee, called, recognized⟩, ?_, ?_⟩
        · cases api with
          | firstThatWorks => exact absurd rfl styles
          | _ => simp
        · intro same trail rest split
          rw [Duty.occasion, List.append_cancel_left_eq] at split
          cases split
          rintro ⟨start, some, begins, path⟩
          exact (child member).2 ⟨start, some, begins, List.mem_singleton.mp path ▸ theme same⟩

theorem searching_step (unit : root.kind.any Survey.isUnit = true)
    (parts : EachField (Survey.isPart · = true) root.entries)
    (searching : Searching query root (duty :: rest) survey past)
    (step : (visitor query (handlers query)).perform duty survey = .ok more later) :
    Searching query root (more ++ rest) later
      (past ++ (visitor query (handlers query)).heard duty survey) := by
  generalize agenda : duty :: rest = duties at searching
  cases searching with
  | arriving nothing =>
      cases agenda
      rw [Survey.perform_arrive unit] at step
      split at step
      · cases step
      · cases step
        exact .entering nothing
  | entering nothing =>
      cases agenda
      rw [Survey.perform_enter unit] at step
      cases spanned : root.span with
      | none => simp [spanned] at step
      | some whole =>
          cases collected : Walk.children root [] with
          | error fault => simp [spanned, collected] at step
          | ok found =>
              simp only [spanned, collected, EStateM.Result.ok.injEq] at step
              obtain ⟨rfl, rfl⟩ := step
              have child {seat : Walk.Seat} (member : seat ∈ Walk.seatsLeft root []) :=
                (Walk.mem_seatsLeft.mp member).1
              refine .inside nothing spanned rfl ?_ ?_
              · exact Walk.orderly_below ⟨rfl, rfl, rfl⟩ trivial
                  fun seat member => Walk.mem_seats.mpr (child member)
              · rw [List.append_nil]
                exact sound_below (fun seat member => ⟨Walk.opened_child (child member),
                  Walk.each_child (child member) parts⟩) (by simp [Walk.rootTask])
  | inside nothing spanned origin orderly sound =>
      subst agenda
      obtain ⟨-, action, answered, next⟩ := Walk.perform_ok step
      have here (early : duty.stage ≠ .leave) := sound duty List.mem_cons_self early
      have onward := Walk.next_ok next
      obtain ⟨stays, -⟩ := Survey.anchored (discreet query) answered
        fun entering => (here (by simp [entering])).part.kind
      refine .inside ((found_of_respond answered).trans nothing) spanned (stays.trans origin)
        (Walk.orderly_next orderly onward) fun other member early => ?_
      rcases List.mem_append.mp member with new | old
      · exact sound_next orderly here answered onward other new early
      · exact (sound other (List.mem_cons_of_mem _ old) early).lasts _

/-- Where a hover comes from: the call of the handler for properties at a property of the tree. -/
structure Provenance (query : Query) (root : Node) (past : List (Occasion Nesting (Survey Hover)))
    (event : Occasion Nesting (Survey Hover)) (hover : Hover) : Prop where
  entered : event.call.stage = .enter
  kind : event.call.node.kind = some .keyValueProperty
  place : Walk.Located root event.address event.call.node
  key : ∃ key span whole, event.call.node.child "key" = .ok key ∧ key.val.span = some span ∧
    root.span = some whole ∧ hover.span = span.shifted (query.startOffset - whole.start)
  near : hover.span.contains query.cursor = true
  value : ∃ value, event.call.node.child "value" = .ok value ∧
    Fold.eval event.world.table value.val = .ok hover.value
  styled : Styled root past event.address

theorem key_of_place {node : Node} {whole span : Span} (spanned : root.span = some whole)
    (origin : survey.origin = whole.start - query.startOffset)
    {key : { inner : Node // inner.size < node.size }}
    (keyed : node.child "key" = .ok key) (placed : survey.place key.val = .ok span) :
    ∃ key place whole, node.child "key" = .ok key ∧ key.val.span = some place ∧
    root.span = some whole ∧
      span = place.shifted (query.startOffset - whole.start) := by
  unfold Survey.place at placed
  cases given : key.val.span with
  | none => simp [given] at placed
  | some place =>
      simp only [given, Survey.relative, origin, Except.ok.injEq] at placed
      refine ⟨key, place, whole, keyed, given, spanned, ?_⟩
      rw [← placed, Int.neg_sub]

theorem searching_stop (unit : root.kind.any Survey.isUnit = true)
    (searching : Searching query root (duty :: rest) survey past) {stop : Walk.Stop}
    (step : (visitor query (handlers query)).perform duty survey = .error stop later)
    {hover : Hover} (found : later.found = some hover) :
    ∃ event, (visitor query (handlers query)).heard duty survey = [event] ∧
      Provenance query root past event hover := by
  generalize agenda : duty :: rest = duties at searching
  cases searching with
  | arriving nothing =>
      cases agenda
      rw [Survey.perform_arrive unit] at step
      split at step
      · cases step
        simp [nothing] at found
      · cases step
  | entering nothing =>
      cases agenda
      rw [Survey.perform_enter unit] at step
      cases spanned : root.span with
      | none =>
          simp only [spanned, EStateM.Result.error.injEq] at step
          simp [← step.2, nothing] at found
      | some whole =>
          cases collected : Walk.children root [] with
          | ok => simp [spanned, collected] at step
          | error fault =>
              simp only [spanned, collected, EStateM.Result.error.injEq] at step
              simp [← step.2, nothing] at found
  | inside nothing spanned origin orderly sound =>
      subst agenda
      rcases Walk.perform_error step with ⟨_, rfl, _⟩ | answered | ⟨action, _, answered, _⟩
      · simp [nothing] at found
      · obtain ⟨handler, named, ⟨-, run⟩ | ⟨fault, -, run⟩⟩ := Walk.respond_error answered
        · have deed := @answers query duty survey handler named
          rw [run] at deed
          cases deed with
          | shared other deed => rcases deed.action with same | same <;> cases same
          | call _ _ deed =>
              cases deed with
              | enters _ _ _ onward => simp at onward
          -- A property ends the survey with the hover of its key, or with none.
          | property entering tagged deed =>
              cases deed with
              | refuses => simp [nothing] at found
              | finds inside valued keyed placed near evaluated =>
                  cases found
                  have early : duty.stage ≠ .leave := by simp [entering]
                  exact ⟨_, Walk.heard_of_entering entering named, entering, tagged,
                    Walk.located_of_nodeAt orderly.1.node,
                    key_of_place spanned origin keyed placed, near, ⟨_, valued, evaluated⟩,
                    (sound duty List.mem_cons_self early).styled inside⟩
        · have deed := @answers query duty survey handler named
          rw [run] at deed
          cases deed with
          | shared other deed => simp [deed.fails, nothing] at found
          | call _ _ deed | property _ _ deed =>
              cases deed
              simp [nothing] at found
      · simp [found_of_respond answered, nothing] at found

end Searching

end StyleFold.Hover

namespace StyleFold

open Hover (Provenance) in
/-- A hover is that of a property whose key is under the cursor, with the value that the
property folded to when it was entered. The innermost call around the property had been
recognized as one that takes styles, and if it makes a theme, the property is not in the
argument that names the variables. -/
theorem hover_comes_from_property {tree : Data} {root : Node} (sole : Survey.isSoleFile tree = true)
    (opened : Node.ofData tree = .ok root) (query : Query) (cancelled : Bool) {hover : Hover}
    (found : (Hover.find query cancelled tree).outcome = .ok (some hover)) :
    ∃ past event ending,
      Walk.Told (Survey.visitor query (Hover.handlers query)) root {} { cancelled }
        (past ++ [event]) ending ∧
      Provenance query root past event hover ∧
        hover.contents = "```css\n" ++ hover.css ++ "\n```" := by
  obtain ⟨unit, parts⟩ := Survey.parts_of_isSoleFile sole opened
  have tagged : root.kind.isSome := by
    cases kind : root.kind <;> simp_all
  obtain ⟨events, ending, told⟩ :=
    Walk.walk_told (Survey.visitor query (Hover.handlers query)) tagged {} { cancelled }
  obtain ⟨-, completes, stops⟩ := @Walk.Runs.keeps _ _ (Survey.visitor query (Hover.handlers query))
    (Hover.Searching query root) (fun _ _ => True)
    (fun _ later events => ∀ hover, later.found = some hover →
      ∃ past event, events = past ++ [event] ∧ Provenance query root past event hover)
    (fun _ _ _ _ _ _ _ => trivial)
    (fun _ _ _ _ _ _ searching step => Hover.searching_step unit parts searching step)
    (fun _ _ _ past _ _ searching step hover found => by
      obtain ⟨event, heard, comes⟩ := Hover.searching_stop unit searching step found
      exact ⟨past, event, by rw [heard], comes⟩)
    _ _ _ _ told.recorded [] (.arriving rfl)
  have last : ∃ stop later, ending = .error stop later ∧ later.found = some hover := by
    have running {survey : Survey Hover}
        (here : (if survey.cancelled then none else survey.found) = some hover) :
        survey.found = some hover := by
      split at here
      · cases here
      · exact here
    unfold Hover.find at found
    split at found
    · simp only [Survey.runData, opened, Survey.run, told.ends] at found
      cases ending with
      | ok value survey =>
          cases completes survey rfl with
          | inside nothing =>
              simp only [Walk.conclude, Except.ok.injEq] at found
              simp [running found] at nothing
      | error stop survey =>
          refine ⟨stop, survey, rfl, ?_⟩
          cases stop with
          | aborted | cancelled =>
              simp only [Walk.conclude, Except.ok.injEq] at found
              exact running found
          | faulted fault => cases found
    · cases found
  obtain ⟨stop, later, ends, there⟩ := last
  obtain ⟨past, event, split, comes⟩ := stops stop later ends hover there
  rw [List.nil_append] at split
  subst split
  exact ⟨past, event, ending, told, comes, rfl⟩

theorem hover_of_theme_comes_from_property :
    ∃ root hover, Survey.isSoleFile (nodeNamed 0) = true ∧ Node.ofData (nodeNamed 0) = .ok root ∧
      (Hover.find ⟨32, {}, 0⟩ false (nodeNamed 0)).outcome = .ok (some hover) ∧
      ∃ past event ending,
        Walk.Told (Survey.visitor ⟨32, {}, 0⟩ (Hover.handlers ⟨32, {}, 0⟩)) root {} {}
          (past ++ [event]) ending ∧
        Hover.Provenance ⟨32, {}, 0⟩ root past event hover ∧
        hover.contents = "```css\n" ++ hover.css ++ "\n```" :=
  have found := hover_nodeNamed (.inl rfl)
  ⟨_, _, rfl, rfl, found,
    hover_comes_from_property (show Survey.isSoleFile (nodeNamed 0) = true from rfl)
      rfl _ false found⟩

end StyleFold
