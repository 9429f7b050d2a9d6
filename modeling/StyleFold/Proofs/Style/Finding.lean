import StyleFold.Proofs.Style.Conduct

/-!
How a search comes to what it finds. Its handlers stop it as soon as they have found something. Main
statements: what a search answers was found by its last call, with nothing found before, and
whatever every duty of the search keeps up to a call holds at that call; in a file that holds no
other, so does what is passed down from each node to its children.
-/

namespace StyleFold.Survey

open Walk (Action Duty Occasion)

variable {State Finding : Type} {query : Query} {own : Kind → Option (Handler State Finding)}
  {duty : Duty State} {survey later : Survey Finding} {finding : Finding}

section Closing

theorem ok_of_attempt {World α β : Type} {outcome : Except Fault α}
    {next : α → EStateM Fault World β} {world : World} {result : β} {later : World}
    (run : (Walk.attempt outcome >>= next) world = .ok result later) :
    ∃ value, outcome = .ok value ∧ next value world = .ok result later := by
  cases outcome with
  | error fault => cases run
  | ok value => exact ⟨value, rfl, run⟩

/-- Unless it stops the search, a handler finds nothing. -/
inductive Closes (survey : Survey Finding) :
    EStateM.Result Fault (Survey Finding) (Action State) → Prop where
  | passes {action : Action State} {later : Survey Finding} (same : later.found = survey.found) :
      Closes survey (.ok action later)
  | fails {fault : Fault} {later : Survey Finding} (same : later.found = survey.found) :
      Closes survey (.error fault later)
  | stops {later : Survey Finding} : Closes survey (.ok .abort later)

def Closing (own : Kind → Option (Handler State Finding)) : Prop :=
  ∀ kind handler, own kind = some handler → ∀ node state parent survey,
    Closes survey (handler node state parent survey)

structure Finds (own : Kind → Option (Handler State Finding)) (duty : Duty State)
    (survey : Survey Finding) (finding : Finding) : Prop where
  entering : duty.stage = .enter
  nothing : survey.found = none
  found : ∃ kind handler later, duty.task.node.kind = some kind ∧ own kind = some handler ∧
    handler duty.task.node duty.task.state duty.task.parent survey = .ok .abort later ∧
    later.found = some finding

theorem own_of_respond {kind : Kind} {handler : Handler State Finding}
    (entering : duty.stage = .enter) (tagged : duty.task.node.kind = some kind)
    (free : isShared kind = false) (named : own kind = some handler) {action : Action State}
    (answered : (visitor query own).respond duty survey = .ok action later) :
    handler duty.task.node duty.task.state duty.task.parent survey = .ok action later ∧
      (visitor query own).heard duty survey = [duty.occasion survey] := by
  have serving : (visitor query own).handler duty.stage duty.task.node = some handler := by
    rw [entering, Walk.Visitor.handler, tagged]
    cases kind <;> first | exact named | cases free
  rcases Walk.respond_ok answered with ⟨missing, -, -⟩ | ⟨other, serves, run⟩
  · simp [serving] at missing
  · cases serving.symm.trans serves
    exact ⟨run, Walk.heard_of_entering entering serving⟩

theorem found_kept (closing : Closing own) {action : Action State}
    (answered : (visitor query own).respond duty survey = .ok action later) :
    later.found = survey.found := by
  cases handles_of_ok answered with
  | shared serving deed => exact deed.keeps.1
  | own entering tagged free named run =>
      have closes := closing _ _ named duty.task.node duty.task.state duty.task.parent survey
      rw [run] at closes
      cases closes with
      | passes same => exact same
      | stops => exact absurd rfl (Walk.respond_ne_abort answered)

/-- A search that stops with something new has been stopped by a call that found it. -/
theorem finds_of_stop (closing : Closing own) {stop : Walk.Stop}
    (step : (visitor query own).perform duty survey = .error stop later)
    (nothing : survey.found = none) (found : later.found = some finding) :
    Finds own duty survey finding ∧
      (visitor query own).heard duty survey = [duty.occasion survey] := by
  have old {other : Survey Finding} (same : other.found = survey.found) :
      other.found ≠ some finding := by
    simp [same, nothing]
  rcases Walk.perform_error step with ⟨-, rfl, -⟩ | answered | ⟨action, -, answered, -⟩
  · exact absurd found (old rfl)
  · obtain ⟨handler, named, -⟩ := Walk.respond_error answered
    rcases handles_of_error answered with ⟨-, handles⟩ | ⟨fault, -, handles⟩
    · cases handles with
      | shared serving deed => exact absurd found (old deed.keeps.1)
      | own entering tagged free named' run =>
          exact ⟨⟨entering, nothing, _, _, _, tagged, named', run, found⟩,
            Walk.heard_of_entering entering named⟩
    · cases handles with
      | shared serving deed => exact absurd found (old deed.fails)
      | own entering tagged free named' run =>
          have closes := closing _ _ named' duty.task.node duty.task.state duty.task.parent survey
          rw [run] at closes
          cases closes with
          | fails same => exact absurd found (old same)
  · exact absurd found (old (found_kept closing answered))

end Closing

section Answers

variable {state : State} {cancelled : Bool} {root : Node} {tree : Data}

/-- The last call of a search, and what is kept up to it. -/
structure Reached (query : Query) (own : Kind → Option (Handler State Finding)) (state : State)
    (cancelled : Bool) (root : Node)
    (Inv : List (Duty State) → Survey Finding → List (Occasion State (Survey Finding)) → Prop)
    (past : List (Occasion State (Survey Finding))) (duty : Duty State) (survey : Survey Finding)
    (finding : Finding) : Prop where
  told : ∃ ending, Walk.Told (visitor query own) root state { cancelled }
    (past ++ [duty.occasion survey]) ending
  kept : ∃ rest, Inv (duty :: rest) survey past
  finds : Finds own duty survey finding

theorem reached_of_run (closing : Closing own) (tagged : root.kind.isSome)
    {Inv : List (Duty State) → Survey Finding → List (Occasion State (Survey Finding)) → Prop}
    (start : Inv [.arrive (Walk.rootTask root state)] { cancelled } [])
    (goes : ∀ duty rest survey past more later, Inv (duty :: rest) survey past →
      (visitor query own).perform duty survey = .ok more later →
      Inv (more ++ rest) later (past ++ (visitor query own).heard duty survey))
    (answer : (run query own state cancelled root).outcome = .ok (some finding)) :
    ∃ past duty survey, Reached query own state cancelled root Inv past duty survey finding := by
  obtain ⟨events, ending, told⟩ := Walk.walk_told (visitor query own) tagged state { cancelled }
  -- Up to the last call nothing is found, so a run that completes answers nothing.
  obtain ⟨-, completes, stops⟩ := @Walk.Runs.keeps _ _ (visitor query own)
    (fun agenda survey past => survey.found = none ∧ Inv agenda survey past) (fun _ _ => True)
    (fun _ later events => ∀ finding, later.found = some finding → ∃ past duty survey,
      events = past ++ [duty.occasion survey] ∧ (∃ rest, Inv (duty :: rest) survey past) ∧
        Finds own duty survey finding)
    (fun _ _ _ _ _ _ _ => trivial)
    (fun _ _ _ _ _ _ kept step => by
      obtain ⟨-, action, answered, -⟩ := Walk.perform_ok step
      exact ⟨(found_kept closing answered).trans kept.1, goes _ _ _ _ _ _ kept.2 step⟩)
    (fun _ rest _ past _ _ kept step finding found => by
      obtain ⟨finds, heard⟩ := finds_of_stop closing step kept.1 found
      exact ⟨past, _, _, by rw [heard], ⟨rest, kept.2⟩, finds⟩)
    _ _ _ _ told.recorded [] ⟨rfl, start⟩
  have running {survey : Survey Finding}
      (here : (if survey.cancelled then none else survey.found) = some finding) :
      survey.found = some finding := by
    split at here
    · cases here
    · exact here
  have last : ∃ stop later, ending = .error stop later ∧ later.found = some finding := by
    simp only [run, told.ends] at answer
    cases ending with
    | ok value survey =>
        simp only [Walk.conclude, Except.ok.injEq] at answer
        simp [(completes survey rfl).1] at answer
    | error stop survey =>
        refine ⟨stop, survey, rfl, ?_⟩
        cases stop with
        | aborted | cancelled =>
            simp only [Walk.conclude, Except.ok.injEq] at answer
            exact running answer
        | faulted fault => cases answer
  obtain ⟨stop, later, ends, found⟩ := last
  obtain ⟨past, duty, survey, split, kept, finds⟩ := stops stop later ends finding found
  rw [List.nil_append] at split
  subst split
  exact ⟨past, duty, survey, ⟨_, told⟩, kept, finds⟩

theorem finds_of_answer (closing : Closing own) (tagged : root.kind.isSome)
    (answer : (run query own state cancelled root).outcome = .ok (some finding)) :
    ∃ past duty survey ending,
      Walk.Told (visitor query own) root state { cancelled }
        (past ++ [duty.occasion survey]) ending ∧
      Finds own duty survey finding := by
  obtain ⟨past, duty, survey, ⟨ending, told⟩, -, finds⟩ :=
    @reached_of_run _ _ _ _ _ _ _ _ closing tagged
    (fun _ _ _ => True) trivial (fun _ _ _ _ _ _ _ _ => trivial) answer
  exact ⟨past, duty, survey, ending, told, finds⟩

/-- A search in a tree that is given as data answers what it finds in the
node that is read from it. -/
theorem opened_of_answer
    (answer : (runData query own state cancelled tree).outcome = .ok (some finding)) :
    ∃ root, Node.ofData tree = .ok root ∧ root.kind.isSome ∧
      (run query own state cancelled root).outcome = .ok (some finding) := by
  unfold runData at answer
  split at answer
  · rename_i root opened
    refine ⟨root, opened, ?_, answer⟩
    cases tagged : root.kind with
    | some kind => rfl
    | none => simp [run, Walk.walk, tagged] at answer
  · cases answer

end Answers

section Descent

variable {start : State} {root : Node}
  {Holds : List (Occasion State (Survey Finding)) → Walk.Address → State → Prop}
  {past : List (Occasion State (Survey Finding))} {rest more : List (Duty State)}

/-- What holds of the state that is given down to a position, after the calls until then. -/
structure Descends (query : Query) (own : Kind → Option (Handler State Finding)) (start : State)
    (root : Node) (Holds : List (Occasion State (Survey Finding)) → Walk.Address → State → Prop) :
    Prop where
  first : ∀ past trail, Holds past [trail] start
  lasts : ∀ past new address state, Holds past address state → Holds (past ++ new) address state
  child : ∀ past (duty : Duty State) survey action later state ignore (seat : Walk.Seat),
    duty.stage = .enter → Walk.nodeAt root duty.task.address = some duty.task.node →
    Holds past duty.task.address duty.task.state →
    (visitor query own).respond duty survey = .ok action later →
    Walk.applyAction action duty.task.state duty.ignore = .ok (state, ignore) →
    seat ∈ Walk.seatsLeft duty.task.node ignore →
    Holds (past ++ (visitor query own).heard duty survey) (duty.task.address ++ [seat.trail]) state

/-- A search in a file: before the file is opened, and in it. -/
inductive Underway (query : Query) (start : State) (root : Node)
    (Holds : List (Occasion State (Survey Finding)) → Walk.Address → State → Prop) :
    List (Duty State) → Survey Finding → List (Occasion State (Survey Finding)) → Prop where
  | arriving {survey : Survey Finding} {past : List (Occasion State (Survey Finding))} :
      Underway query start root Holds [.arrive (Walk.rootTask root start)] survey past
  | entering {survey : Survey Finding} {past : List (Occasion State (Survey Finding))} :
      Underway query start root Holds [⟨.enter, Walk.rootTask root start, []⟩] survey past
  | inside {agenda : List (Duty State)} {survey : Survey Finding}
      {past : List (Occasion State (Survey Finding))} {whole : Span}
      (spanned : root.span = some whole) (origin : survey.origin = whole.start - query.startOffset)
      (orderly : Walk.Orderly root agenda)
      (part : ∀ duty ∈ agenda, duty.stage ≠ .leave → Partial duty.task.node)
      (holds : ∀ duty ∈ agenda, duty.stage ≠ .leave →
        Holds past duty.task.address duty.task.state) :
      Underway query start root Holds agenda survey past

theorem each_below {Good : Duty State → Prop} {task : Walk.Task State} {found : List Walk.Seat}
    (good : ∀ seat ∈ found, Good (.arrive (task.child seat))) :
    ∀ duty ∈ task.below found, duty.stage ≠ .leave → Good duty := by
  intro duty member early
  rcases List.mem_append.mp member with child | last
  · obtain ⟨seat, present, rfl⟩ := List.mem_map.mp child
    exact good seat present
  · rw [List.mem_singleton.mp last] at early
    exact absurd rfl early

theorem state_of_wildcard (early : duty.stage = .wildcard) {action : Action State}
    (answered : (visitor query own).respond duty survey = .ok action later) {state : State}
    {old ignore : List String}
    (applied : Walk.applyAction action duty.task.state old = .ok (state, ignore)) :
    state = duty.task.state := by
  cases handles_of_ok answered with
  | shared serving deed =>
      rcases deed.action with rfl | rfl <;> cases applied
      rfl
  | own entering => simp [early] at entering

theorem Descends.next (descends : Descends query own start root Holds)
    (orderly : Walk.Orderly root (duty :: rest))
    (part : duty.stage ≠ .leave → Partial duty.task.node)
    (holds : duty.stage ≠ .leave → Holds past duty.task.address duty.task.state)
    {action : Action State} (answered : (visitor query own).respond duty survey = .ok action later)
    (next : duty.Next action more) :
    ∀ other ∈ more, other.stage ≠ .leave → Partial other.task.node ∧
      Holds (past ++ (visitor query own).heard duty survey) other.task.address
        other.task.state := by
  cases next with
  | nothing => simp
  | enter early applied =>
      have same := state_of_wildcard early answered applied
      subst same
      rintro other member -
      rw [List.mem_singleton.mp member]
      exact ⟨part (by simp [early]), descends.lasts _ _ _ _ (holds (by simp [early]))⟩
  | skip entering skips => exact each_below (by simp)
  | below entering applied collected =>
      refine each_below fun seat member => ⟨?_, ?_⟩
      · exact (part (by simp [entering])).child (Walk.mem_seatsLeft.mp member).1
      · exact descends.child _ _ _ _ _ _ _ _ entering orderly.1.node (holds (by simp [entering]))
          answered applied
          member

theorem underway_step (discreet : Discreet own) (descends : Descends query own start root Holds)
    (unit : root.kind.any isUnit = true) (parts : EachField (isPart · = true) root.entries)
    (underway : Underway query start root Holds (duty :: rest) survey past)
    (step : (visitor query own).perform duty survey = .ok more later) :
    Underway query start root Holds (more ++ rest) later
      (past ++ (visitor query own).heard duty survey) := by
  generalize agenda : duty :: rest = duties at underway
  cases underway with
  | arriving =>
      cases agenda
      rw [perform_arrive unit] at step
      split at step
      · cases step
      · cases step
        exact .entering
  -- The file is entered with its span as the origin, and its children are the first to be looked
  -- at.
  | entering =>
      cases agenda
      rw [perform_enter unit] at step
      cases spanned : root.span with
      | none => simp [spanned] at step
      | some whole =>
          cases collected : Walk.children root [] with
          | error fault => simp [spanned, collected] at step
          | ok found =>
              simp only [spanned, collected, EStateM.Result.ok.injEq] at step
              obtain ⟨rfl, rfl⟩ := step
              have child {seat : Walk.Seat} (member : seat ∈ Walk.seatsLeft root []) :=
                (Walk.mem_seatsLeft.mp member).1
              rw [List.append_nil]
              refine .inside spanned rfl ?_ ?_ ?_
              · rw [← List.append_nil (Walk.Task.below _ _)]
                exact Walk.orderly_below ⟨rfl, rfl, rfl⟩ trivial
                  fun seat member => Walk.mem_seats.mpr (child member)
              · exact each_below fun seat member => ⟨Walk.opened_child (child member),
                  Walk.each_child (child member) parts⟩
              · exact each_below fun seat member => descends.first _ seat.trail
  | inside spanned origin orderly part holds =>
      subst agenda
      obtain ⟨-, action, answered, next⟩ := Walk.perform_ok step
      have onward := Walk.next_ok next
      obtain ⟨stays, -⟩ := anchored discreet answered
        fun entering => (part duty List.mem_cons_self (by simp [entering])).kind
      have new := descends.next orderly (part duty List.mem_cons_self)
          (holds duty List.mem_cons_self) answered onward
      -- New duties come from the one that was done, the others stay as they were.
      refine .inside spanned (stays.trans origin) (Walk.orderly_next orderly onward) ?_ ?_
      · intro other member early
        rcases List.mem_append.mp member with added | old
        · exact (new other added early).1
        · exact part other (List.mem_cons_of_mem _ old) early
      · intro other member early
        rcases List.mem_append.mp member with added | old
        · exact (new other added early).2
        · exact descends.lasts _ _ _ _ (holds other (List.mem_cons_of_mem _ old) early)

theorem span_of_place {node : Node} {whole placed : Span}
    (origin : survey.origin = whole.start - query.startOffset)
    (place : survey.place node = .ok placed) :
    ∃ span, node.span = some span ∧ placed = span.shifted (query.startOffset - whole.start) := by
  unfold Survey.place at place
  cases given : node.span with
  | none => simp [given] at place
  | some span =>
      simp only [given, relative, origin, Except.ok.injEq] at place
      exact ⟨span, rfl, by rw [← place, Int.neg_sub]⟩

/-- In a file that holds no other, what a search answers was found in the file, with what
holds all the way down. -/
theorem found_of_find (closing : Closing own) (discreet : Discreet own)
    (descends : Descends query own start root Holds)
    (free : ∀ kind, isUnit kind = true → own kind = none) {tree : Data}
    (sole : isSoleFile tree = true) (opened : Node.ofData tree = .ok root) {cancelled : Bool}
    (answer : (runData query own start cancelled tree).outcome = .ok (some finding)) :
    ∃ past duty survey whole ending,
      Walk.Told (visitor query own) root start { cancelled }
        (past ++ [duty.occasion survey]) ending ∧
      Finds own duty survey finding ∧ Walk.nodeAt root duty.task.address = some duty.task.node ∧
      root.span = some whole ∧ survey.origin = whole.start - query.startOffset ∧
      Holds past duty.task.address duty.task.state := by
  obtain ⟨unit, parts⟩ := parts_of_isSoleFile sole opened
  obtain ⟨_, same, tagged, answer⟩ := opened_of_answer answer
  cases opened.symm.trans same
  obtain ⟨past, duty, survey, ⟨ending, told⟩, ⟨rest, underway⟩, finds⟩ :=
    reached_of_run closing tagged (.arriving : Underway query start root Holds _ _ _)
      (fun _ _ _ _ _ _ underway step =>
        underway_step discreet descends unit parts underway step) answer
  refine ⟨past, duty, survey, ?_⟩
  generalize agenda : duty :: rest = duties at underway
  cases underway with
  | arriving =>
      cases agenda
      exact absurd finds.entering (by simp [Duty.arrive])
  | entering =>
      cases agenda
      obtain ⟨kind, handler, later, tagged, named, -⟩ := finds.found
      rw [show root.kind = some kind from tagged] at unit
      simp [free kind unit] at named
  | inside spanned origin orderly part holds =>
      subst agenda
      exact ⟨_, ending, told, finds, orderly.1.node, spanned, origin,
        holds duty List.mem_cons_self (by simp [finds.entering])⟩

end Descent

end StyleFold.Survey
