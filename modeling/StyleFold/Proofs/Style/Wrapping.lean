import StyleFold.Proofs.Style.Exchange
import StyleFold.Proofs.Style.Omission
import StyleFold.Proofs.Style.Shadowing

/-!
Parentheses, type assertions and the like around the value of a property. The evaluator looks
through them, and a search for hovers comes through them to what they hold, with nothing but
types on the way. The handler of the property does not: whether its value is an object, an arrow
function or a call of keyframes, and so belongs to the way to the cursor, it tells by the
wrapper. Main statements: a value that ends the way can be wrapped and no answer changes; the
styles of a class cannot.
-/

namespace StyleFold

namespace Hover

open Survey (visitor isShared isAlwaysEntered)
open Walk (Duty Beside Corresponds Meets)

section Wrappers

def isIdle (kind : Kind) : Bool :=
  !isShared kind && kind != .callExpression && kind != .keyValueProperty

def isIdleMapping (entries : Entries) : Bool := (writtenKind entries).all isIdle

def areIdle (entries : Entries) : Bool :=
  Walk.wellTaggedFields entries && allFields isIdleMapping entries

/-- A node that a search for hovers passes through without doing anything. -/
structure Idle (node : Node) : Prop where
  kind : node.kind.all isIdle = true
  valid : Walk.WellTagged node
  parts : EachField (isIdleMapping · = true) node.entries

/-- A node that wraps an expression. Beside it, a wrapper may hold types. -/
structure Encloses (wrapper value : Node) : Prop where
  opened : Opened value wrapper
  kind : wrapper.kind.any Fold.isTransparent = true
  span : wrapper.span = value.span
  expression : value.kind.any (fun kind => !isAlwaysEntered kind) = true
  holds : ∃ before after, wrapper.entries =
    before ++ (.text "expression", .map value.entries) :: after ∧
    Data.lookup? "expression" before = none ∧ areIdle before = true ∧ areIdle after = true

variable {value wrapper node : Node}

theorem Encloses.tagged (encloses : Encloses wrapper value) :
    ∃ kind, wrapper.kind = some kind ∧ Fold.isTransparent kind = true :=
  (Option.any_eq_true _ _).mp encloses.kind

theorem Encloses.plain (encloses : Encloses wrapper value) :
    ∃ kind, value.kind = some kind ∧ isAlwaysEntered kind = false := by
  obtain ⟨kind, tagged, plain⟩ := (Option.any_eq_true _ _).mp encloses.expression
  exact ⟨kind, tagged, by simpa using plain⟩

theorem Encloses.exchange (encloses : Encloses wrapper value) : Walk.Exchange value wrapper := by
  obtain ⟨kind, tagged, _⟩ := encloses.plain
  obtain ⟨outer, retagged, _⟩ := encloses.tagged
  exact ⟨encloses.opened, by simp [tagged], by simp [retagged], encloses.span⟩

theorem Encloses.eval (encloses : Encloses wrapper value) (table : ScopeTable) :
    Fold.eval table wrapper = Fold.eval table value := by
  obtain ⟨before, after, entries, missing, _⟩ := encloses.holds
  have reads : Fold.Reads wrapper "expression" (.map value.entries) := by
    refine ⟨?_, Fold.check_opened encloses.opened.first⟩
    rw [entries, Fold.lookup?_append missing]
    rfl
  obtain ⟨kind, tagged, clear⟩ := encloses.tagged
  have passes : Fold.passesOn kind = some "expression" := by
    cases kind <;> first | rfl | cases clear
  rw [Fold.eval_passing table tagged passes reads, Fold.evalPart_map table encloses.opened.first]

theorem Encloses.isKind (encloses : Encloses wrapper value) {kind : Kind}
    (hides : Fold.isTransparent kind = false) : wrapper.isKind kind = false := by
  obtain ⟨outer, tagged, clear⟩ := encloses.tagged
  have apart : outer ≠ kind := by
    rintro rfl
    simp [hides] at clear
  simp [Node.isKind, tagged, apart]

/-- A value that ends the way to it: no object, no arrow function, and recognised
as no call of keyframes. -/
structure Ends (table : ScopeTable) (value : Node) : Prop where
  object : value.isKind .objectExpression = false
  arrow : value.isKind .arrowFunctionExpression = false
  keyframes : isKeyframesCall table value = .ok false

theorem Encloses.ends (encloses : Encloses wrapper value) (table : ScopeTable) :
    Ends table wrapper := by
  refine ⟨encloses.isKind rfl, encloses.isKind rfl, ?_⟩
  rw [isKeyframesCall, encloses.isKind rfl]
  rfl

theorem Encloses.sameValue (encloses : Encloses wrapper value) {table : ScopeTable}
    (ends : Ends table value) : SameValue table value wrapper := by
  have outer := encloses.ends table
  constructor
  · rw [outer.object, ends.object]
  · rw [outer.arrow, ends.arrow]
  · rw [outer.keyframes, ends.keyframes]
  · exact encloses.eval table

end Wrappers

/-! What is passed through on the way into a wrapper, beside what it wraps, and on the way out. -/

section Passing

variable {value wrapper node : Node} {query : Query} {survey : Survey Hover}
  {task : Walk.Task Nesting}

theorem Idle.child {child : Node} {trail : Walk.Trail} (idle : Idle node)
    (below : Walk.Child node trail child) : Idle child := by
  have each := Walk.each_child below idle.parts
  refine ⟨?_, Walk.child_wellTagged below idle.valid, each.2⟩
  have here : isIdleMapping child.entries = true := each.1
  rwa [isIdleMapping, writtenKind_of_opened (Walk.opened_child below)] at here

theorem Idle.children (idle : Idle node) :
    ∃ found, Walk.children node [] = .ok found ∧ ∀ child ∈ found, Idle child := by
  refine ⟨_, Walk.children_eq node [] idle.valid, ?_⟩
  intro child member
  obtain ⟨seat, present, rfl⟩ := List.mem_map.mp member
  exact idle.child (Walk.mem_seatsLeft.mp present).1

theorem gather_idle {entries : Entries} (idle : areIdle entries = true) :
    ∃ nodes, Walk.gatherFields entries = .ok nodes ∧ ∀ node ∈ nodes, Idle node := by
  simp only [areIdle, Bool.and_eq_true] at idle
  -- The entries are those of a record, whose children are idle.
  have record : Idle ⟨none, none, entries⟩ :=
    ⟨rfl, idle.1, each_of_allFields (fun _ => id) _ idle.2⟩
  obtain ⟨found, children, each⟩ := record.children
  rw [Walk.children_gather] at children
  cases gathered : Walk.gatherFields entries with
  | error fault => simp [gathered, Except.map] at children
  | ok nodes =>
      simp only [gathered, Except.map, Except.ok.injEq] at children
      refine ⟨nodes, rfl, fun node member => each node ?_⟩
      rw [← children]
      exact Walk.mem_inOrder.mpr member

theorem Encloses.children (encloses : Encloses wrapper value) :
    ∃ front back, Walk.children wrapper [] = .ok (front ++ value :: back) ∧
      ∀ node ∈ front ++ back, Idle node := by
  obtain ⟨before, after, entries, _, first, last⟩ := encloses.holds
  obtain ⟨nodes, gathered, idle⟩ := gather_idle first
  obtain ⟨others, gatheredToo, idleToo⟩ := gather_idle last
  have tagged := encloses.exchange.tagged
  have whole : Walk.gatherFields wrapper.entries = .ok (nodes ++ value :: others) := by
    have free : Node.isReserved (.text "expression") = false := by decide
    rw [entries, Walk.gatherFields_append, gathered]
    simp [Walk.gatherFields, free, Fold.check_opened encloses.opened.first, Walk.gather,
      encloses.opened.first, tagged, gatheredToo, bind, Except.bind, pure, Except.pure]
  have children := Walk.children_gather wrapper
  rw [whole] at children
  have order := Walk.inOrder_perm (nodes ++ value :: others)
  -- Sorting may put the types on either side of the value.
  obtain ⟨front, back, split⟩ := List.append_of_mem
    (order.mem_iff.mpr (List.mem_append_right _ List.mem_cons_self))
  refine ⟨front, back, by rw [children, Except.map, split], ?_⟩
  rw [split] at order
  have rest : (front ++ back).Perm (nodes ++ others) :=
    (List.perm_middle.symm.trans (order.trans List.perm_middle)).cons_inv
  intro node member
  rcases List.mem_append.mp (rest.mem_iff.mp member) with left | right
  · exact idle node left
  · exact idleToo node right

theorem handler_idle {stage : Walk.Stage} (called : stage ≠ .wildcard)
    (idle : node.kind.all isIdle = true) :
    (visitor query (handlers query)).handler stage node = none := by
  cases tagged : node.kind with
  | none =>
      cases stage <;> first | exact absurd rfl called | (rw [Walk.Visitor.handler, tagged]; rfl)
  | some kind =>
      rw [tagged, Option.all_some] at idle
      cases stage with
      | wildcard => exact absurd rfl called
      | enter | leave =>
          rw [Walk.Visitor.handler, tagged]
          cases kind <;> first | rfl | cases idle

theorem Encloses.idle (encloses : Encloses wrapper value) : wrapper.kind.all isIdle = true := by
  obtain ⟨kind, tagged, clear⟩ := encloses.tagged
  rw [tagged]
  cases kind <;> first | rfl | cases clear

theorem perform_wildcard (running : survey.cancelled = false) (task : Walk.Task Nesting)
    (ignore : List String) :
    (visitor query (handlers query)).perform ⟨.wildcard, task, ignore⟩ survey =
      .ok (if survey.isNear query task.node then [⟨.enter, task, []⟩] else []) survey := by
  have run : (Survey.prune query task.node task.state task.parent survey :
      EStateM.Result _ _ (Walk.Action Nesting)) =
      .ok (if survey.isNear query task.node then .keep else .skipChildren) survey := rfl
  have token : (visitor query (handlers query)).cancelled survey = false := running
  rw [Walk.perform_eq, token, Bool.and_false]
  simp only [Bool.false_eq_true, if_false, Walk.Visitor.respond, Walk.Visitor.handler, visitor,
    Walk.call, run]
  cases survey.isNear query task.node <;> rfl

theorem perform_enter (idle : task.node.kind.all isIdle = true) {found : List Node}
    (children : Walk.children task.node [] = .ok found) :
    (visitor query (handlers query)).perform ⟨.enter, task, []⟩ survey =
      .ok (Walk.Task.below task (Walk.seatsLeft task.node [])) survey := by
  have silent : (visitor query (handlers query)).handler .enter task.node = none :=
    handler_idle (by simp) idle
  have next : (Duty.mk .enter task []).next .keep =
      .ok (Walk.Task.below task (Walk.seatsLeft task.node [])) := by
    rw [Walk.next_enter (by simp)]
    simp only [Walk.applyAction, Fold.ok_bind, children]
    rfl
  rw [Walk.perform_eq]
  simp only [Walk.Visitor.looks, Bool.false_and, Bool.false_eq_true, if_false, Walk.Visitor.respond,
    silent]
  change Walk.orStop ((Duty.mk .enter task []).next .keep) survey = _
  rw [next, Walk.orStop_ok]

theorem perform_leave (idle : task.node.kind.all isIdle = true) (ignore : List String) :
    (visitor query (handlers query)).perform ⟨.leave, task, ignore⟩ survey = .ok [] survey := by
  have silent : (visitor query (handlers query)).handler .leave task.node = none :=
    handler_idle (by simp) idle
  rw [Walk.perform_eq]
  simp only [Walk.Visitor.looks, silent, Option.isSome_none, Bool.false_and,
    Bool.false_eq_true, if_false, Walk.Visitor.respond]
  rfl

/-- What is done at idle nodes and on leaving a wrapper. -/
inductive Passing (duty : Duty Nesting) : Prop where
  | idle (idle : Idle duty.task.node) (ignore : duty.ignore = [])
  | leave (idle : duty.task.node.kind.all isIdle = true) (last : duty.stage = .leave)

theorem perform_passing (running : survey.cancelled = false) {duty : Duty Nesting}
    (passing : Passing duty) :
    ∃ found, (visitor query (handlers query)).perform duty survey = .ok found survey ∧
      ∀ next ∈ found, Passing next := by
  obtain ⟨stage, task, ignore⟩ := duty
  cases passing with
  | leave idle last =>
      dsimp only at idle last
      subst last
      exact ⟨[], perform_leave idle ignore, by simp⟩
  | idle idle ignored =>
      dsimp only at idle ignored
      subst ignored
      cases stage with
      | wildcard =>
          refine ⟨_, perform_wildcard running task [], ?_⟩
          intro next member
          split at member
          · rw [List.mem_singleton.mp member]
            exact .idle idle rfl
          · cases member
      | enter =>
          obtain ⟨found, children, each⟩ := idle.children
          refine ⟨_, perform_enter idle.kind children, ?_⟩
          intro next member
          rcases List.mem_append.mp member with arriving | leaving
          · obtain ⟨seat, present, rfl⟩ := List.mem_map.mp arriving
            exact .idle (idle.child (Walk.mem_seatsLeft.mp present).1) rfl
          · rw [List.mem_singleton.mp leaving]
            exact .leave idle.kind rfl
      | leave => exact ⟨[], perform_leave idle.kind [], by simp⟩

end Passing

/-! Two searches abreast. One goes through the wrapper while the other waits at what it wraps. -/

section Abreast

variable {value wrapper : Node} {query : Query} {survey : Survey Hover} {task duty : Duty Nesting}

/-- Where a property with a value is come to, and has a static key in a styling call,
the value ends the way. -/
def EndsAt (value : Node) (event : Walk.Occasion Nesting (Survey Hover)) : Prop :=
  event.call.stage = .enter → event.call.node.kind = some .keyValueProperty →
    Data.lookup? "value" event.call.node.entries = some (.map value.entries) →
    ∀ key, keyOf? event.world.table event.call.state event.call.node = .ok (some key) →
      Ends event.world.table value

theorem call_eq {handler : Survey.Handler Nesting Hover} {node other : Node} {nesting : Nesting}
    {parent parent' : Option Node}
    (same : handler other nesting parent' survey = handler node nesting parent survey) :
    Walk.call handler other nesting parent' survey =
      Walk.call handler node nesting parent survey := by
  unfold Walk.call
  rw [same]

theorem respond_corresponds (encloses : Encloses wrapper value)
    (corresponds : Corresponds value wrapper task duty)
    (ends : ∀ event ∈ (visitor query (handlers query)).heard task survey, EndsAt value event) :
    (visitor query (handlers query)).respond duty survey =
      (visitor query (handlers query)).respond task survey := by
  have opened := encloses.opened
  have same := encloses.eval
  obtain ⟨_, ⟨address, node, _, parent⟩, _⟩ := task
  obtain ⟨stage, ⟨address', other, state, parent'⟩, ignore⟩ := duty
  obtain ⟨staged, ignored, states, ⟨site, twin⟩, parents⟩ := corresponds
  dsimp only at staged ignored states twin parents
  subst staged ignored states
  obtain ⟨role, serving, serves⟩ := @Survey.serves Nesting Hover stage node.kind
  have named := serves query (handlers query) node rfl
  simp only [Walk.Visitor.respond, named, serves query (handlers query) other twin.kind]
  have plain (apart : node.kind ≠ some .keyValueProperty) : Twins value wrapper .part node other :=
    twins_part twin (.inr apart)
  generalize tagged : node.kind = tag at serving
  cases serving with
  | prune => exact call_eq (Survey.prune_twins twin)
  | file unit => exact call_eq (Survey.openFile_twins twin)
  | block | skips | close | untagged | leave => rfl
  | imports => exact call_eq (Survey.takeImport_twins opened (plain (by simp [tagged])))
  | constants => exact call_eq (Survey.takeConstants_twins opened same (plain (by simp [tagged])))
  | requires => exact call_eq (Survey.takeRequire_twins opened (plain (by simp [tagged])))
  | @own kind free =>
      -- Only the property itself has a handler that reads what was exchanged.
      by_cases pair : kind = .keyValueProperty
      · subst pair
        refine call_eq ?_
        by_cases row : site = .property
        · subst row
          refine onProperty_twins opened same twin tagged fun held key keyed => ?_
          have heard : (visitor query (handlers query)).heard
              ⟨.enter, ⟨address, node, state, parent⟩, ignore⟩
              survey = [_] :=
            Walk.heard_of_entering rfl (named.trans (rfl : _ = some (onProperty query)))
          exact encloses.sameValue
            (ends _ (heard ▸ List.mem_singleton_self _) rfl tagged held key keyed)
        · exact onProperty_part opened same (twins_part twin (.inl row))
      · by_cases call : kind = .callExpression
        · subst call
          exact call_eq (onCall_twins opened (plain (by simp [tagged])) parents)
        · have none : handlers query kind = none := by
            cases kind <;> first | rfl | exact absurd rfl pair | exact absurd rfl call
          simp only [Survey.Role.handler, none]

/-- One search has entered the wrapper, and the other is about to come to what it wraps. -/
structure Inside (wrapper value : Node) (duty task : Duty Nesting) : Prop where
  entering : duty.stage = .enter
  ignore : duty.ignore = []
  here : duty.task.node = wrapper
  early : task.stage = .wildcard
  ignored : task.ignore = []
  first : task.task.node = value
  state : duty.task.state = task.task.state
  parent : ∃ above, task.task.parent = some above ∧ above.isKind .variableDeclarator = false

/-- The agenda of the search through the tree with the wrapper, and that of the
search through the other. -/
inductive Lags (wrapper value : Node) : List (Duty Nesting) → List (Duty Nesting) → Prop where
  | nil : Lags wrapper value [] []
  | meets {duty task : Duty Nesting} {rest tasks : List (Duty Nesting)}
      (meets : Meets value wrapper task duty) (later : Lags wrapper value rest tasks) :
      Lags wrapper value (duty :: rest) (task :: tasks)
  | inside {duty task : Duty Nesting} {rest tasks : List (Duty Nesting)}
      (inside : Inside wrapper value duty task) (later : Lags wrapper value rest tasks) :
      Lags wrapper value (duty :: rest) (task :: tasks)
  | passing {duty : Duty Nesting} {rest tasks : List (Duty Nesting)} (passing : Passing duty)
      (later : Lags wrapper value rest tasks) : Lags wrapper value (duty :: rest) tasks

theorem lags_meets {found others rest tasks : List (Duty Nesting)}
    (each : List.Forall₂ (Meets value wrapper) others found)
    (later : Lags wrapper value rest tasks) :
    Lags wrapper value (found ++ rest) (others ++ tasks) := by
  induction each with
  | nil => exact later
  | cons first _ ih => exact .meets first ih

theorem lags_passing {found rest tasks : List (Duty Nesting)} (each : ∀ duty ∈ found, Passing duty)
    (later : Lags wrapper value rest tasks) : Lags wrapper value (found ++ rest) tasks := by
  induction found with
  | nil => exact later
  | cons duty more ih =>
      rw [List.forall_mem_cons] at each
      exact .passing each.1 (ih each.2)

def Level (wrapper value : Node) (agenda : List (Duty Nesting)) (survey : Survey Hover)
    (tasks : List (Duty Nesting)) (other : Survey Hover) : Prop :=
  Lags wrapper value agenda tasks ∧ other = survey ∧ survey.cancelled = false

theorem beside_corresponds (encloses : Encloses wrapper value)
    (corresponds : Corresponds value wrapper task duty) (running : survey.cancelled = false)
    {rest tasks : List (Duty Nesting)} (later : Lags wrapper value rest tasks)
    (ends : ∀ event ∈ (visitor query (handlers query)).heard task survey, EndsAt value event) :
    Beside (fun found survey others other => Level wrapper value (found ++ rest) survey
      (others ++ tasks) other)
      Survey.SameFate ((visitor query (handlers query)).perform duty survey)
      ((visitor query (handlers query)).perform task survey) := by
  have token : (visitor query (handlers query)).cancelled survey = false := running
  rw [Walk.perform_eq, Walk.perform_eq, token, Bool.and_false, Bool.and_false,
    respond_corresponds encloses corresponds ends]
  simp only [Bool.false_eq_true, if_false]
  cases answered : (visitor query (handlers query)).respond task survey with
  | error stop after => exact .error ⟨rfl, rfl⟩
  | ok action after =>
      have next := Walk.agree_nextTwins encloses.exchange corresponds action
      dsimp only
      generalize task.next action = others, duty.next action = found at next
      cases next with
      | ok each =>
          have still := Survey.cancelled_kept (discreet query) answered
          exact .ok ⟨lags_meets each later, rfl, still.trans running⟩
      | fault reworded => exact .error ⟨by rw [reworded.same rfl], rfl⟩

theorem Encloses.isNear (encloses : Encloses wrapper value) (survey : Survey Hover) :
    survey.isNear query wrapper = survey.isNear query value := by
  obtain ⟨outer, retagged, clear⟩ := encloses.tagged
  obtain ⟨inner, tagged, plain⟩ := encloses.plain
  have far : isAlwaysEntered outer = false := by
    cases outer <;> first | rfl | cases clear
  simp [Survey.isNear, encloses.span, retagged, tagged, far, plain]

theorem Inside.corresponds (inside : Inside wrapper value duty task)
    (encloses : Encloses wrapper value) {seat : Walk.Seat} (same : seat.node = value) :
    Corresponds value wrapper task (.arrive (duty.task.child seat)) := by
  obtain ⟨above, parents, plain⟩ := inside.parent
  refine ⟨inside.early.symm, inside.ignored.symm, inside.state, ⟨.part, ?_⟩, ?_⟩
  · change Twins value wrapper .part task.task.node seat.node
    rw [inside.first, same]
    exact .same value
  · rw [parents]
    refine .some (.inr ⟨plain, ?_⟩)
    rw [inside.here]
    exact encloses.isKind rfl

/-- Inside a wrapper, the search comes to what it wraps with nothing but idle nodes around. -/
theorem Inside.lags (inside : Inside wrapper value duty task) (encloses : Encloses wrapper value)
    {rest tasks : List (Duty Nesting)} (later : Lags wrapper value rest tasks)
    {front back : List Node} (idle : ∀ node ∈ front ++ back, Idle node) {found : List Walk.Seat}
    (nodes : found.map Walk.Seat.node = front ++ value :: back) :
    Lags wrapper value (Walk.Task.below duty.task found ++ rest) (task :: tasks) := by
  obtain ⟨before, others, rfl, first, second⟩ := List.map_eq_append_iff.mp nodes
  obtain ⟨seat, after, rfl, same, last⟩ := List.map_eq_cons_iff.mp second
  have quiet {seats : List Walk.Seat} (each : ∀ node ∈ seats.map Walk.Seat.node, Idle node) :
      ∀ next ∈ seats.map fun seat => Duty.arrive (duty.task.child seat), Passing next := by
    intro next member
    obtain ⟨seat, present, rfl⟩ := List.mem_map.mp member
    exact .idle (each seat.node (List.mem_map_of_mem present)) rfl
  have ending : Lags wrapper value ([Duty.leave duty.task] ++ rest) tasks := by
    refine .passing (.leave ?_ rfl) later
    change duty.task.node.kind.all isIdle = true
    rw [inside.here]
    exact encloses.idle
  rw [Walk.Task.below, List.map_append, List.map_cons, List.append_assoc, List.append_assoc,
    List.cons_append]
  refine lags_passing (quiet fun node member => idle node ?_)
    (.meets (.alike (inside.corresponds encloses same))
      (lags_passing (quiet fun node member => idle node ?_) ending))
  · exact List.mem_append_left _ (first ▸ member)
  · exact List.mem_append_right _ (last ▸ member)

theorem level_step (encloses : Encloses wrapper value) {rest tasks : List (Duty Nesting)}
    {other : Survey Hover} (level : Level wrapper value (duty :: rest) survey tasks other) :
    (∃ found later, (visitor query (handlers query)).perform duty survey = .ok found later ∧
      Level wrapper value (found ++ rest) later tasks other) ∨
    ∃ task more, tasks = task :: more ∧
      ((∀ event ∈ (visitor query (handlers query)).heard task other, EndsAt value event) →
        Beside (fun found survey others other =>
          Level wrapper value (found ++ rest) survey (others ++ more) other)
          Survey.SameFate ((visitor query (handlers query)).perform duty survey)
          ((visitor query (handlers query)).perform task other)) := by
  obtain ⟨lags, rfl, running⟩ := level
  cases lags with
  | passing passing later =>
      obtain ⟨found, performed, each⟩ := @perform_passing query _ running _ passing
      exact .inl ⟨found, other, performed, lags_passing each later, rfl, running⟩
  | @inside _ task _ more inside later =>
      obtain ⟨front, back, children, idle⟩ := encloses.children
      obtain ⟨_, around, _⟩ := duty
      have entered := inside.entering
      have empty := inside.ignore
      have here := inside.here
      dsimp only at entered empty here
      subst entered empty here
      refine .inl ⟨_, other, perform_enter encloses.idle children, ?_, rfl, running⟩
      exact inside.lags encloses later idle (Walk.children_ok children).symm
  | @meets _ task _ more meets later =>
      cases meets with
      | alike corresponds =>
          exact .inr ⟨task, more, rfl, beside_corresponds encloses corresponds running later⟩
      | exchanged early ignored late first second state parent =>
          obtain ⟨_, around, _⟩ := duty
          obtain ⟨_, within, _⟩ := task
          dsimp only at early ignored late first second state parent
          subst early ignored late first second
          have arrived := @perform_wildcard query _ running around
          have near : other.isNear query around.node = other.isNear query within.node :=
            encloses.isNear other
          -- The other search waits before the value if the cursor is near, or else both pass by.
          cases close : other.isNear query around.node with
          | true =>
              left
              refine ⟨_, other, arrived _, ?_, rfl, running⟩
              rw [close]
              exact .inside ⟨rfl, rfl, rfl, rfl, rfl, rfl, state, parent⟩ later
          | false =>
              refine .inr ⟨_, more, rfl, fun _ => ?_⟩
              rw [arrived, perform_wildcard running within, ← near, close]
              exact .ok ⟨later, rfl, running⟩

theorem recorded_cancelled {root : Node} {nesting : Nesting} {survey : Survey Hover}
    (stopped : survey.cancelled = true) :
    Walk.Recorded (visitor query (handlers query)) root nesting survey
      ((visitor query (handlers query)).heard (.arrive (Walk.rootTask root nesting)) survey)
      (.error .cancelled survey) := by
  refine .stops ?_
  rw [Walk.perform_eq]
  have token : (visitor query (handlers query)).cancelled survey = true := stopped
  rw [token]
  rfl

/-- In a search through a tree, a value ends the way wherever the search comes to it. -/
def AlwaysEnds (query : Query) (cancelled : Bool) (tree : Data) (value : Node) : Prop :=
  ∀ root events ending, Node.ofData tree = .ok root →
    Walk.Recorded (visitor query (handlers query)) root {} { cancelled } events ending →
      ∀ event ∈ events, EndsAt value event

theorem walk_wrapped (encloses : Encloses wrapper value) {root again : Node} {cancelled : Bool}
    (twin : Twins value wrapper .part root again)
    (ends : ∀ events ending,
      Walk.Recorded (visitor query (handlers query)) root {} { cancelled } events ending →
        ∀ event ∈ events, EndsAt value event) :
    Walk.walk (visitor query (handlers query)) again {} { cancelled } =
      Walk.walk (visitor query (handlers query)) root {} { cancelled } := by
  by_cases tagged : root.kind.isSome
  · obtain ⟨_, ending, recorded, halts⟩ :=
      Walk.walk_recorded (visitor query (handlers query)) tagged {} { cancelled }
    obtain ⟨_, late, other, finishes⟩ := Walk.walk_recorded (visitor query (handlers query))
      (twin.kind ▸ tagged : again.kind.isSome) {} { cancelled }
    suffices same : late = ending by rw [halts, finishes, same]
    cases cancelled with
    | true =>
        -- Both stop at the root, before they could part.
        obtain ⟨-, rfl⟩ := recorded.unique (recorded_cancelled rfl)
        obtain ⟨-, rfl⟩ := other.unique (recorded_cancelled rfl)
        rfl
    | false =>
        have start : Level wrapper value [.arrive (Walk.rootTask again {})] {}
            [.arrive (Walk.rootTask root {})] {} :=
          ⟨.meets (.alike ⟨rfl, rfl, rfl, ⟨.part, twin⟩, .none⟩) .nil, rfl, rfl⟩
        have done (survey : Survey Hover) (tasks : List (Duty Nesting)) (other : Survey Hover)
            (level : Level wrapper value [] survey tasks other) : tasks = [] ∧ other = survey := by
          obtain ⟨lags, same, -⟩ := level
          cases lags
          exact ⟨rfl, same⟩
        have beside :=
          Walk.Runs.abreast (fun _ _ _ _ _ level => level_step encloses level) done other
          start recorded (ends _ _ recorded)
        cases beside with
        | ok same => rw [same]
        | error fate => rw [fate.1, fate.2]
  · have untagged : again.kind.isSome = false := by simpa [twin.kind] using tagged
    simp_all [Walk.walk]

end Abreast

/-- A wrapper around the value of a property, with the span of what it wraps, changes nothing in
what a search for hovers answers, notes or fails with, as long as the value ends the way. -/
theorem find_wrapped {wrapper value : Node} (encloses : Encloses wrapper value)
    {tree wrapped : Data} (exchanged : Exchanged value wrapper .part tree wrapped) (query : Query)
    (cancelled : Bool) (ends : AlwaysEnds query cancelled tree value) :
    find query cancelled wrapped = find query cancelled tree := by
  have opening : Agree 0 (Twins value wrapper .part) (Node.ofData tree) (Node.ofData wrapped) := by
    cases exchanged with
    | field free unwritten inside => exact agree_opened (by simp) (.field free unwritten inside)
    | item | first | second => exact agree_fault (by simp [Fault.family])
  unfold find Survey.runData
  generalize opened : Node.ofData tree = first, Node.ofData wrapped = second at opening
  cases opening with
  | fault reworded => rw [reworded.same rfl]
  | ok twin =>
      dsimp only [Survey.run]
      rw [walk_wrapped encloses twin fun events ending recorded =>
        ends _ events ending opened recorded]

section Parentheses

open Survey (written)

/-- A file with styles of one class. -/
def classFile (styles : Data) : Data :=
  written "Module" 0 100 [("body", .list [
    written "ImportDeclaration" 0 40 [
      ("specifiers", .list [written "ImportSpecifier" 8 14 [
        ("local", written "Identifier" 8 14 [("value", .text "create")])]]),
      ("source", written "StringLiteral" 22 40 [("value", .text "@stylexjs/stylex")])],
    written "ExpressionStatement" 42 82 [("expression", written "CallExpression" 42 81 [
      ("callee", written "Identifier" 42 48 [("value", .text "create")]),
      ("arguments", .list [.map [(.text "expression",
        written "ObjectExpression" 49 80 [("properties", .list [
          written "KeyValueProperty" 51 78 [
            ("key", written "Identifier" 51 52 [("value", .text "a")]),
            ("value", styles)]])])]])])]])]

def colorOf (color : Data) : Node where
  kind := some .keyValueProperty
  span := some ⟨56, 76⟩
  entries := [(.text "type", .text "KeyValueProperty"),
    (.text "span", .map [(.text "start", .int 56), (.text "end", .int 76)]),
    (.text "key", written "Identifier" 56 61 [("value", .text "color")]), (.text "value", color)]

/-- Styles that set a color. -/
def colorStyles (color : Data) : Node where
  kind := some .objectExpression
  span := some ⟨54, 78⟩
  entries := [(.text "type", .text "ObjectExpression"),
    (.text "span", .map [(.text "start", .int 54), (.text "end", .int 78)]),
    (.text "properties", .list [.map (colorOf color).entries])]

def red : Node where
  kind := some .stringLiteral
  span := some ⟨63, 68⟩
  entries := [(.text "type", .text "StringLiteral"),
    (.text "span", .map [(.text "start", .int 63), (.text "end", .int 68)]),
    (.text "value", .text "red")]

/-- The color, said to be one. -/
def redAsColor : Node where
  kind := some .tsAsExpression
  span := some ⟨63, 68⟩
  entries := [(.text "type", .text "TsAsExpression"),
    (.text "span", .map [(.text "start", .int 63), (.text "end", .int 68)]),
    (.text "expression", .map red.entries),
    (.text "typeAnnotation", written "TsTypeReference" 63 68 [
      ("typeName", written "Identifier" 63 68 [("value", .text "Color")])])]

/-- Styles in parentheses. -/
def parenthesized (styles : Node) : Node where
  kind := some .parenthesisExpression
  span := some ⟨54, 78⟩
  entries := [(.text "type", .text "ParenthesisExpression"),
    (.text "span", .map [(.text "start", .int 54), (.text "end", .int 78)]),
    (.text "expression", .map styles.entries)]

/-- The cursor is on the key of the color. -/
def onColor : Query := ⟨57, {}, 0⟩

theorem exchanged_classFile {old new : Node} {styles others : Data}
    (inside : Exchanged old new .value styles others) :
    Exchanged old new .part (classFile styles) (classFile others) := by
  refine @Exchanged.field _ _ _ [_, _] [] _ _ _ rfl rfl ?_
  refine @Exchanged.item _ _ _ [_] [] _ _ ?_
  refine @Exchanged.field _ _ _ [_, _] [] _ _ _ rfl rfl ?_
  refine @Exchanged.field _ _ _ [_, _, _] [] _ _ _ rfl rfl ?_
  refine @Exchanged.item _ _ _ [] [] _ _ ?_
  refine @Exchanged.field _ _ _ [] [] _ _ _ rfl rfl ?_
  refine @Exchanged.field _ _ _ [_, _] [] _ _ _ rfl rfl ?_
  refine @Exchanged.item _ _ _ [] [] _ _ ?_
  exact @Exchanged.field _ _ _ [_, _, _] [] _ _ _ rfl rfl inside

theorem exchanged_colorStyles {old new : Node} {color other : Data}
    (inside : Exchanged old new .value color other) :
    Exchanged old new .value (.map (colorStyles color).entries)
      (.map (colorStyles other).entries) := by
  refine @Exchanged.field _ _ _ [_, _] [] _ _ _ rfl rfl ?_
  refine @Exchanged.item _ _ _ [] [] _ _ ?_
  exact @Exchanged.field _ _ _ [_, _, _] [] _ _ _ rfl rfl inside

/-- The type around a color leaves the hover as it is. -/
theorem find_redAsColor :
    Encloses redAsColor red ∧
      AlwaysEnds onColor false (classFile (.map (colorStyles (.map red.entries)).entries)) red ∧
      find onColor false (classFile (.map (colorStyles (.map redAsColor.entries)).entries)) =
        find onColor false (classFile (.map (colorStyles (.map red.entries)).entries)) := by
  have encloses : Encloses redAsColor red :=
    ⟨⟨rfl, rfl⟩, rfl, rfl, rfl, [_, _], [_], rfl, rfl, rfl, rfl⟩
  have ends : AlwaysEnds onColor false
      (classFile (.map (colorStyles (.map red.entries)).entries)) red := by
    intro _ _ _ _ _ event _ _ _ _ key _
    constructor <;> rfl
  refine ⟨encloses, ends, ?_⟩
  exact find_wrapped encloses (exchanged_classFile (exchanged_colorStyles .here)) onColor false ends

def classOf (styles : Data) : Node where
  kind := some .keyValueProperty
  span := some ⟨51, 78⟩
  entries := [(.text "type", .text "KeyValueProperty"),
    (.text "span", .map [(.text "start", .int 51), (.text "end", .int 78)]),
    (.text "key", written "Identifier" 51 52 [("value", .text "a")]), (.text "value", styles)]

theorem reaches_class {styles : Data} {root : Node}
    (opened : Node.ofData (classFile styles) = .ok root)
    {goal : EStateM.Result Walk.Stop (Survey Hover) Unit → Prop}
    (onward : ∀ address parent rest trace, Walk.Reaches (visitor onColor (handlers onColor))
      (⟨.enter, ⟨address, classOf styles, ⟨[], some .create, none⟩, parent⟩, []⟩ :: rest)
      { table := createImported [[]], trace } goal) :
    Walk.Reaches (visitor onColor (handlers onColor)) [.arrive (Walk.rootTask root {})]
      {} goal := by
  cases opened
  -- The file and its import.
  refine Walk.reaches_next rfl rfl rfl ?_
  refine Walk.reaches_children rfl rfl (by simp) rfl rfl
    (Walk.seatsLeft_pair rfl rfl (show (0 : Int) ≤ 42 by decide)) ?_
  refine Walk.reaches_next rfl rfl rfl ?_
  refine Walk.reaches_next rfl rfl rfl ?_
  refine Walk.reaches_next rfl rfl rfl ?_
  -- The call.
  refine Walk.reaches_next rfl rfl rfl ?_
  refine Walk.reaches_children rfl rfl (by simp) rfl rfl
    (Walk.seatsLeft_sorted rfl (List.pairwise_singleton _ _)) ?_
  refine Walk.reaches_next rfl rfl rfl ?_
  refine Walk.reaches_children rfl rfl (by simp) rfl rfl
    (Walk.seatsLeft_pair rfl rfl (show (42 : Int) ≤ 49 by decide)) ?_
  refine Walk.reaches_next rfl rfl rfl ?_
  refine Walk.reaches_next rfl rfl rfl ?_
  refine Walk.reaches_children rfl rfl (by simp) rfl rfl
    (Walk.seatsLeft_sorted rfl (List.pairwise_singleton _ _)) ?_
  refine Walk.reaches_next rfl rfl rfl ?_
  exact onward _ _ _ _

theorem reaches_color {address : Walk.Address} {classes : List Label} {parent : Option Node}
    {rest : List (Duty Nesting)} {trace : List String} {selector : String}
    (ruled : ruleOf? {} ⟨classes, some .create, none⟩ .create (.text "color")
      (.value (.string "red") (some ⟨63, 68⟩)) = .ok (some ⟨[], selector, "color", ["red"]⟩)) :
    Walk.Reaches (visitor onColor (handlers onColor))
      (⟨.enter, ⟨address, colorOf (.map red.entries), ⟨classes, some .create, none⟩, parent⟩,
        []⟩ :: rest)
      { table := createImported [[]], trace }
      (Survey.Answers (some ⟨Rule.text ⟨[], selector, "color", ["red"]⟩, ⟨56, 61⟩,
        .value (.string "red") (some ⟨63, 68⟩)⟩)) := by
  have long : ¬ (Rule.mk [] selector "color" ["red"]).lines.length ≤ 2 := by
    simp [Rule.length_lines]
  exact Walk.reaches_abort rfl rfl
    (onProperty_found rfl rfl rfl rfl rfl rfl rfl rfl (by rw [Fold.eval]; rfl) ruled long)
    ⟨_, _, rfl, rfl, rfl⟩

theorem reaches_colorStyles {address : Walk.Address} {classes : List Label} {parent : Option Node}
    {rest : List (Duty Nesting)} {trace : List String} {selector : String}
    (ruled : ruleOf? {} ⟨classes, some .create, none⟩ .create (.text "color")
      (.value (.string "red") (some ⟨63, 68⟩)) = .ok (some ⟨[], selector, "color", ["red"]⟩)) :
    Walk.Reaches (visitor onColor (handlers onColor))
      (.arrive
        ⟨address, colorStyles (.map red.entries), ⟨classes, some .create, none⟩, parent⟩ :: rest)
      { table := createImported [[]], trace }
      (Survey.Answers (some ⟨Rule.text ⟨[], selector, "color", ["red"]⟩, ⟨56, 61⟩,
        .value (.string "red") (some ⟨63, 68⟩)⟩)) := by
  refine Walk.reaches_next rfl rfl rfl ?_
  refine Walk.reaches_children rfl rfl (by simp) rfl rfl
    (Walk.seatsLeft_sorted rfl (List.pairwise_singleton _ _)) ?_
  refine Walk.reaches_next rfl rfl rfl ?_
  exact reaches_color ruled

theorem find_colorStyles :
    (find onColor false (classFile (.map (colorStyles (.map red.entries)).entries))).outcome =
      .ok (some ⟨Rule.text ⟨[], Place.classSelector ["a", "color"], "color", ["red"]⟩,
        ⟨56, 61⟩, .value (.string "red") (some ⟨63, 68⟩)⟩) := by
  have opened : Node.ofData (classFile (.map (colorStyles (.map red.entries)).entries)) =
      .ok ⟨some .moduleUnit, some ⟨0, 100⟩, _⟩ := rfl
  refine Survey.outcome_of_reaches opened rfl
    (reaches_class opened fun address parent rest trace => ?_)
  refine Walk.reaches_children rfl rfl (by simp) rfl rfl
    (Walk.seatsLeft_pair rfl rfl (show (51 : Int) ≤ 54 by decide)) ?_
  refine Walk.reaches_next rfl rfl rfl ?_
  exact @reaches_colorStyles _ [.text "a"] _ _ _ _ rfl

theorem find_parenthesized :
    (find onColor false
      (classFile (.map (parenthesized (colorStyles (.map red.entries))).entries))).outcome =
        .ok (some ⟨Rule.text ⟨[], Place.classSelector ["color"], "color", ["red"]⟩,
          ⟨56, 61⟩, .value (.string "red") (some ⟨63, 68⟩)⟩) := by
  have opened : Node.ofData
      (classFile (.map (parenthesized (colorStyles (.map red.entries))).entries)) =
      .ok ⟨some .moduleUnit, some ⟨0, 100⟩, _⟩ := rfl
  refine Survey.outcome_of_reaches opened rfl
    (reaches_class opened fun address parent rest trace => ?_)
  refine Walk.reaches_children rfl rfl (by simp) rfl rfl
    (Walk.seatsLeft_pair rfl rfl (show (51 : Int) ≤ 54 by decide)) ?_
  refine Walk.reaches_next rfl rfl rfl ?_
  -- The parentheses.
  refine Walk.reaches_next rfl rfl rfl ?_
  refine Walk.reaches_children rfl rfl (by simp) rfl rfl
    (Walk.seatsLeft_sorted rfl (List.pairwise_singleton _ _)) ?_
  exact @reaches_colorStyles _ [] _ _ _ _ rfl

/-- Parentheses around the styles of a class change the hover for what is in them: the class is
lost, and the name of the property stands for it. -/
theorem find_depends_on_parentheses :
    Encloses (parenthesized (colorStyles (.map red.entries))) (colorStyles (.map red.entries)) ∧
    Exchanged (colorStyles (.map red.entries))
      (parenthesized (colorStyles (.map red.entries))) .part
      (classFile (.map (colorStyles (.map red.entries)).entries))
      (classFile (.map (parenthesized (colorStyles (.map red.entries))).entries)) ∧
    ((find onColor false
      (classFile (.map (colorStyles (.map red.entries)).entries))).outcome.toOption.join.map
        Hover.css = some ".a \x7b\n  color: red;\n\x7d") ∧
    ((find onColor false
        (classFile (.map
          (parenthesized (colorStyles (.map red.entries))).entries))).outcome.toOption.join.map
        Hover.css = some ".color \x7b\n  color: red;\n\x7d") := by
  refine ⟨⟨⟨rfl, rfl⟩, rfl, rfl, rfl, [_, _], [], rfl, rfl, rfl, rfl⟩,
    exchanged_classFile .here, ?_, ?_⟩
  · rw [find_colorStyles]
    exact congrArg some (by decide +kernel)
  · rw [find_parenthesized]
    exact congrArg some (by decide +kernel)

end Parentheses

end Hover

end StyleFold
