import StyleFold.Proofs.Walk.Course

/-!
A walk as an agenda of duties that are performed one by one: first the wildcard handler of a node,
then the enter handler of its kind, then its children, then the leave handler. Handlers may do
anything to the world that they share, and the tree need not be well-tagged. Main statements: every
walk is the run of such an agenda, the calls of the run are those that a log of the walk tells, and
what one duty preserves, a whole run preserves.
-/

namespace StyleFold.Walk

/-! The children of any node are its seats, as long as they can be collected at all. -/

section Collected

mutual

theorem collect_ok {ignore : List String} {path : String} (data : Data) {found : List Position}
    (run : collect ignore path data = .ok found) :
    found = leftBelow ignore path (seatsIn data) := by
  match data with
  | .map entries =>
      simp only [collect] at run
      split at run
      · rename_i here
        cases run
        rw [leftBelow_of_contains _ here]
      · rename_i here
        have free : ignore.contains path = false := by simpa using here
        split at run
        · cases run
        · rename_i node opened
          simp only [seatsIn, opened]
          split at run
          · rename_i tagged
            cases run
            simp only [tagged, if_true, leftBelow, List.filter_cons, blocked, free, Bool.not_false]
            rfl
          -- A record has no place of its own: what is found is found in its fields.
          · rename_i untagged
            rw [if_neg untagged, ← leftFields_extend 0 entries free]
            exact collectFields_ok 0 entries run
  | .list items =>
      simp only [collect] at run
      split at run
      · rename_i here
        cases run
        rw [leftBelow_of_contains _ here]
      · rename_i here
        exact collectItems_ok 0 items (by simpa using here) run
  | .pair key value =>
      simp only [collect] at run
      split at run
      · rename_i here
        cases run
        rw [leftBelow_of_contains _ here]
      · rename_i here
        have free : ignore.contains path = false := by simpa using here
        split at run
        · cases run
        · rename_i first firstRun
          split at run
          · cases run
          · rename_i second secondRun
            cases run
            rw [collect_ok key firstRun, collect_ok value secondRun]
            simp only [seatsIn, leftBelow_append, leftBelow_under _ _ free]
  | .null | .bool _ | .int _ | .float _ | .text _ | .bytes _ | .moment _ | .set _ | .cycle _ =>
      simp only [collect, Except.ok.injEq] at run
      subst run
      rfl

theorem collectFields_ok {ignore : List String} {pathOf : String → String} (start : Nat)
    (entries : Entries) {found : List Position}
    (run : collectFields ignore pathOf entries = .ok found) :
    found = leftFields ignore pathOf (fieldSeats start entries) := by
  match entries with
  | [] =>
      simp only [collectFields, Except.ok.injEq] at run
      subst run
      rfl
  | (key, value) :: rest =>
      simp only [collectFields] at run
      simp only [fieldSeats, leftFields_append]
      split at run
      · rename_i reserved
        rw [if_pos reserved]
        exact collectFields_ok (start + 1) rest run
      · rename_i free
        rw [if_neg free]
        split at run
        · cases run
        · split at run
          · cases run
          · rename_i here first
            split at run
            · cases run
            · rename_i others second
              cases run
              rw [collect_ok value first, collectFields_ok (start + 1) rest second,
                leftFields_under]

theorem collectItems_ok {ignore : List String} {path : String} (start : Nat) (items : List Data)
    (free : ignore.contains path = false) {found : List Position}
    (run : collectItems ignore path start items = .ok found) :
    found = leftBelow ignore path (itemSeats start items) := by
  match items with
  | [] =>
      simp only [collectItems, Except.ok.injEq] at run
      subst run
      rfl
  | item :: rest =>
      simp only [collectItems] at run
      split at run
      · cases run
      · rename_i here first
        split at run
        · cases run
        · rename_i others second
          cases run
          rw [collect_ok item first, collectItems_ok (start + 1) rest free second]
          simp only [itemSeats, leftBelow_append, leftBelow_under _ _ free]

end

theorem children_ok {node : Node} {ignore : List String} {found : List Node}
    (run : children node ignore = .ok found) : found = (seatsLeft node ignore).map Seat.node := by
  unfold children at run
  cases collected : positions node ignore with
  | error fault => simp [collected, Except.map] at run
  | ok list =>
      simp only [collected, Except.map, Except.ok.injEq] at run
      have names : list.map Position.node =
          ((seats node).filter fun seat => !blockedField ignore id seat.trail).map Seat.node := by
        rw [collectFields_ok 0 node.entries collected, leftFields, List.map_map]
        apply List.map_congr_left
        intro seat _
        cases shape : seat.trail <;> simp [Seat.ofField, shape, Seat.at]
      rw [← run, names, seatsLeft, map_node_arranged]

end Collected

variable {State World : Type}

section Duties

/-- A handler call as it happens: at which position, with which arguments, and in which world. -/
structure Occasion (State World : Type) where
  address : Address
  call : Call State
  world : World

/-- What is still to be done at a node. Its task has the state that the handler will see. -/
structure Duty (State : Type) where
  stage : Stage
  task : Task State
  ignore : List String := []

namespace Duty

def arrive (task : Task State) : Duty State := ⟨.wildcard, task, []⟩

def leave (task : Task State) : Duty State := ⟨.leave, task, []⟩

def call (duty : Duty State) : Call State :=
  ⟨duty.stage, duty.task.node, duty.task.state, duty.task.parent⟩

def occasion (duty : Duty State) (world : World) : Occasion State World :=
  ⟨duty.task.address, duty.call, world⟩

end Duty

/-- The child of a task at a seat. -/
def Task.child (task : Task State) (seat : Seat) : Task State :=
  ⟨task.address ++ [seat.trail], seat.node, task.state, some task.node⟩

/-- The children at some seats, and then the node itself again. -/
def Task.below (task : Task State) (found : List Seat) : List (Duty State) :=
  found.map (fun seat => .arrive (task.child seat)) ++ [.leave task]

/-- What is to be done next after a handler has answered. -/
def Duty.next (duty : Duty State) (action : Action State) : Except Fault (List (Duty State)) :=
  match duty.stage, action with
  | .wildcard, .skipChildren => .ok []
  | .wildcard, action => do
      let (state, ignore) ← applyAction action duty.task.state []
      return [⟨.enter, { duty.task with state }, ignore⟩]
  | .enter, .skipChildren => .ok [.leave duty.task]
  | .enter, action => do
      let (state, ignore) ← applyAction action duty.task.state duty.ignore
      let _ ← children duty.task.node ignore
      return Task.below { duty.task with state } (seatsLeft duty.task.node ignore)
  | .leave, _ => .ok []

namespace Visitor

variable (visitor : Visitor State World)

def handler (stage : Stage) (node : Node) : Option (Handler State World) :=
  match stage with
  | .wildcard => visitor.wildcard
  | .enter => node.kind.bind visitor.enter
  | .leave => node.kind.bind visitor.leave

def looks (duty : Duty State) : Bool :=
  match duty.stage with
  | .wildcard => true
  | .enter => false
  | .leave => (visitor.handler .leave duty.task.node).isSome

def respond (duty : Duty State) : Visiting World (Action State) :=
  match visitor.handler duty.stage duty.task.node with
  | none => pure .keep
  | some handler => Walk.call handler duty.task.node duty.task.state duty.task.parent

def perform (duty : Duty State) : Visiting World (List (Duty State)) := do
  if visitor.looks duty then checkCancelled visitor
  orStop (duty.next (← visitor.respond duty))

/-- The calls that a duty makes: one, unless there is no handler or the walk is cancelled. -/
def heard (duty : Duty State) (world : World) : List (Occasion State World) :=
  if visitor.looks duty && visitor.cancelled world then []
  else if (visitor.handler duty.stage duty.task.node).isSome then [duty.occasion world]
  else []

end Visitor

/-- An agenda is performed from its head; what a duty leads to comes before the rest. -/
inductive Runs (visitor : Visitor State World) :
    List (Duty State) → World → List (Occasion State World) →
    EStateM.Result Stop World Unit → Prop where
  | done (world : World) : Runs visitor [] world [] (.ok () world)
  | stops {duty : Duty State} {rest : List (Duty State)} {world later : World} {stop : Stop}
      (step : visitor.perform duty world = .error stop later) :
      Runs visitor (duty :: rest) world (visitor.heard duty world) (.error stop later)
  | goes {duty : Duty State} {more rest : List (Duty State)} {world later : World}
      {events : List (Occasion State World)} {ending : EStateM.Result Stop World Unit}
      (step : visitor.perform duty world = .ok more later)
      (onward : Runs visitor (more ++ rest) later events ending) :
      Runs visitor (duty :: rest) world (visitor.heard duty world ++ events) ending

end Duties

section Steps

variable {visitor : Visitor State World} {duty : Duty State} {world later : World}
  {more : List (Duty State)} {stop : Stop}

theorem mem_heard {event : Occasion State World} (member : event ∈ visitor.heard duty world) :
    event = duty.occasion world := by
  unfold Visitor.heard at member
  split at member
  · cases member
  · split at member
    · exact List.mem_singleton.mp member
    · cases member

theorem heard_of_entering {handler : Handler State World} (entering : duty.stage = .enter)
    (named : visitor.handler duty.stage duty.task.node = some handler) :
    visitor.heard duty world = [duty.occasion world] := by
  have passes : visitor.looks duty = false := by simp only [Visitor.looks, entering]
  simp [Visitor.heard, passes, named]

theorem perform_eq (visitor : Visitor State World) (duty : Duty State) (world : World) :
    visitor.perform duty world =
      if visitor.looks duty && visitor.cancelled world then .error .cancelled world
      else match visitor.respond duty world with
        | .ok action later => orStop (duty.next action) later
        | .error stop later => .error stop later := by
  unfold Visitor.perform
  cases looking : visitor.looks duty with
  | false =>
      simp only [Bool.false_eq_true, if_false, Bool.false_and]
      rw [bind_apply]
      cases visitor.respond duty world <;> rfl
  | true =>
      simp only [if_true, Bool.true_and]
      rw [bind_apply, checkCancelled]
      cases visitor.cancelled world with
      | true => rfl
      | false =>
          simp only [Bool.false_eq_true, if_false]
          rw [bind_apply]
          cases visitor.respond duty world <;> rfl

theorem get_apply (world : World) : (get : EStateM Fault World World) world = .ok world world := rfl

theorem set_apply (world later : World) :
    (set later : EStateM Fault World PUnit) world = .ok ⟨⟩ later := rfl

theorem modify_apply (change : World → World) (world : World) :
    (modify change : EStateM Fault World PUnit) world = .ok ⟨⟩ (change world) := rfl

theorem orStop_error {α : Type} (fault : Fault) (world : World) :
    (orStop (.error fault) : Visiting World α) world = .error (.faulted fault) world := rfl

theorem orStop_ok {α : Type} (value : α) (world : World) :
    (orStop (.ok value) : Visiting World α) world = .ok value world := rfl

theorem perform_ok (step : visitor.perform duty world = .ok more later) :
    (visitor.looks duty && visitor.cancelled world) = false ∧
      ∃ action, visitor.respond duty world = .ok action later ∧ duty.next action = .ok more := by
  rw [perform_eq] at step
  cases stopped : visitor.looks duty && visitor.cancelled world with
  | true => simp [stopped] at step
  | false =>
      simp only [stopped, Bool.false_eq_true, if_false] at step
      refine ⟨rfl, ?_⟩
      cases answered : visitor.respond duty world with
      | error stop middle => simp [answered] at step
      | ok action middle =>
          cases next : duty.next action with
          | error fault => simp [answered, next, orStop_error] at step
          | ok found =>
              simp only [answered, next, orStop_ok, EStateM.Result.ok.injEq] at step
              obtain ⟨rfl, rfl⟩ := step
              exact ⟨action, rfl, next⟩

/-- A duty stops a walk that is cancelled, that its handler stops, or that finds something amiss
with the answer or the children. -/
theorem perform_error (step : visitor.perform duty world = .error stop later) :
    (stop = .cancelled ∧ later = world ∧ visitor.cancelled world = true) ∨
      visitor.respond duty world = .error stop later ∨
      ∃ action fault, visitor.respond duty world = .ok action later ∧
        duty.next action = .error fault ∧ stop = .faulted fault := by
  rw [perform_eq] at step
  cases stopped : visitor.looks duty && visitor.cancelled world with
  | true =>
      simp only [stopped, if_true, EStateM.Result.error.injEq] at step
      exact .inl ⟨step.1.symm, step.2.symm, (Bool.and_eq_true_iff.mp stopped).2⟩
  | false =>
      simp only [stopped, Bool.false_eq_true, if_false] at step
      cases answered : visitor.respond duty world with
      | error other middle =>
          simp only [answered, EStateM.Result.error.injEq] at step
          obtain ⟨rfl, rfl⟩ := step
          exact .inr (.inl rfl)
      | ok action middle =>
          cases next : duty.next action with
          | ok found => simp [answered, next, orStop_ok] at step
          | error fault =>
              simp only [answered, next, orStop_error, EStateM.Result.error.injEq] at step
              obtain ⟨rfl, rfl⟩ := step
              exact .inr (.inr ⟨action, fault, rfl, next, rfl⟩)

/-- An answer is that of a handler, which did not abort; without a handler nothing happens. -/
theorem respond_ok {action : Action State}
    (answered : visitor.respond duty world = .ok action later) :
    (visitor.handler duty.stage duty.task.node = none ∧ action = .keep ∧ later = world) ∨
      ∃ handler, visitor.handler duty.stage duty.task.node = some handler ∧
        handler duty.task.node duty.task.state duty.task.parent world = .ok action later := by
  unfold Visitor.respond at answered
  cases named : visitor.handler duty.stage duty.task.node with
  | none =>
      simp only [named, pure, EStateM.pure, EStateM.Result.ok.injEq] at answered
      exact .inl ⟨rfl, answered.1.symm, answered.2.symm⟩
  | some handler =>
      simp only [named, call] at answered
      refine .inr ⟨handler, rfl, ?_⟩
      split at answered
      · cases answered
      · rename_i run
        cases answered
        exact run
      · cases answered

theorem respond_ne_abort {action : Action State}
    (answered : visitor.respond duty world = .ok action later) :
    action ≠ .abort := by
  rintro rfl
  unfold Visitor.respond at answered
  cases named : visitor.handler duty.stage duty.task.node with
  | none => simp [named, pure, EStateM.pure] at answered
  | some handler =>
      simp only [named, call] at answered
      split at answered
      · cases answered
      · rename_i goes _
        cases answered
        exact goes rfl
      · cases answered

theorem respond_error (answered : visitor.respond duty world = .error stop later) :
    ∃ handler, visitor.handler duty.stage duty.task.node = some handler ∧
      ((stop = .aborted ∧
        handler duty.task.node duty.task.state duty.task.parent world = .ok .abort later) ∨
      ∃ fault, stop = .faulted fault ∧
        handler duty.task.node duty.task.state duty.task.parent world = .error fault later) := by
  unfold Visitor.respond at answered
  cases named : visitor.handler duty.stage duty.task.node with
  | none => simp [named, pure, EStateM.pure] at answered
  | some handler =>
      simp only [named, call] at answered
      refine ⟨handler, rfl, ?_⟩
      split at answered
      · rename_i run
        cases answered
        exact .inl ⟨rfl, run⟩
      · cases answered
      · rename_i fault later run
        cases answered
        exact .inr ⟨fault, rfl, run⟩

inductive Duty.Next (duty : Duty State) (action : Action State) : List (Duty State) → Prop where
  | nothing (late : duty.stage ≠ .enter)
      (refuses : duty.stage = .wildcard → action = .skipChildren) : duty.Next action []
  | enter (early : duty.stage = .wildcard) {state : State} {ignore : List String}
      (applied : applyAction action duty.task.state [] = .ok (state, ignore)) :
      duty.Next action [⟨.enter, { duty.task with state }, ignore⟩]
  | skip (entering : duty.stage = .enter) (skips : action = .skipChildren) :
      duty.Next action (Task.below duty.task [])
  | below (entering : duty.stage = .enter) {state : State} {ignore : List String}
      (applied : applyAction action duty.task.state duty.ignore = .ok (state, ignore))
      {found : List Node} (collected : children duty.task.node ignore = .ok found) :
      duty.Next action (Task.below { duty.task with state } (seatsLeft duty.task.node ignore))

theorem next_ok {action : Action State} (next : duty.next action = .ok more) :
    duty.Next action more := by
  obtain ⟨stage, task, ignore⟩ := duty
  have applies {old : List String} {β : Type} {onward : State × List String → Except Fault β}
      {result : β} (run : (applyAction action task.state old >>= onward) = .ok result) :
      ∃ pair, applyAction action task.state old = .ok pair ∧ onward pair = .ok result := by
    cases applied : applyAction action task.state old with
    | error fault => simp [applied, bind, Except.bind] at run
    | ok pair => exact ⟨pair, rfl, by simpa [applied, bind, Except.bind] using run⟩
  cases stage with
  | leave =>
      simp only [Duty.next, Except.ok.injEq] at next
      subst next
      exact .nothing (by simp) (by simp)
  | wildcard =>
      cases action with
      | skipChildren =>
          simp only [Duty.next, Except.ok.injEq] at next
          subst next
          exact .nothing (by simp) fun _ => rfl
      | _ =>
          obtain ⟨⟨state, ignored⟩, applied, result⟩ := applies next
          cases result
          exact .enter rfl applied
  | enter =>
      cases action with
      | skipChildren =>
          simp only [Duty.next, Except.ok.injEq] at next
          subst next
          exact .skip rfl rfl
      | _ =>
          obtain ⟨⟨state, ignored⟩, applied, result⟩ := applies next
          cases collected : children task.node ignored with
          | error fault => simp [collected, bind, Except.bind] at result
          | ok found =>
              simp only [collected, bind, Except.bind, pure, Except.pure,
                Except.ok.injEq] at result
              subst result
              exact .below rfl applied collected

end Steps

section Invariants

variable {visitor : Visitor State World}

theorem heard_single (duty : Duty State) (world : World) :
    visitor.heard duty world = [] ∨ ∃ event, visitor.heard duty world = [event] := by
  unfold Visitor.heard
  split
  · exact .inl rfl
  · split
    · exact .inr ⟨_, rfl⟩
    · exact .inl rfl

/-- A call of a row is that of the first duty, with none before it, or one of the calls after it. -/
theorem heard_split {duty : Duty State} {world : World}
    {events front back : List (Occasion State World)} {event : Occasion State World}
    (split : visitor.heard duty world ++ events = front ++ event :: back) :
    (front = [] ∧ event ∈ visitor.heard duty world) ∨
      ∃ others, front = visitor.heard duty world ++ others ∧ events = others ++ event :: back := by
  rcases heard_single duty world with silent | ⟨only, alone⟩
  · rw [silent] at split ⊢
    exact .inr ⟨front, rfl, split⟩
  · rw [alone] at split ⊢
    cases front with
    | nil =>
        cases split
        exact .inl ⟨rfl, List.mem_singleton.mpr rfl⟩
    | cons first others =>
        cases split
        exact .inr ⟨others, rfl, rfl⟩

/-- Runs keep an invariant of the agenda, the world and the calls so far, when every duty does. A
property that the invariant gives of the next call holds of all calls, and one that it gives of an
early end holds of the end. -/
theorem Runs.keeps {Inv : List (Duty State) → World → List (Occasion State World) → Prop}
    {Good : List (Occasion State World) → Occasion State World → Prop}
    {Ends : Stop → World → List (Occasion State World) → Prop}
    (calls : ∀ duty rest world past, Inv (duty :: rest) world past →
      ∀ event ∈ visitor.heard duty world, Good past event)
    (goes : ∀ duty rest world past more later, Inv (duty :: rest) world past →
      visitor.perform duty world = .ok more later →
      Inv (more ++ rest) later (past ++ visitor.heard duty world))
    (stops : ∀ duty rest world past stop later, Inv (duty :: rest) world past →
      visitor.perform duty world = .error stop later →
      Ends stop later (past ++ visitor.heard duty world))
    {agenda : List (Duty State)} {world : World} {events : List (Occasion State World)}
    {ending : EStateM.Result Stop World Unit} (runs : Runs visitor agenda world events ending)
    {past : List (Occasion State World)} (start : Inv agenda world past) :
    (∀ front event back, events = front ++ event :: back → Good (past ++ front) event) ∧
      (∀ later, ending = .ok () later → Inv [] later (past ++ events)) ∧
      (∀ stop later, ending = .error stop later → Ends stop later (past ++ events)) := by
  -- The calls so far grow along the run, and the invariant speaks of them.
  induction runs generalizing past with
  | done world =>
      refine ⟨?_, ?_, ?_⟩
      · intro front event back split
        simp at split
      · intro later same
        cases same
        simpa using start
      · intro stop later same
        cases same
  | @stops duty rest world later stop step =>
      refine ⟨?_, ?_, ?_⟩
      · intro front event back split
        rw [← List.append_nil (visitor.heard duty world)] at split
        rcases heard_split split with ⟨rfl, here⟩ | ⟨others, rfl, none⟩
        · simpa using calls duty rest world past start event here
        · simp at none
      · intro later same
        cases same
      · intro stop later same
        cases same
        exact stops duty rest world past _ _ start step
  | @goes duty more rest world later events ending step onward ih =>
      obtain ⟨good, completes, ends⟩ := ih (goes duty rest world past more later start step)
      refine ⟨?_, ?_, ?_⟩
      · intro front event back split
        rcases heard_split split with ⟨rfl, here⟩ | ⟨others, rfl, after⟩
        · simpa using calls duty rest world past start event here
        · simpa using good others event back after
      · intro last same
        simpa using completes last same
      · intro stop last same
        simpa using ends stop last same

end Invariants

section Simulation

variable {visitor : Visitor State World}

def Leads (visitor : Visitor State World) (duties : List (Duty State)) (world : World) :
    EStateM.Result Stop World Unit → Prop
  | .ok () later => ∃ events, ∀ rest more ending, Runs visitor rest later more ending →
      Runs visitor (duties ++ rest) world (events ++ more) ending
  | .error stop later => ∃ events, ∀ rest,
      Runs visitor (duties ++ rest) world events (.error stop later)

theorem leads_nil (world : World) : Leads visitor [] world (.ok () world) :=
  ⟨[], fun _ _ _ runs => runs⟩

theorem leads_append {first second : List (Duty State)} {world later : World}
    {ending : EStateM.Result Stop World Unit} (early : Leads visitor first world (.ok () later))
    (late : Leads visitor second later ending) : Leads visitor (first ++ second) world ending := by
  obtain ⟨before, early⟩ := early
  cases ending with
  | ok value last =>
      obtain ⟨after, late⟩ := late
      refine ⟨before ++ after, fun rest more ending runs => ?_⟩
      simpa using early _ _ _ (late rest more ending runs)
  | error stop last =>
      obtain ⟨after, late⟩ := late
      refine ⟨before ++ after, fun rest => ?_⟩
      simpa using early _ _ _ (late rest)

theorem leads_append_error {first : List (Duty State)} (second : List (Duty State))
    {world later : World} {stop : Stop} (early : Leads visitor first world (.error stop later)) :
    Leads visitor (first ++ second) world (.error stop later) := by
  obtain ⟨events, early⟩ := early
  exact ⟨events, fun rest => by simpa using early (second ++ rest)⟩

theorem leads_goes {duty : Duty State} {more : List (Duty State)} {world later : World}
    {ending : EStateM.Result Stop World Unit} (step : visitor.perform duty world = .ok more later)
    (onward : Leads visitor more later ending) : Leads visitor [duty] world ending := by
  cases ending with
  | ok value last =>
      obtain ⟨events, onward⟩ := onward
      refine ⟨visitor.heard duty world ++ events, fun rest further ending runs => ?_⟩
      rw [List.append_assoc]
      exact .goes step (onward rest further ending runs)
  | error stop last =>
      obtain ⟨events, onward⟩ := onward
      exact ⟨visitor.heard duty world ++ events, fun rest => .goes step (onward rest)⟩

theorem leads_stops {duty : Duty State} {world later : World} {stop : Stop}
    (step : visitor.perform duty world = .error stop later) :
    Leads visitor [duty] world (.error stop later) :=
  ⟨visitor.heard duty world, fun _ => .stops step⟩

theorem leads_leave (task : Task State) (world : World) :
    Leads visitor [.leave task] world
      (leaveNode visitor task.node task.state task.parent world) := by
  have step : visitor.perform (.leave task) world =
      match leaveNode visitor task.node task.state task.parent world with
      | .ok () later => .ok [] later
      | .error stop later => .error stop later := by
    rw [perform_eq]
    unfold leaveNode Visitor.looks Visitor.respond Visitor.handler
    dsimp only [Duty.leave]
    rcases Option.eq_none_or_eq_some (task.node.kind.bind visitor.leave) with
      missing | ⟨handler, registered⟩
    · simp only [missing]
      rfl
    · simp only [registered, Option.isSome_some, Bool.true_and]
      rw [bind_apply, checkCancelled]
      cases visitor.cancelled world with
      | true => rfl
      | false =>
          simp only [Bool.false_eq_true, if_false]
          rw [bind_apply]
          cases call handler task.node task.state task.parent world <;> rfl
  cases left : leaveNode visitor task.node task.state task.parent world with
  | ok value later =>
      rw [left] at step
      exact leads_goes step (leads_nil later)
  | error stop later =>
      rw [left] at step
      exact leads_stops step

def visitEntered (visitor : Visitor State World) (node : Node) (parent : Option Node) :
    Entry State → Visiting World Unit
  | .refused => return ()
  | .entered state none => leaveNode visitor node state parent
  | .entered state (some ignore) => do
      let found ← orStop (smallChildren node ignore)
      visitAll visitor node state found
      leaveNode visitor node state parent

theorem visit_eq (node : Node) (state : State) (parent : Option Node) (world : World) :
    visit visitor node state parent world =
      if visitor.cancelled world then .error .cancelled world
      else (enterNode visitor node state parent >>= visitEntered visitor node parent) world := by
  rw [visit, bind_apply, checkCancelled]
  cases visitor.cancelled world with
  | true => rfl
  | false =>
      simp only [Bool.false_eq_true, if_false]
      refine congrFun (bind_congr fun entry => ?_) world
      cases entry with
      | refused => rfl
      | entered state ignore => cases ignore <;> rfl

theorem smallChildren_ok {node : Node} {ignore : List String} {found : List Node}
    (collected : children node ignore = .ok found) :
    ∃ small, smallChildren node ignore = .ok small ∧ small.map Subtype.val = found := by
  unfold smallChildren
  split
  · rename_i other again
    rw [collected] at again
    cases again
    exact ⟨_, rfl, by simp⟩
  · rename_i fault failed
    rw [collected] at failed
    cases failed

theorem smallChildren_error {node : Node} {ignore : List String} {fault : Fault}
    (failed : children node ignore = .error fault) : smallChildren node ignore = .error fault := by
  unfold smallChildren
  split
  · rename_i found collected
    rw [failed] at collected
    cases collected
  · rename_i other again
    rw [failed] at again
    cases again
    rfl

theorem leads_visitAll {task : Task State} (seats : List Seat)
    (found : List { child : Node // child.size < task.node.size })
    (names : found.map Subtype.val = seats.map Seat.node)
    (each : ∀ child : Task State, child.node.size < task.node.size → ∀ world,
      Leads visitor [.arrive child] world (visit visitor child.node child.state child.parent world))
    (world : World) :
    Leads visitor (seats.map fun seat => .arrive (task.child seat)) world
      (visitAll visitor task.node task.state found world) := by
  induction seats generalizing found world with
  | nil =>
      cases found with
      | nil =>
          rw [visitAll]
          exact leads_nil world
      | cons child rest => simp at names
  | cons seat others ih =>
      cases found with
      | nil => simp at names
      | cons child rest =>
          simp only [List.map_cons, List.cons.injEq] at names
          obtain ⟨same, tail⟩ := names
          have first :=
            each (task.child seat) (by simpa [Task.child, ← same] using child.property) world
          rw [visitAll, bind_apply]
          simp only [Task.child, ← same] at first
          rw [List.map_cons, ← List.singleton_append]
          simp only [Task.child, ← same]
          cases run : visit visitor child.val task.state (some task.node) world with
          | ok value later =>
              rw [run] at first
              exact leads_append first (ih rest tail later)
          | error stop later =>
              rw [run] at first
              exact leads_append_error _ first

theorem leads_below (task : Task State) {ignore : List String}
    (each : ∀ child : Task State, child.node.size < task.node.size → ∀ world,
      Leads visitor [.arrive child] world (visit visitor child.node child.state child.parent world))
    {found : List Node} (collected : children task.node ignore = .ok found) (world : World) :
    Leads visitor (task.below (seatsLeft task.node ignore)) world
      (visitEntered visitor task.node task.parent (.entered task.state (some ignore)) world) := by
  obtain ⟨small, opened, names⟩ := smallChildren_ok collected
  rw [children_ok collected] at names
  have inner := leads_visitAll (seatsLeft task.node ignore) small names each world
  simp only [visitEntered, opened, orStop, pure_bind]
  rw [bind_apply]
  cases run : visitAll visitor task.node task.state small world with
  | error stop later =>
      rw [run] at inner
      exact leads_append_error _ inner
  | ok value later =>
      rw [run] at inner
      exact leads_append inner (leads_leave task later)

theorem next_wildcard {task : Task State} {old : List String} {action : Action State}
    (goes : action ≠ .skipChildren) :
    (Duty.mk .wildcard task old).next action = (do
      let (state, ignore) ← applyAction action task.state []
      return [⟨.enter, { task with state }, ignore⟩]) := by
  cases action <;> first | rfl | exact absurd rfl goes

theorem next_enter {task : Task State} {old : List String} {action : Action State}
    (goes : action ≠ .skipChildren) :
    (Duty.mk .enter task old).next action = (do
      let (state, ignore) ← applyAction action task.state old
      let _ ← children task.node ignore
      return Task.below { task with state } (seatsLeft task.node ignore)) := by
  cases action <;> first | rfl | exact absurd rfl goes

theorem leads_applied {task : Task State} {old : List String}
    (each : ∀ child : Task State, child.node.size < task.node.size → ∀ world,
      Leads visitor [.arrive child] world (visit visitor child.node child.state child.parent world))
    {action : Action State} (goes : action ≠ .skipChildren) {world later : World}
    (answered : visitor.respond ⟨.enter, task, old⟩ world = .ok action later) :
    Leads visitor [⟨.enter, task, old⟩] world
      ((orStop (applyAction action task.state old) >>= fun pair =>
        visitEntered visitor task.node task.parent (.entered pair.1 (some pair.2))) later) := by
  have step := perform_eq visitor ⟨.enter, task, old⟩ world
  rw [answered] at step
  simp only [Visitor.looks, Bool.false_and, Bool.false_eq_true, if_false, next_enter goes] at step
  rw [bind_apply]
  cases applied : applyAction action task.state old with
  | error fault =>
      rw [applied] at step
      exact leads_stops step
  | ok pair =>
      obtain ⟨state, ignore⟩ := pair
      rw [applied] at step
      simp only [orStop_ok]
      cases collected : children task.node ignore with
      | error fault =>
          simp only [bind, Except.bind, collected] at step
          simp only [visitEntered, smallChildren_error collected]
          exact leads_stops step
      | ok found =>
          simp only [bind, Except.bind, collected] at step
          exact leads_goes step (leads_below { task with state } each collected later)

theorem leads_enter (task : Task State) (ignore : List String)
    (each : ∀ child : Task State, child.node.size < task.node.size → ∀ world,
      Leads visitor [.arrive child] world (visit visitor child.node child.state child.parent world))
    (world : World) :
    Leads visitor [⟨.enter, task, ignore⟩] world
      ((enterKind visitor task.node task.parent task.state ignore >>=
        visitEntered visitor task.node task.parent) world) := by
  unfold enterKind
  rcases Option.eq_none_or_eq_some (task.node.kind.bind visitor.enter) with
    missing | ⟨handler, registered⟩
  · have answered : visitor.respond ⟨.enter, task, ignore⟩ world = .ok .keep world := by
      simp only [Visitor.respond, Visitor.handler, missing]
      rfl
    simp only [missing, pure_bind]
    exact leads_applied each (by simp) answered
  · simp only [registered, bind_assoc]
    rw [bind_apply]
    have answered : visitor.respond ⟨.enter, task, ignore⟩ world =
        call handler task.node task.state task.parent world := by
      simp only [Visitor.respond, Visitor.handler, registered]
    cases run : call handler task.node task.state task.parent world with
    | error stop later =>
        rw [run] at answered
        apply leads_stops
        rw [perform_eq, answered]
        rfl
    | ok action later =>
        rw [run] at answered
        have applied (goes : action ≠ .skipChildren) := leads_applied each goes answered
        cases action with
        | skipChildren =>
            have step : visitor.perform ⟨.enter, task, ignore⟩ world = .ok [.leave task] later := by
              rw [perform_eq, answered]
              rfl
            exact leads_goes step (leads_leave task later)
        | _ => simpa using applied (by simp)

theorem leads_visit (visitor : Visitor State World) (task : Task State) (world : World) :
    Leads visitor [.arrive task] world
      (visit visitor task.node task.state task.parent world) := by
  -- The size of the node falls from a node to its children.
  induction size : task.node.size using Nat.strongRecOn generalizing task world with
  | ind bound deeper =>
      subst size
      have each (state : State) (child : Task State) (smaller : child.node.size < task.node.size)
          (world : World) := deeper _ smaller child world rfl
      have step := perform_eq visitor (.arrive task) world
      rw [visit_eq]
      cases stopped : visitor.cancelled world with
      | true =>
          simp only [stopped, Visitor.looks, Duty.arrive, Bool.and_self, if_true] at step ⊢
          exact leads_stops step
      | false =>
          simp only [stopped, Bool.and_false, Bool.false_eq_true, if_false] at step ⊢
          unfold enterNode
          rcases Option.eq_none_or_eq_some visitor.wildcard with missing | ⟨handler, registered⟩
          · have answered : visitor.respond (.arrive task) world = .ok .keep world := by
              simp only [Visitor.respond, Visitor.handler, Duty.arrive, missing]
              rfl
            rw [answered] at step
            simp only [missing]
            exact leads_goes step (leads_enter task [] (each task.state) world)
          · have answered : visitor.respond (.arrive task) world =
                call handler task.node task.state task.parent world := by
              simp only [Visitor.respond, Visitor.handler, Duty.arrive, registered]
            simp only [registered, bind_assoc]
            rw [bind_apply]
            rw [answered] at step
            cases run : call handler task.node task.state task.parent world with
            | error stop later =>
                rw [run] at step
                exact leads_stops step
            | ok action later =>
                rw [run] at step
                have applied (goes : action ≠ .skipChildren) :
                    Leads visitor [.arrive task] world
                      ((orStop (applyAction action task.state []) >>= fun pair =>
                        enterKind visitor task.node task.parent pair.1 pair.2 >>=
                          visitEntered visitor task.node task.parent) later) := by
                  simp only [Duty.arrive, next_wildcard goes] at step
                  rw [bind_apply]
                  cases taken : applyAction action task.state [] with
                  | error fault =>
                      rw [taken] at step
                      exact leads_stops step
                  | ok pair =>
                      obtain ⟨state, ignore⟩ := pair
                      rw [taken] at step
                      exact leads_goes step (leads_enter { task with state } ignore (each state)
                        later)
                cases action with
                | skipChildren => exact leads_goes step (leads_nil later)
                | _ => simpa using applied (by simp)

end Simulation

/-- The calls of a walk in their order, each with the world it finds, and how the walk ends. -/
def Recorded (visitor : Visitor State World) (root : Node) (state : State) (world : World)
    (events : List (Occasion State World)) (ending : EStateM.Result Stop World Unit) : Prop :=
  Runs visitor [.arrive (rootTask root state)] world events ending

theorem walk_recorded (visitor : Visitor State World) {root : Node} (tagged : root.kind.isSome)
    (state : State) (world : World) :
    ∃ events ending, Recorded visitor root state world events ending ∧
      walk visitor root state world = conclude ending := by
  have leads := leads_visit visitor (rootTask root state) world
  obtain ⟨kind, known⟩ := Option.isSome_iff_exists.mp tagged
  simp only [walk, known, Option.isNone_some, Bool.false_eq_true, if_false]
  simp only [rootTask] at leads
  cases run : visit visitor root state none world with
  | ok value later =>
      rw [run] at leads
      obtain ⟨events, leads⟩ := leads
      exact ⟨_, _, leads [] [] _ (.done later), rfl⟩
  | error stop later =>
      rw [run] at leads
      obtain ⟨events, leads⟩ := leads
      refine ⟨_, _, leads [], ?_⟩
      cases stop <;> rfl

theorem Runs.unique {visitor : Visitor State World} {agenda : List (Duty State)} {world : World}
    {events others : List (Occasion State World)} {ending other : EStateM.Result Stop World Unit}
    (runs : Runs visitor agenda world events ending)
    (again : Runs visitor agenda world others other) :
    events = others ∧ ending = other := by
  induction runs generalizing others other with
  | done world =>
      cases again
      exact ⟨rfl, rfl⟩
  | stops step =>
      cases again with
      | stops same =>
          rw [step] at same
          cases same
          exact ⟨rfl, rfl⟩
      | goes same => simp [step] at same
  | goes step onward ih =>
      cases again with
      | stops same => simp [step] at same
      | goes same more =>
          rw [step] at same
          cases same
          obtain ⟨rfl, rfl⟩ := ih more
          exact ⟨rfl, rfl⟩

section Logging

def withLog {ε α : Type} (log : List (Call State × World)) :
    EStateM.Result ε World α → EStateM.Result ε (World × List (Call State × World)) α
  | .ok value world => .ok value (world, log)
  | .error stop world => .error stop (world, log)

def Handler.logged (stage : Stage) (handler : Handler State World) :
    Handler State (World × List (Call State × World)) :=
  fun node state parent world =>
    withLog (world.2 ++ [(⟨stage, node, state, parent⟩, world.1)])
      (handler node state parent world.1)

def Visitor.logged (visitor : Visitor State World) :
    Visitor State (World × List (Call State × World)) where
  wildcard := visitor.wildcard.map (Handler.logged .wildcard)
  enter kind := (visitor.enter kind).map (Handler.logged .enter)
  leave kind := (visitor.leave kind).map (Handler.logged .leave)
  cancelled world := visitor.cancelled world.1

variable (visitor : Visitor State World)

theorem handler_logged (stage : Stage) (node : Node) :
    visitor.logged.handler stage node =
      (visitor.handler stage node).map (Handler.logged stage) := by
  cases stage with
  | wildcard => rfl
  | enter | leave => cases tagged : node.kind <;> simp [Visitor.handler, Visitor.logged, tagged]

def noted (events : List (Occasion State World)) : List (Call State × World) :=
  events.map fun event => (event.call, event.world)

theorem perform_logged (duty : Duty State) (world : World) (log : List (Call State × World)) :
    visitor.logged.perform duty (world, log) =
      withLog (log ++ noted (visitor.heard duty world)) (visitor.perform duty world) := by
  have looks : visitor.logged.looks duty = visitor.looks duty := by
    unfold Visitor.looks
    rw [handler_logged, Option.isSome_map]
  rw [perform_eq, perform_eq, looks,
    show visitor.logged.cancelled (world, log) = visitor.cancelled world from rfl]
  unfold Visitor.heard
  split
  · simp [noted, withLog]
  · unfold Visitor.respond
    rw [handler_logged]
    have stops (outcome : Except Fault (List (Duty State))) (later : World)
        (log : List (Call State × World)) :
        orStop outcome (later, log) = withLog log (orStop outcome later) := by
      cases outcome <;> rfl
    cases visitor.handler duty.stage duty.task.node with
    | none => simp [noted, pure, EStateM.pure, stops]
    | some handler =>
        simp only [Option.map_some, Option.isSome_some, if_true, call, Handler.logged,
          noted, List.map_cons, List.map_nil]
        cases handler duty.task.node duty.task.state duty.task.parent world with
        | error fault later => rfl
        | ok action later =>
            cases action with
            | abort => rfl
            | _ =>
              simp only [withLog]
              exact stops _ _ _

theorem Runs.logged {agenda : List (Duty State)} {world : World}
    {events : List (Occasion State World)} {ending : EStateM.Result Stop World Unit}
    (runs : Runs visitor agenda world events ending) (log : List (Call State × World)) :
    ∃ others, Runs visitor.logged agenda (world, log) others
      (withLog (log ++ noted events) ending) := by
  induction runs generalizing log with
  | done world =>
      exact ⟨[], by simpa [noted, withLog] using @Runs.done _ _ visitor.logged (world, log)⟩
  | stops step =>
      refine ⟨_, .stops ?_⟩
      rw [perform_logged, step]
      rfl
  | @goes duty more rest world later events ending step onward ih =>
      obtain ⟨others, later⟩ := ih (log ++ noted (visitor.heard duty world))
      refine ⟨_, .goes ?_ (by simpa [noted] using later)⟩
      rw [perform_logged, step]
      simp [withLog, noted]

theorem walk_logged {root : Node} (tagged : root.kind.isSome) {state : State} {world : World}
    {events : List (Occasion State World)} {ending : EStateM.Result Stop World Unit}
    (recorded : Recorded visitor root state world events ending) :
    walk visitor.logged root state (world, []) = conclude (withLog (noted events) ending) := by
  obtain ⟨_, runs⟩ := recorded.logged visitor []
  obtain ⟨_, _, other, ends⟩ := walk_recorded visitor.logged tagged state (world, [])
  obtain ⟨-, rfl⟩ := runs.unique other
  simpa using ends

/-- The calls of a walk, which a log of them tells as well, and how the walk ends. -/
structure Told (root : Node) (state : State) (world : World) (events : List (Occasion State World))
    (ending : EStateM.Result Stop World Unit) : Prop where
  recorded : Recorded visitor root state world events ending
  ends : walk visitor root state world = conclude ending
  logged : walk visitor.logged root state (world, []) = conclude (withLog (noted events) ending)

theorem walk_told {root : Node} (tagged : root.kind.isSome) (state : State) (world : World) :
    ∃ events ending, Told visitor root state world events ending := by
  obtain ⟨events, ending, recorded, ends⟩ := walk_recorded visitor tagged state world
  exact ⟨events, ending, recorded, ends, walk_logged visitor tagged recorded⟩

end Logging

section Following

variable {visitor : Visitor State World} {goal : EStateM.Result Stop World Unit → Prop}
  {duty : Duty State} {rest more : List (Duty State)} {world later : World} {action : Action State}

def Reaches (visitor : Visitor State World) (agenda : List (Duty State)) (world : World)
    (goal : EStateM.Result Stop World Unit → Prop) : Prop :=
  ∃ events ending, Runs visitor agenda world events ending ∧ goal ending

theorem perform_answered (free : visitor.cancelled world = false)
    (answered : visitor.respond duty world = .ok action later)
    (next : duty.next action = .ok more) :
    visitor.perform duty world = .ok more later := by
  rw [perform_eq, free, Bool.and_false]
  simp only [Bool.false_eq_true, if_false, answered, next, orStop_ok]

theorem perform_aborted {handler : Handler State World} (free : visitor.cancelled world = false)
    (named : visitor.handler duty.stage duty.task.node = some handler)
    (answered : handler duty.task.node duty.task.state duty.task.parent world = .ok .abort later) :
    visitor.perform duty world = .error .aborted later := by
  rw [perform_eq, free, Bool.and_false]
  simp only [Bool.false_eq_true, if_false, Visitor.respond, named, call, answered]

theorem next_children {task : Task State} {old ignore : List String} {state : State}
    {found : List Node} {seated : List Seat} (goes : action ≠ .skipChildren)
    (applied : applyAction action task.state old = .ok (state, ignore))
    (collected : children task.node ignore = .ok found)
    (seats : seatsLeft task.node ignore = seated) :
    (Duty.mk .enter task old).next action = .ok (Task.below { task with state } seated) := by
  rw [next_enter goes, applied, ← seats]
  simp only [bind, Except.bind, collected]
  rfl

theorem reaches_next (free : visitor.cancelled world = false)
    (answered : visitor.respond duty world = .ok action later) (next : duty.next action = .ok more)
    (onward : Reaches visitor (more ++ rest) later goal) :
    Reaches visitor (duty :: rest) world goal := by
  obtain ⟨events, ending, runs, here⟩ := onward
  exact ⟨_, _, .goes (perform_answered free answered next) runs, here⟩

theorem reaches_abort {handler : Handler State World} (free : visitor.cancelled world = false)
    (named : visitor.handler duty.stage duty.task.node = some handler)
    (answered : handler duty.task.node duty.task.state duty.task.parent world = .ok .abort later)
    (here : goal (.error .aborted later)) : Reaches visitor (duty :: rest) world goal :=
  ⟨_, _, .stops (perform_aborted free named answered), here⟩

theorem reaches_children {task : Task State} {old ignore : List String} {state : State}
    {found : List Node} {seated : List Seat} (free : visitor.cancelled world = false)
    (answered : visitor.respond ⟨.enter, task, old⟩ world = .ok action later)
    (goes : action ≠ .skipChildren)
    (applied : applyAction action task.state old = .ok (state, ignore))
    (collected : children task.node ignore = .ok found)
    (seats : seatsLeft task.node ignore = seated)
    (onward : Reaches visitor (Task.below { task with state } seated ++ rest) later goal) :
    Reaches visitor (⟨.enter, task, old⟩ :: rest) world goal :=
  reaches_next free answered (next_children goes applied collected seats) onward

def Comes (visitor : Visitor State World) (agenda : List (Duty State)) (world : World)
    (calls : List (Occasion State World)) (duty : Duty State) (there : World) : Prop :=
  ∃ past rest, calls ⊆ past ∧ ∀ events ending, Runs visitor (duty :: rest) there events ending →
    Runs visitor agenda world (past ++ events) ending

section Coming

variable {calls : List (Occasion State World)} {last : Duty State} {there : World}

theorem heard_handled {handler : Handler State World} (free : visitor.cancelled world = false)
    (named : visitor.handler duty.stage duty.task.node = some handler) :
    visitor.heard duty world = [duty.occasion world] := by
  simp [Visitor.heard, free, named]

theorem comes_here (duty : Duty State) (rest : List (Duty State)) (world : World) :
    Comes visitor (duty :: rest) world [] duty world :=
  ⟨[], rest, List.nil_subset _, fun _ _ runs => runs⟩

theorem comes_next (free : visitor.cancelled world = false)
    (answered : visitor.respond duty world = .ok action later) (next : duty.next action = .ok more)
    (onward : Comes visitor (more ++ rest) later calls last there) :
    Comes visitor (duty :: rest) world (visitor.heard duty world ++ calls) last there := by
  obtain ⟨past, behind, made, runs⟩ := onward
  refine ⟨visitor.heard duty world ++ past, behind, ?_, ?_⟩
  · exact List.append_subset.mpr
      ⟨List.subset_append_left .., List.subset_append_of_subset_right _ made⟩
  · intro events ending final
    rw [List.append_assoc]
    exact .goes (perform_answered free answered next) (runs events ending final)

theorem comes_past (free : visitor.cancelled world = false)
    (answered : visitor.respond duty world = .ok action later) (next : duty.next action = .ok more)
    (onward : Comes visitor (more ++ rest) later calls last there) :
    Comes visitor (duty :: rest) world calls last there := by
  obtain ⟨past, behind, made, runs⟩ := comes_next free answered next onward
  exact ⟨past, behind, (List.append_subset.mp made).2, runs⟩

theorem comes_call {handler : Handler State World} (free : visitor.cancelled world = false)
    (named : visitor.handler duty.stage duty.task.node = some handler)
    (answered : visitor.respond duty world = .ok action later) (next : duty.next action = .ok more)
    (onward : Comes visitor (more ++ rest) later [] last there) :
    Comes visitor (duty :: rest) world [duty.occasion world] last there := by
  have comes := comes_next free answered next onward
  rwa [heard_handled free named, List.append_nil] at comes

theorem Comes.aborts {agenda : List (Duty State)} {handler : Handler State World}
    (comes : Comes visitor agenda world calls last there) (free : visitor.cancelled there = false)
    (named : visitor.handler last.stage last.task.node = some handler)
    (answered : handler last.task.node last.task.state last.task.parent there = .ok .abort later) :
    ∃ past, calls ⊆ past ∧
      Runs visitor agenda world (past ++ [last.occasion there]) (.error .aborted later) := by
  obtain ⟨past, rest, made, runs⟩ := comes
  refine ⟨past, made, runs _ _ ?_⟩
  rw [← heard_handled free named]
  exact .stops (perform_aborted free named answered)

end Coming

theorem seatsLeft_sorted {node : Node} {ignore : List String} {found : List Seat}
    (left : ((seats node).filter fun seat => !blockedField ignore id seat.trail) = found)
    (sorted : (placedSeats (-1) found).Pairwise fun a b => a.1 ≤ b.1) :
    seatsLeft node ignore = found := by
  rw [seatsLeft, left, arranged, List.mergeSort_of_pairwise (by simpa using sorted),
    map_snd_placedSeats]

theorem seatsLeft_pair {node : Node} {ignore : List String} {a b : Seat} {early late : Int}
    (left : ((seats node).filter fun seat => !blockedField ignore id seat.trail) = [a, b])
    (places : placedSeats (-1) [a, b] = [(early, a), (late, b)]) (order : early ≤ late) :
    seatsLeft node ignore = [a, b] := by
  apply seatsLeft_sorted left
  rw [places]
  exact List.pairwise_pair.mpr order

theorem seatsLeft_three {node : Node} {ignore : List String} {a b c : Seat} {early late : Int}
    (left : ((seats node).filter fun seat => !blockedField ignore id seat.trail) = [a, b, c])
    (places : placedSeats (-1) [a, b, c] = [(late, a), (late, b), (early, c)])
    (before : early < late) :
    seatsLeft node ignore = [c, a, b] := by
  rw [seatsLeft, left, arranged, places]
  simp [List.mergeSort, List.MergeSort.Internal.splitInTwo, before]

theorem walk_of_reaches {root : Node} (tagged : root.kind.isSome) {state : State}
    (reaches : Reaches visitor [.arrive (rootTask root state)] world goal) :
    ∃ ending, walk visitor root state world = conclude ending ∧ goal ending := by
  obtain ⟨_, ending, runs, here⟩ := reaches
  obtain ⟨_, other, recorded, ends⟩ := walk_recorded visitor tagged state world
  obtain ⟨-, rfl⟩ := runs.unique recorded
  exact ⟨ending, ends, here⟩

end Following

end StyleFold.Walk
