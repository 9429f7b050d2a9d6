import StyleFold.Proofs.Walk.Seat
import StyleFold.Walk.Visit

/-!
The course of a walk: the arrivals at nodes and the handler calls, in the order in which they
come. A plan says which handlers there are and what each call answers; the answer may depend
on how many calls came before it. A disturbance makes some calls abort or cancel. Main
statement: walking a well-tagged tree with a plan under any disturbance is replaying the
course that the plan has without one.
-/

namespace StyleFold.Walk

inductive Stage where
  | wildcard
  | enter
  | leave
  deriving DecidableEq, Repr

structure Call (State : Type) where
  stage : Stage
  node : Node
  state : State
  parent : Option Node

/-- For which calls there is a handler, and what the call with a number answers. -/
structure Plan (State : Type) where
  wildcard : Bool
  enter : Kind → Bool
  leave : Kind → Bool
  answer : Nat → Call State → Action State

/-- What is seen of a walk from outside: the calls so far, and the token. -/
structure Log (State : Type) where
  calls : List (Call State) := []
  cancelled : Bool := false

/-- The calls, by number, that answer with an abort or cancel the token. -/
structure Disturbance where
  aborts : Nat → Bool := fun _ => false
  cancels : Nat → Bool := fun _ => false

variable {State : Type}

def Log.record (trouble : Disturbance) (log : Log State) (call : Call State) : Log State where
  calls := log.calls ++ [call]
  cancelled := log.cancelled || trouble.cancels log.calls.length

section Plans

namespace Plan

/-- No call aborts or answers what is no action. -/
def Willing (plan : Plan State) : Prop :=
  ∀ number call, plan.answer number call ≠ .abort ∧ plan.answer number call ≠ .malformed

def handles (plan : Plan State) (stage : Stage) (node : Node) : Bool :=
  match stage with
  | .wildcard => plan.wildcard
  | .enter => node.kind.any plan.enter
  | .leave => node.kind.any plan.leave

/-- A handler that records its call. -/
def handler (plan : Plan State) (trouble : Disturbance) (stage : Stage) :
    Handler State (Log State) := fun node state parent log =>
  let call : Call State := ⟨stage, node, state, parent⟩
  let number := log.calls.length
  .ok (if trouble.aborts number then .abort else plan.answer number call)
    (log.record trouble call)

def visitor (plan : Plan State) (trouble : Disturbance) : Visitor State (Log State) where
  wildcard := if plan.wildcard then some (plan.handler trouble .wildcard) else none
  enter kind := if plan.enter kind then some (plan.handler trouble .enter) else none
  leave kind := if plan.leave kind then some (plan.handler trouble .leave) else none
  cancelled := Log.cancelled

end Plan

namespace Action

def skips : Action State → Bool
  | .skipChildren => true
  | _ => false

def pass (state : State) : Action State → State
  | .proceed next => next
  | .proceedIgnoring next _ => next
  | _ => state

def paths : Action State → List String
  | .proceedIgnoring _ paths => paths.filter (!·.isEmpty)
  | _ => []

end Action

end Plans

section Courses

/-- A handler's turn: where, which call, and what it answers. -/
structure Turn (State : Type) where
  address : Address
  call : Call State
  answer : Action State

inductive Moment (State : Type) where
  | arrival (address : Address)
  | turn (taken : Turn State)

namespace Moment

def address : Moment State → Address
  | .arrival address => address
  | .turn taken => taken.address

def turn? : Moment State → Option (Turn State)
  | .arrival _ => none
  | .turn taken => some taken

end Moment

def turns (moments : List (Moment State)) : List (Turn State) := moments.filterMap Moment.turn?

def calls (moments : List (Moment State)) : List (Call State) := (turns moments).map Turn.call

@[simp] theorem turns_nil : turns ([] : List (Moment State)) = [] := rfl

@[simp] theorem turns_arrival (address : Address) (rest : List (Moment State)) :
    turns (.arrival address :: rest) = turns rest := rfl

@[simp] theorem turns_turn (taken : Turn State) (rest : List (Moment State)) :
    turns (.turn taken :: rest) = taken :: turns rest := rfl

@[simp] theorem turns_append (first second : List (Moment State)) :
    turns (first ++ second) = turns first ++ turns second := List.filterMap_append

@[simp] theorem turns_map_turn (row : List (Turn State)) : turns (row.map .turn) = row := by
  induction row with
  | nil => rfl
  | cons turn rest ih => simp [ih]

/-- A node to be visited, with the state and the parent it is visited with. -/
structure Task (State : Type) where
  address : Address
  node : Node
  state : State
  parent : Option Node

def skips (row : List (Turn State)) : Bool := row.any (·.answer.skips)

def passed (row : List (Turn State)) (state : State) : State :=
  row.foldl (fun state turn => turn.answer.pass state) state

def ignoredBy (row : List (Turn State)) : List String := row.flatMap (·.answer.paths)

theorem skips_append (first second : List (Turn State)) :
    skips (first ++ second) = (skips first || skips second) := List.any_append

theorem passed_append (first second : List (Turn State)) (state : State) :
    passed (first ++ second) state = passed second (passed first state) := List.foldl_append

theorem ignoredBy_append (first second : List (Turn State)) :
    ignoredBy (first ++ second) = ignoredBy first ++ ignoredBy second := List.flatMap_append

namespace Plan

def turnsFor (plan : Plan State) (stage : Stage) (number : Nat) (task : Task State)
    (state : State) : List (Turn State) :=
  let call : Call State := ⟨stage, task.node, state, task.parent⟩
  if plan.handles stage task.node then [⟨task.address, call, plan.answer number call⟩] else []

def wildcardTurns (plan : Plan State) (number : Nat) (task : Task State) : List (Turn State) :=
  plan.turnsFor .wildcard number task task.state

def enterTurns (plan : Plan State) (number : Nat) (task : Task State) : List (Turn State) :=
  let first := plan.wildcardTurns number task
  plan.turnsFor .enter (number + first.length) task (passed first task.state)

def opening (plan : Plan State) (number : Nat) (task : Task State) : List (Turn State) :=
  plan.wildcardTurns number task ++ plan.enterTurns number task

def childTasks (plan : Plan State) (number : Nat) (task : Task State) : List (Task State) :=
  let first := plan.opening number task
  if skips first then []
  else (seatsLeft task.node (ignoredBy first)).map fun seat =>
    ⟨task.address ++ [seat.trail], seat.node, passed first task.state, some task.node⟩

def leaveTurns (plan : Plan State) (number later : Nat) (task : Task State) : List (Turn State) :=
  plan.turnsFor .leave later task (passed (plan.opening number task) task.state)

end Plan

theorem mem_childTasks {plan : Plan State} {number : Nat} {task child : Task State}
    (member : child ∈ plan.childTasks number task) :
    ∃ trail, Child task.node trail child.node ∧ child.address = task.address ++ [trail] := by
  unfold Plan.childTasks at member
  dsimp only at member
  split at member
  · cases member
  · obtain ⟨seat, present, rfl⟩ := List.mem_map.mp member
    exact ⟨seat.trail, (mem_seatsLeft.mp present).1, rfl⟩

/-- The course of visiting tasks one after the other, when a number of calls came before. -/
inductive Course (plan : Plan State) : Nat → List (Task State) → List (Moment State) → Prop where
  | done (number : Nat) : Course plan number [] []
  | refused {number : Nat} {task : Task State} {rest : List (Task State)}
      {more : List (Moment State)}
      (refuses : skips (plan.wildcardTurns number task) = true)
      (onward : Course plan (number + (plan.wildcardTurns number task).length) rest more) :
      Course plan number (task :: rest)
        (.arrival task.address :: (plan.wildcardTurns number task).map .turn ++ more)
  | entered {number later : Nat} {task : Task State} {rest : List (Task State)}
      {inner more : List (Moment State)}
      (accepts : skips (plan.wildcardTurns number task) = false)
      (inside : Course plan (number + (plan.opening number task).length)
        (plan.childTasks number task) inner)
      (count : later = number + (plan.opening number task).length + (turns inner).length)
      (onward : Course plan (later + (plan.leaveTurns number later task).length) rest more) :
      Course plan number (task :: rest)
        (.arrival task.address :: (plan.opening number task).map .turn ++ inner ++
          (plan.leaveTurns number later task).map .turn ++ more)

end Courses

section Replay

variable (trouble : Disturbance)

def attend (moment : Moment State) : Visiting (Log State) Unit := fun log =>
  match moment with
  | .arrival _ => if log.cancelled then .error .cancelled log else .ok () log
  | .turn taken =>
      if taken.call.stage = .leave ∧ log.cancelled then .error .cancelled log
      else if trouble.aborts log.calls.length then .error .aborted (log.record trouble taken.call)
      else .ok () (log.record trouble taken.call)

def replay : List (Moment State) → Visiting (Log State) Unit
  | [] => pure ()
  | moment :: rest => do
      attend trouble moment
      replay rest

def visitTasks (visitor : Visitor State (Log State)) :
    List (Task State) → Visiting (Log State) Unit
  | [] => pure ()
  | task :: rest => do
      visit visitor task.node task.state task.parent
      visitTasks visitor rest

theorem bind_apply {World α β : Type} (first : Visiting World α) (next : α → Visiting World β)
    (world : World) : (first >>= next) world = match first world with
      | .ok value world => next value world
      | .error stop world => .error stop world := by
  cases h : first world <;> simp [bind, EStateM.bind, h]

theorem replay_append (first second : List (Moment State)) :
    replay trouble (first ++ second) = (do replay trouble first; replay trouble second) := by
  induction first with
  | nil => simp [replay]
  | cons moment rest ih => simp [replay, ih]

theorem attend_ok {moment : Moment State} {log later : Log State}
    (run : attend trouble moment log = .ok () later) :
    later.calls = log.calls ++ calls [moment] := by
  cases moment with
  | arrival address =>
      simp only [attend] at run
      split at run
      · cases run
      · cases run
        simp [calls]
  | turn taken =>
      simp only [attend] at run
      split at run
      · cases run
      · split at run
        · cases run
        · cases run
          simp [calls, Log.record]

theorem replay_ok {moments : List (Moment State)} {log later : Log State}
    (run : replay trouble moments log = .ok () later) :
    later.calls = log.calls ++ calls moments := by
  induction moments generalizing log with
  | nil =>
      cases run
      simp [calls]
  | cons moment rest ih =>
      rw [replay, bind_apply] at run
      cases first : attend trouble moment log with
      | error stop world => simp [first] at run
      | ok value world =>
          rw [first] at run
          rw [ih run, attend_ok trouble first]
          cases moment <;> simp [calls]

end Replay

section Simulation

variable {plan : Plan State} (trouble : Disturbance)

theorem call_handler (willing : plan.Willing) {stage : Stage} (early : stage ≠ .leave)
    (address : Address) (node : Node) (state : State) (parent : Option Node) (log : Log State) :
    call (plan.handler trouble stage) node state parent log =
      (do
        attend trouble (.turn ⟨address, ⟨stage, node, state, parent⟩,
          plan.answer log.calls.length ⟨stage, node, state, parent⟩⟩)
        pure (plan.answer log.calls.length ⟨stage, node, state, parent⟩) : Visiting _ _) log := by
  have sound := (willing log.calls.length ⟨stage, node, state, parent⟩).1
  rw [bind_apply]
  simp only [call, Plan.handler, attend, early, false_and, if_false]
  cases trouble.aborts log.calls.length with
  | true => simp
  | false =>
      simp only [Bool.false_eq_true, if_false]
      cases answer : plan.answer log.calls.length ⟨stage, node, state, parent⟩ with
      | abort => exact absurd answer sound
      | _ => rfl

theorem replay_single (moment : Moment State) (log : Log State) :
    replay trouble [moment] log = attend trouble moment log := by
  rw [replay, bind_apply]
  cases attend trouble moment log <;> rfl

/-- One handler before the children: what it answers decides between refusing and going on. -/
def ask {α : Type} (found : Option (Handler State (Log State))) (node : Node) (state : State)
    (parent : Option Node) (ignore : List String) (refuse : Visiting (Log State) α)
    (go : State → List String → Visiting (Log State) α) : Visiting (Log State) α :=
  match found with
  | none => go state ignore
  | some handler => do
      match ← call handler node state parent with
      | .skipChildren => refuse
      | action =>
          let (state, ignore) ← orStop (applyAction action state ignore)
          go state ignore

theorem enterKind_ask (visitor : Visitor State (Log State)) (node : Node) (parent : Option Node)
    (state : State) (ignore : List String) (log : Log State) :
    enterKind visitor node parent state ignore log =
      ask (node.kind.bind visitor.enter) node state parent ignore
        (pure (.entered state none))
        (fun state ignore => pure (.entered state (some ignore))) log := by
  unfold enterKind ask
  cases node.kind.bind visitor.enter with
  | none => rfl
  | some handler =>
      refine congrFun (bind_congr fun action => ?_) log
      cases action <;> rfl

theorem enterNode_ask (visitor : Visitor State (Log State)) (node : Node) (state : State)
    (parent : Option Node) (log : Log State) :
    enterNode visitor node state parent log =
      ask visitor.wildcard node state parent [] (pure .refused)
        (fun state ignore => enterKind visitor node parent state ignore) log := by
  unfold enterNode ask
  cases visitor.wildcard with
  | none => rfl
  | some handler =>
      refine congrFun (bind_congr fun action => ?_) log
      cases action <;> rfl

theorem ask_eq {α : Type} (willing : plan.Willing) {stage : Stage} (early : stage ≠ .leave)
    (task : Task State) (state : State) (ignore : List String) (log : Log State)
    {found : Option (Handler State (Log State))}
    (registered : found =
      if plan.handles stage task.node then some (plan.handler trouble stage) else none)
    (refuse : Visiting (Log State) α) (go : State → List String → Visiting (Log State) α) :
    ask found task.node state task.parent ignore refuse go log =
      (do
        replay trouble ((plan.turnsFor stage log.calls.length task state).map .turn)
        if skips (plan.turnsFor stage log.calls.length task state) then refuse
        else
          go (passed (plan.turnsFor stage log.calls.length task state) state)
            (ignore ++ ignoredBy (plan.turnsFor stage log.calls.length task state))) log := by
  subst registered
  cases handled : plan.handles stage task.node with
  | false => simp [ask, Plan.turnsFor, handled, replay, passed, skips, ignoredBy]
  | true =>
      simp only [ask, Plan.turnsFor, handled, if_true, List.map_cons, List.map_nil]
      rw [bind_apply, call_handler trouble willing early task.address, bind_apply, bind_apply,
        replay_single]
      have sound := willing log.calls.length ⟨stage, task.node, state, task.parent⟩
      generalize plan.answer log.calls.length ⟨stage, task.node, state, task.parent⟩ = action
        at sound
      cases attend trouble (.turn ⟨task.address, ⟨stage, task.node, state, task.parent⟩, action⟩)
          log with
      | error stop later => rfl
      | ok value later =>
          cases action with
          | skipChildren => rfl
          | keep | proceed | proceedIgnoring =>
              simp only [skips, Action.skips, ignoredBy, Action.paths, List.any_cons, List.any_nil,
                Bool.or_false, Bool.false_eq_true, if_false, List.flatMap_cons, List.flatMap_nil,
                List.append_nil]
              rfl
          | abort => exact absurd rfl sound.1
          | malformed => exact absurd rfl sound.2

theorem visitor_wildcard (task : Task State) : (plan.visitor trouble).wildcard =
    if plan.handles .wildcard task.node then some (plan.handler trouble .wildcard) else none := rfl

theorem visitor_enter (task : Task State) : task.node.kind.bind (plan.visitor trouble).enter =
    if plan.handles .enter task.node then some (plan.handler trouble .enter) else none := by
  cases kind : task.node.kind <;> simp [Plan.handles, Plan.visitor, kind]

theorem visitor_leave (task : Task State) : task.node.kind.bind (plan.visitor trouble).leave =
    if plan.handles .leave task.node then some (plan.handler trouble .leave) else none := by
  cases kind : task.node.kind <;> simp [Plan.handles, Plan.visitor, kind]

theorem passed_of_skips {stage : Stage} {number : Nat} {task : Task State} {state : State}
    (refuses : skips (plan.turnsFor stage number task state) = true) :
    passed (plan.turnsFor stage number task state) state = state := by
  unfold Plan.turnsFor at *
  split at refuses
  · rename_i handled
    simp only [handled, if_true, passed, List.foldl_cons, List.foldl_nil]
    simp only [skips, List.any_cons, List.any_nil, Bool.or_false] at refuses
    cases answer : plan.answer number ⟨stage, task.node, state, task.parent⟩ <;>
      simp [answer, Action.skips] at refuses ⊢
    rfl
  · cases refuses

theorem enterKind_eq (willing : plan.Willing) (task : Task State) (state : State)
    (ignore : List String) (log : Log State) :
    enterKind (plan.visitor trouble) task.node task.parent state ignore log =
      (do
        replay trouble ((plan.turnsFor .enter log.calls.length task state).map .turn)
        pure (.entered (passed (plan.turnsFor .enter log.calls.length task state) state)
          (if skips (plan.turnsFor .enter log.calls.length task state) then none
          else some (ignore ++ ignoredBy (plan.turnsFor .enter log.calls.length task state)))) :
        Visiting _ _) log := by
  rw [enterKind_ask, ask_eq trouble willing (by decide) task state ignore log
    (visitor_enter trouble task)]
  cases refuses : skips (plan.turnsFor .enter log.calls.length task state) with
  | true => simp [passed_of_skips refuses]
  | false => simp

theorem enterNode_eq (willing : plan.Willing) (task : Task State) (log : Log State)
    {number : Nat} (count : log.calls.length = number) :
    enterNode (plan.visitor trouble) task.node task.state task.parent log =
      (do
        replay trouble ((plan.wildcardTurns number task).map .turn)
        if skips (plan.wildcardTurns number task) then pure .refused
        else
          replay trouble ((plan.enterTurns number task).map .turn)
          pure (.entered (passed (plan.opening number task) task.state)
            (if skips (plan.enterTurns number task) then none
            else some (ignoredBy (plan.opening number task)))) : Visiting _ _) log := by
  subst count
  have named : plan.turnsFor .wildcard log.calls.length task task.state =
      plan.wildcardTurns log.calls.length task := rfl
  rw [enterNode_ask, ask_eq trouble willing (by decide) task task.state [] log
    (visitor_wildcard trouble task), named, bind_apply, bind_apply]
  cases run : replay trouble ((plan.wildcardTurns log.calls.length task).map .turn) log with
  | error stop later => rfl
  | ok value later =>
      have grown : later.calls.length =
          log.calls.length + (plan.wildcardTurns log.calls.length task).length := by
        rw [replay_ok trouble run]
        simp [calls]
      cases refuses : skips (plan.wildcardTurns log.calls.length task) with
      | true => simp
      | false =>
          simp only [Bool.false_eq_true, if_false]
          rw [enterKind_eq trouble willing, grown]
          simp only [Plan.enterTurns, Plan.opening, passed_append, ignoredBy_append,
            List.nil_append]

theorem leaveNode_eq (willing : plan.Willing) (task : Task State) (state : State)
    (log : Log State) :
    leaveNode (plan.visitor trouble) task.node state task.parent log =
      replay trouble ((plan.turnsFor .leave log.calls.length task state).map .turn) log := by
  unfold leaveNode
  rw [visitor_leave]
  cases handled : plan.handles .leave task.node with
  | false => simp [Plan.turnsFor, handled, replay]
  | true =>
      simp only [Plan.turnsFor, handled, if_true, List.map_cons, List.map_nil]
      rw [replay_single, bind_apply]
      cases stopped : log.cancelled with
      | true => simp [checkCancelled, Plan.visitor, stopped, attend]
      | false =>
          have sound := (willing log.calls.length ⟨.leave, task.node, state, task.parent⟩).1
          simp only [checkCancelled, Plan.visitor, stopped, Bool.false_eq_true, if_false, attend,
            and_false]
          rw [bind_apply]
          simp only [call, Plan.handler]
          cases trouble.aborts log.calls.length with
          | true => rfl
          | false =>
              simp only [Bool.false_eq_true, if_false]
              cases answer : plan.answer log.calls.length
                ⟨.leave, task.node, state, task.parent⟩ with
              | abort => exact absurd answer sound
              | _ => rfl

theorem visitAll_eq (visitor : Visitor State (Log State)) (task : Task State) (state : State)
    (found : List Seat) (small : ∀ seat ∈ found, seat.node.size < task.node.size) :
    visitAll visitor task.node state
        (found.attach.map fun seat => ⟨seat.val.node, small seat.val seat.property⟩) =
      visitTasks visitor (found.map fun seat =>
        ⟨task.address ++ [seat.trail], seat.node, state, some task.node⟩) := by
  induction found with
  | nil => simp [visitAll, visitTasks]
  | cons seat rest ih =>
      have tail := ih fun other member => small other (List.mem_cons_of_mem seat member)
      simp only [List.attach_cons, List.map_cons, List.map_map, visitAll, visitTasks]
      rw [← tail]
      rfl

theorem small_seatsLeft {node : Node} (valid : WellTagged node) (ignore : List String) :
    ∀ seat ∈ seatsLeft node ignore, seat.node.size < node.size :=
  fun _ member => child_size (mem_seatsLeft.mp member).1 valid

theorem smallChildren_eq {node : Node} (valid : WellTagged node) (ignore : List String) :
    smallChildren node ignore = .ok ((seatsLeft node ignore).attach.map fun seat =>
      ⟨seat.val.node, small_seatsLeft valid ignore seat.val seat.property⟩) := by
  unfold smallChildren
  split
  · rename_i found run
    rw [children_eq node ignore valid] at run
    cases run
    congr 1
    apply List.map_injective_iff.mpr Subtype.val_injective
    simpa [List.map_map, Function.comp_def] using
      List.attach_map_subtype_val ((seatsLeft node ignore).map Seat.node)
  · rename_i fault run
    rw [children_eq node ignore valid] at run
    cases run

theorem visitBelow_eq (willing : plan.Willing) (task : Task State) (valid : WellTagged task.node)
    {number : Nat} (accepts : skips (plan.wildcardTurns number task) = false)
    {inner : List (Moment State)}
    (inside : ∀ log : Log State, log.calls.length = number + (plan.opening number task).length →
      visitTasks (plan.visitor trouble) (plan.childTasks number task) log =
        replay trouble inner log)
    (log : Log State) (count : log.calls.length = number + (plan.opening number task).length) :
    (match (Entry.entered (passed (plan.opening number task) task.state)
        (if skips (plan.enterTurns number task) then none
        else some (ignoredBy (plan.opening number task))) : Entry State) with
      | .refused => pure ()
      | .entered state none => leaveNode (plan.visitor trouble) task.node state task.parent
      | .entered state (some ignore) => do
          let found ← orStop (smallChildren task.node ignore)
          visitAll (plan.visitor trouble) task.node state found
          leaveNode (plan.visitor trouble) task.node state task.parent) log =
      replay trouble (inner ++ (plan.leaveTurns number
        (number + (plan.opening number task).length + (turns inner).length) task).map
          .turn) log := by
  have below := inside log count
  rw [replay_append, bind_apply]
  -- Only the enter turn can still skip the children: the wildcard turn was no refusal.
  have whole : skips (plan.opening number task) = skips (plan.enterTurns number task) := by
    rw [Plan.opening, skips_append, accepts, Bool.false_or]
  have left (later : Log State) (run : replay trouble inner log = .ok () later) :
      leaveNode (plan.visitor trouble) task.node (passed (plan.opening number task) task.state)
          task.parent later =
        replay trouble ((plan.leaveTurns number
          (number + (plan.opening number task).length + (turns inner).length) task).map .turn)
          later := by
    have grown : later.calls.length =
        number + (plan.opening number task).length + (turns inner).length := by
      rw [replay_ok trouble run, List.length_append, count]
      simp [calls]
    rw [leaveNode_eq trouble willing, grown, Plan.leaveTurns]
  cases skipping : skips (plan.enterTurns number task) with
  | true =>
      have none : plan.childTasks number task = [] := by
        simp [Plan.childTasks, whole, skipping]
      rw [none] at below
      have quiet : replay trouble inner log = .ok () log := below.symm
      rw [quiet]
      exact left log quiet
  | false =>
      have tasks : plan.childTasks number task =
          (seatsLeft task.node (ignoredBy (plan.opening number task))).map fun seat =>
            ⟨task.address ++ [seat.trail], seat.node, passed (plan.opening number task) task.state,
              some task.node⟩ := by
        simp [Plan.childTasks, whole, skipping]
      simp only [Bool.false_eq_true, if_false, smallChildren_eq valid, orStop, pure_bind]
      rw [visitAll_eq, ← tasks, bind_apply, below]
      cases run : replay trouble inner log with
      | error stop later => rfl
      | ok value later => exact left later run

/-- The token is looked at before a node is visited: the walk stops there, or nothing happens. -/
theorem arrive_or_stop (address : Address) (log : Log State) :
    (checkCancelled (plan.visitor trouble) log = .error .cancelled log ∧
        attend trouble (.arrival address) log = .error .cancelled log) ∨
      (checkCancelled (plan.visitor trouble) log = .ok () log ∧
        attend trouble (.arrival address) log = .ok () log) := by
  cases stopped : log.cancelled with
  | true => exact .inl (by simp [checkCancelled, Plan.visitor, stopped, attend])
  | false => exact .inr (by simp [checkCancelled, Plan.visitor, stopped, attend])

theorem visit_refused (willing : plan.Willing) (task : Task State) {number : Nat}
    (refuses : skips (plan.wildcardTurns number task) = true) (log : Log State)
    (count : log.calls.length = number) :
    visit (plan.visitor trouble) task.node task.state task.parent log =
      replay trouble (.arrival task.address :: (plan.wildcardTurns number task).map .turn) log := by
  rw [visit, replay, bind_apply, bind_apply]
  rcases arrive_or_stop trouble task.address log with ⟨stops, halts⟩ | ⟨calm, arrives⟩
  · rw [stops, halts]
  · rw [calm, arrives]
    dsimp only
    rw [bind_apply, enterNode_eq trouble willing task log count, bind_apply]
    cases run : replay trouble ((plan.wildcardTurns number task).map .turn) log with
    | error stop later => rfl
    | ok value later =>
        simp only [refuses, if_true]
        rfl

theorem visit_entered (willing : plan.Willing) (task : Task State) (valid : WellTagged task.node)
    {number : Nat} (accepts : skips (plan.wildcardTurns number task) = false)
    {inner : List (Moment State)}
    (inside : ∀ log : Log State, log.calls.length = number + (plan.opening number task).length →
      visitTasks (plan.visitor trouble) (plan.childTasks number task) log =
        replay trouble inner log)
    (log : Log State) (count : log.calls.length = number) :
    visit (plan.visitor trouble) task.node task.state task.parent log =
      replay trouble (.arrival task.address :: (plan.opening number task).map .turn ++ inner ++
        (plan.leaveTurns number
          (number + (plan.opening number task).length + (turns inner).length) task).map
            .turn) log := by
  rw [visit, List.cons_append, List.cons_append, replay, bind_apply, bind_apply]
  rcases arrive_or_stop trouble task.address log with ⟨stops, halts⟩ | ⟨calm, arrives⟩
  · rw [stops, halts]
  · rw [calm, arrives]
    dsimp only
    rw [bind_apply, enterNode_eq trouble willing task log count, bind_apply, List.append_assoc,
      replay_append, bind_apply]
    have split : replay trouble ((plan.opening number task).map .turn) log =
        (do
          replay trouble ((plan.wildcardTurns number task).map .turn)
          replay trouble ((plan.enterTurns number task).map .turn)) log := by
      rw [Plan.opening, List.map_append, replay_append]
    rw [split, bind_apply]
    cases run : replay trouble ((plan.wildcardTurns number task).map .turn) log with
    | error stop later => rfl
    | ok value later =>
        simp only [accepts, Bool.false_eq_true, if_false]
        rw [bind_apply]
        cases next : replay trouble ((plan.enterTurns number task).map .turn) later with
        | error stop last => rfl
        | ok value last =>
            have grown : last.calls.length = number + (plan.opening number task).length := by
              rw [replay_ok trouble next, replay_ok trouble run]
              simp [calls, count, Plan.opening]
            exact visitBelow_eq trouble willing task valid accepts inside last grown

theorem visitTasks_eq_replay (willing : plan.Willing) {number : Nat} {tasks : List (Task State)}
    {moments : List (Moment State)} (course : Course plan number tasks moments)
    (valid : ∀ task ∈ tasks, WellTagged task.node) (log : Log State)
    (count : log.calls.length = number) :
    visitTasks (plan.visitor trouble) tasks log = replay trouble moments log := by
  -- A step that stops the walk stops the replay at the same moment, with the same log.
  induction course generalizing log with
  | done number => rfl
  | @refused number task rest more refuses onward ih =>
      rw [visitTasks, bind_apply, visit_refused trouble willing task refuses log count,
        replay_append, bind_apply]
      cases run : replay trouble (.arrival task.address ::
          (plan.wildcardTurns number task).map .turn) log with
      | error stop later => rfl
      | ok value later =>
          apply ih fun other member => valid other (List.mem_cons_of_mem task member)
          rw [replay_ok trouble run]
          simp [calls, count]
  | @entered number later task rest inner more accepts inside total onward ihInside ihOnward =>
      subst total
      have tagged := valid task List.mem_cons_self
      have children : ∀ child ∈ plan.childTasks number task, WellTagged child.node := by
        intro child member
        obtain ⟨trail, step, _⟩ := mem_childTasks member
        exact child_wellTagged step tagged
      rw [visitTasks, bind_apply, visit_entered trouble willing task tagged accepts
        (fun log count => ihInside children log count) log count, replay_append trouble _ more,
        bind_apply]
      cases run : replay trouble (.arrival task.address :: (plan.opening number task).map .turn ++
          inner ++ (plan.leaveTurns number
            (number + (plan.opening number task).length + (turns inner).length) task).map .turn)
          log with
      | error stop last => rfl
      | ok value last =>
          apply ihOnward fun other member => valid other (List.mem_cons_of_mem task member)
          rw [replay_ok trouble run]
          simp [calls, count]
          omega

end Simulation

/-! Every well-tagged tree has a course, and an undisturbed walk goes through all of it. -/

section Whole

theorem course_exists_below (plan : Plan State) (bound number : Nat) (tasks : List (Task State))
    (valid : ∀ task ∈ tasks, WellTagged task.node)
    (small : ∀ task ∈ tasks, task.node.size < bound) :
    ∃ moments, Course plan number tasks moments := by
  -- The bound falls from a node to its children, the row of tasks from one sibling to the next.
  induction bound generalizing number tasks with
  | zero =>
      cases tasks with
      | nil => exact ⟨[], .done number⟩
      | cons task rest => exact absurd (small task List.mem_cons_self) (Nat.not_lt_zero _)
  | succ bound deeper =>
      induction tasks generalizing number with
      | nil => exact ⟨[], .done number⟩
      | cons task rest further =>
          have onward (number : Nat) := further number
            (fun other member => valid other (List.mem_cons_of_mem task member))
            (fun other member => small other (List.mem_cons_of_mem task member))
          have tagged := valid task List.mem_cons_self
          have limit := small task List.mem_cons_self
          cases accepts : skips (plan.wildcardTurns number task) with
          | true =>
              obtain ⟨more, next⟩ := onward (number + (plan.wildcardTurns number task).length)
              exact ⟨_, .refused accepts next⟩
          | false =>
              obtain ⟨inner, inside⟩ := deeper (number + (plan.opening number task).length)
                (plan.childTasks number task)
                (fun child member => by
                  obtain ⟨trail, step, _⟩ := mem_childTasks member
                  exact child_wellTagged step tagged)
                (fun child member => by
                  obtain ⟨trail, step, _⟩ := mem_childTasks member
                  have := child_size step tagged
                  omega)
              obtain ⟨more, next⟩ := onward _
              exact ⟨_, .entered accepts inside rfl next⟩

def rootTask (root : Node) (state : State) : Task State := ⟨[], root, state, none⟩

theorem course_exists (plan : Plan State) (root : Node) (state : State)
    (valid : WellTagged root) : ∃ course, Course plan 0 [rootTask root state] course :=
  course_exists_below plan (root.size + 1) 0 _ (by simpa [rootTask] using valid)
    (by simp [rootTask])

def conclude {World : Type} : EStateM.Result Stop World Unit → Except Fault Outcome × World
  | .ok () world => (.ok .completed, world)
  | .error .aborted world => (.ok .aborted, world)
  | .error .cancelled world => (.ok .cancelled, world)
  | .error (.faulted fault) world => (.error fault, world)

theorem walk_eq_replay {plan : Plan State} (willing : plan.Willing) {root : Node}
    (tagged : root.kind.isSome) (valid : WellTagged root) {state : State}
    {course : List (Moment State)} (whole : Course plan 0 [rootTask root state] course)
    (trouble : Disturbance) :
    walk (plan.visitor trouble) root state {} = conclude (replay trouble course {}) := by
  have run := visitTasks_eq_replay trouble willing whole (by simpa [rootTask] using valid) {} rfl
  rw [← run, visitTasks, bind_apply]
  obtain ⟨kind, known⟩ := Option.isSome_iff_exists.mp tagged
  simp only [walk, known, Option.isNone_some, Bool.false_eq_true, if_false, rootTask]
  cases visit (plan.visitor trouble) root state none ({} : Log State) with
  | ok value log => rfl
  | error stop log => cases stop <;> rfl

theorem replay_calm (trouble : Disturbance) (moments : List (Moment State)) (log : Log State)
    (open_ : log.cancelled = false)
    (calm : ∀ number, log.calls.length ≤ number →
      number < log.calls.length + (turns moments).length →
      trouble.aborts number = false ∧ trouble.cancels number = false) :
    replay trouble moments log = .ok () { calls := log.calls ++ calls moments } := by
  induction moments generalizing log with
  | nil =>
      cases log
      cases open_
      simp [replay, calls, pure, EStateM.pure]
  | cons moment rest ih =>
      rw [replay, bind_apply]
      cases moment with
      | arrival address =>
          simp only [attend, open_, Bool.false_eq_true, if_false]
          exact ih log open_ calm
      | turn taken =>
          obtain ⟨peace, quiet⟩ := calm log.calls.length (Nat.le_refl _) (by simp)
          simp only [attend, open_, Bool.false_eq_true, and_false, if_false, peace]
          rw [ih (log.record trouble taken.call) (by simp [Log.record, open_, quiet])]
          · simp [Log.record, calls]
          · intro number lower upper
            apply calm number
            · simp only [Log.record, List.length_append] at lower
              omega
            · simp only [Log.record, List.length_append, List.length_cons, List.length_nil] at upper
              simp only [turns_turn, List.length_cons]
              omega

theorem turnsFor_answer {plan : Plan State} {stage : Stage} {number : Nat} {task : Task State}
    {state : State} {index : Nat} {taken : Turn State}
    (found : (plan.turnsFor stage number task state)[index]? = some taken) :
    taken.answer = plan.answer (number + index) taken.call := by
  unfold Plan.turnsFor at found
  dsimp only at found
  split at found
  · cases index with
    | zero =>
        cases found
        rfl
    | succ index => simp at found
  · simp at found

theorem opening_answer {plan : Plan State} {number : Nat} {task : Task State} {index : Nat}
    {taken : Turn State} (found : (plan.opening number task)[index]? = some taken) :
    taken.answer = plan.answer (number + index) taken.call := by
  rw [Plan.opening, List.getElem?_append] at found
  split at found
  · exact turnsFor_answer found
  · have answered := turnsFor_answer found
    rw [answered]
    congr 1
    omega

theorem course_answers {plan : Plan State} {number : Nat} {tasks : List (Task State)}
    {moments : List (Moment State)} (course : Course plan number tasks moments) {index : Nat}
    {taken : Turn State} (found : (turns moments)[index]? = some taken) :
    taken.answer = plan.answer (number + index) taken.call := by
  induction course generalizing index with
  | done number => simp at found
  | @refused number task rest more refuses onward ih =>
      simp only [List.cons_append, turns_arrival, turns_append, turns_map_turn,
        List.getElem?_append] at found
      split at found
      · exact turnsFor_answer found
      · rw [ih found]
        congr 1
        omega
  | @entered number later task rest inner more accepts inside total onward ihInside ihOnward =>
      simp only [List.cons_append, turns_arrival, turns_append, turns_map_turn,
        List.getElem?_append, List.length_append] at found
      split at found
      · split at found
        · split at found
          · exact opening_answer found
          · rw [ihInside found]
            congr 1
            omega
        · rw [turnsFor_answer found]
          congr 1
          omega
      · rw [ihOnward found]
        congr 1
        omega

end Whole

end StyleFold.Walk
