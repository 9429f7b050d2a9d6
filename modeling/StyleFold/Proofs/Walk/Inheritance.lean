import Mathlib.Data.List.Forall2
import Mathlib.Data.List.Induction
import StyleFold.Proofs.Walk.Coverage
import StyleFold.Proofs.Walk.Lineage

/-!
What a handler is told. Main statement: in every walk, the state of a call is what the calls above
it in the tree handed on, and no others; each of them was made, from the root down, and none of
them keeps the walk from the call. Ignored paths act on the children of the node that answered
with them, and only there.
-/

namespace StyleFold.Walk

variable {State World : Type}

section Answers

def answered {α : Type} : EStateM.Result Fault World α → Option α
  | .ok answer _ => some answer
  | .error _ _ => none

def Visitor.answer? (visitor : Visitor State World) (event : Occasion State World) :
    Option (Action State) :=
  (visitor.handler event.call.stage event.call.node).bind fun handler =>
    answered (handler event.call.node event.call.state event.call.parent event.world)

/-- Which handler was called, and where. -/
def Occasion.sign (event : Occasion State World) : Address × Stage :=
  (event.address, event.call.stage)

/-- The calls at a position and above it, but for those on leaving. -/
def callsAbove (past : List (Occasion State World)) (address : Address) :
    List (Occasion State World) :=
  past.filter fun event => event.call.stage ≠ .leave ∧ event.address <+: address

def Visitor.inherited (visitor : Visitor State World) (state : State)
    (calls : List (Occasion State World)) :
    State :=
  calls.foldl (fun state event => (visitor.answer? event).elim state (Action.pass state)) state

/-- The handlers that a node has for some stages, with its position. -/
def Visitor.due (visitor : Visitor State World) (stages : List Stage) (address : Address)
    (node : Node) :
    List (Address × Stage) :=
  (stages.filter fun stage => (visitor.handler stage node).isSome).map fun stage => (address, stage)

/-- The stages of a visit before one. -/
def Stage.earlier : Stage → List Stage
  | .wildcard => []
  | .enter => [.wildcard]
  | .leave => [.wildcard, .enter]

/-- The calls on the way to a call: for every ancestor from the root down the wildcard and the enter
handler, then those that come before it at the node itself. -/
def Visitor.dueBefore (visitor : Visitor State World) (root : Node) (address : Address)
    (call : Call State) :
    List (Address × Stage) :=
  (lineage root address).flatMap (fun above => visitor.due [.wildcard, .enter] above.1 above.2) ++
    visitor.due call.stage.earlier address call.node

/-- A call keeps the walk from another: it skips what is below it, or after the wildcard all that is
left at its node, or it ignores the child that leads there. -/
def Visitor.Bars (visitor : Visitor State World) (above : Occasion State World) (address : Address)
    (stage : Stage) : Prop :=
  ∃ action, visitor.answer? above = some action ∧
    (action.skips = true ∧
      (above.address ≠ address ∨ above.call.stage = .wildcard ∧ stage ≠ .wildcard) ∨
      ∃ trail : Trail, above.address ++ [trail] <+: address ∧ trail.Begins action.paths)

/-- A call has its node, the nearest tagged ancestor of it, and the state that the
calls above handed on. -/
structure Inherits (visitor : Visitor State World) (root : Node) (state : State)
    (past : List (Occasion State World)) (address : Address) (call : Call State) : Prop where
  node : nodeAt root address = some call.node
  parent : call.parent = (lineage root address).getLast?.map Prod.snd
  calls : (callsAbove past address).map Occasion.sign = visitor.dueBefore root address call
  state : call.state = visitor.inherited state (callsAbove past address)
  free : ∀ above ∈ callsAbove past address, ¬ visitor.Bars above address call.stage

end Answers

section Actions

theorem applyAction_ok {action : Action State} {state next : State} {old ignore : List String}
    (applied : applyAction action state old = .ok (next, ignore)) :
    next = action.pass state ∧ ignore = old ++ action.paths ∧ action.skips = false := by
  cases action with
  | keep | proceed | proceedIgnoring =>
      cases applied
      simp [Action.pass, Action.paths, Action.skips]
  | skipChildren | abort | malformed => cases applied

end Actions

section Growth

variable {visitor : Visitor State World} {past new : List (Occasion State World)}
  {address : Address}

theorem mem_callsAbove {event : Occasion State World} :
    event ∈ callsAbove past address ↔ event ∈ past ∧ event.call.stage ≠ .leave ∧
    event.address <+: address := by
  simp [callsAbove]

theorem callsAbove_append (past new : List (Occasion State World)) (address : Address) :
    callsAbove (past ++ new) address = callsAbove past address ++ callsAbove new address :=
  List.filter_append ..

theorem callsAbove_apart
    (apart : ∀ event ∈ new, event.call.stage ≠ .leave → ¬ event.address <+: address) :
    callsAbove (past ++ new) address = callsAbove past address := by
  have none : callsAbove new address = [] := by
    rw [callsAbove, List.filter_eq_nil_iff]
    intro event member
    simpa using apart event member
  rw [callsAbove_append, none, List.append_nil]

theorem callsAbove_child {trail : Trail}
    (fresh : ∀ event ∈ past, event.call.stage ≠ .leave → event.address ≠ address ++ [trail]) :
    callsAbove past (address ++ [trail]) = callsAbove past address := by
  apply List.filter_congr
  intro event member
  by_cases leaving : event.call.stage = .leave
  · simp [leaving]
  · have other := fresh event member leaving
    simp [leaving, List.prefix_concat_iff, other]

theorem not_prefix_below (address : Address) (trail : Trail) :
    ¬ address ++ [trail] <+: address := by
  intro begins
  have long := begins.length_le
  rw [List.length_append, List.length_singleton] at long
  omega

theorem inherited_append (state : State) (first second : List (Occasion State World)) :
    visitor.inherited state (first ++ second) =
      visitor.inherited (visitor.inherited state first) second :=
  List.foldl_append

end Growth

section Calls

variable {visitor : Visitor State World} {duty : Duty State} {world later : World}
  {action : Action State}

/-- What is heard of a duty that succeeds: its call, if there is a handler, and what it answered. -/
theorem heard_of_ok (calm : (visitor.looks duty && visitor.cancelled world) = false)
    (answer : visitor.respond duty world = .ok action later) :
    (visitor.heard duty world = [] ∧ visitor.handler duty.stage duty.task.node = none ∧
      action = .keep) ∨
      (visitor.heard duty world = [duty.occasion world] ∧
        (visitor.handler duty.stage duty.task.node).isSome = true ∧
        visitor.answer? (duty.occasion world) = some action) := by
  unfold Visitor.heard
  simp only [calm, Bool.false_eq_true, if_false]
  rcases respond_ok answer with ⟨missing, rfl, rfl⟩ | ⟨handler, named, run⟩
  · exact .inl ⟨by simp [missing], missing, rfl⟩
  · refine .inr ⟨by simp [named], by simp [named], ?_⟩
    simp [Visitor.answer?, Duty.occasion, Duty.call, named, run, answered]

variable (calm : (visitor.looks duty && visitor.cancelled world) = false)
  (answer : visitor.respond duty world = .ok action later)

include calm answer

theorem sign_heard :
    (visitor.heard duty world).map Occasion.sign =
      visitor.due [duty.stage] duty.task.address duty.task.node := by
  rcases heard_of_ok calm answer with ⟨silent, missing, _⟩ | ⟨alone, named, _⟩
  · simp [silent, Visitor.due, missing]
  · simp [alone, Visitor.due, named, Occasion.sign, Duty.occasion, Duty.call]

theorem inherited_heard (state : State) :
    visitor.inherited state (visitor.heard duty world) = action.pass state := by
  rcases heard_of_ok calm answer with ⟨silent, _, rfl⟩ | ⟨alone, _, told⟩
  · simp [silent, Visitor.inherited, Action.pass]
  · simp [alone, Visitor.inherited, told]

theorem answer_heard {event : Occasion State World} (member : event ∈ visitor.heard duty world) :
    visitor.answer? event = some action := by
  rcases heard_of_ok calm answer with ⟨silent, _, _⟩ | ⟨alone, _, told⟩
  · simp [silent] at member
  · rw [alone, List.mem_singleton] at member
    rw [member, told]

end Calls

section Descent

variable {visitor : Visitor State World} {root : Node} {state : State}
  {past new : List (Occasion State World)} {address : Address} {call : Call State}

theorem due_append (first second : List Stage) (address : Address) (node : Node) :
    visitor.due (first ++ second) address node =
      visitor.due first address node ++ visitor.due second address node := by
  simp [Visitor.due]

theorem mem_dueBefore {place : Address} {stage : Stage}
    (member : (place, stage) ∈ visitor.dueBefore root address call) :
    (place <+: address ∧ place ≠ address) ∨ (place = address ∧ stage ∈ call.stage.earlier) := by
  rcases List.mem_append.mp member with above | own
  · obtain ⟨ancestor, inside, here⟩ := List.mem_flatMap.mp above
    obtain ⟨_, _, same⟩ := List.mem_map.mp here
    cases same
    exact .inl (prefix_of_lineage inside)
  · obtain ⟨_, due, same⟩ := List.mem_map.mp own
    cases same
    exact .inr ⟨rfl, (List.mem_filter.mp due).1⟩

theorem Inherits.own (inherits : Inherits visitor root state past address call)
    {above : Occasion State World} (member : above ∈ callsAbove past address)
    (here : above.address = address) :
    above.call.stage ∈ call.stage.earlier := by
  have due : above.sign ∈ visitor.dueBefore root address call :=
    inherits.calls ▸ List.mem_map_of_mem member
  rcases mem_dueBefore due with ⟨_, apart⟩ | ⟨_, early⟩
  · exact absurd here apart
  · exact early

theorem Inherits.of_same (inherits : Inherits visitor root state past address call)
    (same : callsAbove (past ++ new) address = callsAbove past address) :
    Inherits visitor root state (past ++ new) address call where
  node := inherits.node
  parent := inherits.parent
  calls := same ▸ inherits.calls
  state := same ▸ inherits.state
  free := same ▸ inherits.free

/-- After one call at a node comes the next one there, with the state that the first hands on. -/
theorem Inherits.advance {duty : Duty State} {world later : World} {action : Action State}
    {stage : Stage} (inherits : Inherits visitor root state past duty.task.address duty.call)
    (calm : (visitor.looks duty && visitor.cancelled world) = false)
    (answer : visitor.respond duty world = .ok action later) (early : duty.stage ≠ .leave)
    (follows : stage.earlier = duty.stage.earlier ++ [duty.stage])
    (goes : duty.stage = .wildcard → action.skips = false) :
    Inherits visitor root state (past ++ visitor.heard duty world) duty.task.address
      ⟨stage, duty.task.node, action.pass duty.task.state, duty.task.parent⟩ := by
  have grown : callsAbove (past ++ visitor.heard duty world) duty.task.address =
      callsAbove past duty.task.address ++ visitor.heard duty world := by
    rw [callsAbove_append]
    congr 1
    apply List.filter_eq_self.mpr
    intro event member
    rw [mem_heard member]
    simpa [Duty.occasion, Duty.call] using early
  constructor
  · exact inherits.node
  · exact inherits.parent
  · rw [grown, List.map_append, inherits.calls, sign_heard calm answer]
    simp [Visitor.dueBefore, follows, due_append, Duty.call]
  · rw [grown, inherited_append, ← inherits.state, inherited_heard calm answer]
    rfl
  · intro above member
    rw [grown, List.mem_append] at member
    rintro ⟨given, told, bars⟩
    rcases member with old | fresh
    · apply inherits.free above old
      refine ⟨given, told, ?_⟩
      rcases bars with ⟨skips, elsewhere | ⟨first, _⟩⟩ | ignored
      · exact .inl ⟨skips, .inl elsewhere⟩
      · by_cases here : above.address = duty.task.address
        · -- An earlier call at the node itself was that of the wildcard.
          have before := inherits.own old here
          refine .inl ⟨skips, .inr ⟨first, fun same => ?_⟩⟩
          rw [same] at before
          cases before
        · exact .inl ⟨skips, .inl here⟩
      · exact .inr ignored
    · rw [answer_heard calm answer fresh, Option.some.injEq] at told
      subst told
      rw [mem_heard fresh] at bars
      rcases bars with ⟨skips, elsewhere | ⟨first, _⟩⟩ | ⟨trail, begins, _⟩
      · exact elsewhere rfl
      · rw [goes first] at skips
        cases skips
      · exact not_prefix_below _ trail begins

theorem Inherits.descend (inherits : Inherits visitor root state past address call)
    (leaving : call.stage = .leave) {trail : Trail} {child : Node}
    (seated : childAt call.node trail = some child)
    (fresh : ∀ event ∈ past, event.call.stage ≠ .leave → event.address ≠ address ++ [trail])
    (left : ∀ above ∈ callsAbove past address, above.address = address → ∀ action,
      visitor.answer? above = some action → action.skips = false ∧ ¬ trail.Begins action.paths) :
    Inherits visitor root state past (address ++ [trail])
      ⟨.wildcard, child, call.state, some call.node⟩ := by
  have above := lineage_snoc inherits.node trail
  have same := callsAbove_child fresh
  constructor
  · exact (nodeAt_snoc inherits.node trail).trans seated
  · simp [above]
  · rw [same, inherits.calls]
    simp [Visitor.dueBefore, above, leaving, Stage.earlier, Visitor.due]
  · rw [same]
    exact inherits.state
  · intro event member
    rw [same] at member
    rintro ⟨action, told, bars⟩
    have unbarred := inherits.free event member
    by_cases here : event.address = address
    · -- Only the calls at the parent itself can name the child in a path.
      obtain ⟨goes, free⟩ := left event member here action told
      rcases bars with ⟨skips, _⟩ | ⟨other, begins, ignored⟩
      · rw [goes] at skips
        cases skips
      · rw [here, List.prefix_append_right_inj, List.cons_prefix_cons] at begins
        exact free (begins.1 ▸ ignored)
    · rcases bars with ⟨skips, _⟩ | ⟨other, begins, ignored⟩
      · exact unbarred ⟨action, told, .inl ⟨skips, .inl here⟩⟩
      · rcases List.prefix_concat_iff.mp begins with whole | inside
        · exact here (List.append_inj_left' whole rfl)
        · exact unbarred ⟨action, told, .inr ⟨other, inside, ignored⟩⟩

end Descent

section Agendas

variable {visitor : Visitor State World} {root : Node} {state : State}
  {past : List (Occasion State World)}
  {duty : Duty State} {rest more : List (Duty State)} {world later : World} {action : Action State}

def Visitor.Ignores (visitor : Visitor State World) (past : List (Occasion State World))
    (address : Address) (path : String) : Prop :=
  ∃ above ∈ callsAbove past address, above.address = address ∧
    ∃ action, visitor.answer? above = some action ∧ path ∈ action.paths

/-- The call that a duty is going to make is told what it should be; when a node is entered, its
wildcard has been asked which paths to ignore. -/
structure Duty.Heir (visitor : Visitor State World) (root : Node) (state : State)
    (past : List (Occasion State World)) (duty : Duty State) : Prop where
  inherits : Inherits visitor root state past duty.task.address duty.call
  ignored : duty.stage = .enter → ∀ path, path ∈ duty.ignore ↔
    visitor.Ignores past duty.task.address path

theorem ignores_append (past new : List (Occasion State World)) (address : Address)
    (path : String) :
    visitor.Ignores (past ++ new) address path ↔
      visitor.Ignores past address path ∨ visitor.Ignores new address path := by
  simp only [Visitor.Ignores, callsAbove_append, List.mem_append]
  constructor
  · rintro ⟨above, old | fresh, told⟩
    · exact .inl ⟨above, old, told⟩
    · exact .inr ⟨above, fresh, told⟩
  · rintro (⟨above, old, told⟩ | ⟨above, fresh, told⟩)
    · exact ⟨above, .inl old, told⟩
    · exact ⟨above, .inr fresh, told⟩

theorem ignores_heard (calm : (visitor.looks duty && visitor.cancelled world) = false)
    (answer : visitor.respond duty world = .ok action later) (early : duty.stage ≠ .leave)
    (path : String) :
    visitor.Ignores (visitor.heard duty world) duty.task.address path ↔ path ∈ action.paths := by
  rcases heard_of_ok calm answer with ⟨silent, _, rfl⟩ | ⟨alone, _, told⟩
  · simp [Visitor.Ignores, silent, callsAbove, Action.paths]
  · have own : callsAbove [duty.occasion world] duty.task.address = [duty.occasion world] := by
      simpa [callsAbove, Duty.occasion, Duty.call] using early
    have here : (duty.occasion world).address = duty.task.address := rfl
    simp [Visitor.Ignores, alone, own, told, here]

theorem not_above_rest (orderly : Orderly root (duty :: rest))
    (unvisited : Unvisited (duty :: rest) past) (early : duty.stage ≠ .leave) {other : Duty State}
    (member : other ∈ rest) :
    ¬ duty.task.address <+: other.task.address := by
  by_cases leaving : other.stage = .leave
  · obtain ⟨above, apart⟩ := orderly.around member leaving
    intro below
    exact apart (above.eq_of_length (Nat.le_antisymm above.length_le below.length_le))
  · exact ((List.pairwise_cons.mp unvisited.apart).1 other member early leaving).1

theorem heir_rest (orderly : Orderly root (duty :: rest))
    (unvisited : Unvisited (duty :: rest) past) {other : Duty State} (member : other ∈ rest)
    (heir : other.Heir visitor root state past) :
    other.Heir visitor root state (past ++ visitor.heard duty world) := by
  have same : callsAbove (past ++ visitor.heard duty world) other.task.address =
      callsAbove past other.task.address := by
    apply callsAbove_apart
    intro event heard early
    rw [mem_heard heard] at early ⊢
    exact not_above_rest orderly unvisited early member
  constructor
  · exact heir.inherits.of_same same
  · intro entering path
    rw [heir.ignored entering path]
    simp only [Visitor.Ignores, same]

theorem heir_enter (heir : duty.Heir visitor root state past) (early : duty.stage = .wildcard)
    (calm : (visitor.looks duty && visitor.cancelled world) = false)
    (answer : visitor.respond duty world = .ok action later) {next : State} {ignore : List String}
    (applied : applyAction action duty.task.state [] = .ok (next, ignore)) :
    Duty.Heir visitor root state (past ++ visitor.heard duty world)
      ⟨.enter, { duty.task with state := next }, ignore⟩ := by
  obtain ⟨rfl, rfl, goes⟩ := applyAction_ok applied
  have arriving : duty.stage ≠ .leave := by simp [early]
  constructor
  · exact heir.inherits.advance calm answer arriving (by simp [early, Stage.earlier]) fun _ => goes
  · intro _ path
    rw [ignores_append, ignores_heard calm answer arriving]
    have none : ¬ visitor.Ignores past duty.task.address path := by
      rintro ⟨above, member, here, _⟩
      have before := heir.inherits.own member here
      simp [Duty.call, early, Stage.earlier] at before
    simp [none]

theorem inherits_leave (heir : duty.Heir visitor root state past) (entering : duty.stage = .enter)
    (calm : (visitor.looks duty && visitor.cancelled world) = false)
    (answer : visitor.respond duty world = .ok action later) :
    Inherits visitor root state (past ++ visitor.heard duty world) duty.task.address
      ⟨.leave, duty.task.node, action.pass duty.task.state, duty.task.parent⟩ :=
  heir.inherits.advance calm answer (by simp [entering]) (by simp [entering, Stage.earlier])
    (by simp [entering])

/-- A child that is not ignored is neither skipped nor ignored by any of the calls at its parent. -/
theorem answers_leave_child (heir : duty.Heir visitor root state past)
    (entering : duty.stage = .enter)
    (calm : (visitor.looks duty && visitor.cancelled world) = false)
    (answer : visitor.respond duty world = .ok action later) (goes : action.skips = false)
    {trail : Trail} (free : ¬ trail.Begins (duty.ignore ++ action.paths))
    {above : Occasion State World}
    (present : above ∈ callsAbove (past ++ visitor.heard duty world) duty.task.address)
    (here : above.address = duty.task.address) {given : Action State}
    (told : visitor.answer? above = some given) :
    given.skips = false ∧ ¬ trail.Begins given.paths := by
  have early : duty.stage ≠ .leave := by simp [entering]
  constructor
  · rw [callsAbove_append, List.mem_append] at present
    rcases present with old | fresh
    · -- The call before that of the enter handler is the wildcard's: had it skipped, nothing would
      -- be entered.
      have before := heir.inherits.own old here
      rw [show duty.call.stage = .enter from entering] at before
      have unbarred := heir.inherits.free above old
      cases skips : given.skips with
      | false => rfl
      | true =>
          refine absurd ⟨given, told, .inl ⟨skips, .inr ⟨?_, ?_⟩⟩⟩ unbarred
          · simpa [Stage.earlier] using before
          · simp [Duty.call, entering]
    · rw [answer_heard calm answer (mem_callsAbove.mp fresh).1, Option.some.injEq] at told
      exact told ▸ goes
  · rintro ⟨start, nonempty, begins, inside⟩
    have ignores :
        visitor.Ignores (past ++ visitor.heard duty world) duty.task.address start.dotted :=
      ⟨above, present, here, given, told, inside⟩
    rw [ignores_append, ignores_heard calm answer early, ← heir.ignored entering] at ignores
    exact free ⟨start, nonempty, begins, List.mem_append.mpr ignores⟩

theorem heir_child (heir : duty.Heir visitor root state past)
    (unvisited : Unvisited (duty :: rest) past) (entering : duty.stage = .enter)
    (calm : (visitor.looks duty && visitor.cancelled world) = false)
    (answer : visitor.respond duty world = .ok action later) {next : State} {ignore : List String}
    (applied : applyAction action duty.task.state duty.ignore = .ok (next, ignore)) {seat : Seat}
    (member : seat ∈ seatsLeft duty.task.node ignore) :
    Duty.Heir visitor root state (past ++ visitor.heard duty world)
      (.arrive (Task.child { duty.task with state := next } seat)) := by
  obtain ⟨rfl, rfl, goes⟩ := applyAction_ok applied
  obtain ⟨child, free⟩ := mem_seatsLeft.mp member
  have early : duty.stage ≠ .leave := by simp [entering]
  have leaves := inherits_leave heir entering calm answer
  constructor
  · apply leaves.descend rfl (childAt_of_mem (mem_seats.mpr child))
    · intro event happened visiting below
      have same : duty.task.address = event.address := by
        rcases List.mem_append.mp happened with old | fresh
        · exact unvisited.fresh duty List.mem_cons_self early event old visiting
            (below ▸ List.prefix_append ..)
        · rw [mem_heard fresh]
          rfl
      exact not_prefix_below duty.task.address seat.trail (same.trans below ▸ List.prefix_rfl)
    · intro above present here given told
      exact answers_leave_child heir entering calm answer goes free present here told
  · intro entered
    cases entered

theorem heirs_next (orderly : Orderly root (duty :: rest))
    (unvisited : Unvisited (duty :: rest) past)
    (heirs : ∀ other ∈ duty :: rest, other.Heir visitor root state past)
    (calm : (visitor.looks duty && visitor.cancelled world) = false)
    (answer : visitor.respond duty world = .ok action later) (next : duty.Next action more) :
    ∀ other ∈ more ++ rest, other.Heir visitor root state (past ++ visitor.heard duty world) := by
  have heir := heirs duty List.mem_cons_self
  have leave (entering : duty.stage = .enter) : Duty.Heir visitor root state
      (past ++ visitor.heard duty world)
      (.leave { duty.task with state := action.pass duty.task.state }) :=
    ⟨inherits_leave heir entering calm answer, fun again => nomatch again⟩
  intro other member
  rcases List.mem_append.mp member with added | old
  · cases next with
    | nothing late => cases added
    | enter early applied =>
        rw [List.mem_singleton.mp added]
        exact heir_enter heir early calm answer applied
    | skip entering skips =>
        rw [List.mem_singleton.mp added]
        subst skips
        exact leave entering
    | below entering applied collected =>
        rcases List.mem_append.mp added with child | last
        · obtain ⟨seat, seated, rfl⟩ := List.mem_map.mp child
          exact heir_child heir unvisited entering calm answer applied seated
        · rw [List.mem_singleton.mp last, (applyAction_ok applied).1]
          exact leave entering
  · exact heir_rest orderly unvisited old (heirs other (List.mem_cons_of_mem _ old))

end Agendas

/-! Every call is made that nothing above it keeps the walk from. -/

section Accounts

variable {visitor : Visitor State World} {root node : Node} {state : State}
  {past : List (Occasion State World)} {duty : Duty State} {rest more : List (Duty State)}
  {world later : World} {action : Action State} {address : Address} {stage : Stage}

def Duty.Awaits (duty : Duty State) (address : Address) (stage : Stage) : Prop :=
  (duty.task.address = address ∧ (duty.stage = stage ∨ duty.stage ∈ stage.earlier)) ∨
    (duty.stage ≠ .leave ∧ ∃ trail : Trail, duty.task.address ++ [trail] <+: address)

def Accounted (visitor : Visitor State World) (past : List (Occasion State World))
    (agenda : List (Duty State)) (address : Address) (stage : Stage) : Prop :=
  (∃ event ∈ past, event.sign = (address, stage)) ∨
    (∃ above ∈ callsAbove past address, visitor.Bars above address stage) ∨
      ∃ duty ∈ agenda, duty.Awaits address stage

theorem awaits_arrive {task : Task State} (reaches : task.address <+: address) :
    (Duty.arrive task).Awaits address stage := by
  obtain ⟨more, whole⟩ := reaches
  cases more with
  | nil =>
      rw [List.append_nil] at whole
      cases stage <;> simp [Duty.Awaits, Duty.arrive, Stage.earlier, whole]
  | cons trail deeper =>
      refine .inr ⟨by simp [Duty.arrive], trail, deeper, ?_⟩
      rw [List.append_assoc]
      exact whole

theorem bars_of_skips (calm : (visitor.looks duty && visitor.cancelled world) = false)
    (answer : visitor.respond duty world = .ok action later) (skips : action.skips = true)
    (early : duty.stage ≠ .leave) (reaches : duty.task.address <+: address)
    (other : duty.task.address ≠ address ∨ duty.stage = .wildcard ∧ stage ≠ .wildcard) :
    ∃ above ∈ callsAbove (past ++ visitor.heard duty world) address,
    visitor.Bars above address stage := by
  rcases heard_of_ok calm answer with ⟨_, _, rfl⟩ | ⟨alone, _, told⟩
  · cases skips
  · refine ⟨duty.occasion world, mem_callsAbove.mpr ⟨by simp [alone], early, reaches⟩,
      action, told, .inl ?_⟩
    exact ⟨skips, other⟩

theorem mem_earlier {first : Stage} :
    first ∈ stage.earlier ↔
      first = .wildcard ∧ stage ≠ .wildcard ∨ first = .enter ∧ stage = .leave := by
  cases stage <;> cases first <;> simp [Stage.earlier]

theorem accounted_own (calm : (visitor.looks duty && visitor.cancelled world) = false)
    (answer : visitor.respond duty world = .ok action later) (next : duty.Next action more)
    (named : (visitor.handler stage duty.task.node).isSome = true)
    (awaits : duty.stage = stage ∨ duty.stage ∈ stage.earlier) :
    Accounted visitor (past ++ visitor.heard duty world)
      (more ++ rest) duty.task.address stage := by
  rcases awaits with rfl | early
  · rcases heard_of_ok calm answer with ⟨_, missing, _⟩ | ⟨alone, _, _⟩
    · simp [missing] at named
    · exact .inl ⟨duty.occasion world, by simp [alone], rfl⟩
  -- The call is still to come: what the duty leads to says whether it will, or what keeps it from
  -- coming.
  · have leaves (entering : duty.stage = .enter) (task : Task State)
        (same : task.address = duty.task.address) :
        (Duty.leave task).Awaits duty.task.address stage := by
      rcases mem_earlier.mp early with ⟨first, _⟩ | ⟨_, last⟩
      · simp [entering] at first
      · exact .inl ⟨same, .inl last.symm⟩
    cases next with
    | nothing late refuses =>
        rcases mem_earlier.mp early with ⟨first, other⟩ | ⟨entering, _⟩
        · refine .inr (.inl (bars_of_skips calm answer ?_ (by simp [first]) List.prefix_rfl
            (.inr ⟨first, other⟩)))
          rw [refuses first]
          rfl
        · exact absurd entering late
    | enter first applied =>
        refine .inr (.inr ⟨_, List.mem_append_left _ (List.mem_singleton.mpr rfl), .inl ⟨rfl, ?_⟩⟩)
        rw [first] at early
        cases stage <;> simp [Stage.earlier] at early ⊢
    | skip entering skips =>
        exact .inr (.inr ⟨_, List.mem_append_left _ (List.mem_singleton.mpr rfl),
          leaves entering _ rfl⟩)
    | @below entering next ignore applied found collected =>
        refine .inr (.inr ⟨.leave { duty.task with state := next }, List.mem_append_left _ ?_,
          leaves entering _ rfl⟩)
        exact List.mem_append_right _ (List.mem_singleton.mpr rfl)

/-- After a duty, the calls below its node are accounted for: a child is visited, or ignored by a
call at the node itself. -/
theorem accounted_below (heir : duty.Heir visitor root state past)
    (calm : (visitor.looks duty && visitor.cancelled world) = false)
    (answer : visitor.respond duty world = .ok action later) (next : duty.Next action more)
    (located : Located root address node) (early : duty.stage ≠ .leave) {trail : Trail}
    (begins : duty.task.address ++ [trail] <+: address) :
    Accounted visitor (past ++ visitor.heard duty world) (more ++ rest) address stage := by
  have reaches : duty.task.address <+: address := (List.prefix_append ..).trans begins
  have skipped (skips : action = .skipChildren) :
      Accounted visitor (past ++ visitor.heard duty world) (more ++ rest) address stage := by
    refine .inr (.inl (bars_of_skips calm answer (by rw [skips]; rfl) early reaches (.inl ?_)))
    rintro rfl
    exact not_prefix_below _ trail begins
  cases next with
  | nothing late refuses =>
      apply skipped
      apply refuses
      cases place : duty.stage with
      | wildcard => rfl
      | enter => exact absurd place late
      | leave => exact absurd place early
  | enter first applied =>
      exact .inr (.inr ⟨_, List.mem_append_left _ (List.mem_singleton.mpr rfl),
        .inr ⟨by simp, trail, begins⟩⟩)
  | skip entering skips => exact skipped skips
  | @below entering next ignore applied found collected =>
      obtain ⟨child, seated⟩ := child_of_located located heir.inherits.node begins
      by_cases ignored : trail.Begins ignore
      · -- The path was given by a call at this node, and that call bars the child.
        obtain ⟨start, nonempty, front, member⟩ := ignored
        have ignores : visitor.Ignores (past ++ visitor.heard duty world) duty.task.address
            start.dotted := by
          rw [ignores_append, ignores_heard calm answer early, ← heir.ignored entering]
          rw [(applyAction_ok applied).2.1] at member
          exact List.mem_append.mp member
        obtain ⟨above, present, here, given, told, inside⟩ := ignores
        obtain ⟨happened, visiting, _⟩ := mem_callsAbove.mp present
        refine .inr (.inl ⟨above, mem_callsAbove.mpr ⟨happened, visiting, here ▸ reaches⟩,
          given, told, .inr ?_⟩)
        exact ⟨trail, here ▸ begins, start, nonempty, front, inside⟩
      · refine .inr (.inr ⟨.arrive (Task.child { duty.task with state := next } ⟨trail, child⟩), ?_,
          awaits_arrive begins⟩)
        apply List.mem_append_left
        apply List.mem_append_left
        exact List.mem_map_of_mem (mem_seatsLeft.mpr ⟨seated, ignored⟩)

theorem accounted_next (heir : duty.Heir visitor root state past)
    (calm : (visitor.looks duty && visitor.cancelled world) = false)
    (answer : visitor.respond duty world = .ok action later) (next : duty.Next action more)
    (located : Located root address node) (named : (visitor.handler stage node).isSome = true)
    (accounted : Accounted visitor past (duty :: rest) address stage) :
    Accounted visitor (past ++ visitor.heard duty world) (more ++ rest) address stage := by
  rcases accounted with ⟨event, happened, sign⟩ | ⟨above, present, bars⟩ | ⟨other, member, awaits⟩
  · exact .inl ⟨event, List.mem_append_left _ happened, sign⟩
  · refine .inr (.inl ⟨above, ?_, bars⟩)
    rw [callsAbove_append]
    exact List.mem_append_left _ present
  · rcases List.mem_cons.mp member with rfl | old
    · rcases awaits with ⟨rfl, awaits⟩ | ⟨early, trail, begins⟩
      · have same : node = other.task.node :=
          Option.some.inj ((nodeAt_of_located located).symm.trans heir.inherits.node)
        exact accounted_own calm answer next (same ▸ named) awaits
      · exact accounted_below heir calm answer next located early begins
    · exact .inr (.inr ⟨other, List.mem_append_right _ old, awaits⟩)

end Accounts

section Walks

variable {visitor : Visitor State World} {root : Node} {state : State} {world : World}
  {past later events : List (Occasion State World)} {event : Occasion State World}
  {ending : EStateM.Result Stop World Unit}

structure Informed (visitor : Visitor State World) (root : Node) (state : State)
    (agenda : List (Duty State)) (past : List (Occasion State World)) : Prop where
  orderly : Orderly root agenda
  unvisited : Unvisited agenda past
  heirs : ∀ duty ∈ agenda, duty.Heir visitor root state past
  accounted : ∀ address node stage, Located root address node →
    (visitor.handler stage node).isSome = true →
    Accounted visitor past agenda address stage

theorem informed_start (visitor : Visitor State World) (root : Node) (state : State) :
    Informed visitor root state [.arrive (rootTask root state)] [] where
  orderly := orderly_start root state
  unvisited := unvisited_start root state
  heirs := by
    intro duty member
    rw [List.mem_singleton.mp member]
    exact ⟨⟨rfl, rfl, rfl, rfl, fun above present => nomatch present⟩,
      fun entering => nomatch entering⟩
  accounted := by
    intro address node stage _ _
    exact .inr (.inr ⟨_, List.mem_singleton.mpr rfl, awaits_arrive List.nil_prefix⟩)

theorem informed_next {duty : Duty State} {rest more : List (Duty State)} {after : World}
    (informed : Informed visitor root state (duty :: rest) past)
    (step : visitor.perform duty world = .ok more after) :
    Informed visitor root state (more ++ rest) (past ++ visitor.heard duty world) := by
  obtain ⟨calm, action, answer, onward⟩ := perform_ok step
  have next := next_ok onward
  obtain ⟨orderly, unvisited, heirs, accounted⟩ := informed
  constructor
  · exact orderly_next orderly next
  · apply unvisited_next unvisited next
    intro event member
    rw [mem_heard member]
    exact ⟨rfl, rfl⟩
  · exact heirs_next orderly unvisited heirs calm answer next
  · intro address node stage located named
    exact accounted_next (heirs duty List.mem_cons_self) calm answer next located named
      (accounted address node stage located named)

def Leading (past : List (Occasion State World)) (event : Occasion State World) : Prop :=
  event.call.stage ≠ .leave → ∀ earlier ∈ past, earlier.call.stage ≠ .leave →
    event.address <+: earlier.address → event.address = earlier.address

/-- Every call of a record is told what the calls above it handed on, and comes
before those below it. -/
def Truthful (visitor : Visitor State World) (root : Node) (state : State)
    (events : List (Occasion State World)) : Prop :=
  ∀ past event later, events = past ++ event :: later →
    Inherits visitor root state past event.address event.call ∧ Leading past event

theorem recorded_informed (recorded : Recorded visitor root state world events ending) :
    Truthful visitor root state events ∧
    ∀ last, ending = .ok () last → Informed visitor root state [] events := by
  have calls : ∀ duty rest world past, Informed visitor root state (duty :: rest) past →
      ∀ event ∈ visitor.heard duty world,
        Inherits visitor root state past event.address event.call ∧ Leading past event := by
    intro duty rest world past informed event member
    rw [mem_heard member]
    exact ⟨(informed.heirs duty List.mem_cons_self).inherits,
      informed.unvisited.fresh duty List.mem_cons_self⟩
  obtain ⟨good, completes, _⟩ := @Runs.keeps _ _ visitor
    (fun agenda _ past => Informed visitor root state agenda past)
    (fun past event => Inherits visitor root state past event.address event.call ∧
      Leading past event)
    (fun _ _ _ => True) calls (fun _ _ _ _ _ _ informed step => informed_next informed step)
    (fun _ _ _ _ _ _ _ _ => trivial) _ _ _ _ recorded [] (informed_start visitor root state)
  exact ⟨good, completes⟩

theorem callsAbove_before {address : Address} {above : Occasion State World}
    {front back : List (Occasion State World)}
    (leads : ∀ before after, past = before ++ above :: after →
      Leading before above) (calls : callsAbove past address = front ++ above :: back) :
    ∃ before after, past = before ++ above :: after ∧ callsAbove before above.address = front := by
  obtain ⟨first, second, rfl, inFront, behind⟩ := List.filter_eq_append_iff.mp calls
  obtain ⟨skipped, after, rfl, none, here, _⟩ := List.filter_eq_cons_iff.mp behind
  have split : first ++ (skipped ++ above :: after) = (first ++ skipped) ++ above :: after := by
    simp
  have leading := leads _ _ split
  obtain ⟨visiting, reaches⟩ : above.call.stage ≠ .leave ∧ above.address <+: address := by
    simpa using here
  refine ⟨_, _, split, ?_⟩
  have whole : callsAbove (first ++ skipped) address = front := by
    rw [callsAbove_append, callsAbove, inFront, callsAbove, List.filter_eq_nil_iff.mpr none,
      List.append_nil]
  rw [← whole]
  apply List.filter_congr
  intro earlier member
  by_cases leaving : earlier.call.stage = .leave
  · simp [leaving]
  · -- Of two positions on one way, the one that is called first is not the lower one.
    have same : earlier.address <+: above.address ↔ earlier.address <+: address := by
      constructor
      · exact fun begins => begins.trans reaches
      · intro begins
        rcases List.prefix_or_prefix_of_prefix begins reaches with upper | lower
        · exact upper
        · exact leading visiting earlier member leaving lower ▸ List.prefix_rfl
    simp [leaving, same]

theorem state_of_children (truthful : Truthful visitor root state events)
    (split : events = past ++ event :: later) (leaving : event.call.stage = .leave)
    {child : Occasion State World} (member : child ∈ past) {trail : Trail}
    (below : child.address = event.address ++ [trail])
    (first : visitor.due child.call.stage.earlier child.address child.call.node = []) :
    child.call.state = event.call.state := by
  obtain ⟨front, back, rfl⟩ := List.append_of_mem member
  have inherits := (truthful _ _ _ split).1
  have earlier := (truthful front child (back ++ event :: later) (by simp [split])).1
  rw [below] at first earlier
  have fresh : callsAbove front (event.address ++ [trail]) = callsAbove front event.address := by
    apply callsAbove_child
    intro other happened visiting here
    have present : other ∈ callsAbove front (event.address ++ [trail]) :=
      mem_callsAbove.mpr ⟨happened, visiting, here ▸ List.prefix_rfl⟩
    have due : other.sign ∈ visitor.dueBefore root (event.address ++ [trail]) child.call :=
      earlier.calls ▸ List.mem_map_of_mem present
    rw [Visitor.dueBefore, first, List.append_nil] at due
    obtain ⟨ancestor, inside, own⟩ := List.mem_flatMap.mp due
    obtain ⟨_, _, same⟩ := List.mem_map.mp own
    have place : ancestor.1 = other.address := congrArg Prod.fst same
    exact (prefix_of_lineage inside).2 (place.trans here)
  -- Between the children and the leaving of the node nothing is called above.
  have signs : (callsAbove (front ++ child :: back) event.address).map Occasion.sign =
      (callsAbove front event.address).map Occasion.sign := by
    rw [inherits.calls, ← fresh, earlier.calls, Visitor.dueBefore, Visitor.dueBefore,
      first, leaving, lineage_snoc inherits.node]
    simp [Stage.earlier]
  rw [callsAbove_append, List.map_append, List.append_right_eq_self, List.map_eq_nil_iff] at signs
  rw [earlier.state, inherits.state, fresh, callsAbove_append, signs, List.append_nil]

end Walks

section Twins

variable {Other : Type} {visitor : Visitor State World} {other : Visitor State Other} {root : Node}
  {state : State}

/-- Both have handlers for the same calls. -/
def SameHandlers (visitor : Visitor State World) (other : Visitor State Other) : Prop :=
  ∀ stage node, (visitor.handler stage node).isSome = (other.handler stage node).isSome

/-- Calls of two walks at the same position that are told the same answer the same. -/
def Alike (visitor : Visitor State World) (other : Visitor State Other)
    (calls : List (Occasion State World)) (twins : List (Occasion State Other)) : Prop :=
  ∀ above ∈ calls, ∀ mirror ∈ twins, above.sign = mirror.sign → above.call = mirror.call →
    visitor.answer? above = other.answer? mirror

theorem dueBefore_same (same : SameHandlers visitor other) (root : Node) (address : Address)
    (call : Call State) :
    visitor.dueBefore root address call = other.dueBefore root address call := by
  have dues (stages : List Stage) (address : Address) (node : Node) :
      visitor.due stages address node = other.due stages address node := by
    simp only [Visitor.due, funext fun stage => same stage node]
  simp only [Visitor.dueBefore, dues]

theorem inherited_same {calls : List (Occasion State World)} {twins : List (Occasion State Other)}
    (alike : List.Forall₂ (fun above twin => visitor.answer? above =
      other.answer? twin) calls twins)
    (state : State) : visitor.inherited state calls = other.inherited state twins := by
  induction alike generalizing state with
  | nil => rfl
  | cons same _ ih =>
      simp only [Visitor.inherited, List.foldl_cons, same]
      exact ih _

theorem node_same {past : List (Occasion State World)} {twins : List (Occasion State Other)}
    {event : Occasion State World} {twin : Occasion State Other}
    (inherits : Inherits visitor root state past event.address event.call)
    (mirrors : Inherits other root state twins twin.address twin.call)
    (sign : event.sign = twin.sign) :
    event.address = twin.address ∧ event.call.stage = twin.call.stage ∧
      event.call.node = twin.call.node := by
  obtain ⟨place, stage⟩ : event.address = twin.address ∧ event.call.stage = twin.call.stage :=
    Prod.mk.inj sign
  exact ⟨place, stage, Option.some.inj (inherits.node.symm.trans (place ▸ mirrors.node))⟩

theorem call_same {past : List (Occasion State World)}
    {twins : List (Occasion State Other)} {event : Occasion State World}
    {twin : Occasion State Other}
    (inherits : Inherits visitor root state past event.address event.call)
    (mirrors : Inherits other root state twins twin.address twin.call)
    (sign : event.sign = twin.sign)
    (alike : List.Forall₂ (fun above twin => visitor.answer? above = other.answer? twin)
      (callsAbove past event.address)
      (callsAbove twins twin.address)) : event.call = twin.call := by
  obtain ⟨place, stage, node⟩ := node_same inherits mirrors sign
  have states : event.call.state = twin.call.state := by
    rw [inherits.state, mirrors.state, inherited_same alike]
  have parents : event.call.parent = twin.call.parent := by
    rw [inherits.parent, mirrors.parent, place]
  generalize event.call = call, twin.call = mirror at stage node states parents ⊢
  cases call
  cases mirror
  cases stage
  cases node
  cases states
  cases parents
  rfl

theorem callsAbove_split {events past front back : List (Occasion State World)}
    (truthful : Truthful visitor root state events) {event above : Occasion State World}
    {later : List (Occasion State World)} (split : events = past ++ event :: later)
    (calls : callsAbove past event.address = front ++ above :: back) :
    ∃ before, Inherits visitor root state before above.address above.call ∧
      callsAbove before above.address = front := by
  -- A call above is a call of the same record, with what was recorded before it.
  have good {before after : List (Occasion State World)}
      (inside : past = before ++ above :: after) :=
    truthful before above (after ++ event :: later) (by simp [split, inside])
  obtain ⟨before, after, inside, above⟩ :=
    callsAbove_before (fun _ _ inside => (good inside).2) calls
  exact ⟨before, (good inside).1, above⟩

/-- If calls that are told the same answer the same on the way to a call, it is told the same. -/
theorem answers_above_alike (same : SameHandlers visitor other)
    {events past : List (Occasion State World)} {twins others : List (Occasion State Other)}
    (truthful : Truthful visitor root state events) (mirrored : Truthful other root state twins)
    {event : Occasion State World} {twin : Occasion State Other}
    {later : List (Occasion State World)} {rest : List (Occasion State Other)}
    (split : events = past ++ event :: later) (cut : twins = others ++ twin :: rest)
    (sign : event.sign = twin.sign)
    (alike : Alike visitor other (callsAbove past event.address) (callsAbove others twin.address)) :
    List.Forall₂ (fun above mirror => visitor.answer? above = other.answer? mirror)
      (callsAbove past event.address) (callsAbove others twin.address) := by
  have inherits := (truthful _ _ _ split).1
  have mirrors := (mirrored _ _ _ cut).1
  obtain ⟨place, stage, node⟩ := node_same inherits mirrors sign
  have signs : (callsAbove past event.address).map Occasion.sign =
      (callsAbove others twin.address).map Occasion.sign := by
    rw [inherits.calls, mirrors.calls, dueBefore_same same, Visitor.dueBefore,
      Visitor.dueBefore, place, stage, node]
  -- From the root down: calls that are alike so far tell the next one the same, so its answer is
  -- the same.
  have downward (front : List (Occasion State World)) (ahead : List (Occasion State Other))
      (back : List (Occasion State World)) (behind : List (Occasion State Other))
      (calls : callsAbove past event.address = front ++ back)
      (mirror : callsAbove others twin.address = ahead ++ behind)
      (count : front.length = ahead.length) :
      List.Forall₂ (fun above mirror => visitor.answer? above = other.answer? mirror)
        front ahead := by
    induction front using List.reverseRecOn generalizing ahead back behind with
    | nil =>
        rw [List.eq_nil_of_length_eq_zero count.symm]
        exact .nil
    | append_singleton front above ih =>
        rcases List.eq_nil_or_concat ahead with rfl | ⟨ahead, reflected, rfl⟩
        · simp at count
        · simp only [List.concat_eq_append, List.length_append, List.length_singleton,
            Nat.add_right_cancel_iff] at count
          simp only [List.concat_eq_append, List.append_assoc,
            List.singleton_append] at calls mirror ⊢
          have before := ih ahead (above :: back) (reflected :: behind) calls mirror count
          have both : above.sign = reflected.sign := by
            rw [calls, mirror, List.map_append, List.map_append] at signs
            have tails := (List.append_inj signs (by simp [count])).2
            exact (List.cons.inj tails).1
          obtain ⟨past', told, first⟩ := callsAbove_split truthful split calls
          obtain ⟨others', retold, second⟩ := callsAbove_split mirrored cut mirror
          have call := call_same told retold both (by rw [first, second]; exact before)
          refine List.rel_append before (.cons (alike above ?_ reflected ?_ both call) .nil)
          · simp [calls]
          · simp [mirror]
  exact downward _ _ [] [] (by simp) (by simp) (by simpa using congrArg List.length signs)

/-- In every walk the state of a call is what the calls above it in the tree handed on: those of its
ancestors from the root down, each the wildcard and then the enter handler, and those before it at
its own node; its parent is the nearest tagged ancestor. A node is left with the state that its
children saw. None of the calls above keeps the walk from the call; and a walk that completes makes
every call that none keeps it from, so that an ignored path has no effect below the children of its
node. Two walks whose calls above a node answer alike call the handlers of the node with the same
arguments, whatever is answered elsewhere. -/
theorem walk_state_from_above (visitor : Visitor State World) (root : Node)
    (tagged : root.kind.isSome) (state : State) (world : World) :
    ∃ events ending, Told visitor root state world events ending ∧
      (∀ past event later, events = past ++ event :: later →
        Inherits visitor root state past event.address event.call ∧
        (event.call.stage = .leave → ∀ child ∈ past, ∀ trail, child.address =
          event.address ++ [trail] →
          visitor.due child.call.stage.earlier child.address child.call.node = [] →
          child.call.state = event.call.state)) ∧
      (∀ last, ending = .ok () last → ∀ address node stage, Located root address node →
        (visitor.handler stage node).isSome = true →
        (∀ above ∈ callsAbove events address, ¬ visitor.Bars above address stage) →
        ∃ event ∈ events, event.sign = (address, stage)) ∧
      ∀ (Other : Type) (other : Visitor State Other) (start : Other)
        (twins : List (Occasion State Other)) (finish : EStateM.Result Stop Other Unit),
        SameHandlers visitor other → Told other root state start twins finish →
        ∀ past event later others twin rest, events = past ++ event :: later → twins =
          others ++ twin :: rest →
          event.sign = twin.sign →
          Alike visitor other (callsAbove past event.address) (callsAbove others twin.address) →
          event.call = twin.call := by
  obtain ⟨events, ending, told⟩ := walk_told visitor tagged state world
  obtain ⟨truthful, completes⟩ := recorded_informed told.recorded
  refine ⟨events, ending, told, ?_, ?_, ?_⟩
  · intro past event later split
    constructor
    · exact (truthful past event later split).1
    · intro leaving child member trail below first
      exact state_of_children truthful split leaving member below first
  · intro last same address node stage located named unbarred
    rcases (completes last same).accounted address node stage located named with
        done | barred | awaited
    · exact done
    · obtain ⟨above, present, bars⟩ := barred
      exact absurd bars (unbarred above present)
    · obtain ⟨duty, member, _⟩ := awaited
      cases member
  · intro Other other start twins finish same retold past event later others twin rest
      split cut sign alike
    obtain ⟨mirrored, _⟩ := recorded_informed retold.recorded
    exact call_same (truthful _ _ _ split).1 (mirrored _ _ _ cut).1 sign
      (answers_above_alike same truthful mirrored split cut sign alike)

/-- A module hands on a state, and its empty statements answer something of their own. -/
def handedBy (last : Action Nat) (node : Node) : Action Nat :=
  match node.kind with
  | some .moduleUnit => .proceed 1
  | some .emptyStatement => last
  | _ => .keep

def leading (last : Action Nat) : Visitor Nat Unit where
  wildcard := some fun node _ _ => pure (handedBy last node)
  enter _ := none
  leave _ := some fun _ _ _ => pure .keep
  cancelled _ := false

theorem leading_answer? {first second : Action Nat} {above mirror : Occasion Nat Unit}
    (call : above.call = mirror.call) (other : above.call.node.kind ≠ some .emptyStatement) :
    (leading first).answer? above = (leading second).answer? mirror := by
  have alike : handedBy first above.call.node = handedBy second above.call.node := by
    unfold handedBy
    split
    · rfl
    · contradiction
    · rfl
  unfold Visitor.answer?
  rw [← call]
  cases above.call.stage with
  | wildcard => exact congrArg some alike
  | enter | leave => rfl

/-- What the second statement answers does not change what the first is called with. -/
theorem first_statement_undisturbed :
    twoStatements.kind.isSome = true ∧ ∃ events ending twins finish,
      Told (leading .keep) twoStatements 0 () events ending ∧
      Told (leading (.proceed 7)) twoStatements 0 () twins finish ∧
      ∀ past event later others twin rest, events = past ++ event :: later → twins =
        others ++ twin :: rest →
        event.address = [[⟨1, "body"⟩, ⟨0, "0"⟩]] → event.sign = twin.sign →
        event.call = twin.call := by
  have tagged : twoStatements.kind.isSome = true := rfl
  obtain ⟨events, ending, told, inherits, _, undisturbed⟩ :=
    walk_state_from_above (leading .keep) twoStatements tagged 0 ()
  obtain ⟨twins, finish, retold⟩ := walk_told (leading (.proceed 7)) tagged 0 ()
  have same : SameHandlers (leading .keep) (leading (.proceed 7)) := by
    intro stage node
    cases stage <;> rfl
  refine ⟨tagged, events, ending, twins, finish, told, retold, ?_⟩
  intro past event later others twin rest split cut place sign
  apply undisturbed _ _ _ _ _ same retold _ _ _ _ _ _ split cut sign
  intro above member mirror _ _ call
  apply leading_answer? call
  -- On the way to the first statement there are only the module and the statement itself.
  obtain ⟨happened, _, begins⟩ := mem_callsAbove.mp member
  obtain ⟨front, back, rfl⟩ := List.append_of_mem happened
  have node := (inherits front above (back ++ event :: later) (by simp [split])).1.node
  rw [place] at begins
  rcases List.prefix_concat_iff.mp (show above.address <+: [] ++ [_] from begins) with here | root
  · rw [here, List.nil_append, nodeAt_of_located firstStatement_located, Option.some.injEq] at node
    simp [← node, firstStatement]
  · rw [List.prefix_nil.mp root, nodeAt, Option.some.injEq] at node
    simp [← node, twoStatements]

end Twins

end StyleFold.Walk
