import StyleFold.Proofs.Tree.Shift
import StyleFold.Proofs.Walk.Agenda

/-!
Two walks side by side. When every duty of the first is matched by one of the second, or is one that
only passes, the walks end alike. Main statements: the simulation of a run by a run, and what has to
be shown of single handlers and of children for it.
-/

namespace StyleFold.Walk

section Results

variable {α β γ δ ε ζ : Type} {World Other : Type}

/-- Both runs answer, or both fail, with what they leave behind related. -/
inductive Beside (answers : α → World → β → Other → Prop) (fails : ε → World → ζ → Other → Prop) :
    EStateM.Result ε World α → EStateM.Result ζ Other β → Prop where
  | ok {a : α} {b : β} {world : World} {other : Other} (related : answers a world b other) :
      Beside answers fails (.ok a world) (.ok b other)
  | error {stop : ε} {halt : ζ} {world : World} {other : Other}
      (related : fails stop world halt other) :
      Beside answers fails (.error stop world) (.error halt other)

theorem beside_bind {answers : α → World → β → Other → Prop}
    {further : γ → World → δ → Other → Prop} {fails : ε → World → ζ → Other → Prop}
    {first : EStateM ε World α} {second : EStateM ζ Other β} {next : α → EStateM ε World γ}
    {after : β → EStateM ζ Other δ} {world : World} {other : Other}
    (beside : Beside answers fails (first world) (second other))
    (onward : ∀ a world b other, answers a world b other →
      Beside further fails (next a world) (after b other)) :
    Beside further fails ((first >>= next) world) ((second >>= after) other) := by
  simp only [bind, EStateM.bind]
  generalize first world = x, second other = y at beside
  cases beside with
  | ok related => exact onward _ _ _ _ related
  | error related => exact .error related

theorem beside_mono {answers further : α → World → β → Other → Prop}
    {fails ends : ε → World → ζ → Other → Prop} {first : EStateM.Result ε World α}
    {second : EStateM.Result ζ Other β} (beside : Beside answers fails first second)
    (onward : ∀ a world b other, first = .ok a world → answers a world b other →
      further a world b other)
    (ending : ∀ stop world halt other, fails stop world halt other → ends stop world halt other) :
    Beside further ends first second := by
  cases beside with
  | ok related => exact .ok (onward _ _ _ _ rfl related)
  | error related => exact .error (ending _ _ _ _ related)

end Results

section Simulation

variable {State World Condition Other : Type} {visitor : Visitor State World}
  {second : Visitor Condition Other}

theorem Runs.simulated
    {Related : List (Duty State) → World → List (Duty Condition) → Other → Prop}
    {Final : World → Other → Prop} {Fails : Stop → World → Stop → Other → Prop}
    (step : ∀ duty rest world agenda other, Related (duty :: rest) world agenda other →
      (∃ later, visitor.perform duty world = .ok [] later ∧ Related rest later agenda other) ∨
      ∃ task more, agenda = task :: more ∧
        Beside (fun found world others other => Related (found ++ rest) world
          (others ++ more) other) Fails (visitor.perform duty world) (second.perform task other))
    (done : ∀ world agenda other, Related [] world agenda other → agenda = [] ∧ Final world other)
    {agenda : List (Duty State)} {world : World} {events : List (Occasion State World)}
    {ending : EStateM.Result Stop World Unit} (runs : Runs visitor agenda world events ending)
    {tasks : List (Duty Condition)} {other : Other} (related : Related agenda world tasks other) :
    ∃ others result, Runs second tasks other others result ∧
      Beside (fun _ world _ other => Final world other) Fails ending result := by
  -- On the first run; the second is built up as the first goes on.
  induction runs generalizing tasks other with
  | done world =>
      obtain ⟨rfl, final⟩ := done world tasks other related
      exact ⟨[], _, .done other, .ok final⟩
  | @stops duty rest world later stop failed =>
      rcases step duty rest world tasks other related with
          ⟨last, passed, _⟩ | ⟨task, more, rfl, beside⟩
      · rw [failed] at passed
        cases passed
      · rw [failed] at beside
        cases matched : second.perform task other with
        | ok found last =>
            rw [matched] at beside
            cases beside
        | error halt last =>
            rw [matched] at beside
            cases beside with
            | error fails => exact ⟨_, _, .stops matched, .error fails⟩
  | @goes duty found rest world later events ending went onward ih =>
      rcases step duty rest world tasks other related with
          ⟨last, passed, next⟩ | ⟨task, more, rfl, beside⟩
      · rw [went] at passed
        cases passed
        exact ih next
      · rw [went] at beside
        cases matched : second.perform task other with
        | error halt last =>
            rw [matched] at beside
            cases beside
        | ok others last =>
            rw [matched] at beside
            cases beside with
            | ok next =>
                obtain ⟨further, result, runs, ends⟩ := ih next
                exact ⟨_, _, .goes matched runs, ends⟩

/-- Two runs go abreast when each duty of the first is matched by one of the second, or leads on
while the second waits. Matching may rest on what is known of the calls of the second. -/
theorem Runs.abreast
    {Related : List (Duty State) → World → List (Duty Condition) → Other → Prop}
    {Final : World → Other → Prop} {Fails : Stop → World → Stop → Other → Prop}
    {Good : Occasion Condition Other → Prop}
    (step : ∀ duty rest world agenda other, Related (duty :: rest) world agenda other →
      (∃ found later, visitor.perform duty world = .ok found later ∧
        Related (found ++ rest) later agenda other) ∨
      ∃ task more, agenda = task :: more ∧ ((∀ event ∈ second.heard task other, Good event) →
        Beside (fun found world others other => Related (found ++ rest) world
          (others ++ more) other) Fails (visitor.perform duty world) (second.perform task other)))
    (done : ∀ world agenda other, Related [] world agenda other → agenda = [] ∧ Final world other)
    {agenda : List (Duty State)} {world : World} {events : List (Occasion State World)}
    {ending : EStateM.Result Stop World Unit} (runs : Runs visitor agenda world events ending)
    {tasks : List (Duty Condition)} {other : Other} (related : Related agenda world tasks other)
    {others : List (Occasion Condition Other)} {result : EStateM.Result Stop Other Unit}
    (again : Runs second tasks other others result) (good : ∀ event ∈ others, Good event) :
    Beside (fun _ world _ other => Final world other) Fails ending result := by
  -- On the first run; the second is taken apart only when a duty of the first is matched.
  induction runs generalizing tasks other others with
  | done world =>
      obtain ⟨rfl, final⟩ := done world tasks other related
      cases again
      exact .ok final
  | @stops duty rest world later stop failed =>
      rcases step duty rest world tasks other related with
          ⟨_, _, passed, _⟩ | ⟨task, more, rfl, matched⟩
      · rw [failed] at passed
        cases passed
      · cases again with
        | stops halted =>
            have beside := matched good
            rw [failed, halted] at beside
            cases beside with
            | error fails => exact .error fails
        | goes went onward =>
            have beside := matched fun event heard => good event (List.mem_append_left _ heard)
            rw [failed, went] at beside
            cases beside
  | @goes duty found rest world later events ending went onward ih =>
      rcases step duty rest world tasks other related with
        ⟨_, _, passed, next⟩ | ⟨task, more, rfl, matched⟩
      · rw [went] at passed
        cases passed
        exact ih next again good
      · cases again with
        | stops halted =>
            have beside := matched good
            rw [went, halted] at beside
            cases beside
        | goes matchedStep further =>
            have beside := matched fun event heard => good event (List.mem_append_left _ heard)
            rw [went, matchedStep] at beside
            cases beside with
            | ok next =>
                exact ih next further fun event member =>
                  good event (List.mem_append_right _ member)

end Simulation

section Duties

variable {State World Condition Other : Type} {visitor : Visitor State World}
  {second : Visitor Condition Other} {d : Int}

inductive SameAction (states : State → Condition → Prop) :
    Action State → Action Condition → Prop where
  | keep : SameAction states .keep .keep
  | proceed {state : State} {condition : Condition} (related : states state condition) :
      SameAction states (.proceed state) (.proceed condition)
  | proceedIgnoring {state : State} {condition : Condition} (related : states state condition)
      (paths : List String) :
      SameAction states (.proceedIgnoring state paths) (.proceedIgnoring condition paths)
  | skipChildren : SameAction states .skipChildren .skipChildren
  | abort : SameAction states .abort .abort
  | malformed : SameAction states .malformed .malformed

theorem SameAction.refl (action : Action State) : SameAction Eq action action := by
  cases action with
  | keep => exact .keep
  | proceed state => exact .proceed rfl
  | proceedIgnoring state paths => exact .proceedIgnoring rfl paths
  | skipChildren => exact .skipChildren
  | abort => exact .abort
  | malformed => exact .malformed

inductive SameStop (faults : Fault → Fault → Prop) : Stop → Stop → Prop where
  | aborted : SameStop faults .aborted .aborted
  | cancelled : SameStop faults .cancelled .cancelled
  | faulted {fault other : Fault} (related : faults fault other) :
      SameStop faults (.faulted fault) (.faulted other)

/-- What corresponds in two walks: nodes, nodes as parents, and states. -/
structure Likeness (State Condition : Type) where
  nodes : Node → Node → Prop
  parents : Node → Node → Prop
  states : State → Condition → Prop

structure Likeness.Duties (like : Likeness State Condition) (duty : Duty State)
    (other : Duty Condition) : Prop where
  stage : other.stage = duty.stage
  ignore : other.ignore = duty.ignore
  node : like.nodes duty.task.node other.task.node
  state : like.states duty.task.state other.task.state
  parent : Option.Rel like.parents duty.task.parent other.task.parent

variable {like : Likeness State Condition} {duty : Duty State} {other : Duty Condition}

theorem agree_applyAction {action : Action State} {answer : Action Condition}
    (same : SameAction like.states action answer) {state : State} {condition : Condition}
    (related : like.states state condition) (ignore : List String) :
    Agree d (fun a b => like.states a.1 b.1 ∧ b.2 = a.2) (applyAction action state ignore)
      (applyAction answer condition ignore) := by
  cases same with
  | keep => exact .ok ⟨related, rfl⟩
  | proceed next => exact .ok ⟨next, rfl⟩
  | proceedIgnoring next paths => exact .ok ⟨next, rfl⟩
  | skipChildren | abort | malformed => exact agree_fault (by decide)

theorem agree_next (descends : ∀ node further, like.nodes node further → like.parents node further)
    (children : ∀ node further, like.nodes node further → ∀ ignore,
      Agree d (List.Forall₂ like.nodes) (children node ignore) (children further ignore))
    (duties : like.Duties duty other) {action : Action State} {answer : Action Condition}
    (agrees : SameAction like.states action answer) :
    Agree d (List.Forall₂ like.Duties) (duty.next action) (other.next answer) := by
  obtain ⟨_, ⟨address, node, state, parent⟩, _⟩ := duty
  obtain ⟨stage, ⟨address', node', state', parent'⟩, ignore⟩ := other
  obtain ⟨same, paths, nodes, states, parents⟩ := duties
  dsimp only at same paths nodes states parents
  subst same paths
  have left {state : State} {state' : Condition} (states : like.states state state') :
      like.Duties (.leave ⟨address, node, state, parent⟩)
        (.leave ⟨address', node', state', parent'⟩) :=
    ⟨rfl, rfl, nodes, states, parents⟩
  have arrives {state : State} {state' : Condition} (states : like.states state state')
      {found : List Seat} {others : List Seat}
      (each : List.Forall₂ like.nodes (found.map Seat.node) (others.map Seat.node)) :
      List.Forall₂ like.Duties (Task.below ⟨address, node, state, parent⟩ found)
        (Task.below ⟨address', node', state', parent'⟩ others) := by
    induction found generalizing others with
    | nil =>
        cases others with
        | nil => exact .cons (left states) .nil
        | cons => cases each
    | cons seat rest ih =>
        cases others with
        | nil => cases each
        | cons seat' others =>
            simp only [List.map_cons, List.forall₂_cons] at each
            exact .cons ⟨rfl, rfl, each.1, states, .some (descends _ _ nodes)⟩ (ih each.2)
  cases stage with
  | leave =>
      cases agrees <;> exact .ok .nil
  | wildcard =>
      -- Skipping is the one answer that is not applied to the state, in both walks at once.
      by_cases skips : action = .skipChildren
      · subst skips
        cases agrees
        exact .ok .nil
      · have again : answer ≠ .skipChildren := by
          rintro rfl
          cases agrees
          exact skips rfl
        rw [next_wildcard skips, next_wildcard again]
        refine agree_bind (agree_applyAction agrees states []) fun pair further related => .ok ?_
        exact .cons ⟨rfl, related.2, nodes, related.1, parents⟩ .nil
  | enter =>
      by_cases skips : action = .skipChildren
      · subst skips
        cases agrees
        exact .ok (.cons (left states) .nil)
      · have again : answer ≠ .skipChildren := by
          rintro rfl
          cases agrees
          exact skips rfl
        rw [next_enter skips, next_enter again]
        refine agree_bind (agree_applyAction agrees states ignore) fun pair further related => ?_
        obtain ⟨next, paths⟩ := pair
        obtain ⟨next', paths'⟩ := further
        obtain ⟨related, rfl⟩ := related
        refine agree_bind (agree_mono (children node node' nodes paths')
          fun found others first second each => (⟨each, first, second⟩ :
            List.Forall₂ like.nodes found others ∧ Walk.children node paths' = .ok found ∧
              Walk.children node' paths' = .ok others)) fun found others here => .ok ?_
        obtain ⟨each, first, second⟩ := here
        rw [children_ok first, children_ok second] at each
        exact arrives related each

/-- Two duties are performed alike: the token is looked at in both or in neither, the handlers
answer alike, and the answers lead to corresponding duties. -/
theorem beside_perform {fails : Stop → World → Stop → Other → Prop} {worlds : World → Other → Prop}
    (descends : ∀ node further, like.nodes node further → like.parents node further)
    (children : ∀ node further, like.nodes node further → ∀ ignore,
      Agree d (List.Forall₂ like.nodes) (children node ignore) (children further ignore))
    (duties : like.Duties duty other) {world : World} {condition : Other}
    (looks : second.looks other = visitor.looks duty)
    (token : second.cancelled condition = visitor.cancelled world)
    (cancels : fails .cancelled world .cancelled condition)
    (faults : ∀ fault late world condition, Reworded d fault late → worlds world condition →
      fails (.faulted fault) world (.faulted late) condition)
    (answers : Beside (fun action world answer condition => SameAction like.states action answer ∧
      worlds world condition) fails (visitor.respond duty world) (second.respond other condition)) :
    Beside (fun found world others condition => List.Forall₂ like.Duties found others ∧
      worlds world condition) fails (visitor.perform duty world)
      (second.perform other condition) := by
  rw [perform_eq, perform_eq, looks, token]
  split
  · exact .error cancels
  · generalize visitor.respond duty world = x, second.respond other condition = y at answers
    cases answers with
    | error failed => exact .error failed
    | @ok action answer world condition here =>
        have next := agree_next descends children duties here.1
        dsimp only
        generalize duty.next action = found, other.next answer = others at next
        cases next with
        | ok each => exact .ok ⟨each, here.2⟩
        | fault reworded => exact .error (faults _ _ _ _ reworded here.2)

theorem beside_call {fails : Stop → World → Stop → Other → Prop} {worlds : World → Other → Prop}
    {states : State → Condition → Prop} {handler : Handler State World}
    {further : Handler Condition Other} {node node' : Node} {state : State} {state' : Condition}
    {parent parent' : Option Node} {world : World} {condition : Other}
    (aborts : ∀ world condition, worlds world condition → fails .aborted world .aborted condition)
    (answers : Beside (fun action world answer condition => SameAction states action answer ∧
      worlds world condition) (fun fault world late condition =>
        fails (.faulted fault) world (.faulted late) condition)
      (handler node state parent world) (further node' state' parent' condition)) :
    Beside (fun action world answer condition => SameAction states action answer ∧
      worlds world condition) fails (call handler node state parent world)
      (call further node' state' parent' condition) := by
  unfold call
  generalize handler node state parent world =
    x, further node' state' parent' condition = y at answers
  cases answers with
  | error failed => exact .error failed
  | ok here =>
      obtain ⟨same, related⟩ := here
      cases same with
      | abort => exact .error (aborts _ _ related)
      | keep => exact .ok ⟨.keep, related⟩
      | proceed next => exact .ok ⟨.proceed next, related⟩
      | proceedIgnoring next paths => exact .ok ⟨.proceedIgnoring next paths, related⟩
      | skipChildren => exact .ok ⟨.skipChildren, related⟩
      | malformed => exact .ok ⟨.malformed, related⟩

end Duties

section Steps

variable {α β : Type} {World Other : Type} {d : Int} {world : World} {other : Other}
  {worlds : World → Other → Prop} {fails : Fault → World → Fault → Other → Prop}

theorem beside_attempt {relation : α → β → Prop} {first : Except Fault α} {second : Except Fault β}
    (related : worlds world other) (agree : Agree d relation first second)
    (faults : ∀ fault late, Reworded d fault late → fails fault world late other) :
    Beside (fun a world b other => relation a b ∧ worlds world other) fails (attempt first world)
      (attempt second other) := by
  cases agree with
  | ok here => exact .ok ⟨here, related⟩
  | fault reworded => exact .error (faults _ _ reworded)

theorem beside_get (related : worlds world other) :
    Beside (fun a first b second => a = first ∧ b = second ∧ worlds first second) fails
      ((get : EStateM Fault World World) world) ((get : EStateM Fault Other Other) other) :=
  .ok ⟨rfl, rfl, related⟩

theorem beside_modify {f : World → World} {g : Other → Other}
    (related : worlds (f world) (g other)) :
    Beside (fun _ first _ second => worlds first second) fails
      ((modify f : EStateM Fault World PUnit) world)
      ((modify g : EStateM Fault Other PUnit) other) :=
  .ok related

end Steps

end StyleFold.Walk
