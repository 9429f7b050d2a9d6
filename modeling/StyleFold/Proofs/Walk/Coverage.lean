import StyleFold.Proofs.Walk.Course

/-!
Which positions a walk visits, and how its calls are nested. A position is visited exactly when no
ancestor skips its children and no step of its address begins with an ignored path. The calls of a
visited position are its wildcard call, its enter call, all calls below it, and its leave call,
with nothing else in between.
-/

namespace StyleFold.Walk

variable {State : Type}

section Answers

/-- A turn at an address that counts for the children: the leave handler comes too late. -/
def Decides (course : List (Moment State)) (address : Address) (taken : Turn State) : Prop :=
  taken ∈ turns course ∧ taken.address = address ∧ taken.call.stage ≠ .leave

def Skipped (course : List (Moment State)) (address : Address) : Prop :=
  ∃ taken, Decides course address taken ∧ taken.answer = .skipChildren

/-- A beginning of the trail is among the paths that the handlers of the node ignore. -/
def Ignored (course : List (Moment State)) (address : Address) (trail : Trail) : Prop :=
  ∃ taken, Decides course address taken ∧ trail.Begins taken.answer.paths

def Reached (course : List (Moment State)) (address : Address) : Prop :=
  ∀ above trail, above ++ [trail] <+: address →
    ¬ Skipped course above ∧ ¬ Ignored course above trail

end Answers

section Passages

/-- A course cut at a visit: its turns before and after the children, and what is in between. -/
structure Passage (State : Type) where
  before : List (Moment State)
  opening : List (Turn State)
  inner : List (Moment State)
  closing : List (Turn State)
  after : List (Moment State)

def Turn.sign (taken : Turn State) : Address × Stage × Node :=
  (taken.address, taken.call.stage, taken.call.node)

/-- The one turn of a stage that a position has, if there is a handler for it. -/
def Plan.due (plan : Plan State) (address : Address) (node : Node) (stage : Stage) :
    List (Address × Stage × Node) :=
  if plan.handles stage node then [(address, stage, node)] else []

namespace Passage

def entered (passage : Passage State) : Bool :=
  !passage.opening.any fun taken => taken.call.stage == .wildcard && taken.answer.skips

/-- The cut is the visit of a position: its own turns once each and in order, the turns of its
descendants in between, all others outside. -/
structure Of (passage : Passage State) (plan : Plan State) (course : List (Moment State))
    (address : Address) (node : Node) : Prop where
  whole : course = passage.before ++ (.arrival address :: passage.opening.map .turn ++
    passage.inner ++ passage.closing.map .turn) ++ passage.after
  opens : passage.opening.map Turn.sign = plan.due address node .wildcard ++
    if passage.entered then plan.due address node .enter else []
  closes : passage.closing.map Turn.sign =
    if passage.entered then plan.due address node .leave else []
  below : ∀ moment ∈ passage.inner, address <+: moment.address ∧ moment.address ≠ address
  apart : ∀ moment ∈ passage.before ++ passage.after, ¬ address <+: moment.address

end Passage

variable {plan : Plan State} {course : List (Moment State)} {address : Address} {node : Node}
  {passage : Passage State}

theorem mem_turns {moments : List (Moment State)} {taken : Turn State} :
    taken ∈ turns moments ↔ .turn taken ∈ moments := by
  unfold turns
  rw [List.mem_filterMap]
  constructor
  · rintro ⟨moment, member, shape⟩
    cases moment with
    | arrival => cases shape
    | turn other =>
        cases shape
        exact member
  · exact fun member => ⟨_, member, rfl⟩

theorem sign_of_due {taken : Turn State} {stage : Stage}
    (member : taken.sign ∈ plan.due address node stage) :
    taken.address = address ∧ taken.call.stage = stage ∧ taken.call.node = node := by
  unfold Plan.due at member
  split at member
  · simpa [Turn.sign] using member
  · cases member

theorem Passage.Of.sign_opening (visit : passage.Of plan course address node) {taken : Turn State}
    (member : taken ∈ passage.opening) :
    taken.address = address ∧ taken.call.stage ≠ .leave ∧ taken.call.node = node := by
  have signed := List.mem_map_of_mem (f := Turn.sign) member
  rw [visit.opens] at signed
  rcases List.mem_append.mp signed with first | second
  · obtain ⟨here, stage, same⟩ := sign_of_due first
    exact ⟨here, by rw [stage]; decide, same⟩
  · split at second
    · obtain ⟨here, stage, same⟩ := sign_of_due second
      exact ⟨here, by rw [stage]; decide, same⟩
    · cases second

theorem Passage.Of.sign_closing (visit : passage.Of plan course address node) {taken : Turn State}
    (member : taken ∈ passage.closing) :
    taken.address = address ∧ taken.call.stage = .leave ∧ taken.call.node = node := by
  have signed := List.mem_map_of_mem (f := Turn.sign) member
  rw [visit.closes] at signed
  split at signed
  · exact sign_of_due signed
  · cases signed

/-- What happens at or below a visited node: its arrival, its own turns, and what is in between. -/
theorem Passage.Of.mem_of_below (visit : passage.Of plan course address node)
    {moment : Moment State} (member : moment ∈ course) (inside : address <+: moment.address) :
    moment = .arrival address ∨ (∃ taken ∈ passage.opening, moment = .turn taken) ∨
      moment ∈ passage.inner ∨ ∃ taken ∈ passage.closing, moment = .turn taken := by
  rw [visit.whole] at member
  rcases List.mem_append.mp member with front | after
  · rcases List.mem_append.mp front with before | own
    · exact absurd inside (visit.apart _ (List.mem_append_left _ before))
    · simp only [List.cons_append, List.mem_cons, List.mem_append, List.mem_map] at own
      rcases own with arrival | (⟨taken, opens, rfl⟩ | inner) | ⟨taken, closes, rfl⟩
      · exact Or.inl arrival
      · exact Or.inr (Or.inl ⟨taken, opens, rfl⟩)
      · exact Or.inr (Or.inr (Or.inl inner))
      · exact Or.inr (Or.inr (Or.inr ⟨taken, closes, rfl⟩))
  · exact absurd inside (visit.apart _ (List.mem_append_right _ after))

theorem Passage.Of.decides_iff (visit : passage.Of plan course address node)
    {taken : Turn State} : Decides course address taken ↔ taken ∈ passage.opening := by
  constructor
  · rintro ⟨member, here, early⟩
    have inside : address <+: (Moment.turn taken).address := by simp [Moment.address, here]
    rcases visit.mem_of_below (mem_turns.mp member) inside with
      arrival | ⟨other, opens, same⟩ | inner | ⟨other, closes, same⟩
    · cases arrival
    · cases same
      exact opens
    · exact absurd here (visit.below _ inner).2
    · cases same
      exact absurd (visit.sign_closing closes).2.1 early
  · intro member
    refine ⟨?_, (visit.sign_opening member).1, (visit.sign_opening member).2.1⟩
    rw [mem_turns, visit.whole]
    simp [member]

theorem skips_iff {action : Action State} : action.skips = true ↔ action = .skipChildren := by
  cases action <;> simp [Action.skips]

theorem Passage.Of.skipped_iff (visit : passage.Of plan course address node) :
    Skipped course address ↔ skips passage.opening = true := by
  simp [Skipped, visit.decides_iff, skips, skips_iff]

theorem Passage.Of.ignored_iff (visit : passage.Of plan course address node) (trail : Trail) :
    Ignored course address trail ↔ trail.Begins (ignoredBy passage.opening) := by
  simp only [Ignored, visit.decides_iff, Trail.Begins, ignoredBy, List.mem_flatMap]
  constructor
  · rintro ⟨taken, member, start, nonempty, begins, path⟩
    exact ⟨start, nonempty, begins, taken, member, path⟩
  · rintro ⟨start, nonempty, begins, taken, member, path⟩
    exact ⟨taken, member, start, nonempty, begins, path⟩

end Passages

section Covering

variable {plan : Plan State} {all : List (Moment State)}

def ReachedFrom (course : List (Moment State)) (base rest : Address) : Prop :=
  ∀ above trail, above ++ [trail] <+: rest →
    ¬ Skipped course (base ++ above) ∧ ¬ Ignored course (base ++ above) trail

theorem reachedFrom_nil (course : List (Moment State)) (base : Address) :
    ReachedFrom course base [] := by
  intro above trail begins
  simp at begins

theorem reachedFrom_cons {course : List (Moment State)} {base rest : Address} {trail : Trail} :
    ReachedFrom course base (trail :: rest) ↔
      (¬ Skipped course base ∧ ¬ Ignored course base trail) ∧
        ReachedFrom course (base ++ [trail]) rest := by
  constructor
  · intro reached
    constructor
    · simpa using reached [] trail (by simp)
    · intro above next begins
      simpa using reached (trail :: above) next (by simpa using begins)
  · rintro ⟨first, further⟩ above next begins
    cases above with
    | nil =>
        obtain ⟨rfl, _⟩ : next = trail ∧ [] <+: rest := by simpa using begins
        simpa using first
    | cons head above =>
        obtain ⟨rfl, inside⟩ : head = trail ∧ above ++ [next] <+: rest := by simpa using begins
        simpa using further above next inside

def Apart (tasks : List (Task State)) : Prop :=
  tasks.Pairwise fun left right =>
    ¬ left.address <+: right.address ∧ ¬ right.address <+: left.address

def Covers (plan : Plan State) (all : List (Moment State)) (task : Task State) : Prop :=
  ∀ rest node, Located task.node rest node →
    (ReachedFrom all task.address rest →
      ∃ passage : Passage State, passage.Of plan all (task.address ++ rest) node) ∧
    (¬ ReachedFrom all task.address rest → ∀ moment ∈ all, moment.address ≠ task.address ++ rest)

theorem turnsFor_sign (stage : Stage) (number : Nat) (task : Task State) (state : State) :
    (plan.turnsFor stage number task state).map Turn.sign =
      plan.due task.address task.node stage := by
  unfold Plan.turnsFor Plan.due
  dsimp only
  split <;> rfl

theorem turnsFor_address {stage : Stage} {number : Nat} {task : Task State} {state : State}
    {taken : Turn State} (member : taken ∈ plan.turnsFor stage number task state) :
    taken.address = task.address := by
  have signed := List.mem_map_of_mem (f := Turn.sign) member
  rw [turnsFor_sign] at signed
  exact (sign_of_due signed).1

theorem opening_address {number : Nat} {task : Task State} {taken : Turn State}
    (member : taken ∈ plan.opening number task) : taken.address = task.address := by
  rcases List.mem_append.mp member with first | second
  · exact turnsFor_address first
  · exact turnsFor_address second

theorem course_located {number : Nat} {tasks : List (Task State)} {moments : List (Moment State)}
    (course : Course plan number tasks moments) :
    ∀ moment ∈ moments, ∃ task ∈ tasks, ∃ rest node,
      moment.address = task.address ++ rest ∧ Located task.node rest node := by
  induction course with
  | done number => simp
  | @refused number task rest more refuses onward ih =>
      intro moment member
      simp only [List.cons_append, List.mem_cons, List.mem_append, List.mem_map] at member
      rcases member with rfl | ⟨taken, opens, rfl⟩ | later
      · exact ⟨task, List.mem_cons_self, [], task.node, by simp [Moment.address], .here _⟩
      · exact ⟨task, List.mem_cons_self, [], task.node,
          by simp [Moment.address, turnsFor_address opens], .here _⟩
      · obtain ⟨other, present, inside⟩ := ih moment later
        exact ⟨other, List.mem_cons_of_mem task present, inside⟩
  | @entered number later task rest inner more accepts inside total onward ihInside ihOnward =>
      intro moment member
      simp only [List.cons_append, List.mem_cons, List.mem_append, List.mem_map] at member
      rcases member with rfl | ((⟨taken, opens, rfl⟩ | below) | ⟨taken, closes, rfl⟩) | later
      · exact ⟨task, List.mem_cons_self, [], task.node, by simp [Moment.address], .here _⟩
      · exact ⟨task, List.mem_cons_self, [], task.node,
          by simp [Moment.address, opening_address opens], .here _⟩
      · obtain ⟨child, present, address, node, deeper, located⟩ := ihInside moment below
        obtain ⟨trail, step, place⟩ := mem_childTasks present
        refine ⟨task, List.mem_cons_self, trail :: address, node, ?_, .step step located⟩
        simp [deeper, place]
      · exact ⟨task, List.mem_cons_self, [], task.node,
          by simp [Moment.address, turnsFor_address closes], .here _⟩
      · obtain ⟨other, present, further⟩ := ihOnward moment later
        exact ⟨other, List.mem_cons_of_mem task present, further⟩

theorem course_within {number : Nat} {tasks : List (Task State)} {moments : List (Moment State)}
    (course : Course plan number tasks moments) :
    ∀ moment ∈ moments, ∃ task ∈ tasks, task.address <+: moment.address := by
  intro moment member
  obtain ⟨task, present, rest, _, place, _⟩ := course_located course moment member
  exact ⟨task, present, rest, place.symm⟩

def SentOn (task : Task State) (opening : List (Turn State)) (trail : Trail) (child : Node) :
    Prop :=
  skips opening = false ∧ Child task.node trail child ∧ ¬ trail.Begins (ignoredBy opening)

/-- Tasks are exactly the children that a node sends on. -/
structure Descends (task : Task State) (opening : List (Turn State))
    (children : List (Task State)) : Prop where
  sound : ∀ next ∈ children, ∃ trail, next.address = task.address ++ [trail] ∧
    SentOn task opening trail next.node
  complete : ∀ trail child, SentOn task opening trail child →
    ∃ next ∈ children, next.address = task.address ++ [trail] ∧ next.node = child

theorem covers_of_visit {task : Task State} {passage : Passage State} {number : Nat}
    {children : List (Task State)} (visit : passage.Of plan all task.address task.node)
    (inside : Course plan number children passage.inner)
    (sent : Descends task passage.opening children)
    (covered : ∀ child ∈ children, Covers plan all child) : Covers plan all task := by
  intro rest node located
  cases located with
  | here =>
      rw [List.append_nil]
      exact ⟨fun _ => ⟨passage, visit⟩, fun missed => absurd (reachedFrom_nil all _) missed⟩
  | @step _ child _ trail address step deeper =>
      rw [reachedFrom_cons, visit.skipped_iff, visit.ignored_iff, Bool.not_eq_true]
      by_cases chosen : skips passage.opening = false ∧ ¬ trail.Begins (ignoredBy passage.opening)
      · obtain ⟨next, present, place, rfl⟩ := sent.complete trail child ⟨chosen.1, step, chosen.2⟩
        have below := covered next present address node deeper
        rw [place, List.append_assoc, List.singleton_append] at below
        exact ⟨fun reached => below.1 reached.2, fun missed => below.2 fun further =>
          missed ⟨chosen, further⟩⟩
      · refine ⟨fun reached => absurd reached.1 chosen, fun _ moment member here => chosen ?_⟩
        have deep : moment.address ≠ task.address := by simp [here]
        have within : task.address <+: moment.address := by simp [here]
        rcases visit.mem_of_below member within with
          rfl | ⟨taken, opens, rfl⟩ | inner | ⟨taken, closes, rfl⟩
        · exact absurd rfl deep
        · exact absurd (visit.sign_opening opens).1 deep
        · -- A moment in between lies below a child that was sent on, so it is this child.
          obtain ⟨next, present, begins⟩ := course_within inside moment inner
          obtain ⟨other, place, accepts, _, free⟩ := sent.sound next present
          rw [place, here, List.prefix_append_right_inj] at begins
          obtain ⟨rfl, _⟩ : other = trail ∧ [] <+: address := by simpa using begins
          exact ⟨accepts, free⟩
        · exact absurd (visit.sign_closing closes).1 deep

theorem childTasks_descends (number : Nat) (task : Task State) :
    Descends task (plan.opening number task) (plan.childTasks number task) := by
  unfold Plan.childTasks
  dsimp only
  cases skipping : skips (plan.opening number task) with
  | true =>
      constructor
      · intro next member
        simp at member
      · intro trail child sent
        exact absurd sent.1 (by simp [skipping])
  | false =>
      constructor
      · intro next member
        simp only [Bool.false_eq_true, if_false] at member
        obtain ⟨seat, present, rfl⟩ := List.mem_map.mp member
        exact ⟨seat.trail, rfl, skipping, mem_seatsLeft.mp present⟩
      · rintro trail child ⟨_, left⟩
        simp only [Bool.false_eq_true, if_false]
        exact ⟨_, List.mem_map_of_mem (mem_seatsLeft.mpr left), rfl, rfl⟩

theorem childTasks_apart (number : Nat) (task : Task State) :
    Apart (plan.childTasks number task) := by
  unfold Plan.childTasks
  dsimp only
  split
  · exact List.Pairwise.nil
  · have distinct := nodup_seatsLeft task.node (ignoredBy (plan.opening number task))
    rw [List.Nodup, List.pairwise_map] at distinct
    apply List.pairwise_map.mpr
    refine distinct.imp fun {left right} different => ?_
    simp only [List.prefix_append_right_inj]
    constructor
    · intro begins
      exact different (by simpa using begins)
    · intro begins
      exact different (by simpa [eq_comm] using begins)

theorem turnsFor_stage {stage : Stage} {number : Nat} {task : Task State} {state : State}
    {taken : Turn State} (member : taken ∈ plan.turnsFor stage number task state) :
    taken.call.stage = stage := by
  have signed := List.mem_map_of_mem (f := Turn.sign) member
  rw [turnsFor_sign] at signed
  exact (sign_of_due signed).2.1

theorem opening_entered (number : Nat) (task : Task State)
    (before inner after : List (Moment State)) (closing : List (Turn State)) :
    (⟨before, plan.opening number task, inner, closing, after⟩ : Passage State).entered =
      !skips (plan.wildcardTurns number task) := by
  have wildcards : (plan.wildcardTurns number task).any
      (fun taken => taken.call.stage == .wildcard && taken.answer.skips) =
      skips (plan.wildcardTurns number task) := by
    unfold Plan.wildcardTurns Plan.turnsFor
    dsimp only
    split <;> simp [skips]
  have enters : (plan.enterTurns number task).any
      (fun taken => taken.call.stage == .wildcard && taken.answer.skips) = false := by
    rw [List.any_eq_false]
    intro taken member
    simp [turnsFor_stage member]
  simp only [Passage.entered, Plan.opening, List.any_append, wildcards, enters, Bool.or_false]

theorem refused_entered {number : Nat} {task : Task State}
    (refuses : skips (plan.wildcardTurns number task) = true)
    (before inner after : List (Moment State)) (closing : List (Turn State)) :
    (⟨before, plan.wildcardTurns number task, inner, closing, after⟩ : Passage State).entered =
      false := by
  obtain ⟨taken, member, skipping⟩ := List.any_eq_true.mp refuses
  simp only [Passage.entered, Bool.not_eq_false', List.any_eq_true]
  exact ⟨taken, member, by simp [turnsFor_stage member, skipping]⟩

theorem outside_of_apart {number : Nat} {task : Task State} {rest : List (Task State)}
    {before more after : List (Moment State)} (onward : Course plan number rest more)
    (apart : Apart (task :: rest)) (outside : ∀ moment ∈ before ++ after, ∀ other ∈ task :: rest,
      ¬ other.address <+: moment.address) :
    ∀ moment ∈ before ++ (more ++ after), ¬ task.address <+: moment.address := by
  intro moment member inside
  simp only [List.mem_append] at member
  rcases member with early | later | late
  · exact outside moment (List.mem_append_left _ early) task List.mem_cons_self inside
  · obtain ⟨other, present, begins⟩ := course_within onward moment later
    have different := (List.pairwise_cons.mp apart).1 other present
    rcases List.prefix_or_prefix_of_prefix inside begins with nested | nested
    · exact different.1 nested
    · exact different.2 nested
  · exact outside moment (List.mem_append_right _ late) task List.mem_cons_self inside

theorem outside_rest {task : Task State} {rest : List (Task State)}
    {before own after : List (Moment State)} (apart : Apart (task :: rest))
    (outside : ∀ moment ∈ before ++ after, ∀ other ∈ task :: rest,
      ¬ other.address <+: moment.address)
    (mine : ∀ moment ∈ own, task.address <+: moment.address) :
    ∀ moment ∈ (before ++ own) ++ after, ∀ other ∈ rest, ¬ other.address <+: moment.address := by
  intro moment member other present begins
  simp only [List.mem_append] at member
  rcases member with (early | here) | late
  · exact outside moment (List.mem_append_left _ early) other
      (List.mem_cons_of_mem task present) begins
  · have different := (List.pairwise_cons.mp apart).1 other present
    rcases List.prefix_or_prefix_of_prefix (mine moment here) begins with nested | nested
    · exact different.1 nested
    · exact different.2 nested
  · exact outside moment (List.mem_append_right _ late) other
      (List.mem_cons_of_mem task present) begins

theorem outside_children {number : Nat} {task : Task State} {passage : Passage State}
    (visit : passage.Of plan all task.address task.node) :
    ∀ moment ∈ (passage.before ++ (.arrival task.address :: passage.opening.map .turn)) ++
        (passage.closing.map .turn ++ passage.after),
      ∀ child ∈ plan.childTasks number task, ¬ child.address <+: moment.address := by
  intro moment member child present begins
  obtain ⟨trail, _, place⟩ := mem_childTasks present
  rw [place] at begins
  have within : task.address <+: moment.address := (List.prefix_append _ _).trans begins
  have deep : moment.address ≠ task.address := by
    intro same
    rw [same] at begins
    exact absurd begins.length_le (by simp)
  simp only [List.mem_append, List.mem_cons, List.mem_map] at member
  rcases member with (early | rfl | ⟨taken, opens, rfl⟩) | ⟨taken, closes, rfl⟩ | late
  · exact visit.apart moment (List.mem_append_left _ early) within
  · exact deep rfl
  · exact deep (visit.sign_opening opens).1
  · exact deep (visit.sign_closing closes).1
  · exact visit.apart moment (List.mem_append_right _ late) within

/-- Where a course is part of a larger one that keeps away from its tasks, it covers them. -/
theorem course_covers {number : Nat} {tasks : List (Task State)} {moments : List (Moment State)}
    (course : Course plan number tasks moments) (before after : List (Moment State))
    (whole : all = before ++ moments ++ after) (apart : Apart tasks)
    (outside : ∀ moment ∈ before ++ after, ∀ task ∈ tasks, ¬ task.address <+: moment.address) :
    ∀ task ∈ tasks, Covers plan all task := by
  -- What stands before and after grows with each task that is done and each node that is entered.
  induction course generalizing before after with
  | done number => simp
  | @refused number task rest more refuses onward ih =>
      have visit : Passage.Of ⟨before, plan.wildcardTurns number task, [], [],
          more ++ after⟩ plan all
          task.address task.node := {
        whole := by simp [whole]
        opens := by
          rw [refused_entered refuses]
          simp [Plan.wildcardTurns, turnsFor_sign]
        closes := by
          rw [refused_entered refuses]
          simp
        below := by simp
        apart := outside_of_apart onward apart outside }
      intro other member
      rcases List.mem_cons.mp member with rfl | later
      · apply covers_of_visit visit (.done number)
        · exact ⟨by simp, fun _ _ sent => absurd sent.1 (by simp [refuses])⟩
        · simp
      · refine ih (before ++ (.arrival task.address ::
          (plan.wildcardTurns number task).map .turn)) after (by simp [whole])
          (List.pairwise_cons.mp apart).2 (outside_rest apart outside ?_) other later
        simpa using course_within (.refused refuses (.done _) : Course plan number [task] _)
  | @entered number later task rest inner more accepts inside total onward ihInside ihOnward =>
      have visit : Passage.Of ⟨before, plan.opening number task, inner,
          plan.leaveTurns number later task, more ++ after⟩ plan all task.address task.node := {
        whole := by simp [whole]
        opens := by
          rw [opening_entered, accepts]
          simp [Plan.opening, Plan.wildcardTurns, Plan.enterTurns, turnsFor_sign]
        closes := by
          rw [opening_entered, accepts]
          simp [Plan.leaveTurns, turnsFor_sign]
        below := by
          intro moment member
          obtain ⟨child, present, begins⟩ := course_within inside moment member
          obtain ⟨trail, _, place⟩ := mem_childTasks present
          rw [place] at begins
          refine ⟨(List.prefix_append _ _).trans begins, fun same => ?_⟩
          rw [same] at begins
          exact absurd begins.length_le (by simp)
        apart := outside_of_apart onward apart outside }
      intro other member
      rcases List.mem_cons.mp member with rfl | further
      · refine covers_of_visit visit inside (childTasks_descends number other) ?_
        exact ihInside _ _ (by simp [whole]) (childTasks_apart number other)
          (outside_children visit)
      · refine ihOnward (before ++ (.arrival task.address ::
          (plan.opening number task).map .turn ++ inner ++
          (plan.leaveTurns number later task).map .turn)) after (by simp [whole])
          (List.pairwise_cons.mp apart).2 (outside_rest apart outside ?_) other further
        simpa using course_within
          (.entered accepts inside total (.done _) : Course plan number [task] _)

end Covering

section Walks

instance (node : Node) : Decidable (WellTagged node) :=
  inferInstanceAs (Decidable (wellTaggedFields node.entries = true))

def firstStatement : Node where
  kind := some .expressionStatement
  span := none
  entries := [(.text "type", .text "ExpressionStatement"),
    (.text "expression", .map [(.text "type", .text "Identifier"), (.text "value", .text "a")])]

def twoStatements : Node where
  kind := some .moduleUnit
  span := none
  entries := [(.text "type", .text "Module"),
    (.text "body", .list [.map firstStatement.entries,
      .map [(.text "type", .text "EmptyStatement")]])]

/-- Ignores the second statement of a module and skips what a statement holds. -/
def pruningPlan : Plan Nat where
  wildcard := true
  enter kind := kind == .expressionStatement
  leave kind := kind == .moduleUnit
  answer _ call := match call.stage, call.node.kind with
    | .wildcard, some .moduleUnit => .proceedIgnoring 1 ["body.1"]
    | .enter, _ => .skipChildren
    | _, _ => .keep

theorem pruningPlan_willing : pruningPlan.Willing := by
  intro number call
  simp only [pruningPlan]
  split <;> simp

theorem firstStatement_located :
    Located twoStatements [[⟨1, "body"⟩, ⟨0, "0"⟩]] firstStatement := by
  have opened : Holds (.map firstStatement.entries) [] firstStatement := .node (by rfl) rfl
  have listed : Holds (.list [.map firstStatement.entries,
      .map [(.text "type", .text "EmptyStatement")]]) [⟨0, "0"⟩] firstStatement :=
    @Holds.item _ _ 0 _ _ rfl opened
  have child : Child twoStatements [⟨1, "body"⟩, ⟨0, "0"⟩] firstStatement :=
    @Child.field _ _ 1 (.text "body") _ _ rfl (by decide) listed
  exact .step child (.here _)

end Walks

end StyleFold.Walk
