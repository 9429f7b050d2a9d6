import StyleFold.Proofs.Walk.Coverage

/-!
Walks that are stopped at a call. The token is looked at on arrival at a node and before its leave
handler, so after every call except between the wildcard and the enter handler of a node. Main
statement: a call that aborts ends the walk at once, and one that cancels ends it at the next look
at the token; what was called until then is the beginning of the undisturbed walk.
-/

namespace StyleFold.Walk

variable {State : Type}

section Pace

namespace Moment

def checks : Moment State → Bool
  | .arrival _ => true
  | .turn taken => taken.call.stage == .leave

end Moment

/-- The enter handler of the same node comes next, with no look at the token in between. -/
def Plan.leadsOn (plan : Plan State) (taken : Turn State) : Bool :=
  taken.call.stage == .wildcard && !taken.answer.skips && plan.handles .enter taken.call.node

def Halts (moments : List (Moment State)) : Prop := ∀ moment ∈ moments.head?, moment.checks

/-- What a turn leaves to come: the enter turn of its node, or a look at the token. -/
structure Plan.Followed (plan : Plan State) (taken : Turn State) (rest : List (Moment State)) :
    Prop where
  enters : plan.leadsOn taken = true →
    ∃ next after, rest = .turn next :: after ∧ next.call.stage = .enter
  halts : plan.leadsOn taken = false → Halts rest

def Paced (plan : Plan State) : List (Moment State) → Prop
  | [] => True
  | .arrival _ :: rest => Paced plan rest
  | .turn taken :: rest => plan.Followed taken rest ∧ Paced plan rest

variable {plan : Plan State}

theorem halts_append {first second : List (Moment State)} (early : Halts first)
    (late : Halts second) : Halts (first ++ second) := by
  cases first with
  | nil => exact late
  | cons moment rest => simpa [Halts] using early

theorem any_checks_of_halts {moments : List (Moment State)} (halts : Halts moments) :
    moments.any Moment.checks = !moments.isEmpty := by
  cases moments with
  | nil => rfl
  | cons moment rest =>
      have first : moment.checks = true := halts moment rfl
      simp [first]

theorem paced_append {first second : List (Moment State)} (early : Paced plan first)
    (late : Paced plan second) (halts : Halts second) : Paced plan (first ++ second) := by
  induction first with
  | nil => exact late
  | cons moment rest ih =>
      cases moment with
      | arrival address => exact ih early
      | turn taken =>
          refine ⟨⟨fun leads => ?_, fun ends => ?_⟩, ih early.2⟩
          · obtain ⟨next, after, rfl, enters⟩ := early.1.enters leads
            exact ⟨next, after ++ second, rfl, enters⟩
          · exact halts_append (early.1.halts ends) halts

theorem halts_course {number : Nat} {tasks : List (Task State)} {moments : List (Moment State)}
    (course : Course plan number tasks moments) : Halts moments := by
  cases course with
  | done => simp [Halts]
  | refused | entered => simp [Halts, Moment.checks]

theorem paced_last {taken : Turn State} (ends : plan.leadsOn taken = false) :
    Paced plan [.turn taken] :=
  ⟨⟨fun leads => by simp [ends] at leads, fun _ => by simp [Halts]⟩, trivial⟩

theorem paced_turnsFor {stage : Stage} {number : Nat} {task : Task State} {state : State}
    (ends : ∀ taken ∈ plan.turnsFor stage number task state, plan.leadsOn taken = false) :
    Paced plan ((plan.turnsFor stage number task state).map .turn) := by
  unfold Plan.turnsFor at ends ⊢
  dsimp only at ends ⊢
  by_cases handled : plan.handles stage task.node = true
  · rw [if_pos handled] at ends ⊢
    exact paced_last (ends _ List.mem_cons_self)
  · rw [if_neg handled]
    trivial

theorem halts_leaveTurns (number later : Nat) (task : Task State) :
    Halts ((plan.leaveTurns number later task).map .turn) := by
  unfold Plan.leaveTurns Plan.turnsFor
  dsimp only
  split <;> simp [Halts, Moment.checks]

theorem paced_leaveTurns (number later : Nat) (task : Task State) :
    Paced plan ((plan.leaveTurns number later task).map .turn) := by
  apply paced_turnsFor
  intro taken member
  simp [Plan.leadsOn, turnsFor_stage member]

theorem paced_wildcardTurns {number : Nat} {task : Task State}
    (refuses : skips (plan.wildcardTurns number task) = true) :
    Paced plan ((plan.wildcardTurns number task).map .turn) := by
  apply paced_turnsFor
  intro taken member
  obtain ⟨other, present, skipping⟩ := List.any_eq_true.mp refuses
  have same : taken = other := by
    simp only [Plan.wildcardTurns, Plan.turnsFor] at member present
    split at member
    · simp_all
    · cases member
  simp [Plan.leadsOn, same, skipping]

theorem paced_opening {number : Nat} {task : Task State}
    (accepts : skips (plan.wildcardTurns number task) = false) :
    Paced plan ((plan.opening number task).map .turn) := by
  have last : Paced plan ((plan.enterTurns number task).map .turn) := by
    apply paced_turnsFor
    intro taken member
    simp [Plan.leadsOn, turnsFor_stage member]
  rw [Plan.opening, List.map_append]
  by_cases handled : plan.handles .wildcard task.node = true
  · simp only [Plan.wildcardTurns, Plan.turnsFor, handled, if_true, skips, List.any_cons,
      List.any_nil, Bool.or_false] at accepts
    have first : plan.wildcardTurns number task = [⟨task.address,
        ⟨.wildcard, task.node, task.state, task.parent⟩,
        plan.answer number ⟨.wildcard, task.node, task.state, task.parent⟩⟩] := by
      simp [Plan.wildcardTurns, Plan.turnsFor, handled]
    rw [first]
    refine ⟨⟨fun leads => ?_, fun ends => ?_⟩, last⟩
    · have entering : plan.handles .enter task.node = true := by
        simpa [Plan.leadsOn, accepts] using leads
      simp [Plan.enterTurns, Plan.turnsFor, entering]
    · have quiet : plan.handles .enter task.node = false := by
        simpa [Plan.leadsOn, accepts] using ends
      simp [Plan.enterTurns, Plan.turnsFor, quiet, Halts]
  · have none : plan.wildcardTurns number task = [] := by
      simp [Plan.wildcardTurns, Plan.turnsFor, handled]
    rw [none]
    exact last

theorem paced_course {number : Nat} {tasks : List (Task State)} {moments : List (Moment State)}
    (course : Course plan number tasks moments) : Paced plan moments := by
  induction course with
  | done number => trivial
  | @refused number task rest more refuses onward ih =>
      exact paced_append (paced_wildcardTurns refuses) ih (halts_course onward)
  | @entered number later task rest inner more accepts inside total onward ihInside ihOnward =>
      have opened := paced_append (paced_opening accepts) ihInside (halts_course inside)
      have closed := paced_append opened (paced_leaveTurns number later task)
        (halts_leaveTurns number later task)
      exact paced_append closed ihOnward (halts_course onward)

end Pace

section Stops

/-- One call aborts. -/
def abortsAt (number : Nat) : Disturbance := { aborts := (· == number) }

def cancelsAt (number : Nat) : Disturbance := { cancels := (· == number) }

theorem calls_append (first second : List (Moment State)) :
    calls (first ++ second) = calls first ++ calls second := by
  simp [calls]

theorem length_calls (moments : List (Moment State)) :
    (calls moments).length = (turns moments).length := by
  simp [calls]

theorem take_calls (front : List (Moment State)) (taken : Turn State) (back : List (Moment State))
    (extra : Nat) :
    (calls (front ++ .turn taken :: back)).take ((turns front).length + (extra + 1)) =
      calls front ++ [taken.call] ++ (calls back).take extra := by
  rw [calls_append, ← length_calls, List.take_length_add_append]
  simp [calls]

theorem replay_aborts (front : List (Moment State)) (taken : Turn State)
    (back : List (Moment State)) :
    replay (abortsAt (turns front).length) (front ++ .turn taken :: back) {} =
      .error .aborted { calls := calls front ++ [taken.call] } := by
  rw [replay_append, bind_apply, replay_calm (abortsAt (turns front).length) front {} rfl]
  · simp [replay, bind_apply, attend, abortsAt, length_calls, Log.record]
  · intro number _ upper
    have early : number < (turns front).length := by simpa using upper
    simp [abortsAt, Nat.ne_of_lt early]

theorem replay_cancels (front : List (Moment State)) (taken : Turn State)
    (back : List (Moment State)) :
    replay (cancelsAt (turns front).length) (front ++ .turn taken :: back) {} =
      replay (cancelsAt (turns front).length) back
        { calls := calls front ++ [taken.call], cancelled := true } := by
  rw [replay_append, bind_apply, replay_calm (cancelsAt (turns front).length) front {} rfl]
  · simp [replay, bind_apply, attend, cancelsAt, length_calls, Log.record]
  · intro number _ upper
    have early : number < (turns front).length := by simpa using upper
    simp [cancelsAt, Nat.ne_of_lt early]

theorem replay_halts {number : Nat} {moments : List (Moment State)} (halts : Halts moments)
    (log : Log State) (cancelled : log.cancelled = true) :
    replay (cancelsAt number) moments log =
      if moments.any Moment.checks then .error .cancelled log else .ok () log := by
  rw [any_checks_of_halts halts]
  cases moments with
  | nil => rfl
  | cons moment rest =>
      have checked := halts moment rfl
      cases moment with
      | arrival address => simp [replay, bind_apply, attend, cancelled]
      | turn taken =>
          simp only [Moment.checks, beq_iff_eq] at checked
          simp [replay, bind_apply, attend, cancelled, checked]

def Plan.overrun (plan : Plan State) (taken : Turn State) : Nat :=
  if plan.leadsOn taken then 1 else 0

theorem paced_suffix {plan : Plan State} {front back : List (Moment State)}
    (paced : Paced plan (front ++ back)) : Paced plan back := by
  induction front with
  | nil => exact paced
  | cons moment rest ih =>
      cases moment with
      | arrival address => exact ih paced
      | turn taken => exact ih paced.2

theorem replay_overrun {plan : Plan State} {taken : Turn State} {back : List (Moment State)}
    (paced : Paced plan (.turn taken :: back)) (number : Nat) (log : Log State)
    (cancelled : log.cancelled = true) :
    replay (cancelsAt number) back log =
      let last : Log State :=
        { log with calls := log.calls ++ (calls back).take (plan.overrun taken) }
      if back.any Moment.checks then .error .cancelled last else .ok () last := by
  cases leads : plan.leadsOn taken with
  | false =>
      rw [replay_halts (paced.1.halts leads) log cancelled]
      simp [Plan.overrun, leads]
  | true =>
      -- The enter call comes without a look at the token, and then the next moment has one.
      obtain ⟨next, after, rfl, enters⟩ := paced.1.enters leads
      have ends : plan.leadsOn next = false := by simp [Plan.leadsOn, enters]
      have halts := paced.2.1.halts ends
      have quiet : (cancelsAt number).aborts log.calls.length = false := rfl
      rw [replay, bind_apply, attend, if_neg (by simp [enters]), quiet]
      simp only [Bool.false_eq_true, if_false]
      rw [replay_halts halts _ (by simp [Log.record, cancelled])]
      simp [Plan.overrun, leads, Log.record, cancelled, Moment.checks, enters, calls]

end Stops

section Walks

theorem exists_split {course : List (Moment State)} {number : Nat} {taken : Turn State}
    (found : (turns course)[number]? = some taken) :
    ∃ front back, course = front ++ .turn taken :: back ∧ (turns front).length = number := by
  induction course generalizing number with
  | nil => simp at found
  | cons moment rest ih =>
      cases moment with
      | arrival address =>
          obtain ⟨front, back, rfl, count⟩ := ih found
          exact ⟨.arrival address :: front, back, rfl, count⟩
      | turn other =>
          cases number with
          | zero =>
              cases found
              exact ⟨[], rest, rfl, rfl⟩
          | succ number =>
              obtain ⟨front, back, rfl, count⟩ := ih found
              exact ⟨.turn other :: front, back, rfl, by simp [count]⟩

theorem overrun_enters {plan : Plan State} {taken : Turn State} {back : List (Moment State)}
    (paced : Paced plan (.turn taken :: back)) :
    ∀ call ∈ (calls back).take (plan.overrun taken), call.stage = .enter := by
  intro call member
  cases leads : plan.leadsOn taken with
  | false => simp [Plan.overrun, leads] at member
  | true =>
      obtain ⟨next, after, rfl, enters⟩ := paced.1.enters leads
      have same : call = next.call := by simpa [Plan.overrun, leads, calls] using member
      rw [same, enters]

/-- Let the course of the undisturbed walk be cut at one of its calls. If that call aborts, the walk
is aborted after exactly the calls until then. If it cancels the token and answers as before, the
same calls are made, and the enter call of its node where it is a wildcard call that leads on to it;
the walk is cancelled, unless no node visit and no leave call was left to do. In neither case a
leave handler runs later. -/
theorem walk_interrupted (plan : Plan State) (willing : plan.Willing) (root : Node)
    (tagged : root.kind.isSome) (valid : WellTagged root) (state : State) :
    ∃ course : List (Moment State),
      Course plan 0 [rootTask root state] course ∧
      walk (plan.visitor {}) root state {} = (.ok .completed, { calls := calls course }) ∧
      ∀ number taken, (turns course)[number]? = some taken →
        walk (plan.visitor (abortsAt number)) root state {} =
          (.ok .aborted, { calls := (calls course).take (number + 1) }) ∧
        ∃ front back, course = front ++ .turn taken :: back ∧ (turns front).length = number ∧
          walk (plan.visitor (cancelsAt number)) root state {} =
            (.ok (if back.any Moment.checks then .cancelled else .completed),
              { calls := (calls course).take (number + (plan.overrun taken + 1)),
                cancelled := true }) ∧
          ∀ call ∈ ((calls course).take (number + (plan.overrun taken + 1))).drop
            (number + 1), call.stage = .enter := by
  obtain ⟨course, whole⟩ := course_exists plan root state valid
  refine ⟨course, whole, ?_, ?_⟩
  · rw [walk_eq_replay willing tagged valid whole, replay_calm {} course {} rfl (by simp)]
    rfl
  · intro number taken found
    obtain ⟨front, back, rfl, rfl⟩ := exists_split found
    have paced : Paced plan (.turn taken :: back) := paced_suffix (paced_course whole)
    have shown := take_calls front taken back
    refine ⟨?_, front, back, rfl, rfl, ?_, ?_⟩
    · rw [walk_eq_replay willing tagged valid whole, replay_aborts, shown 0]
      simp [conclude]
    · rw [walk_eq_replay willing tagged valid whole, replay_cancels,
        replay_overrun paced _ _ rfl, shown]
      split <;> rfl
    · have done : (calls front ++ [taken.call]).length = (turns front).length + 1 := by
        simp [length_calls]
      rw [shown, ← done, List.drop_left]
      exact overrun_enters paced

theorem walk_interrupted_twoStatements :
    WellTagged twoStatements ∧ walk (pruningPlan.visitor (abortsAt 0)) twoStatements 0 {} =
      (.ok .aborted, { calls := [⟨.wildcard, twoStatements, 0, none⟩] }) := by
  have valid : WellTagged twoStatements := by decide
  obtain ⟨course, whole, _, stopped⟩ :=
    walk_interrupted pruningPlan pruningPlan_willing twoStatements rfl valid 0
  have first : (turns course)[0]? = some ⟨[], ⟨.wildcard, twoStatements, 0, none⟩,
      .proceedIgnoring 1 ["body.1"]⟩ := by
    cases whole with
    | refused => rfl
    | entered => rfl
  refine ⟨valid, ?_⟩
  rw [(stopped 0 _ first).1]
  cases row : turns course with
  | nil => simp [row] at first
  | cons taken rest =>
      simp only [row, List.getElem?_cons_zero, Option.some.injEq] at first
      simp [calls, row, first]

end Walks

end StyleFold.Walk
