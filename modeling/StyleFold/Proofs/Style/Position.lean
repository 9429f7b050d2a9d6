import StyleFold.Proofs.Style.Shift

/-!
Answers do not depend on where a file stands. Main statements: hovers and completions of a file
whose spans have all been moved are the same, and counting offsets from elsewhere moves the span of
an answer and nothing else. What is hovered over may still show spans: a name that holds a node is
written out with the span of that node.
-/

namespace StyleFold

section Surveys

namespace Survey

open Walk (Duty Stage Beside SameAction SameStop)

variable {State Finding : Type} {d s : Int} {findings : Finding → Finding → Prop} (query : Query)
  {own further : Kind → Option (Handler State Finding)} {survey other : Survey Finding}
  {duty task : Duty State}

def SameEnd (d : Int) (findings : Finding → Finding → Prop) (stop : Walk.Stop)
    (survey : Survey Finding) (halt : Walk.Stop) (other : Survey Finding) : Prop :=
  SameStop (Retold d) stop halt ∧ survey.Follows d findings other

theorem matches_role (alike : OwnAlike d s findings own further) {stage : Stage} {role : Role}
    {node again : Node} (serving : Serves stage node.kind role) (nodes : node.MovesTo d again)
    (state : State) {parent parent' : Option Node}
    (parents : Option.Rel (Node.MovesTo d) parent parent')
    (moves : survey.Moves d s findings other) :
    Option.Rel (fun first second => Matches d s findings (first node state parent survey)
      (second again state parent' other)) (role.handler query own)
      (role.handler (query.moved s) further) := by
  generalize known : node.kind = kind at serving
  cases serving with
  | prune => exact .some (alike_prune moves nodes query).matches
  | file unit =>
      exact .some (Walk.beside_mono (alike_openFile moves.toFollows nodes query)
        (fun _ _ _ _ _ here => here) fun _ _ _ _ here => ⟨here.1.retold, here.2⟩)
  | block => exact .some (alike_openBlock moves).matches
  | imports => exact .some (alike_takeImport moves nodes query).matches
  | constants => exact .some (matches_takeConstants moves nodes)
  | requires => exact .some (alike_takeRequire moves nodes query).matches
  | skips => exact .some (alike_skip moves).matches
  | @own kind free =>
      have answers :=
        alike kind node again state parent parent' survey other known nodes parents moves
      simp only [Role.handler]
      generalize own kind = a, further kind = b at answers
      cases answers with
      | none => exact .none
      | some here => exact .some here.matches
  | close opens => exact .some (matches_closeScope moves)
  | untagged | leave closed => exact .none

theorem beside_respond (alike : OwnAlike d s findings own further)
    (duties : (sameTree State d).Duties duty task) (moves : survey.Moves d s findings other) :
    Beside (fun action survey answer other => SameAction Eq action answer ∧
      survey.Moves d s findings other) (SameEnd d findings)
      ((visitor query own).respond duty survey)
      ((visitor (query.moved s) further).respond task other) := by
  obtain ⟨role, serving, serves⟩ := @serves State Finding duty.stage duty.task.node.kind
  have matched := matches_role query alike serving duties.node duty.task.state
    duties.parent moves
  simp only [Walk.Visitor.respond, duties.stage, serves query own duty.task.node rfl,
    serves (query.moved s) further task.task.node (Node.MovesTo.kind duties.node)]
  generalize role.handler query own = a, role.handler (query.moved s) further = b at matched
  cases matched with
  | none => exact .ok ⟨.keep, moves⟩
  | some answers =>
      rw [← duties.state]
      refine Walk.beside_call (fun _ _ moves => ⟨.aborted, moves.toFollows⟩) ?_
      exact Walk.beside_mono answers (fun _ _ _ _ _ here => here)
        fun _ _ _ _ here => ⟨.faulted here.1, here.2⟩

theorem beside_duty (own further : Kind → Option (Handler State Finding))
    {worlds : Survey Finding → Survey Finding → Prop}
    (duties : (sameTree State d).Duties duty task)
    (follows : survey.Follows d findings other)
    (weaker : ∀ survey other, worlds survey other → survey.Follows d findings other)
    (answers : Beside (fun action survey answer other => SameAction Eq action answer ∧
      worlds survey other) (SameEnd d findings) ((visitor query own).respond duty survey)
      ((visitor (query.moved s) further).respond task other)) :
    Beside (fun found survey others other => List.Forall₂ (sameTree State d).Duties found others ∧
      worlds survey other) (SameEnd d findings) ((visitor query own).perform duty survey)
      ((visitor (query.moved s) further).perform task other) := by
  refine Walk.beside_perform (d := d) (fun _ _ nodes => nodes)
    (fun _ _ nodes ignore => Walk.agree_children nodes ignore) duties ?_ follows.cancelled
    ⟨.cancelled, follows⟩ (fun _ _ _ _ reworded moves =>
      ⟨.faulted reworded.retold, weaker _ _ moves⟩)
    answers
  rw [looks_eq, looks_eq, duties.stage, Node.MovesTo.kind duties.node]

def Unopened (duty : Duty State) : Prop :=
  duty.stage ≠ .leave ∧ duty.task.node.kind.any isUnit = true

structure Together (d s : Int) (findings : Finding → Finding → Prop) (agenda : List (Duty State))
    (survey : Survey Finding) (tasks : List (Duty State)) (other : Survey Finding) : Prop where
  duties : List.Forall₂ (sameTree State d).Duties agenda tasks
  follows : survey.Follows d findings other
  opened : survey.Moves d s findings other ∨ ∀ duty ∈ agenda, Unopened duty

theorem beside_unopened (duties : (sameTree State d).Duties duty task)
    (follows : survey.Follows d findings other) (unopened : Unopened duty) :
    Beside (Together d s findings) (SameEnd d findings) ((visitor query own).perform duty survey)
      ((visitor (query.moved s) further).perform task other) := by
  obtain ⟨early, unit⟩ := unopened
  have same : task.task.node.kind.any isUnit = true := by
    rw [Node.MovesTo.kind duties.node]
    exact unit
  cases stage : duty.stage with
  | leave => exact absurd stage early
  | wildcard =>
      have keeps {query : Query} {own : Kind → Option (Handler State Finding)} {duty : Duty State}
          {survey : Survey Finding} (early : duty.stage = .wildcard)
          (unit : duty.task.node.kind.any isUnit = true) :
          (visitor query own).respond duty survey = .ok .keep survey := by
        simp only [Walk.Visitor.respond, early, Walk.Visitor.handler, visitor, Walk.call,
          prune_unit unit]
      have answers :=
        beside_duty query own further (s := s) duties follows (fun _ _ here => here) (by
          rw [keeps stage unit, keeps (duties.stage.trans stage) same]
          exact .ok ⟨.keep, follows⟩)
      refine Walk.beside_mono answers (fun found survey others other run here =>
        ⟨here.1, here.2, .inr ?_⟩) fun _ _ _ _ here => here
      -- The node is the same, and now it is entered.
      obtain ⟨-, action, -, next⟩ := Walk.perform_ok run
      cases Walk.next_ok next with
      | nothing => simp
      | enter _ applied => simpa using ⟨by simp, unit⟩
      | skip entering | below entering => simp [stage] at entering
  | enter =>
      have answers := beside_duty query own further (s := s) duties follows
        (fun _ _ (here : Survey.Moves d s findings _ _) => here.toFollows) (by
          simp only [Walk.Visitor.respond, duties.stage, stage, handler_unit unit,
            handler_unit same]
          refine Walk.beside_call (fun _ _ moves => ⟨.aborted, moves.toFollows⟩) ?_
          rw [← duties.state]
          exact Walk.beside_mono (alike_openFile (s := s) follows duties.node query)
            (fun _ _ _ _ _ here => here) fun _ _ _ _ here => ⟨.faulted here.1.retold, here.2⟩)
      exact Walk.beside_mono answers (fun _ _ _ _ _ here => ⟨here.1, here.2.toFollows, .inl here.2⟩)
        fun _ _ _ _ here => here

theorem together_step (alike : OwnAlike d s findings own further) {rest tasks : List (Duty State)}
    (together : Together d s findings (duty :: rest) survey tasks other) :
    ∃ task more, tasks = task :: more ∧
      Beside (fun found survey others other =>
        Together d s findings (found ++ rest) survey (others ++ more) other) (SameEnd d findings)
        ((visitor query own).perform duty survey)
        ((visitor (query.moved s) further).perform task other) := by
  obtain ⟨duties, follows, opened⟩ := together
  cases duties with
  | @cons _ task _ more first later =>
      refine ⟨task, more, rfl, ?_⟩
      rcases opened with moves | unopened
      · refine Walk.beside_mono (beside_duty query own further first follows
          (fun _ _ here => here.toFollows) (beside_respond query alike first moves))
          (fun found _ others _ _ here => ?_) fun _ _ _ _ here => here
        exact ⟨List.rel_append here.1 later, here.2.toFollows, .inl here.2⟩
      · refine Walk.beside_mono (beside_unopened query first follows (unopened duty (by simp)))
          (fun found _ others _ _ here => ?_) fun _ _ _ _ here => here
        refine ⟨List.rel_append here.duties later, here.follows,
          here.opened.imp_right fun early duty member => ?_⟩
        rcases List.mem_append.mp member with new | old
        · exact early duty new
        · exact unopened duty (by simp [old])

/-- Both surveys answer, or both fail with faults of one family. -/
inductive SameOutcome (d : Int) (findings : Finding → Finding → Prop) :
    Except Fault (Option Finding) → Except Fault (Option Finding) → Prop where
  | ok {found late : Option Finding} (related : Option.Rel findings found late) :
      SameOutcome d findings (.ok found) (.ok late)
  | fault {fault late : Fault} (retold : Retold d fault late) :
      SameOutcome d findings (.error fault) (.error late)

theorem run_moved (alike : OwnAlike d s findings own further) {root again : Node}
    (nodes : root.MovesTo d again) (unit : root.kind.any isUnit = true) (state : State)
    (cancelled : Bool) :
    SameOutcome d findings (run query own state cancelled root).outcome
      (run (query.moved s) further state cancelled again).outcome := by
  have tagged : root.kind.isSome := by
    cases kind : root.kind <;> simp_all
  obtain ⟨_, ending, recorded, ends⟩ :=
    Walk.walk_recorded (visitor query own) tagged state { cancelled }
  obtain ⟨_, late, other, halts⟩ := Walk.walk_recorded (visitor (query.moved s) further)
    (nodes.kind ▸ tagged : again.kind.isSome) state { cancelled }
  have start : Together d s findings [.arrive (Walk.rootTask root state)] { cancelled }
      [.arrive (Walk.rootTask again state)] { cancelled } := by
    refine ⟨.cons ⟨rfl, rfl, nodes, rfl, .none⟩ .nil, ⟨rfl, .none, rfl⟩, .inr ?_⟩
    simpa [Unopened, Walk.Duty.arrive, Walk.rootTask] using unit
  have done (survey : Survey Finding) (tasks : List (Duty State)) (other : Survey Finding)
      (together : Together d s findings [] survey tasks other) :
      tasks = [] ∧ survey.Follows d findings other :=
    ⟨List.forall₂_nil_left_iff.mp together.duties, together.follows⟩
  obtain ⟨_, result, runs, beside⟩ := recorded.simulated
    (fun _ _ _ _ _ together => .inr (together_step query alike together)) done start
  obtain ⟨-, rfl⟩ := runs.unique other
  have found {survey other : Survey Finding} (follows : survey.Follows d findings other) :
      Option.Rel findings (if survey.cancelled then none else survey.found)
        (if other.cancelled then none else other.found) := by
    rw [follows.cancelled]
    split
    · exact .none
    · exact follows.found
  simp only [run, ends, halts]
  cases beside with
  | ok follows => exact .ok (found follows)
  | error here =>
      obtain ⟨same, follows⟩ := here
      cases same with
      | aborted | cancelled => exact .ok (found follows)
      | faulted retold => exact .fault retold

theorem runData_moved (alike : OwnAlike d s findings own further) {tree : Data}
    (file : isFile tree = true) (fit : tree.Each (Movable d)) (state : State) (cancelled : Bool) :
    SameOutcome d findings (runData query own state cancelled tree).outcome
      (runData (query.moved s) further state cancelled (tree.moved d)).outcome := by
  cases tree with
  | map entries =>
      have opened := agree_ofEntries fit
      simp only [isFile, Node.ofData] at file
      simp only [runData, Data.moved, Node.ofData]
      generalize Node.ofEntries entries = a, Node.ofEntries (movedFields d entries) =
        b at opened file
      cases opened with
      | ok nodes => exact run_moved query alike nodes file state cancelled
      | fault reworded => exact .fault reworded.retold
  | _ => cases file

/-- Answers that correspond by a function are the same up to it, and faults up to their words. -/
theorem family_of_sameOutcome {f : Finding → Finding}
    (gives : ∀ found late, findings found late → late = f found)
    {first second : Except Fault (Option Finding)} (same : SameOutcome d findings first second) :
    second.mapError Fault.family = (first.map (Option.map f)).mapError Fault.family := by
  cases same with
  | fault retold => simp only [Except.map, Except.mapError, retold.family]
  | ok related =>
      cases related with
      | none => rfl
      | some here => rw [gives _ _ here]; rfl

theorem eq_of_sameOutcome {f : Finding → Finding}
    (gives : ∀ found late, findings found late → late = f found)
    {first second : Except Fault (Option Finding)} (same : SameOutcome 0 findings first second) :
    second = first.map (Option.map f) := by
  cases same with
  | fault retold => rw [retold.same rfl]; rfl
  | ok related =>
      cases related with
      | none => rfl
      | some here => rw [gives _ _ here]; rfl

end Survey

end Surveys

section Answers

open Survey (SameOutcome)

variable {d s : Int} (query : Query)

theorem Hover.Moves.eq {hover late : Hover} (moves : hover.Moves d s late) :
    late = { hover with span := hover.span.shifted s, value := hover.value.moved d } := by
  obtain ⟨css, span, value⟩ := moves
  rw [← css, ← span, ← value]

theorem Completion.Moves.eq {found late : Completion} (moves : found.Moves s late) :
    late = { found with span := found.span.shifted s } := by
  obtain ⟨property, value, span⟩ := moves
  rw [← property, ← value, ← span]

variable {tree : Data} (file : Survey.isFile tree = true) (fit : tree.Each (Movable d))
  (cancelled : Bool)

include file fit

theorem Hover.find_moved :
    SameOutcome d (Hover.Moves d s) (find query cancelled tree).outcome
      (find (query.moved s) cancelled (tree.moved d)).outcome := by
  unfold find
  rw [show (query.moved s).settings = query.settings from rfl]
  split
  · exact Survey.runData_moved query (Hover.ownAlike query) file fit {} cancelled
  · exact .ok .none

theorem Completion.find_moved :
    SameOutcome d (Completion.Moves s) (find query cancelled tree).outcome
      (find (query.moved s) cancelled (tree.moved d)).outcome := by
  unfold find
  rw [show (query.moved s).settings = query.settings from rfl]
  split
  · exact Survey.runData_moved query (Completion.ownAlike query) file fit {} cancelled
  · exact .ok .none

end Answers

/-- Where a file stands makes no difference. In a tree that is moved as a whole, completions are the
same, and hovers are the same but for the spans inside their values. Counting offsets from elsewhere
moves the span of an answer. -/
theorem answers_of_moved_tree {tree : Data} (file : Survey.isFile tree = true) (settings : Settings)
    (cursor startOffset : Int) (cancelled : Bool) :
    (∀ d, tree.all (fitsMove d) = true →
      (Completion.find ⟨cursor, settings, startOffset⟩ cancelled (tree.moved d)).outcome.mapError
          Fault.family =
        (Completion.find ⟨cursor, settings, startOffset⟩ cancelled tree).outcome.mapError
          Fault.family ∧
      (Hover.find ⟨cursor, settings, startOffset⟩ cancelled (tree.moved d)).outcome.mapError
          Fault.family =
        ((Hover.find ⟨cursor, settings, startOffset⟩ cancelled tree).outcome.map
          (Option.map fun hover =>
          { hover with value := hover.value.moved d })).mapError Fault.family) ∧
    (Completion.find ⟨cursor, settings, startOffset⟩ cancelled tree).outcome =
      (Completion.find ⟨cursor - startOffset, settings, 0⟩ cancelled tree).outcome.map
        (Option.map fun found => { found with span := found.span.shifted startOffset }) ∧
    (Hover.find ⟨cursor, settings, startOffset⟩ cancelled tree).outcome =
      (Hover.find ⟨cursor - startOffset, settings, 0⟩ cancelled tree).outcome.map
        (Option.map fun hover => { hover with span := hover.span.shifted startOffset }) := by
  have still : Query.moved 0 ⟨cursor, settings, startOffset⟩ = ⟨cursor, settings, startOffset⟩ := by
    simp [Query.moved]
  have counted : Query.moved startOffset ⟨cursor - startOffset, settings, 0⟩ =
      ⟨cursor, settings, startOffset⟩ := by
    simp [Query.moved]
  refine ⟨fun d fits => ?_, ?_, ?_⟩
  · have fit : tree.Each (Movable d) := each_of_all movable_of_fitsMove tree fits
    have completed :=
      Completion.find_moved (s := 0) ⟨cursor, settings, startOffset⟩ file fit cancelled
    have hovered := Hover.find_moved (s := 0) ⟨cursor, settings, startOffset⟩ file fit cancelled
    rw [still] at completed hovered
    have same := Survey.family_of_sameOutcome (fun _ _ moves => Completion.Moves.eq moves) completed
    have alike := Survey.family_of_sameOutcome (fun _ _ moves => Hover.Moves.eq moves) hovered
    simp only [Span.shifted_zero] at same alike
    refine ⟨?_, alike⟩
    rw [same]
    generalize (Completion.find ⟨cursor, settings, startOffset⟩ cancelled tree).outcome = outcome
    rcases outcome with fault | _ | found <;> rfl
  · have completed :=
      Completion.find_moved (s := startOffset) ⟨cursor - startOffset, settings, 0⟩ file
      (each_movable_zero tree) cancelled
    rw [counted, moved_zero] at completed
    exact Survey.eq_of_sameOutcome (fun _ _ moves => Completion.Moves.eq moves) completed
  · have hovered := Hover.find_moved (s := startOffset) ⟨cursor - startOffset, settings, 0⟩ file
      (each_movable_zero tree) cancelled
    rw [counted, moved_zero] at hovered
    have same := Survey.eq_of_sameOutcome (fun _ _ moves => Hover.Moves.eq moves) hovered
    simpa only [Result.moved_zero] using same

section Names

/-- A name of text stays, and so does the style. -/
theorem hover_of_named_theme_moved :
    Survey.isFile (themeNamed (.text "x") 0) = true ∧
      (themeNamed (.text "x") 0).all (fitsMove 7) = true ∧
      (Hover.find ⟨32, {}, 2⟩ false ((themeNamed (.text "x") 0).moved 7)).outcome.mapError
        Fault.family =
        ((Hover.find ⟨32, {}, 2⟩ false (themeNamed (.text "x") 0)).outcome.map
          (Option.map fun hover =>
          { hover with value := hover.value.moved 7 })).mapError Fault.family ∧
      (Hover.find ⟨32, {}, 2⟩ false (themeNamed (.text "x") 0)).outcome =
        (Hover.find ⟨30, {}, 0⟩ false (themeNamed (.text "x") 0)).outcome.map
          (Option.map fun hover => { hover with span := hover.span.shifted 2 }) :=
  have answers :=
    answers_of_moved_tree (show Survey.isFile (themeNamed (.text "x") 0) = true from rfl)
    {} 32 2 false
  ⟨rfl, rfl, (answers.1 7 rfl).2, answers.2.2⟩

/-- The style of a theme that is named by a node is another one after the tree has been moved. -/
theorem hover_moves_with_name :
    Survey.isFile (nodeNamed 0) = true ∧
      (nodeNamed 0).all (fun entries => Walk.hasWholeSpan entries && hasRoom 1 entries) = true ∧
      (Hover.find ⟨32, {}, 0⟩ false ((nodeNamed 0).moved 1)).outcome.map (Option.map Hover.css) ≠
        (Hover.find ⟨32, {}, 0⟩ false (nodeNamed 0)).outcome.map (Option.map Hover.css) := by
  refine ⟨rfl, rfl, ?_⟩
  rw [show (nodeNamed 0).moved 1 = nodeNamed 1 from rfl, hover_nodeNamed (.inl rfl),
    hover_nodeNamed (.inr rfl)]
  simp only [Except.map, Option.map_some, ne_eq, Except.ok.injEq, Option.some.injEq]
  decide

end Names

end StyleFold
