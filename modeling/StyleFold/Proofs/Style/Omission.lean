import StyleFold.Proofs.Style.Conduct
import StyleFold.Proofs.Walk.Omission
import StyleFold.Proofs.Walk.Pair
import StyleFold.Proofs.Walk.Shift

/-!
What a file says away from the cursor. Statements that bring no names into scope are passed by
unless the cursor is in them. Main statement: such a statement can be taken out of its file,
whatever it holds, and no search answers differently, as long as the next child of the file has a
span of its own to be sorted by.
-/

namespace StyleFold

open Walk (Duty Beside SameAction Likeness)

namespace Survey

variable {State Finding : Type}

section Equal

/-- The same node without a file in it. As a parent, the file itself may have been changed. -/
def sameParts (State : Type) : Likeness State State where
  nodes node other := other = node ∧ Partial node
  parents node other := other = node ∨
    (node.isKind .variableDeclarator = false ∧ other.isKind .variableDeclarator = false)
  states := Eq

def Deaf (own : Kind → Option (Handler State Finding)) : Prop :=
  ∀ kind handler, own kind = some handler → ∀ node state parent parent' survey,
    Option.Rel (sameParts State).parents parent parent' →
    handler node state parent survey = handler node state parent' survey

theorem agree_parts_children {node : Node} (part : Partial node) (ignore : List String) :
    Agree 0 (List.Forall₂ (sameParts State).nodes) (Walk.children node ignore)
      (Walk.children node ignore) := by
  refine agree_mono (Walk.agree_children (Node.movesTo_zero part.opened) ignore)
    fun found others first second _ => ?_
  rw [first] at second
  cases second
  rw [Walk.children_ok first, List.forall₂_same]
  intro child member
  obtain ⟨seat, present, rfl⟩ := List.mem_map.mp member
  exact ⟨rfl, part.child (Walk.mem_seatsLeft.mp present).1⟩

variable {query : Query} {own : Kind → Option (Handler State Finding)} {duty task : Duty State}

theorem role_deaf (deaf : Deaf own) {role : Role} {handler : Handler State Finding}
    (named : role.handler query own = some handler) {node : Node} {state : State}
    {parent parent' : Option Node} (parents : Option.Rel (sameParts State).parents parent parent')
    (survey : Survey Finding) :
    handler node state parent survey = handler node state parent' survey := by
  cases role with
  | own kind => exact deaf kind handler named node state parent parent' survey parents
  | _ =>
      cases named
      try rfl

theorem respond_deaf (deaf : Deaf own) (duties : (sameParts State).Duties duty task)
    (survey : Survey Finding) :
    (visitor query own).respond task survey = (visitor query own).respond duty survey := by
  obtain ⟨_, ⟨address, _, state, parent⟩, ignore⟩ := duty
  obtain ⟨stage, ⟨address', node, _, parent'⟩, ignore'⟩ := task
  obtain ⟨same, _, ⟨nodes, _⟩, states, parents⟩ := duties
  dsimp only at same nodes states parents
  subst same nodes states
  obtain ⟨role, _, serves⟩ := @serves State Finding stage node.kind
  simp only [Walk.Visitor.respond, serves query own node rfl]
  cases named : role.handler query own with
  | none => rfl
  | some handler => simp only [Walk.call, role_deaf deaf named parents]

end Equal

section Taking

variable {query : Query} {own : Kind → Option (Handler State Finding)} {duty task : Duty State}
  {gone : Node} {origin : Int} {survey : Survey Finding}

/-- A node that is passed by when offsets start at an origin. -/
structure Remote (query : Query) (origin : Int) (gone : Node) : Prop where
  kind : gone.kind.any isAlwaysEntered = false
  far : ∃ span, gone.span = some span ∧ (span.shifted (-origin)).contains query.cursor = false

/-- The agenda of a file and that of the file without a node. -/
inductive Skims (gone : Node) : List (Duty State) → List (Duty State) → Prop where
  | nil : Skims gone [] []
  | both {duty task : Duty State} {rest tasks : List (Duty State)}
      (duties : (sameParts State).Duties duty task) (later : Skims gone rest tasks) :
      Skims gone (duty :: rest) (task :: tasks)
  | leave {duty task : Duty State} {rest tasks : List (Duty State)} (first : duty.stage = .leave)
      (second : task.stage = .leave) (kind : task.task.node.kind = duty.task.node.kind)
      (later : Skims gone rest tasks) : Skims gone (duty :: rest) (task :: tasks)
  | gone {duty : Duty State} {rest tasks : List (Duty State)} (early : duty.stage = .wildcard)
      (here : duty.task.node = gone) (later : Skims gone rest tasks) :
      Skims gone (duty :: rest) tasks

theorem skims_append {found others rest tasks : List (Duty State)}
    (each : List.Forall₂ (sameParts State).Duties found others) (later : Skims gone rest tasks) :
    Skims gone (found ++ rest) (others ++ tasks) := by
  induction each with
  | nil => exact later
  | cons first _ ih => exact .both first ih

/-- After the file has been opened: nothing but the agendas differs. -/
structure Settled (origin : Int) (survey other : Survey Finding) : Prop where
  same : other = survey
  origin : survey.origin = origin
  running : survey.cancelled = false

def SameFate (stop : Walk.Stop) (survey : Survey Finding) (halt : Walk.Stop)
    (other : Survey Finding) :
    Prop := halt = stop ∧ other = survey

theorem perform_remote (remote : Remote query origin gone) (settled : Settled origin survey survey)
    (early : duty.stage = .wildcard) (here : duty.task.node = gone) :
    (visitor query own).perform duty survey = .ok [] survey := by
  obtain ⟨stage, ⟨address, node, state, parent⟩, ignore⟩ := duty
  dsimp only at early here
  subst early here
  obtain ⟨span, spanned, far⟩ := remote.far
  have away : survey.isNear query node = false := by
    have kind : (node.kind.map isAlwaysEntered).getD false = false := by
      have closed := remote.kind
      cases tagged : node.kind <;> simp_all
    simp only [isNear, spanned, kind, relative, settled.origin, far, Bool.or_self]
  have run : (prune query node state parent survey : EStateM.Result _ _ (Walk.Action State)) =
      .ok (if survey.isNear query node then .keep else .skipChildren) survey := rfl
  have running : (visitor query own).cancelled survey = false := settled.running
  rw [Walk.perform_eq, running, Bool.and_false]
  simp only [Bool.false_eq_true, if_false, Walk.Visitor.respond, Walk.Visitor.handler,
    visitor, Walk.call, run, away]
  rfl

theorem beside_both (discreet : Discreet own) (deaf : Deaf own)
    (duties : (sameParts State).Duties duty task) (settled : Settled origin survey survey) :
    Beside (fun found survey others other => List.Forall₂ (sameParts State).Duties found others ∧
      Settled origin survey other) SameFate ((visitor query own).perform duty survey)
      ((visitor query own).perform task survey) := by
  refine Walk.beside_perform (d := 0) (fun _ _ (nodes : (sameParts State).nodes _ _) =>
    Or.inl nodes.1)
    (fun node other nodes ignore => ?_) duties ?_ rfl ⟨rfl, rfl⟩
    (fun fault late survey other reworded settled => ?_) ?_
  · obtain ⟨rfl, part⟩ := nodes
    exact agree_parts_children part ignore
  · rw [looks_eq, looks_eq, duties.stage, duties.node.1]
  · exact ⟨by rw [reworded.same rfl], settled.same⟩
  · rw [respond_deaf deaf duties]
    cases answered : (visitor query own).respond duty survey with
    | error stop later => exact .error ⟨rfl, rfl⟩
    | ok action later =>
        obtain ⟨stays, runs⟩ := anchored discreet answered fun _ => duties.node.2.kind
        exact .ok ⟨.refl action, rfl, stays.trans settled.origin, runs.trans settled.running⟩

theorem perform_leave (first : duty.stage = .leave) (second : task.stage = .leave)
    (kind : task.task.node.kind = duty.task.node.kind) (survey : Survey Finding) :
    (visitor query own).perform task survey = (visitor query own).perform duty survey := by
  have same : (visitor query own).respond task survey =
      (visitor query own).respond duty survey := by
    obtain ⟨role, serving, serves⟩ := @serves State Finding .leave duty.task.node.kind
    simp only [Walk.Visitor.respond, first, second, serves query own duty.task.node rfl,
      serves query own task.task.node kind]
    generalize duty.task.node.kind = tag at serving
    cases serving <;> rfl
  have ends (duty : Duty State) (last : duty.stage = .leave) (action : Walk.Action State) :
      duty.next action = .ok [] := by
    obtain ⟨stage, _, _⟩ := duty
    cases last
    rfl
  rw [Walk.perform_eq, Walk.perform_eq, looks_eq, looks_eq, same, first, second, kind]
  cases (visitor query own).respond duty survey with
  | error stop later => rfl
  | ok action later => simp only [ends duty first, ends task second]

theorem skims_step (discreet : Discreet own) (deaf : Deaf own) (remote : Remote query origin gone)
    {rest tasks : List (Duty State)} (skims : Skims gone (duty :: rest) tasks)
    {other : Survey Finding} (settled : Settled origin survey other) :
    (∃ later, (visitor query own).perform duty survey = .ok [] later ∧ Skims gone rest tasks ∧
      Settled origin later other) ∨
    ∃ task more, tasks = task :: more ∧
      Beside (fun found survey others other => Skims gone (found ++ rest) (others ++ more) ∧
        Settled origin survey other) SameFate ((visitor query own).perform duty survey)
        ((visitor query own).perform task other) := by
  obtain ⟨same, placed, running⟩ := settled
  subst other
  have settled : Settled origin survey survey := ⟨rfl, placed, running⟩
  cases skims with
  | gone early here later =>
      exact .inl ⟨survey, perform_remote remote settled early here, later, settled⟩
  | @both _ task _ more duties later =>
      refine .inr ⟨task, more, rfl, ?_⟩
      exact Walk.beside_mono (beside_both discreet deaf duties settled)
        (fun _ _ _ _ _ here => ⟨skims_append here.1 later, here.2⟩) fun _ _ _ _ here => here
  -- The two files differ as nodes, but leaving them only looks at their kind.
  | @leave _ task _ more first second kind later =>
      refine .inr ⟨task, more, rfl, ?_⟩
      rw [perform_leave first second kind]
      cases run : (visitor query own).perform duty survey with
      | error stop last => exact .error ⟨rfl, rfl⟩
      | ok found last =>
          obtain ⟨-, action, answered, next⟩ := Walk.perform_ok run
          obtain ⟨stays, runs⟩ := anchored discreet answered (by simp [first])
          cases Walk.next_ok next with
          | nothing =>
              exact .ok ⟨later, rfl, stays.trans placed, runs.trans running⟩
          | enter early => simp [first] at early
          | skip entering | below entering => simp [first] at entering

/-- A file and the same file without one of its statements. -/
structure Trimmed (root again gone : Node) : Prop where
  unit : root.kind.any isUnit = true
  kind : again.kind = root.kind
  span : again.span = root.span
  lacks : Walk.Lacks gone (Walk.gatherFields root.entries) (Walk.gatherFields again.entries)
  parts : EachField (isPart · = true) root.entries

variable {root again : Node}

theorem not_declarator_of_unit {node : Node} (unit : node.kind.any isUnit = true) :
    node.isKind .variableDeclarator = false := by
  cases tagged : node.kind with
  | none => simp [tagged] at unit
  | some kind =>
      rw [tagged] at unit
      rw [Node.isKind, tagged]
      cases kind <;> first | rfl | cases unit

theorem trimmed_children (trimmed : Trimmed root again gone) :
    (∃ fault, Walk.children root [] = .error fault ∧ Walk.children again [] = .error fault) ∨
    ∃ front back, Walk.children root [] = .ok (front ++ gone :: back) ∧
      Walk.children again [] = .ok (front ++ back) ∧ ∀ node ∈ front ++ back, Partial node := by
  have whole := Walk.children_gather root
  have less := Walk.children_gather again
  have lacks := trimmed.lacks
  generalize Walk.gatherFields root.entries = a, Walk.gatherFields again.entries =
    b at whole less lacks
  cases lacks with
  | fault fault => exact .inl ⟨fault, whole, less⟩
  | @one before after headed =>
      have seated (node : Node) (member : node ∈ before ++ gone :: after) :
          ∃ seat ∈ Walk.seatsLeft root [], seat.node = node := by
        have found := Walk.children_ok whole
        have here : node ∈ (Walk.seatsLeft root []).map Walk.Seat.node :=
          found ▸ Walk.mem_inOrder.mpr member
        simpa using List.mem_map.mp here
      obtain ⟨front, back, first, second⟩ := Walk.inOrder_without gone before headed
      refine .inr ⟨front, back, ?_, ?_, ?_⟩
      · rw [whole, Except.map, first]
      · rw [less, Except.map, second]
      · intro node member
        have inside : node ∈ before ++ gone :: after := by
          rw [← second, Walk.mem_inOrder] at member
          simp only [List.mem_append, List.mem_cons] at member ⊢
          tauto
        obtain ⟨seat, present, rfl⟩ := seated node inside
        have child := (Walk.mem_seatsLeft.mp present).1
        exact ⟨Walk.opened_child child, Walk.each_child child trimmed.parts⟩

theorem skims_below (trimmed : Trimmed root again gone) (state : State)
    {found others : List Walk.Seat} {front back : List Node}
    (first : found.map Walk.Seat.node = front ++ gone :: back)
    (second : others.map Walk.Seat.node = front ++ back)
    (parts : ∀ node ∈ front ++ back, Partial node) :
    Skims gone (Walk.Task.below (Walk.rootTask root state) found)
      (Walk.Task.below (Walk.rootTask again state) others) := by
  have parents : Option.Rel (sameParts State).parents (some root) (some again) := by
    refine .some (.inr ⟨not_declarator_of_unit trimmed.unit, not_declarator_of_unit ?_⟩)
    rw [trimmed.kind]
    exact trimmed.unit
  have arrives {seat other : Walk.Seat} (same : other.node = seat.node) (part : Partial seat.node) :
      (sameParts State).Duties (.arrive ((Walk.rootTask root state).child seat))
        (.arrive ((Walk.rootTask again state).child other)) :=
    ⟨rfl, rfl, ⟨same, part⟩, rfl, parents⟩
  have last : Skims gone [Duty.leave (Walk.rootTask root state)] [.leave
      (Walk.rootTask again state)] :=
    .leave rfl rfl trimmed.kind .nil
  -- The lists run together before the node that is gone and again after it.
  have after {found others : List Walk.Seat} (same : others.map Walk.Seat.node =
      found.map Walk.Seat.node)
      (parts : ∀ seat ∈ found, Partial seat.node) :
      Skims gone (Walk.Task.below (Walk.rootTask root state) found)
        (Walk.Task.below (Walk.rootTask again state) others) := by
    induction found generalizing others with
    | nil =>
        simp only [List.map_nil, List.map_eq_nil_iff] at same
        subst same
        exact last
    | cons seat rest ih =>
        cases others with
        | nil => simp at same
        | cons other others =>
            simp only [List.map_cons, List.cons.injEq] at same
            exact .both (arrives same.1 (parts seat List.mem_cons_self))
              (ih same.2 fun seat member => parts seat (List.mem_cons_of_mem _ member))
  -- On the children before the statement that is gone.
  induction front generalizing found others with
  | nil =>
      cases found with
      | nil => simp at first
      | cons seat rest =>
          simp only [List.map_cons, List.nil_append, List.cons.injEq] at first second
          refine .gone rfl first.1 (after (second.trans first.2.symm) fun seat member => ?_)
          exact parts seat.node (by simpa [← first.2] using ⟨seat, member, rfl⟩)
  | cons node nodes ih =>
      cases found with
      | nil => simp at first
      | cons seat rest =>
          cases others with
          | nil => simp at second
          | cons other others =>
              simp only [List.map_cons, List.cons_append, List.cons.injEq] at first second
              refine .both (arrives (second.1.trans first.1.symm) ?_) (ih first.2 second.2 ?_)
              · rw [first.1]
                exact parts node (by simp)
              · exact fun node member => parts node (by simp [List.mem_append.mp member])

inductive InStep (query : Query) (root again gone : Node) (state : State) :
    List (Duty State) → Survey Finding → List (Duty State) → Survey Finding → Prop where
  | arriving (survey : Survey Finding) : InStep query root again gone state
      [.arrive (Walk.rootTask root state)] survey [.arrive (Walk.rootTask again state)] survey
  | entering {survey : Survey Finding} (running : survey.cancelled = false) :
      InStep query root again gone state [⟨.enter, Walk.rootTask root state, []⟩] survey
        [⟨.enter, Walk.rootTask again state, []⟩] survey
  | inside {agenda tasks : List (Duty State)} {origin : Int} {survey other : Survey Finding}
      (skims : Skims gone agenda tasks) (remote : Remote query origin gone)
      (settled : Settled origin survey other) :
      InStep query root again gone state agenda survey tasks other

theorem inStep_step (discreet : Discreet own) (deaf : Deaf own) (trimmed : Trimmed root again gone)
    (remote : ∀ whole, root.span = some whole → Remote query (whole.start - query.startOffset) gone)
    {state : State} {rest tasks : List (Duty State)} {other : Survey Finding}
    (together : InStep query root again gone state (duty :: rest) survey tasks other) :
    (∃ later, (visitor query own).perform duty survey = .ok [] later ∧
      InStep query root again gone state rest later tasks other) ∨
    ∃ task more, tasks = task :: more ∧
      Beside (fun found survey others other =>
        InStep query root again gone state (found ++ rest) survey (others ++ more) other) SameFate
        ((visitor query own).perform duty survey) ((visitor query own).perform task other) := by
  have unit : again.kind.any isUnit = true := by
    rw [trimmed.kind]
    exact trimmed.unit
  generalize agenda : duty :: rest = duties at together
  cases together with
  | arriving =>
      cases agenda
      refine .inr ⟨_, [], rfl, ?_⟩
      rw [perform_arrive trimmed.unit, perform_arrive unit]
      cases running : survey.cancelled with
      | true => exact .error ⟨rfl, rfl⟩
      | false => exact .ok (.entering running)
  | entering running =>
      cases agenda
      refine .inr ⟨_, [], rfl, ?_⟩
      rw [perform_enter trimmed.unit, perform_enter unit, trimmed.span]
      cases spanned : root.span with
      | none => exact .error ⟨rfl, rfl⟩
      | some whole =>
          rcases trimmed_children trimmed with
              ⟨fault, first, second⟩ | ⟨front, back, first, second, parts⟩
          · simp only [first, second]
            exact .error ⟨rfl, rfl⟩
          · simp only [first, second]
            refine .ok (.inside ?_ (remote whole spanned) ⟨rfl, rfl, running⟩)
            simpa using skims_below trimmed state (Walk.children_ok first).symm
              (Walk.children_ok second).symm parts
  | inside skims here settled =>
      subst agenda
      rcases skims_step discreet deaf here skims settled with
        ⟨later, passed, onward, still⟩ | ⟨task, more, rfl, beside⟩
      · exact .inl ⟨later, passed, .inside onward here still⟩
      · exact .inr ⟨task, more, rfl, Walk.beside_mono beside
          (fun _ _ _ _ _ next => .inside next.1 here next.2) fun _ _ _ _ ended => ended⟩

theorem run_trimmed (discreet : Discreet own) (deaf : Deaf own) (trimmed : Trimmed root again gone)
    (remote : ∀ whole, root.span = some whole → Remote query (whole.start - query.startOffset) gone)
    (state : State) (cancelled : Bool) :
    run query own state cancelled again = run query own state cancelled root := by
  have tagged : root.kind.isSome := by
    have unit := trimmed.unit
    cases kind : root.kind <;> simp_all
  obtain ⟨_, ending, recorded, ends⟩ :=
    Walk.walk_recorded (visitor query own) tagged state { cancelled }
  obtain ⟨_, late, other, halts⟩ := Walk.walk_recorded (visitor query own)
    (trimmed.kind ▸ tagged : again.kind.isSome) state { cancelled }
  have done (survey : Survey Finding) (tasks : List (Duty State)) (other : Survey Finding)
      (together : InStep query root again gone state [] survey tasks other) :
      tasks = [] ∧ other = survey := by
    cases together with
    | inside skims _ settled =>
        cases skims
        exact ⟨rfl, settled.same⟩
  obtain ⟨_, result, runs, beside⟩ := recorded.simulated
    (fun _ _ _ _ _ together => inStep_step discreet deaf trimmed remote together) done (.arriving _)
  obtain ⟨-, rfl⟩ := runs.unique other
  have same : result = ending := by
    cases beside with
    | ok same => rw [same]
    | error fate => rw [fate.1, fate.2]
  rw [run, run, ends, halts, same]

theorem runData_trimmed (discreet : Discreet own) (deaf : Deaf own) {tree less : Data}
    (opened : Node.ofData tree = .ok root) (reopened : Node.ofData less = .ok again)
    (trimmed : Trimmed root again gone)
    (remote : ∀ whole, root.span = some whole → Remote query (whole.start - query.startOffset) gone)
    (state : State) (cancelled : Bool) :
    runData query own state cancelled less = runData query own state cancelled tree := by
  simp only [runData, opened, reopened]
  exact run_trimmed discreet deaf trimmed remote state cancelled

end Taking

section Bodies

/-- A file with its statements. -/
def fileOf (before after : Entries) (body : List Data) : Data :=
  .map (before ++ (.text "body", .list body) :: after)

theorem lookup?_fileOf {name : String} (free : Data.isKey name (.text "body") = false)
    (before after : Entries) (value other : Data) :
    Data.lookup? name (before ++ (.text "body", value) :: after) =
      Data.lookup? name (before ++ (.text "body", other) :: after) := by
  induction before with
  | nil => simp only [List.nil_append, Data.lookup?, free, Bool.false_eq_true, if_false]
  | cons entry rest ih => simp only [List.cons_append, Data.lookup?, ih]

variable {before after : Entries} {front back : List Data} {entries : Entries} {root gone : Node}

theorem trimmed_fileOf
    (sole : isSoleFile (fileOf before after (front ++ .map entries :: back)) = true)
    (opened : Node.ofData (fileOf before after (front ++ .map entries :: back)) = .ok root)
    (next : ∀ found, Walk.gatherAfter back after = .ok found → Walk.HeadPlaced found)
    (read : Node.ofEntries entries = .ok gone) (tagged : gone.kind.isSome) :
    ∃ again, Node.ofData (fileOf before after (front ++ back)) = .ok again ∧
    Trimmed root again gone := by
  have kind := (ofEntries_parts opened).1
  have span := (ofEntries_parts opened).2
  have content := Node.entries_of_ofEntries opened
  rw [lookup?_fileOf rfl before after _ (.list (front ++ back))] at kind span
  refine ⟨⟨root.kind, root.span, before ++ (.text "body", .list (front ++ back)) :: after⟩, ?_, ?_⟩
  · simp only [fileOf, Node.ofData, Node.ofEntries, kind, span]
    rfl
  · obtain ⟨unit, parts⟩ := parts_of_isSoleFile sole opened
    refine ⟨unit, rfl, rfl, ?_, parts⟩
    rw [content]
    exact Walk.lacks_gatherFields read tagged before after rfl front back next

end Bodies

end Survey

section Answers

theorem Hover.deaf (query : Query) : Survey.Deaf (handlers query) := by
  intro kind handler named node nesting parent parent' survey parents
  have same : callerOf? nesting parent = callerOf? nesting parent' := by
    cases parents with
    | none => rfl
    | some related =>
        rcases related with rfl | ⟨first, second⟩
        · rfl
        · simp only [callerOf?, first, second, Bool.false_eq_true, if_false]
  cases kind with
  | callExpression =>
      cases named
      simp only [onCall, same]
  | keyValueProperty =>
      cases named
      rfl
  | _ => cases named

theorem Completion.deaf (query : Query) : Survey.Deaf (handlers query) := by
  intro kind handler named node context parent parent' survey _
  cases kind with
  | callExpression | keyValueProperty | stringLiteral =>
      cases named
      rfl
  | _ => cases named

end Answers

open Survey (fileOf isAlwaysEntered) in
/-- A statement that brings no names into scope says nothing to a cursor outside of it: taken out of
its file, whatever it holds, it leaves every answer and every fault as they are. -/
theorem answers_without_statement {before after : Entries} {front back : List Data}
    {entries : Entries}
    {root statement : Node} {kind : Kind} {span : Span} (query : Query) (cancelled : Bool)
    (sole : Survey.isSoleFile (fileOf before after (front ++ .map entries :: back)) = true)
    (opened : Node.ofData (fileOf before after (front ++ .map entries :: back)) = .ok root)
    (next : ∀ found, Walk.gatherAfter back after = .ok found → Walk.HeadPlaced found)
    (read : Node.ofEntries entries = .ok statement) (tagged : statement.kind = some kind)
    (passive : isAlwaysEntered kind = false) (placed : statement.span = some span)
    (far : ∀ whole, root.span = some whole →
      (span.shifted (query.startOffset - whole.start)).contains query.cursor = false) :
    Hover.find query cancelled (fileOf before after (front ++ back)) =
        Hover.find query cancelled (fileOf before after (front ++ .map entries :: back)) ∧
      Completion.find query cancelled (fileOf before after (front ++ back)) =
        Completion.find query cancelled (fileOf before after (front ++ .map entries :: back)) := by
  obtain ⟨again, reopened, trimmed⟩ :=
    Survey.trimmed_fileOf sole opened next read (by simp [tagged])
  have remote (whole : Span) (here : root.span = some whole) :
      Survey.Remote query (whole.start - query.startOffset) statement := by
    refine ⟨by simpa [tagged] using passive, span, placed, ?_⟩
    rw [Int.neg_sub]
    exact far whole here
  simp only [Hover.find, Completion.find,
    Survey.runData_trimmed (Hover.discreet query) (Hover.deaf query) opened reopened trimmed remote,
    Survey.runData_trimmed (Completion.discreet query) (Completion.deaf query) opened
      reopened trimmed remote,
    and_self]

section Placeless

open Survey (fileOf written)

/-- A text that calls what it imports. -/
def stylingFile (imported : Data) (body : List Data) : Data :=
  fileOf
    [(.text "type", .text "Module"),
      (.text "span", .map [(.text "start", .int 0), (.text "end", .int 200)])]
    [(.text "imported", imported),
     (.text "called", written "CallExpression" 10 60 [
       ("callee", written "Identifier" 11 17 [("value", .text "create")]),
       ("style", written "StringLiteral" 30 35 [("value", .text "red")])])] body

/-- An import of a function of the library, with what else is said about it. -/
def createImport (more : Entries) : Data :=
  .map ((.text "type", .text "ImportDeclaration") :: more ++
    [(.text "specifiers", .list [written "ImportSpecifier" 1 2 [
       ("local", written "Identifier" 1 2 [("value", .text "create")])]]),
     (.text "source", written "StringLiteral" 3 4 [("value", .text "@stylexjs/stylex")])])

/-- A statement that does nothing, at the end of the text. -/
def idle : Entries :=
  [(.text "type", .text "EmptyStatement"),
   (.text "span", .map [(.text "start", .int 150), (.text "end", .int 151)])]

/-- An import that has a place is taken before the call, with the statement and without it. -/
theorem answers_without_idle :
    Completion.find ⟨32, {}, 0⟩ false (stylingFile
        (createImport [(.text "span", .map [(.text "start", .int 0), (.text "end", .int 5)])]) []) =
      Completion.find ⟨32, {}, 0⟩ false (stylingFile
        (createImport [(.text "span", .map [(.text "start", .int 0), (.text "end", .int 5)])])
        [.map idle]) := by
  refine (@answers_without_statement _ _ [] [] _ _ _ _ _ ⟨32, {},
    0⟩ false rfl rfl ?_ rfl rfl rfl rfl ?_).2
  · rintro found ⟨⟩ child ⟨⟩
    rfl
  · rintro whole ⟨⟩
    decide

theorem completion_with_idle :
    (Completion.find ⟨32, {}, 0⟩ false (stylingFile (createImport []) [.map idle])).outcome =
      .ok none := by
  have opened : Node.ofData (stylingFile (createImport []) [.map idle]) =
      .ok ⟨some .moduleUnit, some ⟨0, 200⟩, _⟩ := rfl
  refine Survey.outcome_of_reaches opened rfl ?_
  refine Walk.reaches_next rfl rfl rfl ?_
  refine Walk.reaches_children rfl rfl (by simp) rfl rfl
    (Walk.seatsLeft_three rfl rfl (show (10 : Int) < 150 by decide)) ?_
  -- The call, which is not known yet, and the text in it.
  refine Walk.reaches_next rfl rfl rfl ?_
  refine Walk.reaches_children rfl rfl (by simp) rfl rfl (Walk.seatsLeft_sorted rfl (by decide)) ?_
  refine Walk.reaches_next rfl rfl rfl ?_
  refine Walk.reaches_next rfl rfl rfl ?_
  refine Walk.reaches_children rfl rfl (by simp) rfl rfl (Walk.seatsLeft_sorted rfl (by decide)) ?_
  refine Walk.reaches_next rfl rfl rfl ?_
  refine Walk.reaches_next rfl rfl rfl ?_
  -- The statement, the import and the end of the file.
  refine Walk.reaches_next rfl rfl rfl ?_
  refine Walk.reaches_next rfl rfl rfl ?_
  refine Walk.reaches_next rfl rfl rfl ?_
  refine Walk.reaches_next rfl rfl rfl ?_
  refine Walk.reaches_next rfl rfl rfl ?_
  exact ⟨_, _, .done _, ⟨_, _, rfl, rfl, rfl⟩⟩

theorem completion_without_idle :
    (Completion.find ⟨32, {}, 0⟩ false (stylingFile (createImport []) [])).outcome =
      .ok (some ⟨"--custom", .text "red", ⟨30, 35⟩⟩) := by
  have opened : Node.ofData (stylingFile (createImport []) []) =
      .ok ⟨some .moduleUnit, some ⟨0, 200⟩, _⟩ := rfl
  refine Survey.outcome_of_reaches opened rfl ?_
  refine Walk.reaches_next rfl rfl rfl ?_
  refine Walk.reaches_children rfl rfl (by simp) rfl rfl (Walk.seatsLeft_sorted rfl (by decide)) ?_
  refine Walk.reaches_next rfl rfl rfl ?_
  refine Walk.reaches_next rfl rfl rfl ?_
  refine Walk.reaches_next rfl rfl rfl ?_
  refine Walk.reaches_next rfl rfl rfl ?_
  refine Walk.reaches_children rfl rfl (by simp) rfl rfl (Walk.seatsLeft_sorted rfl (by decide)) ?_
  refine Walk.reaches_next rfl rfl rfl ?_
  refine Walk.reaches_next rfl rfl rfl ?_
  exact Walk.reaches_abort rfl rfl (Completion.onString_found rfl rfl (by decide) rfl rfl)
    ⟨_, _, rfl, rfl, rfl⟩

/-- A statement away from the cursor holds up the import that has no place of its own. -/
theorem completion_depends_on_idle :
    Survey.isSoleFile (stylingFile (createImport []) [.map idle]) = true ∧
      Node.ofEntries idle = .ok ⟨some .emptyStatement, some ⟨150, 151⟩, idle⟩ ∧
      Survey.isAlwaysEntered .emptyStatement = false ∧ (Span.mk 150 151).contains 32 = false ∧
      (Completion.find ⟨32, {}, 0⟩ false (stylingFile (createImport []) [])).outcome ≠
        (Completion.find ⟨32, {}, 0⟩ false
          (stylingFile (createImport []) [.map idle])).outcome := by
  refine ⟨rfl, rfl, rfl, by decide, ?_⟩
  rw [completion_with_idle, completion_without_idle]
  simp

end Placeless

end StyleFold
