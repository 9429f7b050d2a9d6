import Mathlib.Data.Option.Basic
import StyleFold.Proofs.Scope
import StyleFold.Proofs.Style.Shift

/-!
The scope table of a survey. Scopes are opened and closed by different handlers, and constants are
bound by a third. Main statement: at every call of a handler the frames are those of the files and
blocks around the node, and each holds the constants that were declared right in it and folded; so
nothing is bound or closed without a scope.
-/

namespace StyleFold

namespace Survey

section Constants

/-- The constant of a declarator, if it is a plain name whose initializer folds to a value. -/
def constant? (table : ScopeTable) (data : Data) : Option (Label × Value) := do
  let declarator ← (Node.expect data).toOption
  let initial ← (declarator.val.field? "init").toOption.join
  let target ← (declarator.val.child "id").toOption
  guard (target.val.isKind .identifier)
  match ← (Fold.evalPart table initial.val).toOption with
  | .value value _ => return (← (target.val.label "value").toOption, value)
  | _ => none

theorem constant?_of_ok {table : ScopeTable} {data : Data} {found : Option (Label × Value)}
    (run : constantOf? table data = .ok found) : constant? table data = found := by
  obtain ⟨declarator, expected, run⟩ := ok_of_bind run
  obtain ⟨initial, given, run⟩ := ok_of_bind run
  unfold constant?
  rw [expected]
  simp only [Except.toOption, Option.bind_eq_bind, Option.bind_some, given]
  cases initial with
  | none =>
      cases run
      rfl
  | some initial =>
      obtain ⟨target, named, run⟩ := ok_of_bind run
      simp only [Option.join_some, Option.bind_some, named]
      cases plain : target.val.isKind .identifier with
      | false =>
          simp only [plain] at run
          cases run
          rfl
      | true =>
          simp only [plain] at run
          obtain ⟨result, folded, run⟩ := ok_of_bind run
          simp only [guard_true, Option.pure_def, Option.bind_some, folded]
          cases result with
          | value v span =>
              obtain ⟨name, labelled, run⟩ := ok_of_bind run
              cases run
              simp only [labelled, Option.bind_some]
          | _ =>
              cases run
              rfl

theorem constant?_names {table other : ScopeTable} (names : Fold.SameNames table other)
    (data : Data) :
    constant? other data = constant? table data := by
  have folds (part : Data) : Fold.evalPart other part = Fold.evalPart table part := by
    have agree :=
      Fold.agreeBelow (d := 0) names _ part part (Nat.lt_succ_self _) (Data.movesTo_zero part)
    generalize Fold.evalPart table part = a, Fold.evalPart other part = b at agree
    cases agree with
    | ok moved => rw [moved, Result.moved_zero]
    | fault reworded => rw [reworded.same rfl]
  simp only [constant?, folds]

theorem bindConstants_ok {table bound : ScopeTable} {items : List Data} {inner : Frame}
    {outer : List Frame} (frames : table.frames = inner :: outer)
    (binds : bindConstants table items = .ok bound) :
    bound.frames = Assoc.putAll inner (items.filterMap (constant? table)) :: outer := by
  induction items generalizing table inner with
  | nil =>
      cases binds
      exact frames
  | cons item rest ih =>
      simp only [bindConstants] at binds
      cases read : constantOf? table item with
      | error fault => simp [read, bind, Except.bind] at binds
      | ok found =>
          have here := constant?_of_ok read
          cases found with
          | none =>
              simp only [read, bind, Except.bind] at binds
              rw [List.filterMap_cons_none here]
              exact ih frames binds
          | some entry =>
              obtain ⟨name, value⟩ := entry
              have names : Fold.SameNames table
                  { table with frames := Assoc.put name value inner :: outer } :=
                ⟨rfl, rfl⟩
              simp only [read, ScopeTable.bind, frames, bind, Except.bind] at binds
              cases keys : name.key with
              | error fault => simp [keys] at binds
              | ok key =>
                  simp only [keys] at binds
                  have later := ih rfl binds
                  rw [funext (constant?_names names)] at later
                  rw [List.filterMap_cons_some here]
                  exact later

theorem bindConstants_unscoped {table : ScopeTable} {items : List Data} {fault : Fault}
    (opened : table.frames ≠ []) (failed : bindConstants table items = .error fault) :
    fault.family ≠ .scope := by
  induction items generalizing table with
  | nil => cases failed
  | cons item rest ih =>
      have agree :=
        agree_constantOf? (⟨rfl, rfl⟩ : Fold.SameNames table table) (Data.movesTo_zero item)
      simp only [bindConstants] at failed
      cases read : constantOf? table item with
      | error other =>
          simp only [read, bind, Except.bind, Except.error.injEq] at failed
          exact failed ▸ unscoped_of_agree agree read
      | ok found =>
          cases found with
          | none =>
              simp only [read, bind, Except.bind] at failed
              exact ih opened failed
          | some entry =>
              obtain ⟨name, value⟩ := entry
              obtain ⟨inner, outer, frames⟩ := List.exists_cons_of_ne_nil opened
              simp only [read, ScopeTable.bind, frames, bind, Except.bind] at failed
              cases keys : name.key with
              | error other =>
                  simp only [keys, Except.error.injEq] at failed
                  exact failed ▸ unscoped_of_agree (agree_key (d := 0) (.inl rfl)) keys
              | ok key =>
                  simp only [keys] at failed
                  exact ih (by simp) failed

def isConstants (node : Node) : Bool :=
  node.isKind .variableDeclaration && match node.field "kind" with
    | .ok word => isConst word.val
    | .error _ => false

def declared (table : ScopeTable) (node : Node) : List (Label × Value) :=
  if isConstants node then
    match node.items "declarations" .noAttribute with
    | .ok items => items.val.filterMap (constant? table)
    | .error _ => []
  else []

end Constants

section Frames

open Walk (Address Duty Occasion Stage lineage pending)

variable {State Finding : Type} {root : Node} {duty : Duty State} {rest more : List (Duty State)}

def scopesAbove (root : Node) (address : Address) : List Address :=
  ((lineage root address).filter fun above => above.2.kind.any opensScope).map Prod.fst

/-- The scopes that are open when a handler is called; a scope is closed by the handler itself. -/
def scopesAt {World : Type} (root : Node) (event : Occasion State World) : List Address :=
  scopesAbove root event.address ++
    if event.call.stage = .leave ∧ event.call.node.kind.any opensScope then [event.address] else []

def boundBy (root : Node) (scope : Address) (event : Occasion State (Survey Finding)) :
    List (Label × Value) :=
  if event.call.stage = .enter ∧ (scopesAbove root event.address).getLast? = some scope then
    declared event.world.table event.call.node
  else []

def boundIn (root : Node) (past : List (Occasion State (Survey Finding))) (scope : Address) :
    List (Label × Value) :=
  past.flatMap (boundBy root scope)

def Frame.Has (frame : Frame) (bound : List (Label × Value)) : Prop :=
  ∀ name, frame.lookup name = bound.reverse.lookup name

def toClose (agenda : List (Duty State)) : List Address :=
  ((pending agenda).filter fun above => above.2.kind.any opensScope).map Prod.fst

theorem toClose_cons (duty : Duty State) (rest : List (Duty State)) :
    toClose (duty :: rest) =
      (if duty.stage = .leave ∧ duty.task.node.kind.any opensScope
        then [duty.task.address] else []) ++
        toClose rest := by
  unfold toClose pending
  by_cases leaves : duty.stage = .leave
  · by_cases opens : duty.task.node.kind.any opensScope = true
    · simp [leaves, opens]
    · simp [leaves, opens]
  · simp [leaves]

theorem toClose_next {action : Walk.Action State} (next : duty.Next action more) :
    toClose (more ++ rest) =
      (if duty.stage = .enter ∧ duty.task.node.kind.any opensScope
        then [duty.task.address] else []) ++
        toClose rest := by
  have entered (state : State) (found : List Walk.Seat) (entering : duty.stage = .enter) :
      toClose (Walk.Task.below { duty.task with state } found ++ rest) =
        (if duty.stage = .enter ∧ duty.task.node.kind.any opensScope
          then [duty.task.address] else []) ++
          toClose rest := by
    unfold toClose
    rw [Walk.pending_below]
    by_cases opens : duty.task.node.kind.any opensScope = true
    · simp [entering, opens]
    · simp [entering, opens]
  cases next with
  | nothing late => simp [late]
  | enter early applied => simp [toClose_cons, early]
  | skip entering skips => exact entered duty.task.state [] entering
  | below entering applied collected => exact entered _ _ entering

theorem toClose_eq {World : Type} (placed : duty.Placed root rest) (world : World) :
    toClose (duty :: rest) = (scopesAt root (duty.occasion world)).reverse := by
  have around : toClose rest = (scopesAbove root duty.task.address).reverse := by
    rw [toClose, placed.behind, List.filter_reverse, List.map_reverse, scopesAbove]
  rw [toClose_cons, around, scopesAt, List.reverse_append]
  congr 1
  rw [apply_ite List.reverse]
  rfl

end Frames

section Reframing

open Walk (Duty Stage)

variable {State Finding : Type} {query : Query} {own : Kind → Option (Handler State Finding)}
  {duty : Duty State} {survey later : Survey Finding} {action : Walk.Action State}

/-- A scope is pushed, popped or bound in, or frames stay and nothing was to be bound. -/
inductive Reframes (duty : Duty State) (table : ScopeTable) : List Frame → Prop where
  | pushes (entering : duty.stage = .enter) (opens : duty.task.node.kind.any opensScope = true) :
      Reframes duty table ([] :: table.frames)
  | pops (leaving : duty.stage = .leave) (opens : duty.task.node.kind.any opensScope = true)
      {inner : Frame} {outer : List Frame} (frames : table.frames = inner :: outer) :
      Reframes duty table outer
  | binds (entering : duty.stage = .enter) (closed : duty.task.node.kind.any opensScope = false)
      {inner : Frame} {outer : List Frame} (frames : table.frames = inner :: outer) :
      Reframes duty table (Assoc.putAll inner (declared table duty.task.node) :: outer)
  | keeps (closed : duty.stage ≠ .wildcard → duty.task.node.kind.any opensScope = false)
      (silent : duty.stage = .enter → declared table duty.task.node = []) :
      Reframes duty table table.frames

theorem recordAll_frames (table : ScopeTable) (bindings : List Binding) :
    (table.recordAll bindings).frames = table.frames := by
  unfold ScopeTable.recordAll
  induction bindings generalizing table with
  | nil => rfl
  | cons binding rest ih =>
      rw [List.foldl_cons, ih]
      cases binding with
      | library name =>
          simp only [ScopeTable.record, ScopeTable.addNamespace]
          split <;> rfl
      | entry name imported => rfl

theorem declared_of_other {node : Node} (other : node.kind ≠ some .variableDeclaration)
    (table : ScopeTable) :
    declared table node = [] := by
  have plain : node.isKind .variableDeclaration = false := by simpa [Node.isKind] using other
  simp [declared, isConstants, plain]

theorem reframes_own {kind : Kind} (tagged : duty.task.node.kind = some kind)
    (free : isShared kind = false) (table : ScopeTable) : Reframes duty table table.frames := by
  have closed : opensScope kind = false := by cases kind <;> first | rfl | cases free
  have other : kind ≠ .variableDeclaration := by
    rintro rfl
    cases free
  exact .keeps (by simp [tagged, closed]) fun _ => declared_of_other (by simp [tagged, other]) _

theorem reframes_does {role : Role} (serving : Serves duty.stage duty.task.node.kind role)
    (deed : Does query duty.task.node survey role (.ok action later))
    (opened : role = .takeConstants → survey.table.frames ≠ []) :
    Reframes duty survey.table later.table.frames := by
  obtain ⟨stage, ⟨address, node, state, parent⟩, ignore⟩ := duty
  dsimp only at serving deed ⊢
  generalize tagged : node.kind = kind at serving
  cases serving with
  | prune =>
      cases deed <;> exact .keeps (by simp) (by simp)
  | file unit =>
      cases deed
      exact .pushes rfl (by simpa [tagged] using opensScope_of_isUnit unit)
  | block =>
      cases deed
      exact .pushes rfl (by simp [tagged, opensScope])
  | imports =>
      cases deed
      rw [recordAll_frames]
      exact .keeps (by simp [tagged, opensScope]) fun _ => declared_of_other (by simp [tagged]) _
  | requires =>
      cases deed
      rw [recordAll_frames]
      exact .keeps (by simp [tagged, opensScope]) fun _ => declared_of_other (by simp [tagged]) _
  | skips =>
      cases deed
      exact .keeps (by simp [tagged, opensScope]) fun _ => declared_of_other (by simp [tagged]) _
  | close opens =>
      cases deed with
      | closes popped =>
          cases frames : survey.table.frames with
          | nil => simp [ScopeTable.pop, frames] at popped
          | cons inner outer =>
              simp only [ScopeTable.pop, frames, Except.ok.injEq] at popped
              subst popped
              exact .pops rfl (by simpa [tagged] using opens) frames
  | constants =>
      obtain ⟨inner, outer, frames⟩ := List.exists_cons_of_ne_nil (opened rfl)
      have closed : node.kind.any opensScope = false := by simp [tagged, opensScope]
      have kind : node.isKind .variableDeclaration = true := by simp [Node.isKind, tagged]
      cases deed with
      -- The innermost frame takes exactly the constants that the declaration is said to declare.
      | @binds _ items _ read const listed bound =>
          have gives : declared survey.table node =
              items.val.filterMap (constant? survey.table) := by
            simp only [declared, isConstants, kind, read, const, Bool.and_self, if_true, listed]
          rw [bindConstants_ok frames bound, ← gives]
          exact .binds rfl closed frames
      | bindsNothing read other =>
          refine .keeps (fun _ => closed) fun _ => ?_
          simp [declared, isConstants, read, other]
  | own free =>
      cases deed
      exact reframes_own tagged free _
  | untagged =>
      cases deed
      exact .keeps (by simp [tagged]) fun _ => declared_of_other (by simp [tagged]) _
  | leave closed =>
      cases deed
      exact .keeps (fun _ => tagged ▸ closed) (by simp)

theorem reframes (discreet : Discreet own)
    (answered : (visitor query own).respond duty survey = .ok action later)
    (opened : duty.task.node.kind = some .variableDeclaration → survey.table.frames ≠ []) :
    Reframes duty survey.table later.table.frames := by
  cases handles_of_ok answered with
  | shared serving deed =>
      refine reframes_does serving deed ?_
      rintro rfl
      generalize duty.stage = stage, duty.task.node.kind = kind at serving opened
      cases serving
      exact opened rfl
  | own entering tagged free named run =>
      have kept := discreet _ _ named duty.task.node duty.task.state duty.task.parent survey
      rw [run] at kept
      cases kept with
      | ok steady => exact steady.table ▸ reframes_own tagged free survey.table

end Reframing

section Faults

open Walk (Duty Beside)

variable {State Finding : Type} {query : Query} {own : Kind → Option (Handler State Finding)}
  {duty : Duty State} {survey later : Survey Finding} {fault : Fault}

theorem moves_self {findings : Finding → Finding → Prop} (same : ∀ found, findings found found)
    (survey : Survey Finding) : survey.Moves 0 0 findings survey := by
  have frames (frame : Frame) : movedFrame 0 frame = frame := by simp [movedFrame, Value.moved_zero]
  refine ⟨⟨?_, ?_, rfl⟩, by simp⟩
  · simp [ScopeTable.moved, funext frames]
  · cases survey.found with
    | none => exact .none
    | some found => exact .some (same found)

def Prudent (own : Kind → Option (Handler State Finding)) : Prop :=
  ∀ kind handler, own kind = some handler → ∀ node state parent survey fault later,
    node.kind = some kind → Node.ofEntries node.entries = .ok node →
    Option.Rel (Node.MovesTo 0) parent parent →
    handler node state parent survey = .error fault later → fault.family ≠ .scope

/-- What answers alike on moved trees does so on the tree itself, and has no faults of scopes. -/
theorem prudent_of_ownAlike {findings : Finding → Finding → Prop}
    (same : ∀ found, findings found found) (alike : OwnAlike 0 0 findings own own) :
    Prudent own := by
  intro kind handler named node state parent survey fault later tagged opened parents failed
  have answers := alike kind node node state parent parent survey survey tagged
    (Node.movesTo_zero opened) parents (moves_self same survey)
  rw [named] at answers
  cases answers with
  | some answers =>
      rw [failed] at answers
      cases answers with
      | error here => exact here.1.unscoped

theorem unscoped_does {node : Node} {role : Role} (opened : Node.ofEntries node.entries = .ok node)
    (deed : Does query node survey role
      (.error fault later : EStateM.Result _ _ (Walk.Action State)))
    (within : role = .takeConstants ∨ role = .closeScope → survey.table.frames ≠ []) :
    fault.family ≠ .scope := by
  have moves := Node.movesTo_zero opened
  cases deed with
  | opensNowhere => decide
  | closesNothing failed =>
      obtain ⟨inner, outer, frames⟩ := List.exists_cons_of_ne_nil (within (.inr rfl))
      simp [ScopeTable.pop, frames] at failed
  | importsBadly failed =>
      exact unscoped_of_agree (declaredAgree_ofImport query.settings moves).outcome failed
  | requiresBadly failed =>
      exact unscoped_of_agree (declaredAgree_ofRequire query.settings moves).outcome failed
  | bindsBadly failed =>
      rcases failed with misread | unlisted | ⟨items, unbound⟩
      · exact unscoped_of_agree (agree_field moves (by decide)) misread
      · exact unscoped_of_agree (agree_items moves (by decide) (by decide)) unlisted
      · exact bindConstants_unscoped (within (.inl rfl)) unbound

end Faults

section Scoping

open Walk (Address Duty Occasion Stage Orderly Unvisited)

variable {State Finding : Type} {query : Query} {own : Kind → Option (Handler State Finding)}
  {root : Node} {duty : Duty State} {rest more : List (Duty State)} {survey later : Survey Finding}
  {past : List (Occasion State (Survey Finding))} {action : Walk.Action State}

abbrev Framed (root : Node) (past : List (Occasion State (Survey Finding))) :
    List Address → List Frame → Prop :=
  List.Forall₂ fun scope frame => Frame.Has frame (boundIn root past scope)

theorem boundBy_silent (silent : duty.stage = .enter → declared survey.table duty.task.node = [])
    (scope : Address) : boundBy root scope (duty.occasion survey) = [] := by
  unfold boundBy
  split
  · rename_i binding
    exact silent binding.1
  · rfl

theorem boundIn_heard (free : ((visitor query own).looks duty && survey.cancelled) = false)
    (scope : Address) :
    boundIn root ((visitor query own).heard duty survey) scope =
      boundBy root scope (duty.occasion survey) := by
  have token : (visitor query own).cancelled survey = survey.cancelled := rfl
  unfold Walk.Visitor.heard
  rw [token, free]
  simp only [Bool.false_eq_true, if_false]
  split
  · simp [boundIn]
  · rename_i missing
    -- Without a handler it is no declaration that is entered.
    refine (boundBy_silent
      (fun entering => declared_of_other (fun tagged => missing ?_) _) scope).symm
    rw [entering, Walk.Visitor.handler, tagged]
    rfl

theorem framed_append {new : List (Occasion State (Survey Finding))} {scopes : List Address}
    {frames : List Frame} (framed : Framed root past scopes frames)
    (silent : ∀ scope ∈ scopes, boundIn root new scope = []) :
    Framed root (past ++ new) scopes frames := by
  induction framed with
  | nil => exact .nil
  | @cons scope frame scopes frames first _ ih =>
      refine .cons ?_ (ih fun scope member => silent scope (List.mem_cons_of_mem _ member))
      rw [boundIn, List.flatMap_append, ← boundIn, ← boundIn, silent scope List.mem_cons_self,
        List.append_nil]
      exact first

theorem Frame.Has.putAll {frame : Frame} {bound : List (Label × Value)}
    (has : Frame.Has frame bound) (additions : List (Label × Value)) :
    Frame.Has (Assoc.putAll frame additions) (bound ++ additions) := by
  intro name
  rw [lookup_putAll, has name, List.reverse_append, List.lookup_append]

theorem boundIn_unopened (unvisited : Unvisited (duty :: rest) past)
    (entering : duty.stage = .enter) :
    boundIn root past duty.task.address = [] := by
  rw [boundIn, List.flatMap_eq_nil_iff]
  intro event happened
  unfold boundBy
  split
  · rename_i binding
    have member := List.mem_of_getLast? binding.2
    obtain ⟨above, inside, same⟩ := List.mem_map.mp member
    obtain ⟨reaches, apart⟩ := Walk.prefix_of_lineage (List.mem_filter.mp inside).1
    rw [same] at reaches apart
    exact absurd (unvisited.fresh duty List.mem_cons_self (by simp [entering]) event happened
      (by simp [binding.1]) reaches) apart
  · rfl

/-- At every moment of a survey the frames are those of the scopes still to be closed. -/
structure Scoped (root : Node) (agenda : List (Duty State)) (survey : Survey Finding)
    (past : List (Occasion State (Survey Finding))) : Prop where
  orderly : Orderly root agenda
  unvisited : Unvisited agenda past
  framed : Framed root past (toClose agenda) survey.table.frames

theorem frames_ne_nil {scopes : List Address} {frames : List Frame}
    (framed : Framed root past scopes frames) (some : scopes ≠ []) : frames ≠ [] := by
  cases framed with
  | nil => exact absurd rfl some
  | cons => simp

theorem scopesAbove_ne_nil (unit : root.kind.any isUnit = true) {address : Address}
    (below : address ≠ []) :
    scopesAbove root address ≠ [] := by
  have opens : root.kind.any opensScope = true := by
    cases tagged : root.kind with
    | none => simp [tagged] at unit
    | some kind => simpa using opensScope_of_isUnit (by simpa [tagged] using unit)
  cases address with
  | nil => exact absurd rfl below
  | cons trail rest => simp [scopesAbove, Walk.lineage, opens]

theorem nodup_scopesAbove (root : Node) (address : Address) : (scopesAbove root address).Nodup :=
  (Walk.nodup_lineage root address).sublist (List.filter_sublist.map Prod.fst)

variable (unit : root.kind.any isUnit = true) (inv : Scoped root (duty :: rest) survey past)

include unit inv

theorem frames_of_declaration (tagged : duty.task.node.kind = some .variableDeclaration) :
    survey.table.frames ≠ [] := by
  refine frames_ne_nil inv.framed ?_
  rw [toClose_eq inv.orderly.1 survey, scopesAt]
  have below : duty.task.address ≠ [] := by
    intro top
    have place := inv.orderly.1.node
    rw [top] at place
    cases place
    simp [tagged, isUnit] at unit
  simp [scopesAbove_ne_nil unit below, Duty.occasion]

theorem scoped_step (discreet : Discreet own)
    (step : (visitor query own).perform duty survey = .ok more later) :
    Scoped root (more ++ rest) later (past ++ (visitor query own).heard duty survey) := by
  obtain ⟨free, action, answered, next⟩ := Walk.perform_ok step
  have onward := Walk.next_ok next
  have reframed := reframes discreet answered (frames_of_declaration unit inv)
  obtain ⟨orderly, unvisited, framed⟩ := inv
  refine ⟨Walk.orderly_next orderly onward, Walk.unvisited_next unvisited onward ?_, ?_⟩
  · intro event member
    rw [Walk.mem_heard member]
    exact ⟨rfl, rfl⟩
  have new := @boundIn_heard State Finding query own root duty survey free
  rw [toClose_next onward]
  rw [toClose_cons] at framed
  generalize later.table.frames = frames at reframed
  cases reframed with
  -- A scope that opens is bound to nothing yet, for no call below it was made before.
  | pushes entering opens =>
      have silent (scope : Address) :
          boundIn root ((visitor query own).heard duty survey) scope = [] := by
        rw [new]
        refine boundBy_silent (fun _ => declared_of_other ?_ _) scope
        intro tagged
        simp [tagged, opensScope] at opens
      simp only [entering, opens, reduceCtorEq, false_and, if_false, List.nil_append,
        and_self, if_true, List.singleton_append] at framed ⊢
      refine .cons ?_ (framed_append framed fun scope _ => silent scope)
      rw [boundIn, List.flatMap_append, ← boundIn, ← boundIn, silent,
        boundIn_unopened unvisited entering]
      exact fun _ => rfl
  | pops leaving opens popped =>
      simp only [leaving, opens, reduceCtorEq, false_and, if_false, List.nil_append,
        and_self, if_true, List.singleton_append, popped] at framed ⊢
      cases framed with
      | cons _ rest =>
          refine framed_append rest fun scope _ => ?_
          rw [new]
          exact boundBy_silent (by simp [leaving]) scope
  | keeps closed silent =>
      have stays {stage : Stage} (late : stage ≠ .wildcard) :
          ¬ (duty.stage = stage ∧ duty.task.node.kind.any opensScope = true) := by
        rintro ⟨here, opens⟩
        rw [closed (here ▸ late)] at opens
        cases opens
      rw [if_neg (stays (by simp)), List.nil_append] at framed ⊢
      refine framed_append framed fun scope _ => ?_
      rw [new]
      exact boundBy_silent silent scope
  | @binds entering closed inner outer bound =>
      simp only [entering, closed, reduceCtorEq, Bool.false_eq_true, and_false, if_false,
        List.nil_append, bound] at framed ⊢
      have around : toClose rest = (scopesAbove root duty.task.address).reverse := by
        simpa [toClose_cons, scopesAt, entering, Duty.occasion, Duty.call] using
          toClose_eq orderly.1 survey
      have distinct := nodup_scopesAbove root duty.task.address
      have nearest : (scopesAbove root duty.task.address).getLast? = (toClose rest).head? := by
        rw [around, List.head?_reverse]
      rw [← List.nodup_reverse, ← around] at distinct
      -- The innermost frame takes the constants, the others are not the nearest scope.
      generalize toClose rest = scopes at framed distinct nearest
      cases framed with
      | @cons scope _ scopes _ first others =>
          have here : boundBy root scope (duty.occasion survey) =
              declared survey.table duty.task.node := by
            simp [boundBy, Duty.occasion, Duty.call, entering, nearest]
          refine .cons ?_ (framed_append others fun other member => ?_)
          · rw [boundIn, List.flatMap_append, ← boundIn, ← boundIn, new, here]
            exact first.putAll _
          · have differs : scope ≠ other :=
              fun same => (List.nodup_cons.mp distinct).1 (same ▸ member)
            rw [new]
            simp [boundBy, Duty.occasion, nearest, differs]

theorem frames_of_role {role : Role} (serving : Serves duty.stage duty.task.node.kind role)
    (needs : role = .takeConstants ∨ role = .closeScope) : survey.table.frames ≠ [] := by
  have constants := frames_of_declaration unit inv
  have closing := inv.framed
  rw [toClose_cons] at closing
  generalize duty.stage = stage, duty.task.node.kind = kind at serving constants closing
  cases serving with
  | constants => exact constants rfl
  | close opens => exact frames_ne_nil closing (by simp [opens])
  | _ => simp at needs

theorem unscoped_step (prudent : Prudent own) (whole : Node.ofEntries root.entries = .ok root)
    {fault : Fault}
    (step : (visitor query own).perform duty survey = .error (.faulted fault) later) :
    fault.family ≠ .scope := by
  obtain ⟨place, parent, _⟩ := inv.orderly.1
  have opened := Walk.opened_located (Walk.located_of_nodeAt place) whole
  have parents : Option.Rel (Node.MovesTo 0) duty.task.parent duty.task.parent := by
    rw [parent]
    cases last : (Walk.lineage root duty.task.address).getLast? with
    | none => exact .none
    | some above =>
        have found := Walk.nodeAt_lineage place (List.mem_of_getLast? last)
        exact .some (Node.movesTo_zero (Walk.opened_located (Walk.located_of_nodeAt found) whole))
  rcases Walk.perform_error step with ⟨stop, _⟩ | answered | ⟨action, other, answered, next, stop⟩
  · cases stop
  · rcases handles_of_error answered with ⟨aborts, _⟩ | ⟨_, same, handles⟩
    · cases aborts
    · cases same
      cases handles with
      | shared serving deed => exact unscoped_does opened deed (frames_of_role unit inv serving)
      | own entering tagged free named run =>
          exact prudent _ _ named _ _ _ _ _ _ tagged opened parents run
  · -- What follows an answer fails only when it cannot be followed or children cannot be read.
    cases stop
    have self : (sameTree State 0).Duties duty duty :=
      ⟨rfl, rfl, Node.movesTo_zero opened, rfl, parents⟩
    exact unscoped_of_agree (Walk.agree_next (d := 0) (fun _ _ nodes => nodes)
      (fun _ _ nodes ignore => Walk.agree_children nodes ignore) self
      (Walk.SameAction.refl action)) next

omit inv

variable (query own) in
/-- The calls of a survey, each with the scopes it finds, and how the survey ends. -/
structure KeepsScopes (state : State) (cancelled : Bool) (root : Node)
    (events : List (Occasion State (Survey Finding)))
    (ending : EStateM.Result Walk.Stop (Survey Finding) Unit) : Prop where
  told : Walk.Told (visitor query own) root state { cancelled } events ending
  frames : ∀ past event later, events = past ++ event :: later →
    List.Forall₂ (fun scope frame => Frame.Has frame (boundIn root past scope))
      (scopesAt root event) event.world.table.frames.reverse
  faults : ∀ fault survey, ending = .error (.faulted fault) survey → fault.family ≠ .scope
  closed : ∀ survey, ending = .ok () survey → survey.table.depth = 0

theorem keepsScopes (discreet : Discreet own) (prudent : Prudent own)
    (whole : Node.ofEntries root.entries = .ok root) (query : Query) (state : State)
    (cancelled : Bool) :
    ∃ events ending, KeepsScopes query own state cancelled root events ending := by
  have tagged : root.kind.isSome := by
    cases kind : root.kind <;> simp_all
  obtain ⟨events, ending, told⟩ := Walk.walk_told (visitor query own) tagged state { cancelled }
  have start : Scoped root [.arrive (Walk.rootTask root state)]
      ({ cancelled } : Survey Finding) [] :=
    ⟨Walk.orderly_start root state, Walk.unvisited_start root state, .nil⟩
  have framed (duty : Duty State) (rest : List (Duty State)) (survey : Survey Finding)
      (past : List (Occasion State (Survey Finding))) (inv : Scoped root (duty :: rest) survey past)
      (event : Occasion State (Survey Finding))
      (member : event ∈ (visitor query own).heard duty survey) :
      Framed root past (scopesAt root event) event.world.table.frames.reverse := by
    have here := inv.framed
    rw [toClose_eq inv.orderly.1 survey] at here
    rw [Walk.mem_heard member]
    refine List.forall₂_reverse_iff.mp ?_
    rw [List.reverse_reverse]
    exact here
  obtain ⟨calls, completes, stops⟩ := @Walk.Runs.keeps _ _ (visitor query own) (Scoped root)
    (fun past event => Framed root past (scopesAt root event) event.world.table.frames.reverse)
    (fun stop _ _ => ∀ fault, stop = .faulted fault → fault.family ≠ .scope) framed
    (fun _ _ _ _ _ _ inv step => scoped_step unit inv discreet step)
    (fun _ _ _ _ _ _ inv step _ same => unscoped_step unit inv prudent whole (same ▸ step))
    _ _ _ _ told.recorded _ start
  refine ⟨events, ending, told, calls, fun fault survey same => stops _ _ same fault rfl, ?_⟩
  intro survey same
  have closed := (completes survey same).framed
  exact List.length_eq_zero_iff.mpr (List.forall₂_nil_left_iff.mp closed)

theorem unscoped_runData (discreet : Discreet own) (prudent : Prudent own) {tree : Data}
    (opened : Node.ofData tree = .ok root) (query : Query) (state : State) (cancelled : Bool)
    {fault : Fault} (failed : (runData query own state cancelled tree).outcome = .error fault) :
    fault.family ≠ .scope := by
  have whole := ofData_self opened
  obtain ⟨_, ending, kept⟩ := keepsScopes unit discreet prudent whole query state cancelled
  simp only [runData, opened, run, kept.told.ends] at failed
  rcases ending with ⟨_, survey⟩ | ⟨_ | _ | other, survey⟩ <;> cases failed
  exact kept.faults _ _ rfl

end Scoping

end Survey

section Searches

variable (query : Query)

theorem Hover.prudent : Survey.Prudent (handlers query) := by
  have alike := Hover.ownAlike (d := 0) (s := 0) query
  rw [show query.moved 0 = query by simp [Query.moved]] at alike
  exact Survey.prudent_of_ownAlike
    (fun hover => ⟨rfl, hover.span.shifted_zero.symm, hover.value.moved_zero.symm⟩) alike

theorem Completion.prudent : Survey.Prudent (handlers query) := by
  have alike := Completion.ownAlike (d := 0) (s := 0) query
  rw [show query.moved 0 = query by simp [Query.moved]] at alike
  exact Survey.prudent_of_ownAlike (fun found => ⟨rfl, rfl, found.span.shifted_zero.symm⟩) alike

end Searches

open Survey (KeepsScopes) in
/-- In every search through a file, whatever the cursor and wherever the search is stopped: a
handler that is called finds one frame for each file and block around its node, with the
constants declared right in it so far. Nothing fails for want of a scope, and a search that
completes has closed them all. -/
theorem scopes_of_searches {tree : Data} {root : Node} (opened : Node.ofData tree = .ok root)
    (file : root.kind.any Survey.isUnit = true) (query : Query) (cancelled : Bool) :
    (∃ events ending, KeepsScopes query (Hover.handlers query) {} cancelled root events ending) ∧
    (∃ events ending, KeepsScopes query (Completion.handlers query) {} cancelled root
      events ending) ∧
    (∀ fault, (Hover.find query cancelled tree).outcome = .error fault → fault.family ≠ .scope) ∧
    ∀ fault, (Completion.find query cancelled tree).outcome = .error fault →
    fault.family ≠ .scope := by
  have whole := ofData_self opened
  refine ⟨?_, ?_, fun fault failed => ?_, fun fault failed => ?_⟩
  · exact Survey.keepsScopes file (Hover.discreet query) (Hover.prudent query) whole
      query {} cancelled
  · exact Survey.keepsScopes file (Completion.discreet query)
      (Completion.prudent query) whole query {} cancelled
  · unfold Hover.find at failed
    split at failed
    · exact Survey.unscoped_runData file (Hover.discreet query)
        (Hover.prudent query) opened query {} cancelled failed
    · cases failed
  · unfold Completion.find at failed
    split at failed
    · exact Survey.unscoped_runData file (Completion.discreet query)
        (Completion.prudent query) opened query {} cancelled failed
    · cases failed

/-- A file with a constant and a block. -/
def constantsFile : Data :=
  Survey.written "Module" 0 50 [("body", .list [
    Survey.written "VariableDeclaration" 0 20 [("kind", .text "const"), ("declarations", .list [
      Survey.written "VariableDeclarator" 6 19 [
        ("id", Survey.written "Identifier" 6 7 [("value", .text "x")]),
        ("init", Survey.written "StringLiteral" 10 15 [("value", .text "red")])]])],
    Survey.written "BlockStatement" 21 40 []])]

theorem scopes_of_constantsFile :
    ∃ root, Node.ofData constantsFile = .ok root ∧ root.kind.any Survey.isUnit = true ∧
      ∃ events ending,
        Survey.KeepsScopes ⟨30, {}, 0⟩ (Hover.handlers ⟨30, {}, 0⟩) {} false root events ending :=
  have opened : Node.ofData constantsFile = .ok _ := rfl
  ⟨_, opened, rfl, (scopes_of_searches opened rfl ⟨30, {}, 0⟩ false).1⟩

end StyleFold
