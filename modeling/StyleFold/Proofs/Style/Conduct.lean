import StyleFold.Proofs.Walk.Lineage
import StyleFold.Style.Completion
import StyleFold.Style.Hover

/-!
Which handler of a survey serves which node, and what it does. The visitor is a table of
handlers by kind; here it is read the other way round, from what a handler does to the kinds
that it is for. Main statements: the deeds of the shared handlers, and those of the handlers for
hovers and for completions.
-/

namespace StyleFold.Survey

section Kinds

/-- Files. -/
def isUnit : Kind → Bool
  | .moduleUnit | .scriptUnit => true
  | _ => false

def opensScope : Kind → Bool
  | .moduleUnit | .scriptUnit | .blockStatement => true
  | _ => false

def isShared : Kind → Bool
  | .moduleUnit | .scriptUnit | .importDeclaration | .variableDeclaration | .variableDeclarator
  | .blockStatement | .withStatement => true
  | _ => false

theorem opensScope_of_isUnit {kind : Kind} (unit : isUnit kind = true) :
    opensScope kind = true := by
  cases kind <;> first | rfl | cases unit

theorem isAlwaysEntered_of_isUnit {kind : Kind} (unit : isUnit kind = true) :
    isAlwaysEntered kind = true := by
  cases kind <;> first | rfl | cases unit

/-- A tree with a file at its root. -/
def isFile (tree : Data) : Bool :=
  match Node.ofData tree with
  | .ok root => root.kind.any isUnit
  | .error _ => false

def isPart (entries : Entries) : Bool :=
  match Node.kindOf (Data.lookup? "type" entries) with
  | .ok (some kind) => !isUnit kind
  | _ => true

/-- A file that holds no other. -/
def isSoleFile (tree : Data) : Bool :=
  isFile tree && match tree with
    | .map entries => allFields isPart entries
    | _ => false

theorem parts_of_isSoleFile {tree : Data} {root : Node} (sole : isSoleFile tree = true)
    (opened : Node.ofData tree = .ok root) :
    root.kind.any isUnit = true ∧ EachField (isPart · = true) root.entries := by
  cases tree with
  | map entries =>
      simp only [isSoleFile, isFile, opened, Bool.and_eq_true] at sole
      rw [Node.entries_of_ofEntries opened]
      exact ⟨sole.1, each_of_allFields (fun _ part => part) _ sole.2⟩
  | _ => cases opened

structure Partial (node : Node) : Prop where
  opened : Node.ofEntries node.entries = .ok node
  parts : (Data.map node.entries).Each (isPart · = true)

theorem Partial.kind {node : Node} (part : Partial node) : node.kind.any isUnit = false := by
  have here : isPart node.entries = true := part.parts.1
  unfold isPart at here
  rw [(ofEntries_parts part.opened).1] at here
  cases tagged : node.kind with
  | none => rfl
  | some kind => simpa [tagged] using here

theorem Partial.child {node child : Node} {trail : Walk.Trail} (part : Partial node)
    (below : Walk.Child node trail child) : Partial child :=
  ⟨Walk.opened_child below, Walk.each_child below part.parts.2⟩

end Kinds

section Serving

open Walk (Stage)

inductive Role where
  | prune
  | openFile
  | openBlock
  | takeImport
  | takeConstants
  | takeRequire
  | skip
  | own (kind : Kind)
  | closeScope
  | nothing

variable {State Finding : Type}

/-- The handler of a role; only those of a search's own depend on the search. -/
def Role.handler (query : Query) (own : Kind → Option (Handler State Finding)) :
    Role → Option (Handler State Finding)
  | .prune => some (Survey.prune query)
  | .openFile => some (Survey.openFile query)
  | .openBlock => some Survey.openBlock
  | .takeImport => some (Survey.takeImport query)
  | .takeConstants => some Survey.takeConstants
  | .takeRequire => some (Survey.takeRequire query)
  | .skip => some Survey.skip
  | .own kind => own kind
  | .closeScope => some Survey.closeScope
  | .nothing => none

/-- The role of the handler that serves nodes of a kind at a stage. -/
inductive Serves : Stage → Option Kind → Role → Prop where
  | prune (kind : Option Kind) : Serves .wildcard kind .prune
  | file {kind : Kind} (unit : isUnit kind = true) : Serves .enter (some kind) .openFile
  | block : Serves .enter (some .blockStatement) .openBlock
  | imports : Serves .enter (some .importDeclaration) .takeImport
  | constants : Serves .enter (some .variableDeclaration) .takeConstants
  | requires : Serves .enter (some .variableDeclarator) .takeRequire
  | skips : Serves .enter (some .withStatement) .skip
  | own {kind : Kind} (free : isShared kind = false) : Serves .enter (some kind) (.own kind)
  | untagged : Serves .enter none .nothing
  | close {kind : Kind} (opens : opensScope kind = true) : Serves .leave (some kind) .closeScope
  | leave {kind : Option Kind} (closed : kind.any opensScope = false) : Serves .leave kind .nothing

theorem serves (stage : Stage) (kind : Option Kind) :
    ∃ role, Serves stage kind role ∧
      ∀ (query : Query) (own : Kind → Option (Handler State Finding)) (node : Node),
        node.kind = kind → (visitor query own).handler stage node = role.handler query own := by
  cases stage with
  | wildcard => exact ⟨.prune, .prune kind, fun _ _ _ _ => rfl⟩
  | enter =>
      cases kind with
      | none =>
          refine ⟨.nothing, .untagged, fun query own node plain => ?_⟩
          rw [Walk.Visitor.handler, plain]
          rfl
      | some kind =>
          have found (role : Role) (right : Serves .enter (some kind) role)
              (same : ∀ (query : Query) (own : Kind → Option (Handler State Finding)),
                (visitor query own).enter kind = role.handler query own) :
              ∃ role, Serves .enter (some kind) role ∧
                ∀ (query : Query) (own : Kind → Option (Handler State Finding)) (node : Node),
                  node.kind = some kind →
                    (visitor query own).handler .enter node = role.handler query own := by
            refine ⟨role, right, fun query own node tagged => ?_⟩
            rw [Walk.Visitor.handler, tagged]
            exact same query own
          cases kind with
          | moduleUnit | scriptUnit => exact found .openFile (.file rfl) fun _ _ => rfl
          | blockStatement => exact found .openBlock .block fun _ _ => rfl
          | importDeclaration => exact found .takeImport .imports fun _ _ => rfl
          | variableDeclaration => exact found .takeConstants .constants fun _ _ => rfl
          | variableDeclarator => exact found .takeRequire .requires fun _ _ => rfl
          | withStatement => exact found .skip .skips fun _ _ => rfl
          | _ => exact found (.own _) (.own rfl) fun _ _ => rfl
  | leave =>
      cases opens : kind.any opensScope with
      | false =>
          refine ⟨.nothing, .leave opens, fun query own node same => ?_⟩
          rw [Walk.Visitor.handler, same]
          cases kind with
          | none => rfl
          | some kind => cases kind <;> first | rfl | cases opens
      | true =>
          cases kind with
          | none => cases opens
          | some kind =>
              refine ⟨.closeScope, .close opens, fun query own node tagged => ?_⟩
              rw [Walk.Visitor.handler, tagged]
              cases kind <;> first | rfl | cases opens

theorem looks_eq (query : Query) (own : Kind → Option (Handler State Finding))
    (duty : Walk.Duty State) :
    (visitor query own).looks duty = match duty.stage with
      | .wildcard => true
      | .enter => false
      | .leave => duty.task.node.kind.any opensScope := by
  obtain ⟨role, serving, same⟩ := @serves State Finding .leave duty.task.node.kind
  unfold Walk.Visitor.looks
  rw [same query own _ rfl]
  generalize duty.task.node.kind = kind at serving
  cases serving with
  | close opens => cases duty.stage <;> first | rfl | exact opens.symm
  | leave closed => cases duty.stage <;> first | rfl | exact closed.symm

theorem handler_unit {node : Node} (unit : node.kind.any isUnit = true) (query : Query)
    (own : Kind → Option (Handler State Finding)) :
    (visitor query own).handler .enter node = some (openFile query) := by
  cases tagged : node.kind with
  | none => simp [tagged] at unit
  | some kind =>
      rw [Walk.Visitor.handler, tagged]
      rw [tagged] at unit
      cases kind <;> first | rfl | cases unit

theorem prune_unit {node : Node} (unit : node.kind.any isUnit = true) (query : Query)
    (state : State) (parent : Option Node) (survey : Survey Finding) :
    prune query node state parent survey = .ok .keep survey := by
  have near : survey.isNear query node = true := by
    unfold isNear
    cases node.span with
    | none => rfl
    | some span =>
        cases tagged : node.kind with
        | none => simp [tagged] at unit
        | some kind =>
            rw [tagged] at unit
            simp [isAlwaysEntered_of_isUnit unit]
  have run : prune query node state parent survey =
      .ok (if survey.isNear query node then .keep else .skipChildren) survey := rfl
  rw [run, near]
  rfl

variable {root : Node} {query : Query} {own : Kind → Option (Handler State Finding)}

theorem perform_arrive (unit : root.kind.any isUnit = true) (state : State)
    (survey : Survey Finding) :
    (visitor query own).perform (.arrive (Walk.rootTask root state)) survey =
      if survey.cancelled then .error .cancelled survey
      else .ok [⟨.enter, Walk.rootTask root state, []⟩] survey := by
  have run := @prune_unit State Finding root unit query state none survey
  rw [Walk.perform_eq]
  simp only [Walk.Visitor.looks, Walk.Visitor.respond, Walk.Visitor.handler,
    Walk.Duty.arrive, Walk.rootTask, visitor, Walk.call, run, Bool.true_and]
  rfl

theorem perform_enter (unit : root.kind.any isUnit = true) (state : State)
    (survey : Survey Finding) :
    (visitor query own).perform ⟨.enter, Walk.rootTask root state, []⟩ survey =
      match root.span with
      | none => .error (.faulted .noAttribute) survey
      | some span =>
          match Walk.children root [] with
          | .error fault => .error (.faulted fault)
              { survey with origin := span.start - query.startOffset, table := survey.table.push }
          | .ok _ => .ok (Walk.Task.below (Walk.rootTask root state) (Walk.seatsLeft root []))
              { survey with
                origin := span.start - query.startOffset, table := survey.table.push } := by
  have served : (visitor query own).respond ⟨.enter, Walk.rootTask root state, []⟩ survey =
      Walk.call (openFile query) root state none survey := by
    simp only [Walk.Visitor.respond, Walk.rootTask, handler_unit unit]
  rw [Walk.perform_eq, served]
  cases spanned : root.span with
  | none => simp only [Walk.Visitor.looks, Walk.call, openFile, spanned]; rfl
  | some span =>
      have run : openFile query root state none survey = .ok .keep
          { survey with origin := span.start - query.startOffset, table := survey.table.push } := by
        simp only [openFile, spanned]
        rfl
      simp only [Walk.Visitor.looks, Walk.call, run, Bool.false_and, Bool.false_eq_true, if_false,
        Walk.next_enter (show Walk.Action.keep ≠ Walk.Action.skipChildren by simp)]
      cases collected : Walk.children root [] with
      | error fault =>
          simp [Walk.applyAction, Walk.rootTask, collected, bind, Except.bind, Walk.orStop_error]
      | ok found =>
          simp [Walk.applyAction, Walk.rootTask, collected, bind, Except.bind, pure, Except.pure,
            Walk.orStop_ok]

end Serving

section Deeds

open Walk (Action Stage)

variable {State Finding : Type} {query : Query} {node : Node} {state : State} {parent : Option Node}
  {survey : Survey Finding} {own : Kind → Option (Handler State Finding)}

theorem after_attempt {World α β : Type} {goal : EStateM.Result Fault World β → Prop}
    {outcome : Except Fault α} {next : α → EStateM Fault World β} {world : World}
    (failed : ∀ fault, outcome = .error fault → goal (.error fault world))
    (onward : ∀ value, outcome = .ok value → goal (next value world)) :
    goal ((Walk.attempt outcome >>= next) world) := by
  cases outcome with
  | error fault => exact failed fault rfl
  | ok value => exact onward value rfl

def isConst : Data → Bool
  | .text "const" => true
  | _ => false

/-- What a shared handler can do at a node; where there is no handler, nothing is done. -/
inductive Does (query : Query) (node : Node) (survey : Survey Finding) :
    Role → EStateM.Result Fault (Survey Finding) (Action State) → Prop where
  | enters (near : survey.isNear query node = true) :
      Does query node survey .prune (.ok .keep survey)
  | passes (far : survey.isNear query node = false) :
      Does query node survey .prune (.ok .skipChildren survey)
  | opensFile {span : Span} (spanned : node.span = some span) :
      Does query node survey .openFile (.ok .keep
        { survey with origin := span.start - query.startOffset, table := survey.table.push })
  | opensNowhere (unspanned : node.span = none) :
      Does query node survey .openFile (.error .noAttribute survey)
  | opensBlock : Does query node survey .openBlock
      (.ok .keep { survey with table := survey.table.push })
  | closes {table : ScopeTable} (popped : survey.table.pop = .ok table) :
      Does query node survey .closeScope (.ok .keep { survey with table })
  | closesNothing {fault : Fault} (failed : survey.table.pop = .error fault) :
      Does query node survey .closeScope (.error fault survey)
  | imports {bindings : List Binding} {trace : List String} :
      Does query node survey .takeImport (.ok .skipChildren
        { survey with table := survey.table.recordAll bindings, trace })
  | importsBadly {bindings : List Binding} {fault : Fault}
      (failed : (Binding.ofImport query.settings node).outcome = .error fault) :
      Does query node survey .takeImport (.error fault
        { survey with table := survey.table.recordAll bindings })
  | requires {bindings : List Binding} {trace : List String} :
      Does query node survey .takeRequire (.ok .keep
        { survey with table := survey.table.recordAll bindings, trace })
  | requiresBadly {bindings : List Binding} {fault : Fault}
      (failed : (Binding.ofRequire query.settings node).outcome = .error fault) :
      Does query node survey .takeRequire (.error fault
        { survey with table := survey.table.recordAll bindings })
  | binds {word : node.Part} {items : node.Parts} {table : ScopeTable}
      (read : node.field "kind" = .ok word) (const : isConst word.val = true)
      (listed : node.items "declarations" .noAttribute = .ok items)
      (bound : bindConstants survey.table items.val = .ok table) :
      Does query node survey .takeConstants (.ok .keep { survey with table })
  | bindsNothing {word : node.Part} (read : node.field "kind" = .ok word)
      (other : isConst word.val = false) :
      Does query node survey .takeConstants (.ok .keep survey)
  | bindsBadly {fault : Fault}
      (failed : node.field "kind" = .error fault ∨
        node.items "declarations" .noAttribute = .error fault ∨
        ∃ items : node.Parts, bindConstants survey.table items.val = .error fault) :
      Does query node survey .takeConstants (.error fault survey)
  | skips : Does query node survey .skip (.ok .skipChildren survey)
  | idles : Does query node survey .nothing (.ok .keep survey)
  | lacks (kind : Kind) : Does query node survey (.own kind) (.ok .keep survey)

theorem does_takeDeclared (declared : Declared) (words : String) (survey : Survey Finding) :
    (∃ trace, takeDeclared declared words survey =
      .ok () { survey with table := survey.table.recordAll declared.bindings, trace }) ∨
    ∃ fault, declared.outcome = .error fault ∧ takeDeclared declared words survey =
      .error fault { survey with table := survey.table.recordAll declared.bindings } := by
  obtain ⟨bindings, outcome⟩ := declared
  cases outcome with
  | error fault => exact .inr ⟨fault, rfl, rfl⟩
  | ok related =>
      refine .inl ?_
      cases related with
      | true => exact ⟨_, rfl⟩
      | false => exact ⟨_, rfl⟩

theorem takeConstants_eq (node : Node) (state : State) (parent : Option Node) :
    (takeConstants node state parent : EStateM Fault (Survey Finding) (Action State)) = (do
      let word ← Walk.attempt (node.field "kind")
      if isConst word.val then do
        let declarators ← Walk.attempt (node.items "declarations" .noAttribute)
        let table ← Walk.attempt (bindConstants (← get).table declarators.val)
        modify fun survey => { survey with table }
        return .keep
      else return .keep) := by
  unfold takeConstants
  apply bind_congr
  intro word
  split
  · rename_i same
    rw [same]
    rfl
  · rename_i differs
    rw [if_neg]
    intro const
    unfold isConst at const
    split at const
    · rename_i same
      exact differs same
    · cases const

theorem does_takeConstants :
    Does query node survey .takeConstants
      (takeConstants node state parent survey : EStateM.Result Fault (Survey Finding)
        (Action State)) := by
  rw [takeConstants_eq]
  refine after_attempt (fun _ failed => .bindsBadly (.inl failed)) fun word read => ?_
  cases const : isConst word.val with
  | false => exact .bindsNothing read const
  | true =>
      refine after_attempt (fun _ failed => .bindsBadly (.inr (.inl failed))) fun items listed => ?_
      exact after_attempt (fun _ failed => .bindsBadly (.inr (.inr ⟨items, failed⟩)))
        fun table bound => .binds read const listed bound

theorem does {role : Role} (shared : ∀ kind, role ≠ .own kind) {handler : Handler State Finding}
    (named : role.handler query own = some handler) :
    Does query node survey role (handler node state parent survey) := by
  cases role with
  | own kind => exact absurd rfl (shared kind)
  | nothing => cases named
  | prune =>
      cases named
      have run : (prune query node state parent survey : EStateM.Result _ _ (Action State)) =
          .ok (if survey.isNear query node then .keep else .skipChildren) survey := rfl
      rw [run]
      cases near : survey.isNear query node with
      | true => exact .enters near
      | false => exact .passes near
  | openFile =>
      cases named
      unfold openFile
      cases spanned : node.span with
      | none => exact .opensNowhere spanned
      | some span => exact .opensFile spanned
  | openBlock =>
      cases named
      exact .opensBlock
  | takeImport =>
      cases named
      unfold takeImport
      rcases does_takeDeclared (Binding.ofImport query.settings node) ("styling import: " ++
        (Binding.sourceOf? node).toOption.join.getD "None") survey with ⟨_,
          run⟩ | ⟨fault, failed, run⟩
      · simp only [bind, EStateM.bind, run]
        exact .imports
      · simp only [bind, EStateM.bind, run]
        exact .importsBadly failed
  | takeConstants =>
      cases named
      exact does_takeConstants
  | takeRequire =>
      cases named
      unfold takeRequire
      rcases does_takeDeclared
        (Binding.ofRequire query.settings node) "styling require:" survey with
        ⟨_, run⟩ | ⟨fault, failed, run⟩
      · simp only [bind, EStateM.bind, run]
        exact .requires
      · simp only [bind, EStateM.bind, run]
        exact .requiresBadly failed
  | skip =>
      cases named
      exact .skips
  | closeScope =>
      cases named
      exact after_attempt (fun _ failed => .closesNothing failed) fun _ popped => .closes popped

/-- Only opening a file tells where offsets start, and no shared handler finds anything. -/
theorem Does.keeps {role : Role} {action : Action State} {later : Survey Finding}
    (deed : Does query node survey role (.ok action later)) :
    later.found = survey.found ∧ later.cancelled = survey.cancelled ∧
      (role ≠ .openFile → later.origin = survey.origin) := by
  cases deed <;> simp

theorem Does.action {role : Role} {action : Action State} {later : Survey Finding}
    (deed : Does query node survey role (.ok action later)) :
    action = .keep ∨ action = .skipChildren := by
  cases deed <;> simp

theorem Does.fails {role : Role} {fault : Fault} {later : Survey Finding}
    (deed : Does query node survey role (.error fault later : EStateM.Result _ _ (Action State))) :
    later.found = survey.found := by
  cases deed <;> rfl

/-- Nothing has changed but what was found and noticed. -/
structure Steady (survey later : Survey Finding) : Prop where
  table : later.table = survey.table
  origin : later.origin = survey.origin
  cancelled : later.cancelled = survey.cancelled

/-- A handler leaves the table, the origin and the token alone. -/
inductive Keeps {α : Type} (survey : Survey Finding) :
    EStateM.Result Fault (Survey Finding) α → Prop where
  | ok {value : α} {later : Survey Finding} (steady : survey.Steady later) :
      Keeps survey (.ok value later)
  | error {fault : Fault} {later : Survey Finding} (steady : survey.Steady later) :
      Keeps survey (.error fault later)

theorem keeps_ok {α : Type} (survey : Survey Finding) (value : α) :
    Keeps survey (.ok value survey) :=
  .ok ⟨rfl, rfl, rfl⟩

theorem keeps_error {α : Type} (survey : Survey Finding) (fault : Fault) :
    Keeps survey (.error fault survey : EStateM.Result Fault (Survey Finding) α) :=
  .error ⟨rfl, rfl, rfl⟩

def Discreet (own : Kind → Option (Handler State Finding)) : Prop :=
  ∀ kind handler, own kind = some handler → ∀ node state parent survey,
    Keeps survey (handler node state parent survey)

/-- What happens at a duty is the deed of a shared handler or the answer of the search's own. -/
inductive Handles (query : Query) (own : Kind → Option (Handler State Finding))
    (duty : Walk.Duty State) (survey : Survey Finding)
    (result : EStateM.Result Fault (Survey Finding) (Action State)) :
    Prop where
  | shared {role : Role} (serving : Serves duty.stage duty.task.node.kind role)
      (deed : Does query duty.task.node survey role result)
  | own {kind : Kind} {handler : Handler State Finding} (entering : duty.stage = .enter)
      (tagged : duty.task.node.kind = some kind) (free : isShared kind = false)
      (named : own kind = some handler)
      (run : handler duty.task.node duty.task.state duty.task.parent survey = result)

variable {duty : Walk.Duty State} {later : Survey Finding}

theorem handles {handler : Handler State Finding}
    (named : (visitor query own).handler duty.stage duty.task.node = some handler) :
    Handles query own duty survey
      (handler duty.task.node duty.task.state duty.task.parent survey) := by
  obtain ⟨role, serving, serves⟩ := @serves State Finding duty.stage duty.task.node.kind
  rw [serves query own duty.task.node rfl] at named
  by_cases mine : ∃ kind, role = .own kind
  · obtain ⟨kind, rfl⟩ := mine
    generalize staged : duty.stage = stage, tagged : duty.task.node.kind = tag at serving
    cases serving with
    | own free => exact .own staged tagged free named rfl
  · exact .shared serving (does (fun kind same => mine ⟨kind, same⟩) named)

theorem handles_of_ok {action : Action State}
    (answered : (visitor query own).respond duty survey = .ok action later) :
    Handles query own duty survey (.ok action later) := by
  rcases Walk.respond_ok answered with ⟨missing, rfl, rfl⟩ | ⟨handler, named, run⟩
  · obtain ⟨role, serving, serves⟩ := @serves State Finding duty.stage duty.task.node.kind
    rw [serves query own duty.task.node rfl] at missing
    cases role with
    | nothing => exact .shared serving .idles
    | own kind => exact .shared serving (.lacks kind)
    | _ => cases missing
  · exact run ▸ handles named

theorem handles_of_error {stop : Walk.Stop}
    (answered : (visitor query own).respond duty survey = .error stop later) :
    (stop = .aborted ∧ Handles query own duty survey (.ok .abort later)) ∨
      ∃ fault, stop = .faulted fault ∧ Handles query own duty survey (.error fault later) := by
  obtain ⟨handler, named, ⟨aborts, run⟩ | ⟨fault, fails, run⟩⟩ := Walk.respond_error answered
  · exact .inl ⟨aborts, run ▸ handles named⟩
  · exact .inr ⟨fault, fails, run ▸ handles named⟩

theorem cancelled_kept (discreet : Discreet own) {action : Action State}
    (answered : (visitor query own).respond duty survey = .ok action later) :
    later.cancelled = survey.cancelled := by
  cases handles_of_ok answered with
  | shared serving deed => exact deed.keeps.2.1
  | own entering tagged free named run =>
      have kept := discreet _ _ named duty.task.node duty.task.state duty.task.parent survey
      rw [run] at kept
      cases kept with
      | ok steady => exact steady.cancelled

theorem anchored (discreet : Discreet own) {action : Action State}
    (answered : (visitor query own).respond duty survey = .ok action later)
    (part : duty.stage = .enter → duty.task.node.kind.any isUnit = false) :
    later.origin = survey.origin ∧ later.cancelled = survey.cancelled := by
  refine ⟨?_, cancelled_kept discreet answered⟩
  cases handles_of_ok answered with
  | @shared role serving deed =>
      -- Only a file is opened, and there is none.
      have closed : role ≠ .openFile := by
        rintro rfl
        generalize duty.stage = stage, duty.task.node.kind = kind at serving part
        cases serving with
        | file unit => simp [unit] at part
      exact deed.keeps.2.2 closed
  | own entering tagged free named run =>
      have kept := discreet _ _ named duty.task.node duty.task.state duty.task.parent survey
      rw [run] at kept
      cases kept with
      | ok steady => exact steady.origin

end Deeds

section Following

variable {State Finding : Type}

/-- A node as a parser writes it. -/
def written (tag : String) (start stop : Int) (fields : List (String × Data)) : Data :=
  .map ((.text "type", .text tag) ::
    (.text "span", .map [(.text "start", .int start), (.text "end", .int stop)]) ::
    fields.map fun field => (.text field.1, field.2))

def Answers (found : Option Finding) (ending : EStateM.Result Walk.Stop (Survey Finding) Unit) :
    Prop :=
  ∃ ended survey, Walk.conclude ending = (.ok ended, survey) ∧ survey.cancelled = false ∧
    survey.found = found

theorem outcome_of_reaches {query : Query} {own : Kind → Option (Handler State Finding)}
    {state : State}
    {tree : Data} {root : Node} {found : Option Finding} (opened : Node.ofData tree = .ok root)
    (tagged : root.kind.isSome)
    (reaches : Walk.Reaches (visitor query own) [.arrive (Walk.rootTask root state)] {}
      (Answers found)) :
    (runData query own state false tree).outcome = .ok found := by
  obtain ⟨ending, ends, _, survey, concluded, running, here⟩ := Walk.walk_of_reaches tagged reaches
  simp [runData, opened, run, ends, concluded, running, here]

end Following

end StyleFold.Survey

namespace StyleFold

section Searches

open Survey (after_attempt keeps_ok keeps_error)

variable {node : Node} {parent : Option Node}

namespace Hover

variable {query : Query} {nesting : Nesting} {survey : Survey Hover}

inductive AtCall (node : Node) (nesting : Nesting) (survey : Survey Hover) :
    EStateM.Result Fault (Survey Hover) (Walk.Action Nesting) → Prop where
  | misread {fault : Fault} : AtCall node nesting survey (.error fault survey)
  | leaves : AtCall node nesting survey (.ok (.proceed { nesting with inside := none }) survey)
  | enters {callee : { inner : Node // inner.size < node.size }} {api : Api} {next : Nesting}
      {action : Walk.Action Nesting} (called : node.child "callee" = .ok callee)
      (recognized : survey.table.calledApi? callee.val = .ok (some api))
      (styles : api ≠ .firstThatWorks)
      (onward : action = .proceed next ∨ ∃ paths, action = .proceedIgnoring next paths)
      (theme : api = .createTheme → action = .proceedIgnoring next ["arguments.0", "callee"]) :
      AtCall node nesting survey (.ok action survey)

theorem atCall : AtCall node nesting survey (onCall node nesting parent survey) := by
  refine after_attempt (fun _ _ => .misread) fun callee called => ?_
  refine after_attempt (fun _ _ => .misread) fun found recognized => ?_
  cases found with
  | none => exact .leaves
  | some api =>
      cases api with
      | firstThatWorks => exact .leaves
      | create | keyframes =>
          exact after_attempt (fun _ _ => .misread) fun caller _ =>
            .enters called recognized (by decide) (.inl rfl) (by simp)
      | defineVars =>
          exact after_attempt (fun _ _ => .misread) fun caller _ =>
            .enters called recognized (by decide) (.inr ⟨_, rfl⟩) (by simp)
      | createTheme =>
          exact after_attempt (fun _ _ => .misread) fun caller _ =>
            .enters called recognized (by decide) (.inr ⟨_, rfl⟩) fun _ => rfl

inductive AtProperty (query : Query) (node : Node) (nesting : Nesting) (survey : Survey Hover) :
    EStateM.Result Fault (Survey Hover) (Walk.Action Nesting) → Prop where
  | misread {fault : Fault} : AtProperty query node nesting survey (.error fault survey)
  | keeps : AtProperty query node nesting survey (.ok .keep survey)
  | descends {next : Nesting} (inside : nesting.inside.isSome) :
      AtProperty query node nesting survey (.ok (.proceed next) survey)
  | refuses : AtProperty query node nesting survey (.ok .abort survey)
  | finds {value key : { inner : Node // inner.size < node.size }} {hover : Hover} {line : String}
      (inside : nesting.inside.isSome) (valued : node.child "value" = .ok value)
      (named : node.child "key" = .ok key) (placed : survey.place key.val = .ok hover.span)
      (near : hover.span.contains query.cursor = true)
      (evaluated : Fold.eval survey.table value.val = .ok hover.value) :
      AtProperty query node nesting survey (.ok .abort (survey.report hover line))

theorem atProperty :
    AtProperty query node nesting survey (onProperty query node nesting parent survey) := by
  refine after_attempt (fun _ _ => .misread) fun found _ => ?_
  cases inside : nesting.inside with
  | none => exact .keeps
  | some api =>
      have styled : nesting.inside.isSome := by simp [inside]
      cases found with
      | none => exact .keeps
      | some key =>
          refine after_attempt (fun _ _ => .misread) fun value valued => ?_
          dsimp only
          cases value.val.isKind .objectExpression || value.val.isKind .arrowFunctionExpression with
          | true => exact .descends styled
          | false =>
              refine after_attempt (fun _ _ => .misread) fun inline _ => ?_
              cases inline with
              | true => exact after_attempt (fun _ _ => .misread) fun _ _ => .descends styled
              | false =>
                  refine after_attempt (fun _ _ => .misread) fun keyNode named => ?_
                  refine after_attempt (fun _ _ => .misread) fun span placed => ?_
                  cases near : span.contains query.cursor with
                  | false => exact .keeps
                  | true =>
                      refine after_attempt (fun _ _ => .misread) fun folded evaluated => ?_
                      refine after_attempt (fun _ _ => .misread) fun found _ => ?_
                      cases found with
                      | none => exact .refuses
                      | some rule =>
                          by_cases short : rule.lines.length ≤ 2
                          · simp only [short, if_true]
                            exact .keeps
                          · simp only [short, if_false]
                            exact @AtProperty.finds _ _ _ _ value keyNode
                              ⟨rule.text, span, folded⟩ _ styled valued named placed near evaluated

end Hover

theorem Hover.discreet (query : Query) : Survey.Discreet (handlers query) := by
  intro kind handler named node nesting parent survey
  cases kind with
  | callExpression =>
      cases named
      have deed := @atCall node parent nesting survey
      generalize onCall node nesting parent survey = result at deed
      cases deed <;> first | exact keeps_ok survey _ | exact keeps_error survey _
  | keyValueProperty =>
      cases named
      have deed := @atProperty node parent query nesting survey
      generalize onProperty query node nesting parent survey = result at deed
      cases deed with
      | finds => exact .ok ⟨rfl, rfl, rfl⟩
      | _ => first | exact keeps_ok survey _ | exact keeps_error survey _
  | _ => cases named

namespace Completion

variable {query : Query} {context : Context} {survey : Survey Completion}

inductive AtCall (node : Node) (context : Context) (survey : Survey Completion) :
    EStateM.Result Fault (Survey Completion) (Walk.Action Context) → Prop where
  | misread {fault : Fault} : AtCall node context survey (.error fault survey)
  | leaves : AtCall node context survey (.ok (.proceed { context with inside := none }) survey)
  | passes {callee : { inner : Node // inner.size < node.size }}
      (called : node.child "callee" = .ok callee)
      (recognized : survey.table.calledApi? callee.val = .ok (some .firstThatWorks)) :
      AtCall node context survey (.ok .keep survey)
  | enters {callee : { inner : Node // inner.size < node.size }} {api : Api}
      {action : Walk.Action Context}
      (called : node.child "callee" = .ok callee)
      (recognized : survey.table.calledApi? callee.val = .ok (some api))
      (styles : api ≠ .firstThatWorks)
      (onward : action = .proceed { context with inside := some api, depth := 1 } ∨
        ∃ paths, action = .proceedIgnoring { context with inside := some api, depth := 1 } paths) :
      AtCall node context survey (.ok action survey)

theorem atCall : AtCall node context survey (onCall node context parent survey) := by
  refine after_attempt (fun _ _ => .misread) fun callee called => ?_
  refine after_attempt (fun _ _ => .misread) fun found recognized => ?_
  cases found with
  | none => exact .leaves
  | some api =>
      cases api with
      | firstThatWorks => exact .passes called recognized
      | create | keyframes => exact .enters called recognized (by decide) (.inl rfl)
      | createTheme | defineVars => exact .enters called recognized (by decide) (.inr ⟨_, rfl⟩)

inductive AtProperty (node : Node) (context : Context) (survey : Survey Completion) :
    EStateM.Result Fault (Survey Completion) (Walk.Action Context) → Prop where
  | misread {fault : Fault} : AtProperty node context survey (.error fault survey)
  | keeps (outside : context.inside = none) : AtProperty node context survey (.ok .keep survey)
  | names {api : Api} {key : Option Label} (inside : context.inside = some api)
      (direct : Place.stylesDirectly api = true) (second : context.depth = propertyDepth)
      (keyed : Css.keyOf? survey.table node = .ok key) : AtProperty node context survey
        (.ok (.proceed { context with property := key, depth := propertyDepth + 1 }) survey)
  | deepens {api : Api} (inside : context.inside = some api)
      (direct : Place.stylesDirectly api = true)
      (other : context.depth ≠ propertyDepth) : AtProperty node context survey
        (.ok (.proceed { context with depth := context.depth + 1 }) survey)
  | varies {api : Api} {depth : Nat} (inside : context.inside = some api)
      (defines : Place.stylesDirectly api = false) : AtProperty node context survey
        (.ok (.proceed { context with property := some (.text customProperty), depth }) survey)

theorem atProperty : AtProperty node context survey (onProperty node context parent survey) := by
  obtain ⟨property, inside, depth⟩ := context
  cases inside with
  | none => exact .keeps rfl
  | some api =>
      cases api with
      | create | keyframes =>
          unfold onProperty
          by_cases second : depth = propertyDepth
          · subst second
            simp only [if_true]
            exact after_attempt (fun _ _ => .misread) fun key keyed => .names rfl rfl rfl keyed
          · simp only [second, if_false]
            exact .deepens rfl rfl second
      | createTheme | defineVars | firstThatWorks =>
          exact after_attempt (fun _ _ => .misread) fun value _ => .varies rfl rfl

inductive AtString (query : Query) (node : Node) (context : Context) (survey : Survey Completion) :
    EStateM.Result Fault (Survey Completion) (Walk.Action Context) → Prop where
  | misread {fault : Fault} : AtString query node context survey (.error fault survey)
  | keeps : AtString query node context survey (.ok .keep survey)
  | passes : AtString query node context survey (.ok .skipChildren survey)
  | finds {api : Api} {span : Span} {name line : String} {value : Label}
      (inside : context.inside = some api) (wanted : context.property ≠ some (.text freeProperty))
      (placed : survey.place node = .ok span) (near : span.contains query.cursor = true)
      (spelled : ((context.property.filter fun label => !label.isEmpty).getD
        customProperty).spelling = .ok name)
      (read : node.label "value" = .ok value) : AtString query node context survey
        (.ok .abort (survey.report ⟨Css.dashify name, value, span⟩ line))

theorem atString :
    AtString query node context survey (onString query node context parent survey) := by
  unfold onString
  cases wanted : context.inside.isNone || decide (context.property = some (.text freeProperty)) with
  | true => exact .keeps
  | false =>
      obtain ⟨some, wanted⟩ := Bool.or_eq_false_iff.mp wanted
      obtain ⟨api, inside⟩ := Option.isSome_iff_exists.mp (Option.isNone_eq_false_iff.mp some)
      refine after_attempt (fun _ _ => .misread) fun span placed => ?_
      cases near : span.contains query.cursor with
      | false => exact .passes
      | true =>
          refine after_attempt (fun _ _ => .misread) fun name spelled => ?_
          exact after_attempt (fun _ _ => .misread) fun value read =>
            .finds inside (of_decide_eq_false wanted) placed near spelled read

end Completion

theorem Completion.discreet (query : Query) : Survey.Discreet (handlers query) := by
  intro kind handler named node context parent survey
  cases kind with
  | callExpression =>
      cases named
      have deed := @atCall node parent context survey
      generalize onCall node context parent survey = result at deed
      cases deed <;> first | exact keeps_ok survey _ | exact keeps_error survey _
  | keyValueProperty =>
      cases named
      have deed := @atProperty node parent context survey
      generalize onProperty node context parent survey = result at deed
      cases deed <;> first | exact keeps_ok survey _ | exact keeps_error survey _
  | stringLiteral =>
      cases named
      have deed := @atString node parent query context survey
      generalize onString query node context parent survey = result at deed
      cases deed with
      | finds => exact .ok ⟨rfl, rfl, rfl⟩
      | _ => first | exact keeps_ok survey _ | exact keeps_error survey _
  | _ => cases named

end Searches

section Theme

open Survey (written)

/-- A theme and the name it is declared under, at a distance from the beginning of the text. -/
def themeNamed (name : Data) (d : Int) : Data :=
  written "Module" d (100 + d) [
    ("imported", written "ImportDeclaration" d (5 + d) [
      ("specifiers", .list [written "ImportSpecifier" (1 + d) (2 + d) [
        ("local", written "Identifier" (1 + d) (2 + d) [("value", .text "createTheme")])]]),
      ("source", written "StringLiteral" (3 + d) (4 + d) [("value", .text "@stylexjs/stylex")])]),
    ("declared", written "VariableDeclarator" (10 + d) (90 + d) [
      ("init", written "CallExpression" (10 + d) (70 + d) [
        ("callee", written "Identifier" (60 + d) (65 + d) [("value", .text "createTheme")]),
        ("theme", written "KeyValueProperty" (20 + d) (50 + d) [
          ("key", written "Identifier" (30 + d) (35 + d) [("value", .text "color")]),
          ("value", written "StringLiteral" (40 + d) (45 + d) [("value", .text "red")])])]),
      ("id", written "Identifier" (80 + d) (85 + d) [("value", name)])])]

/-- A theme whose name is a node. -/
def nodeNamed (d : Int) : Data :=
  themeNamed (written "Identifier" (3 + d) (4 + d) [("value", .text "x")]) d

theorem Hover.onProperty_found {query : Query} {node : Node} {nesting : Nesting}
    {parent : Option Node} {survey : Survey Hover} {api : Api} {key : Label}
    {value keyNode : { inner : Node // inner.size < node.size }} {span : Span}
    {folded : Result} {rule : Rule}
    (inside : nesting.inside = some api) (keyed : keyOf? survey.table nesting node = .ok (some key))
    (valued : node.child "value" = .ok value) (flat : (value.val.isKind .objectExpression ||
      value.val.isKind .arrowFunctionExpression) = false)
    (plain : isKeyframesCall survey.table value.val = .ok false)
    (named : node.child "key" = .ok keyNode) (placed : survey.place keyNode.val = .ok span)
    (near : span.contains query.cursor = true)
    (evaluated : Fold.eval survey.table value.val = .ok folded)
    (ruled : ruleOf? query.settings nesting api key folded = .ok (some rule))
    (long : ¬ rule.lines.length ≤ 2) :
    onProperty query node nesting parent survey =
      .ok .abort (survey.report ⟨rule.text, span, folded⟩
        ("found hover " ++ span.shown ++ " " ++ rule.text)) := by
  simp [onProperty, bind, EStateM.bind, Walk.get_apply, inside, keyed, Walk.attempt,
    pure, EStateM.pure, valued, flat, plain, named, placed, near, evaluated, ruled,
    long, Walk.set_apply]

theorem Completion.onString_found {query : Query} {node : Node} {context : Context}
    {parent : Option Node}
    {survey : Survey Completion} {span : Span} {name : String} {value : Label}
    (wanted : (context.inside.isNone || decide (context.property = some (.text freeProperty))) =
      false)
    (placed : survey.place node = .ok span) (near : span.contains query.cursor = true)
    (spelled : ((context.property.filter fun label => !label.isEmpty).getD
      customProperty).spelling = .ok name)
    (read : node.label "value" = .ok value) :
    onString query node context parent survey =
      .ok .abort (survey.report ⟨Css.dashify name, value, span⟩
      ("found completion context " ++ shown ⟨Css.dashify name, value, span⟩)) := by
  simp [onString, bind, EStateM.bind, Walk.get_apply, wanted, placed, near, Walk.attempt,
    pure, EStateM.pure, spelled, read, Walk.set_apply]

theorem hover_nodeNamed {d : Int} (near : d = 0 ∨ d = 1) :
    (Hover.find ⟨32, {}, 0⟩ false (nodeNamed d)).outcome = .ok (some
      ⟨".<Identifier span=" ++ (Span.mk (3 + d) (4 + d)).shownPair ++
        "> \x7b\n  --color: red;\n\x7d", ⟨30, 35⟩,
          .value (.string "red") (some ⟨40 + d, 45 + d⟩)⟩) := by
  have opened : Node.ofData (nodeNamed d) = .ok ⟨some .moduleUnit, some ⟨d, 100 + d⟩, _⟩ := rfl
  rcases near with rfl | rfl
  all_goals
    refine Survey.outcome_of_reaches opened rfl ?_
    -- The file and its import.
    refine Walk.reaches_next rfl rfl rfl ?_
    refine Walk.reaches_children rfl rfl (by simp) rfl rfl
      (Walk.seatsLeft_sorted rfl (by decide)) ?_
    refine Walk.reaches_next rfl rfl rfl ?_
    refine Walk.reaches_next rfl rfl rfl ?_
    refine Walk.reaches_next rfl rfl rfl ?_
    -- The declarator and the call in it.
    refine Walk.reaches_next rfl rfl rfl ?_
    refine Walk.reaches_children rfl rfl (by simp) rfl rfl
      (Walk.seatsLeft_sorted rfl (by decide)) ?_
    refine Walk.reaches_next rfl rfl rfl ?_
    refine Walk.reaches_children rfl rfl (by simp) rfl rfl
      (Walk.seatsLeft_sorted rfl (by decide)) ?_
    refine Walk.reaches_next rfl rfl rfl ?_
    exact Walk.reaches_abort rfl rfl (Hover.onProperty_found rfl rfl rfl rfl rfl rfl rfl
      (by decide) (by rw [Fold.eval]; rfl) rfl (by decide)) ⟨_, _, rfl, rfl, rfl⟩

end Theme

end StyleFold
