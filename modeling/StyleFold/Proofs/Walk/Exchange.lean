import StyleFold.Proofs.Fold.Exchange
import StyleFold.Proofs.Walk.Pair
import StyleFold.Proofs.Walk.Shift

/-!
Children of nodes in trees that differ in the value of one property. They correspond one by one, in
the same source order, as long as the two values have the same span.
-/

namespace StyleFold.Walk

section Nodes

/-- Nodes at one place in both trees: views of one mapping or, where that can be, the
nodes that were exchanged. -/
inductive Counterpart (old new : Node) (possible : Prop) : Node → Node → Prop where
  | view {node other : Node} {site : Site} (twin : Twins old new site node other) :
      Counterpart old new possible node other
  | exchanged (here : possible) : Counterpart old new possible old new

/-- Two tagged nodes with the same span, one in the place of the other. -/
structure Exchange (old new : Node) : Prop extends Opened old new where
  tagged : old.kind.isSome
  retagged : new.kind.isSome
  span : new.span = old.span

variable {old new node other : Node} {possible : Prop}

theorem Counterpart.span (exchange : Exchange old new)
    (here : Counterpart old new possible node other) :
    other.span = node.span := by
  cases here with
  | view twin => exact twin.span
  | exchanged => exact exchange.span

end Nodes

section Collecting

variable {old new : Node} {possible : Prop} {site : Site} {ignore : List String}

abbrev Places (old new : Node) (possible : Prop) (found others : List Position) : Prop :=
  List.Forall₂ (fun position other => Counterpart old new possible position.node other.node)
    found others

theorem places_refl (found : List Position) : Places old new possible found found :=
  List.forall₂_same.mpr fun position _ => .view (.same position.node : Twins old new .part _ _)

theorem places_mono {nearby : Prop} {found others : List Position} (imp : nearby → possible)
    (places : Places old new nearby found others) : Places old new possible found others := by
  refine places.imp fun position other here => ?_
  generalize position.node = node, other.node = further at here
  cases here with
  | view twin => exact .view twin
  | exchanged here => exact .exchanged (imp here)

theorem collect_unscoped {path : String} {data : Data} {fault : Fault}
    (failed : collect ignore path data = .error fault) : fault.family ≠ .scope :=
  unscoped_of_agree (agree_collect ignore path data (each_movable_zero data)) failed

theorem collectFields_unscoped {pathOf : String → String} {entries : Entries} {fault : Fault}
    (failed : collectFields ignore pathOf entries = .error fault) : fault.family ≠ .scope :=
  unscoped_of_agree (agree_collectFields ignore pathOf entries
    (each_movable_zero (.map entries)).2) failed

theorem collectItems_unscoped {path : String} {index : Nat} {items : List Data} {fault : Fault}
    (failed : collectItems ignore path index items = .error fault) : fault.family ≠ .scope :=
  unscoped_of_agree
    (agree_collectItems ignore path index items (each_movable_zero (.list items))) failed

theorem agree_collectFields_middle (pathOf : String → String) (before after : Entries)
    {key part further : Data} (free : Node.isReserved key = false)
    (checks : Node.check further = Node.check part)
    (inside : ∀ path, Agree 0 (Places old new possible) (collect ignore path part)
      (collect ignore path further)) :
    Agree 0 (Places old new possible) (collectFields ignore pathOf (before ++ (key, part) :: after))
      (collectFields ignore pathOf (before ++ (key, further) :: after)) := by
  induction before with
  | nil =>
      have here := inside (pathOf key.plain)
      simp only [List.nil_append, collectFields, free, checks, Bool.false_eq_true, if_false]
      generalize collect ignore (pathOf key.plain) part = a,
        collect ignore (pathOf key.plain) further = b at here
      cases checked : Node.check part with
      | error fault => exact agree_fault (check_unscoped checked)
      | ok =>
          cases here with
          | fault reworded => exact .fault reworded
          | ok found =>
              cases rest : collectFields ignore pathOf after with
              | error fault => exact agree_fault (collectFields_unscoped rest)
              | ok others => exact .ok (List.rel_append found (places_refl others))
  | cons entry rest ih =>
      obtain ⟨name, value⟩ := entry
      simp only [List.cons_append, collectFields]
      split
      · exact ih
      · cases checked : Node.check value with
        | error fault => exact agree_fault (check_unscoped checked)
        | ok =>
            cases here : collect ignore (pathOf name.plain) value with
            | error fault => exact agree_fault (collect_unscoped here)
            | ok found =>
                dsimp only
                generalize collectFields ignore pathOf (rest ++ (key, part) :: after) = a,
                  collectFields ignore pathOf (rest ++ (key, further) :: after) = b at ih
                cases ih with
                | fault reworded => exact .fault reworded
                | ok others => exact .ok (List.rel_append (places_refl found) others)

theorem agree_collectItems_middle (path : String) (index : Nat) (front back : List Data)
    {part further : Data}
    (inside : ∀ path, Agree 0 (Places old new possible) (collect ignore path part)
      (collect ignore path further)) :
    Agree 0 (Places old new possible) (collectItems ignore path index (front ++ part :: back))
      (collectItems ignore path index (front ++ further :: back)) := by
  induction front generalizing index with
  | nil =>
      have here := inside (extend path (toString index))
      simp only [List.nil_append, collectItems]
      generalize collect ignore (extend path (toString index)) part = a,
        collect ignore (extend path (toString index)) further = b at here
      cases here with
      | fault reworded => exact .fault reworded
      | ok found =>
          cases rest : collectItems ignore path (index + 1) back with
          | error fault => exact agree_fault (collectItems_unscoped rest)
          | ok others => exact .ok (List.rel_append found (places_refl others))
  | cons first rest ih =>
      have onward := ih (index + 1)
      simp only [List.cons_append, collectItems]
      cases here : collect ignore (extend path (toString index)) first with
      | error fault => exact agree_fault (collect_unscoped here)
      | ok found =>
          dsimp only
          generalize collectItems ignore path (index + 1) (rest ++ part :: back) = a,
            collectItems ignore path (index + 1) (rest ++ further :: back) = b at onward
          cases onward with
          | fault reworded => exact .fault reworded
          | ok others => exact .ok (List.rel_append (places_refl found) others)

/-- Corresponding nodes are found at the same paths. A mapping without a tag is no property, so the
nodes that were exchanged are not found through it. -/
theorem agree_collectExchanged (exchange : Exchange old new) {data further : Data}
    (exchanged : Exchanged old new site data further) (path : String) :
    Agree 0 (Places old new (site = .value)) (collect ignore path data)
      (collect ignore path further) := by
  -- On the way from the data down to the nodes that were exchanged: only what lies on it differs.
  induction exchanged generalizing path with
  | here =>
      simp only [collect]
      split
      · exact .ok .nil
      · simp only [exchange.first, exchange.second, exchange.tagged, exchange.retagged, if_true]
        exact .ok (.cons (.exchanged (by trivial)) .nil)
  | @field site before after key part further free unwritten inside ih =>
      have fields := agree_collectFields_middle (extend path) before after free
        (check_exchanged exchange.toOpened inside) ih
      simp only [collect]
      split
      · exact .ok .nil
      · have views := agree_mono (agree_openedField free unwritten inside)
          fun node other first _ twin => (⟨twin, writtenKind_of_opened first⟩ :
            Twins old new site node other ∧
            writtenKind (before ++ (key, part) :: after) = node.kind)
        generalize Node.ofEntries (before ++ (key, part) :: after) = a,
          Node.ofEntries (before ++ (key, further) :: after) = b at views
        cases views with
        | fault reworded => exact .fault reworded
        | @ok node other here =>
            obtain ⟨twin, kind⟩ := here
            dsimp only
            rw [twin.kind]
            split
            · exact .ok (.cons (.view twin) .nil)
            -- A record is looked through field by field, and one of them leads on to the exchanged
            -- nodes.
            · rename_i untagged
              have record : node.kind = none := by simpa using untagged
              refine agree_mono fields fun _ _ _ _ places => places_mono ?_ places
              simp [kind, record, Site.ofField]
  | @item site front back part further inside ih =>
      simp only [collect]
      split
      · exact .ok .nil
      · refine agree_collectItems_middle path 0 front back fun path => ?_
        exact agree_mono (ih path) fun _ _ _ _ places =>
          places_mono (by cases site <;> simp [Site.ofItem]) places
  | @first _ key further value inside ih =>
      have here := ih (extend path "0")
      simp only [collect]
      split
      · exact .ok .nil
      · generalize collect ignore (extend path "0") key = a,
          collect ignore (extend path "0") further = b at here
        cases here with
        | fault reworded => exact .fault reworded
        | ok found =>
            cases rest : collect ignore (extend path "1") value with
            | error fault => exact agree_fault (collect_unscoped rest)
            | ok others =>
                exact .ok (List.rel_append (places_mono (by simp) found) (places_refl others))
  | @second _ key value further inside ih =>
      have there := ih (extend path "1")
      simp only [collect]
      split
      · exact .ok .nil
      · cases front : collect ignore (extend path "0") key with
        | error fault => exact agree_fault (collect_unscoped front)
        | ok found =>
            dsimp only
            generalize collect ignore (extend path "1") value = a,
              collect ignore (extend path "1") further = b at there
            cases there with
            | fault reworded => exact .fault reworded
            | ok others =>
                exact .ok (List.rel_append (places_refl found) (places_mono (by simp) others))

end Collecting

section Order

theorem forall₂_placed {relation : Node → Node → Prop}
    (spans : ∀ node other, relation node other → other.span = node.span) {nodes others : List Node}
    (each : List.Forall₂ relation nodes others) (start : Int) :
    List.Forall₂ (fun here there => there.1 = here.1 ∧ relation here.2 there.2) (placed start nodes)
      (placed start others) := by
  induction each generalizing start with
  | nil => exact .nil
  | @cons node other rest others first later ih =>
      simp only [placed, spans node other first]
      exact .cons ⟨rfl, first⟩ (ih _)

theorem forall₂_inOrder {relation : Node → Node → Prop}
    (spans : ∀ node other, relation node other → other.span = node.span) {nodes others : List Node}
    (each : List.Forall₂ relation nodes others) :
    List.Forall₂ relation (inOrder nodes) (inOrder others) := by
  have placing := forall₂_placed spans each (-1)
  rw [List.forall₂_iff_zip] at placing
  obtain ⟨length, pairs⟩ := placing
  -- Both lists are sorted by sorting the list of their pairs.
  have first : (placed (-1) nodes).mergeSort (fun a b => decide (a.1 ≤ b.1)) =
      (((placed (-1) nodes).zip (placed (-1) others)).mergeSort
        fun a b => decide (a.1.1 ≤ b.1.1)).map Prod.fst := by
    rw [List.map_mergeSort (s := fun a b : Int × Node => decide (a.1 ≤ b.1)) fun _ _ _ _ => rfl,
      List.map_fst_zip (by omega)]
  have second : (placed (-1) others).mergeSort (fun a b => decide (a.1 ≤ b.1)) =
      (((placed (-1) nodes).zip (placed (-1) others)).mergeSort
        fun a b => decide (a.1.1 ≤ b.1.1)).map Prod.snd := by
    rw [List.map_mergeSort (s := fun a b : Int × Node => decide (a.1 ≤ b.1)) fun a
      left b right => ?_, List.map_snd_zip (by omega)]
    rw [(pairs left).1, (pairs right).1]
  rw [inOrder, inOrder, first, second, List.map_map, List.map_map, List.forall₂_map_left_iff,
    List.forall₂_map_right_iff, List.forall₂_same]
  intro pair member
  exact (pairs (List.mem_mergeSort.mp member)).2

variable {old new node other : Node} {site : Site}

theorem agree_childrenTwins (exchange : Exchange old new) (twin : Twins old new site node other)
    (ignore : List String) :
    Agree 0 (List.Forall₂ (Counterpart old new (node.kind = some .keyValueProperty)))
      (children node ignore) (children other ignore) := by
  have fields : Agree 0 (Places old new (node.kind = some .keyValueProperty))
      (positions node ignore) (positions other ignore) := by
    cases twin with
    | same =>
        cases found : positions node ignore with
        | error fault => exact agree_fault (collectFields_unscoped found)
        | ok list => exact .ok (places_refl list)
    | @field kind span before after key part further free unwritten inside =>
        refine agree_collectFields_middle id before after free
          (check_exchanged exchange.toOpened inside) fun path => ?_
        refine agree_mono (agree_collectExchanged exchange inside path) fun _ _ _ _ places =>
          places_mono (fun value => ?_) places
        by_contra other
        rw [ofField_apart (.inr other)] at value
        unfold Site.ofField at value
        split at value
        · cases value
        · simp at value
  refine agree_map fields fun found others each => ?_
  refine forall₂_inOrder (fun _ _ here => here.span exchange) ?_
  rw [List.forall₂_map_left_iff, List.forall₂_map_right_iff]
  exact each

end Order

section Duties

variable {State : Type} {old new : Node} {task duty : Duty State}

def Relatives (old new node other : Node) : Prop :=
  Twins old new .part node other ∨
    (node.isKind .variableDeclarator = false ∧ other.isKind .variableDeclarator = false)

/-- Duties of one stage at views of one mapping, with the same state. -/
structure Corresponds (old new : Node) (task duty : Duty State) : Prop where
  stage : duty.stage = task.stage
  ignore : duty.ignore = task.ignore
  state : duty.task.state = task.task.state
  node : ∃ site, Twins old new site task.task.node duty.task.node
  parent : Option.Rel (Relatives old new) task.task.parent duty.task.parent

/-- Duties that correspond, or arrivals at the nodes that were exchanged. -/
inductive Meets (old new : Node) : Duty State → Duty State → Prop where
  | alike {task duty : Duty State} (corresponds : Corresponds old new task duty) :
      Meets old new task duty
  | exchanged {task duty : Duty State} (early : task.stage = .wildcard) (ignored : task.ignore = [])
      (late : duty.stage = .wildcard) (first : task.task.node = old) (second : duty.task.node = new)
      (state : duty.task.state = task.task.state)
      (parent : ∃ above, task.task.parent = some above ∧ above.isKind .variableDeclarator = false) :
      Meets old new task duty

theorem relatives_of_twins {site : Site} {node other : Node}
    (twin : Twins old new site node other) :
    Relatives old new node other := by
  by_cases pair : node.kind = some .keyValueProperty
  · right
    rw [twin.isKind, Node.isKind, pair]
    decide
  · exact .inl (twins_part twin (.inr pair))

theorem meets_below {task duty : Task State} (state : duty.state = task.state)
    (node : ∃ site, Twins old new site task.node duty.node)
    (parent : Option.Rel (Relatives old new) task.parent duty.parent) {found others : List Seat}
    (each : List.Forall₂ (Counterpart old new (task.node.kind = some .keyValueProperty))
      (found.map Seat.node) (others.map Seat.node)) :
    List.Forall₂ (Meets old new) (Task.below task found) (Task.below duty others) := by
  obtain ⟨site, twin⟩ := node
  induction found generalizing others with
  | nil =>
      cases others with
      | nil => exact .cons (.alike ⟨rfl, rfl, state, ⟨site, twin⟩, parent⟩) .nil
      | cons => cases each
  | cons seat rest ih =>
      cases others with
      | nil => cases each
      | cons seat' others =>
          simp only [List.map_cons, List.forall₂_cons] at each
          refine .cons ?_ (ih each.2)
          have family : Option.Rel (Relatives old new) (some task.node) (some duty.node) :=
            .some (relatives_of_twins twin)
          have here := each.1
          obtain ⟨trail, child⟩ := seat
          obtain ⟨trail', child'⟩ := seat'
          dsimp only at here
          cases here with
          | view inner => exact .alike ⟨rfl, rfl, state, ⟨_, inner⟩, family⟩
          | exchanged pair =>
              refine .exchanged rfl rfl rfl rfl rfl state ⟨task.node, rfl, ?_⟩
              rw [Node.isKind, pair]
              rfl

theorem applyAction_unscoped {action : Action State} {state : State} {ignore : List String}
    {fault : Fault} (failed : applyAction action state ignore = .error fault) :
    fault.family ≠ .scope := by
  cases action <;> cases failed <;> decide

theorem agree_nextTwins (exchange : Exchange old new) (corresponds : Corresponds old new task duty)
    (action : Action State) :
    Agree 0 (List.Forall₂ (Meets old new)) (task.next action) (duty.next action) := by
  obtain ⟨_, task, _⟩ := task
  obtain ⟨stage, duty, ignore⟩ := duty
  obtain ⟨staged, ignored, state, node, parent⟩ := corresponds
  dsimp only at staged ignored state node parent
  subst staged ignored
  cases stage with
  | leave => exact .ok .nil
  | wildcard =>
      by_cases skips : action = .skipChildren
      · subst skips
        exact .ok .nil
      · rw [next_wildcard skips, next_wildcard skips, state]
        cases applied : applyAction action task.state [] with
        | error fault => exact agree_fault (applyAction_unscoped applied)
        | ok pair => exact .ok (.cons (.alike ⟨rfl, rfl, rfl, node, parent⟩) .nil)
  | enter =>
      by_cases skips : action = .skipChildren
      · subst skips
        exact .ok (.cons (.alike ⟨rfl, rfl, state, node, parent⟩) .nil)
      · rw [next_enter skips, next_enter skips, state]
        cases applied : applyAction action task.state ignore with
        | error fault => exact agree_fault (applyAction_unscoped applied)
        | ok pair =>
            obtain ⟨next, paths⟩ := pair
            obtain ⟨site, twin⟩ := node
            simp only [Fold.ok_bind]
            refine agree_bind (agree_mono (agree_childrenTwins exchange twin paths)
              fun found others first second each => (⟨each, first, second⟩ :
                List.Forall₂ (Counterpart old new (task.node.kind = some .keyValueProperty))
                  found others ∧
                  children task.node paths = .ok found ∧ children duty.node paths = .ok others))
              fun found others here => .ok ?_
            obtain ⟨each, first, second⟩ := here
            rw [children_ok first, children_ok second] at each
            exact @meets_below State old new { task with state := next } { duty with state := next }
              rfl ⟨site, twin⟩ parent _ _ each

end Duties

end StyleFold.Walk
