import StyleFold.Proofs.Tree.Shift
import StyleFold.Proofs.Walk.Agenda

/-!
Positions and what is above them. Main statement: at every moment of a walk, the nodes
that are still to be left after a duty are the tagged ancestors of its node, from the
innermost to the outermost.
-/

namespace StyleFold.Walk

section Ancestors

def childAt (node : Node) (trail : Trail) : Option Node :=
  ((seats node).find? fun seat => seat.trail = trail).map Seat.node

def nodeAt : Node → Address → Option Node
  | node, [] => some node
  | node, trail :: rest => (childAt node trail).bind fun child => nodeAt child rest

def lineage : Node → Address → List (Address × Node)
  | _, [] => []
  | node, trail :: rest =>
      ([], node) :: match childAt node trail with
        | some child => (lineage child rest).map fun above => (trail :: above.1, above.2)
        | none => []

variable {root node : Node} {address : Address} {trail : Trail}

theorem childAt_of_mem {seat : Seat} (member : seat ∈ seats node) :
    childAt node seat.trail = some seat.node := by
  have unique := nodup_seats node
  unfold childAt
  generalize seats node = found at member unique
  induction found with
  | nil => cases member
  | cons first rest ih =>
      simp only [List.map_cons, List.nodup_cons] at unique
      rcases List.mem_cons.mp member with rfl | later
      · simp
      · have apart : first.trail ≠ seat.trail := fun same =>
          unique.1 (same ▸ List.mem_map_of_mem later)
        rw [List.find?_cons_of_neg (by simpa using apart)]
        exact ih later unique.2

theorem nodeAt_snoc (found : nodeAt root address = some node) (trail : Trail) :
    nodeAt root (address ++ [trail]) = childAt node trail := by
  induction address generalizing root with
  | nil =>
      cases found
      simp [nodeAt]
  | cons first rest ih =>
      simp only [nodeAt, List.cons_append] at found ⊢
      cases below : childAt root first with
      | none => simp [below] at found
      | some child =>
          simp only [below, Option.bind_some] at found ⊢
          exact ih found

theorem lineage_snoc (found : nodeAt root address = some node) (trail : Trail) :
    lineage root (address ++ [trail]) = lineage root address ++ [(address, node)] := by
  induction address generalizing root with
  | nil =>
      cases found
      simp only [List.nil_append, lineage]
      cases childAt node trail <;> rfl
  | cons first rest ih =>
      simp only [nodeAt] at found
      simp only [List.cons_append, lineage]
      cases below : childAt root first with
      | none => simp [below] at found
      | some child =>
          simp only [below, Option.bind_some] at found
          simp [ih found]

theorem child_of_childAt {child : Node} (found : childAt node trail = some child) :
    Child node trail child := by
  unfold childAt at found
  cases seated : (seats node).find? fun seat => seat.trail = trail with
  | none => simp [seated] at found
  | some seat =>
      simp only [seated, Option.map_some, Option.some.injEq] at found
      have same : seat.trail = trail := by simpa using List.find?_some seated
      subst found same
      exact mem_seats.mp (List.mem_of_find?_eq_some seated)

theorem nodeAt_lineage {above : Address × Node} (found : nodeAt root address = some node)
    (member : above ∈ lineage root address) : nodeAt root above.1 = some above.2 := by
  induction address generalizing root above with
  | nil => simp [lineage] at member
  | cons first rest ih =>
      simp only [nodeAt] at found
      cases below : childAt root first with
      | none => simp [below] at found
      | some child =>
          simp only [below, Option.bind_some] at found
          simp only [lineage, below, List.mem_cons, List.mem_map] at member
          rcases member with rfl | ⟨inner, inside, rfl⟩
          · rfl
          · simpa [nodeAt, below] using ih found inside

theorem prefix_of_lineage {above : Address × Node} (member : above ∈ lineage root address) :
    above.1 <+: address ∧ above.1 ≠ address := by
  induction address generalizing root above with
  | nil => simp [lineage] at member
  | cons first rest ih =>
      rcases List.mem_cons.mp member with rfl | inside
      · simp
      · cases below : childAt root first with
        | none => simp [below] at inside
        | some child =>
            simp only [below, List.mem_map] at inside
            obtain ⟨inner, deeper, rfl⟩ := inside
            simpa using ih deeper

theorem nodup_lineage (root : Node) (address : Address) :
    ((lineage root address).map Prod.fst).Nodup := by
  induction address generalizing root with
  | nil => simp [lineage]
  | cons first rest ih =>
      simp only [lineage, List.map_cons, List.nodup_cons]
      cases childAt root first with
      | none => simp
      | some child =>
          refine ⟨by simp, ?_⟩
          have inner := (ih child).map (List.cons_injective : Function.Injective (List.cons first))
          simpa [List.map_map, Function.comp_def] using inner

theorem located_of_nodeAt (found : nodeAt root address = some node) :
    Located root address node := by
  induction address generalizing root with
  | nil =>
      cases found
      exact .here _
  | cons first rest ih =>
      simp only [nodeAt] at found
      cases below : childAt root first with
      | none => simp [below] at found
      | some child =>
          simp only [below, Option.bind_some] at found
          exact .step (child_of_childAt below) (ih found)

theorem nodeAt_of_located (located : Located root address node) :
    nodeAt root address = some node := by
  induction located with
  | here => rfl
  | step first rest ih => simp [nodeAt, childAt_of_mem (mem_seats.mpr first), ih]

theorem nodeAt_append (root : Node) (address rest : Address) :
    nodeAt root (address ++ rest) = (nodeAt root address).bind fun node => nodeAt node rest := by
  induction address generalizing root with
  | nil => rfl
  | cons first others ih =>
      simp only [List.cons_append, nodeAt]
      cases childAt root first with
      | none => rfl
      | some child => exact ih child

theorem child_of_located {parent : Node} {place : Address} (located : Located root address node)
    (above : nodeAt root place = some parent) (begins : place ++ [trail] <+: address) :
    ∃ child, Child parent trail child := by
  obtain ⟨rest, rfl⟩ := begins
  have found := nodeAt_of_located located
  rw [List.append_assoc, nodeAt_append, above] at found
  cases below : childAt parent trail with
  | none => simp [nodeAt, below] at found
  | some child => exact ⟨child, child_of_childAt below⟩

end Ancestors

section Whole

variable {property : Entries → Prop}

theorem each_entry {entries : Entries} {index : Nat} {key value : Data}
    (each : EachField property entries) (entry : entries[index]? = some (key, value))
    (free : Node.isReserved key = false) : value.Each property := by
  induction entries generalizing index with
  | nil => simp at entry
  | cons first rest ih =>
      obtain ⟨other, data⟩ := first
      cases index with
      | zero =>
          simp only [List.getElem?_cons_zero, Option.some.injEq, Prod.mk.injEq] at entry
          obtain ⟨rfl, rfl⟩ := entry
          exact each.1 free
      | succ index => exact ih each.2 (by simpa using entry)

theorem each_item {items : List Data} {index : Nat} {item : Data} (each : EachItem property items)
    (entry : items[index]? = some item) : item.Each property := by
  induction items generalizing index with
  | nil => simp at entry
  | cons first rest ih =>
      cases index with
      | zero =>
          simp only [List.getElem?_cons_zero, Option.some.injEq] at entry
          exact entry ▸ each.1
      | succ index => exact ih each.2 (by simpa using entry)

theorem each_holds {data : Data} {trail : Trail} {node : Node} (holds : Holds data trail node)
    (each : data.Each property) : (Data.map node.entries).Each property := by
  induction holds with
  | node opened => rwa [Node.entries_of_ofEntries opened]
  | field _ _ entry free _ ih => exact ih (each_entry each.2 entry free)
  | item entry _ ih => exact ih (each_item each entry)
  | first _ ih => exact ih each.1
  | second _ ih => exact ih each.2

theorem opened_holds {data : Data} {trail : Trail} {node : Node} (holds : Holds data trail node) :
    Node.ofEntries node.entries = .ok node := by
  induction holds with
  | node opened => exact ofEntries_self opened
  | field _ _ _ _ _ ih | item _ _ ih | first _ ih | second _ ih => exact ih

theorem each_child {parent node : Node} {trail : Trail} (child : Child parent trail node)
    (each : EachField property parent.entries) : (Data.map node.entries).Each property := by
  cases child with
  | field entry free inside => exact each_holds inside (each_entry each entry free)

theorem opened_child {parent node : Node} {trail : Trail} (child : Child parent trail node) :
    Node.ofEntries node.entries = .ok node := by
  cases child with
  | field _ _ inside => exact opened_holds inside

theorem opened_located {root node : Node} {address : Address} (located : Located root address node)
    (opened : Node.ofEntries root.entries = .ok root) : Node.ofEntries node.entries = .ok node := by
  induction located with
  | here => exact opened
  | step first _ ih => exact ih (opened_child first)

end Whole

section Order

variable {State : Type} {root : Node} {duty : Duty State} {rest more : List (Duty State)}

def pending (agenda : List (Duty State)) : List (Address × Node) :=
  (agenda.filter (·.stage = .leave)).map fun duty => (duty.task.address, duty.task.node)

/-- A duty is at its place, and its ancestors are still to be left after it. -/
structure Duty.Placed (root : Node) (duty : Duty State) (rest : List (Duty State)) : Prop where
  node : nodeAt root duty.task.address = some duty.task.node
  parent : duty.task.parent = (lineage root duty.task.address).getLast?.map Prod.snd
  behind : pending rest = (lineage root duty.task.address).reverse

def Orderly (root : Node) : List (Duty State) → Prop
  | [] => True
  | duty :: rest => duty.Placed root rest ∧ Orderly root rest

theorem pending_below (task : Task State) (found : List Seat) (rest : List (Duty State)) :
    pending (task.below found ++ rest) = (task.address, task.node) :: pending rest := by
  have none : (found.map fun seat => Duty.arrive (task.child seat)).filter
      (·.stage = .leave) = [] := by
    simp [List.filter_eq_nil_iff, Duty.arrive]
  simp [pending, Task.below, none, Duty.leave]

theorem orderly_start (root : Node) (state : State) :
    Orderly root [.arrive (rootTask root state)] :=
  ⟨⟨rfl, rfl, rfl⟩, trivial⟩

theorem orderly_below {task : Task State} {found : List Seat}
    (place : (Duty.leave task).Placed root rest) (orderly : Orderly root rest)
    (seated : ∀ seat ∈ found, seat ∈ seats task.node) :
    Orderly root (task.below found ++ rest) := by
  induction found with
  | nil => exact ⟨place, orderly⟩
  | cons seat others ih =>
      have above : lineage root (task.address ++ [seat.trail]) =
          lineage root task.address ++ [(task.address, task.node)] :=
            lineage_snoc place.node seat.trail
      refine ⟨⟨?_, ?_, ?_⟩, ih fun seat member => seated seat (List.mem_cons_of_mem _ member)⟩
      · exact (nodeAt_snoc place.node seat.trail).trans
          (childAt_of_mem (seated seat List.mem_cons_self))
      · simp [Duty.arrive, Task.child, above]
      · refine (pending_below task others rest).trans ?_
        simpa [Duty.arrive, Duty.leave, Task.child, above] using place.behind

theorem orderly_next {action : Action State} (orderly : Orderly root (duty :: rest))
    (next : duty.Next action more) : Orderly root (more ++ rest) := by
  obtain ⟨⟨node, parent, behind⟩, later⟩ := orderly
  have seated {ignore : List String} (seat : Seat)
      (member : seat ∈ seatsLeft duty.task.node ignore) :
      seat ∈ seats duty.task.node :=
    mem_seats.mpr (mem_seatsLeft.mp member).1
  cases next with
  | nothing => exact later
  | enter early applied => exact ⟨⟨node, parent, behind⟩, later⟩
  | skip entering skips => exact orderly_below ⟨node, parent, behind⟩ later (by simp)
  | below entering applied collected => exact orderly_below ⟨node, parent, behind⟩ later seated

theorem Orderly.around (orderly : Orderly root (duty :: rest)) {other : Duty State}
    (member : other ∈ rest) (leaving : other.stage = .leave) :
    other.task.address <+: duty.task.address ∧ other.task.address ≠ duty.task.address := by
  have due : (other.task.address, other.task.node) ∈ pending rest :=
    List.mem_map.mpr ⟨other, List.mem_filter.mpr ⟨member, by simpa using leaving⟩, rfl⟩
  rw [orderly.1.behind, List.mem_reverse] at due
  exact prefix_of_lineage due

/-- What is still to be visited lies apart, and nothing below it has been visited. -/
structure Unvisited {World : Type} (agenda : List (Duty State))
    (past : List (Occasion State World)) :
    Prop where
  apart : agenda.Pairwise fun duty other => duty.stage ≠ .leave → other.stage ≠ .leave →
    ¬ duty.task.address <+: other.task.address ∧ ¬ other.task.address <+: duty.task.address
  fresh : ∀ duty ∈ agenda, duty.stage ≠ .leave → ∀ event ∈ past, event.call.stage ≠ .leave →
    duty.task.address <+: event.address → duty.task.address = event.address

section Visiting

variable {World : Type} {past new : List (Occasion State World)}

theorem unvisited_start (root : Node) (state : State) :
    Unvisited [.arrive (rootTask root state)] ([] : List (Occasion State World)) :=
  ⟨List.pairwise_singleton .., by simp⟩

theorem unvisited_below {task : Task State} {found : List Seat}
    (distinct : (found.map Seat.trail).Nodup) (outside : ∀ other ∈ rest, other.stage ≠ .leave →
      ¬ task.address <+: other.task.address ∧ ¬ other.task.address <+: task.address)
    (inside : ∀ event ∈ past, event.call.stage ≠ .leave → task.address <+: event.address →
      task.address = event.address) (later : Unvisited rest past) :
    Unvisited (task.below found ++ rest) past := by
  have deeper (seat : Seat) : task.address <+: task.address ++ [seat.trail] := List.prefix_append ..
  -- Siblings differ in their trails, so neither address begins the other.
  induction found with
  | nil =>
      refine ⟨List.pairwise_cons.mpr ⟨?_, later.apart⟩, ?_⟩
      · intro other _ entering
        exact absurd rfl entering
      · intro duty member early
        rcases List.mem_cons.mp member with rfl | old
        · exact absurd rfl early
        · exact later.fresh duty old early
  | cons seat others ih =>
      simp only [List.map_cons, List.nodup_cons] at distinct
      obtain ⟨apart, fresh⟩ := ih distinct.2
      refine ⟨List.pairwise_cons.mpr ⟨?_, apart⟩, ?_⟩
      · intro other member _ early
        rcases List.mem_append.mp member with sibling | old
        · rcases List.mem_append.mp sibling with child | last
          · obtain ⟨seat', present, rfl⟩ := List.mem_map.mp child
            have differs : seat.trail ≠ seat'.trail := fun same =>
              distinct.1 (same ▸ List.mem_map_of_mem present)
            simp [Duty.arrive, Task.child, List.prefix_append_right_inj, differs, differs.symm]
          · rw [List.mem_singleton.mp last] at early
            exact absurd rfl early
        · obtain ⟨above, below⟩ := outside other old early
          refine ⟨fun first => above ((deeper seat).trans first), fun second => ?_⟩
          rcases List.prefix_concat_iff.mp second with same | shorter
          · exact above (same ▸ deeper seat)
          · exact below shorter
      · intro duty member early event happened entering reaches
        rcases List.mem_cons.mp member with rfl | old
        -- A call below the node would have been one at the node itself, and that address is
        -- shorter.
        · have same := inside event happened entering ((deeper seat).trans reaches)
          have long := reaches.length_le
          rw [← same] at long
          simp only [Duty.arrive, Task.child, List.length_append, List.length_singleton] at long
          omega
        · exact fresh duty old early event happened entering reaches

theorem unvisited_next {action : Action State} (unvisited : Unvisited (duty :: rest) past)
    (next : duty.Next action more)
    (here : ∀ event ∈ new, event.address = duty.task.address ∧ event.call.stage = duty.stage) :
    Unvisited (more ++ rest) (past ++ new) := by
  obtain ⟨apart, fresh⟩ := unvisited
  obtain ⟨outside, apart⟩ := List.pairwise_cons.mp apart
  -- A node that is just being visited is not below any that is still to be visited.
  have later : Unvisited rest (past ++ new) := by
    refine ⟨apart, fun other member early event happened entering reaches => ?_⟩
    rcases List.mem_append.mp happened with old | added
    · exact fresh other (List.mem_cons_of_mem _ member) early event old entering reaches
    · obtain ⟨place, stage⟩ := here event added
      rw [stage] at entering
      rw [place] at reaches
      exact absurd reaches (outside other member entering early).2
  have own (entering : duty.stage = .enter) (event : Occasion State World)
      (happened : event ∈ past ++ new)
      (entered : event.call.stage ≠ .leave) (reaches : duty.task.address <+: event.address) :
      duty.task.address = event.address := by
    rcases List.mem_append.mp happened with old | added
    · exact fresh duty List.mem_cons_self (by simp [entering]) event old entered reaches
    · exact (here event added).1.symm
  cases next with
  | nothing => exact later
  | enter early applied =>
      refine ⟨List.pairwise_cons.mpr ⟨fun other member _ => ?_, apart⟩, ?_⟩
      · exact outside other member (by simp [early])
      · intro other member visiting event happened entering reaches
        rcases List.mem_cons.mp member with rfl | old
        · rcases List.mem_append.mp happened with before | added
          · exact fresh duty List.mem_cons_self (by simp [early]) event before entering reaches
          · exact (here event added).1.symm
        · exact later.fresh other old visiting event happened entering reaches
  | skip entering skips =>
      exact unvisited_below (by simp)
        (fun other member => outside other member (by simp [entering])) (own entering) later
  | below entering applied collected =>
      exact unvisited_below (nodup_seatsLeft _ _)
        (fun other member => outside other member (by simp [entering])) (own entering) later

end Visiting

end Order

end StyleFold.Walk
