import StyleFold.Proofs.Walk.Omission
import StyleFold.Proofs.Walk.SourceOrder

/-!
The arrangement of children. They come by where they start, and in field order where they start
together; one without a span follows the child before it in field order at once. What is ignored is
taken out of the row and leaves the rest as it stands. Main statements: how children are arranged,
and that ignoring more paths drops exactly the children that these lead to.
-/

namespace StyleFold.Walk

section Places

/-- Where a child is sorted: at the start of its span or, without one, of
the last span before it. -/
def startAt (row : List Node) (index : Nat) : Int :=
  ((((row.take (index + 1)).filterMap Node.span).getLast?).map Span.start).getD (-1)

/-- A row of children put in order; `order` says which child of the row comes when. -/
structure Arrangement (row sorted : List Node) (order : List Nat) : Prop where
  complete : order.Perm (List.range row.length)
  listed : sorted.map some = order.map (row[·]?)
  ordered : order.Pairwise fun i j =>
    startAt row i < startAt row j ∨ (startAt row i = startAt row j ∧ i < j)
  attached : ∀ i node, row[i + 1]? = some node → node.span = none → [i, i + 1] <:+: order

variable {row : List Node} {node : Node} {index : Nat}

theorem getElem?_placed (start : Int) (row : List Node) (index : Nat) :
    (placed start row)[index]? = row[index]?.map fun node =>
      ((((row.take (index + 1)).filterMap Node.span).getLast?.map Span.start).getD start,
        node) := by
  induction row generalizing start index with
  | nil => rfl
  | cons node rest ih =>
      cases index with
      | zero => cases known : node.span <;> simp [placed, known]
      | succ index =>
          rw [placed, List.getElem?_cons_succ, ih, List.getElem?_cons_succ, List.take_succ_cons]
          congr
          funext other
          -- The span of the first child counts when none after it has one.
          cases known : node.span with
          | none => simp [known]
          | some span =>
              simp only [List.filterMap_cons, known, List.getLast?_cons, Option.map_some,
                Option.getD_some]
              cases ((rest.take (index + 1)).filterMap Node.span).getLast? <;> rfl

theorem startAt_succ (written : row[index + 1]? = some node) (bare : node.span = none) :
    startAt row (index + 1) = startAt row index := by
  have longer : row.take (index + 1 + 1) = row.take (index + 1) ++ [node] := by
    rw [List.take_add_one, written, Option.toList_some]
  simp [startAt, longer, bare]

theorem infix_of_pairwise {α : Type} {before : α → α → Prop} {sorted : List α} {a b : α}
    (asymm : ∀ a b, before a b → ¬ before b a) (ordered : sorted.Pairwise before)
    (first : a ∈ sorted) (second : b ∈ sorted) (next : before a b)
    (between : ∀ c ∈ sorted, before a c → ¬ before c b) :
    [a, b] <:+: sorted := by
  obtain ⟨front, back, rfl⟩ := List.append_of_mem first
  obtain ⟨-, tail, across⟩ := List.pairwise_append.mp ordered
  obtain ⟨after, later⟩ := List.pairwise_cons.mp tail
  rcases List.mem_append.mp second with ahead | here
  · exact absurd (across b ahead a List.mem_cons_self) (asymm a b next)
  · rcases List.mem_cons.mp here with rfl | behind
    · exact absurd next (asymm b b next)
    · cases back with
      | nil => cases behind
      | cons c rest =>
          rcases List.mem_cons.mp behind with rfl | beyond
          · exact ⟨front, rest, by simp⟩
          · exact absurd ((List.pairwise_cons.mp later).1 b beyond)
              (between c (by simp) (after c List.mem_cons_self))

/-! The sort by places is stable, so it is the sort of the children with their
numbers in field order. -/

def numbered (row : List Node) : List ((Int × Node) × Nat) :=
  (placed (-1) row).zipIdx.mergeSort (List.zipIdxLE fun a b => decide (a.1 ≤ b.1))

theorem inOrder_eq_numbered (row : List Node) :
    inOrder row = (numbered row).map fun entry => entry.1.2 := by
  rw [inOrder, ← List.mergeSort_zipIdx, List.map_map]
  rfl

theorem numbered_entry {entry : (Int × Node) × Nat} (member : entry ∈ numbered row) :
    row[entry.2]? = some entry.1.2 ∧ entry.1.1 = startAt row entry.2 := by
  have there := List.mem_zipIdx_iff_getElem?.mp (List.mem_mergeSort.mp member)
  rw [getElem?_placed] at there
  obtain ⟨node, written, same⟩ := Option.map_eq_some_iff.mp there
  rw [← same]
  exact ⟨written, rfl⟩

theorem numbered_complete (row : List Node) :
    ((numbered row).map Prod.snd).Perm (List.range row.length) := by
  have numbers := (List.mergeSort_perm (placed (-1) row).zipIdx
    (List.zipIdxLE fun a b => decide (a.1 ≤ b.1))).map Prod.snd
  rwa [List.zipIdx_map_snd, ← List.range_eq_range', ← List.length_map (f := Prod.snd),
    map_snd_placed] at numbers

theorem numbered_ordered (row : List Node) : ((numbered row).map Prod.snd).Pairwise fun i j =>
    startAt row i < startAt row j ∨ (startAt row i = startAt row j ∧ i < j) := by
  have sorted : (numbered row).Pairwise
      fun a b => List.zipIdxLE (fun a b : Int × Node => decide (a.1 ≤ b.1)) a b = true :=
    List.pairwise_mergeSort (List.zipIdxLE_trans place_trans) (List.zipIdxLE_total place_total) _
  have distinct := List.pairwise_map.mp ((numbered_complete row).nodup_iff.mpr List.nodup_range)
  rw [List.pairwise_map]
  refine (sorted.and distinct).imp_of_mem fun {a b} left right both => ?_
  obtain ⟨inOrder, differ⟩ := both
  rw [← (numbered_entry left).2, ← (numbered_entry right).2]
  simp only [List.zipIdxLE, decide_eq_true_eq] at inOrder
  split at inOrder
  · split at inOrder
    · have := of_decide_eq_true inOrder
      omega
    · omega
  · cases inOrder

/-- Sorting by places keeps field order where places are the same, and so keeps a child without a
span behind the one before it. -/
theorem exists_arrangement (row : List Node) : ∃ order, Arrangement row (inOrder row) order := by
  have complete := numbered_complete row
  have ordered := numbered_ordered row
  refine ⟨_, complete, ?_, ordered, ?_⟩
  · rw [inOrder_eq_numbered, List.map_map, List.map_map]
    exact List.map_congr_left fun entry member => (numbered_entry member).1.symm
  · intro i node written bare
    have same := startAt_succ written bare
    have last : i + 1 < row.length := (List.getElem?_eq_some_iff.mp written).1
    have first : i < row.length := Nat.lt_of_succ_lt last
    refine infix_of_pairwise (fun a b => ?_) ordered
      (complete.mem_iff.mpr (List.mem_range.mpr first))
      (complete.mem_iff.mpr (List.mem_range.mpr last))
      (.inr ⟨same.symm, Nat.lt_succ_self i⟩) fun c _ => ?_
    · omega
    · omega

end Places

/-! What is collected when more paths are ignored. A run that ends well collects the
seats that are left, whatever else the tree holds, and it ends well with more paths
ignored, as less is looked into. -/

section Collected

variable {ignore more : List String}

theorem not_contains_of_subset {path : String} (within : ignore ⊆ more)
    (left : more.contains path = false) :
    ignore.contains path = false := by
  rw [← Bool.not_eq_true, List.contains_iff_mem] at left ⊢
  exact fun member => left (within member)

mutual

theorem collect_left (within : ignore ⊆ more) (path : String) (data : Data) {found : List Position}
    (run : collect ignore path data = .ok found) :
    collect more path data = .ok (leftBelow more path (seatsIn data)) := by
  match data with
  | .map entries =>
      cases there : more.contains path with
      | true => simp only [collect, there, if_true, leftBelow_of_contains _ there]
      | false =>
          simp only [collect, not_contains_of_subset within there, there,
            Bool.false_eq_true, if_false, seatsIn] at run ⊢
          cases opened : Node.ofEntries entries with
          | error fault => simp [opened] at run
          | ok node =>
              simp only [opened] at run ⊢
              split at run
              · rename_i tagged
                simp only [tagged, if_true, leftBelow, List.filter_cons, blocked,
                  there, Bool.not_false]
                rfl
              · rename_i record
                rw [if_neg record, if_neg record,
                  collectFields_left within (extend path) 0 entries run,
                  leftFields_extend 0 entries there]
  -- Lists and pairs have no tag, so only the path decides whether they are looked through.
  | .list items =>
      cases there : more.contains path with
      | true => simp only [collect, there, if_true, leftBelow_of_contains _ there]
      | false =>
          simp only [collect, not_contains_of_subset within there, there,
            Bool.false_eq_true, if_false, seatsIn] at run ⊢
          exact collectItems_left within path 0 items there run
  | .pair key value =>
      cases there : more.contains path with
      | true => simp only [collect, there, if_true, leftBelow_of_contains _ there]
      | false =>
          simp only [collect, not_contains_of_subset within there, there,
            Bool.false_eq_true, if_false, seatsIn] at run ⊢
          split at run
          · cases run
          · rename_i first
            split at run
            · cases run
            · rename_i second
              simp only [collect_left within _ key first, collect_left within _ value second,
                leftBelow_append, leftBelow_under _ _ there]
  | .null | .bool _ | .int _ | .float _ | .text _ | .bytes _ | .moment _ | .set _ | .cycle _ =>
      simp [collect, seatsIn, leftBelow]

theorem collectFields_left (within : ignore ⊆ more) (pathOf : String → String) (start : Nat)
    (entries : Entries) {found : List Position}
    (run : collectFields ignore pathOf entries = .ok found) :
    collectFields more pathOf entries =
      .ok (leftFields more pathOf (fieldSeats start entries)) := by
  match entries with
  | [] => rfl
  | (key, value) :: rest =>
      simp only [collectFields, fieldSeats] at run ⊢
      split at run
      · rename_i reserved
        simp only [reserved, if_true, List.nil_append]
        exact collectFields_left within pathOf (start + 1) rest run
      · rename_i free
        rw [if_neg free, if_neg free]
        split at run
        · cases run
        · split at run
          · cases run
          · rename_i first
            split at run
            · cases run
            · rename_i others
              simp only [collect_left within _ value first,
                collectFields_left within pathOf (start + 1) rest others, leftFields_append,
                leftFields_under]

theorem collectItems_left (within : ignore ⊆ more) (path : String) (start : Nat) (items : List Data)
    (there : more.contains path = false) {found : List Position}
    (run : collectItems ignore path start items = .ok found) :
    collectItems more path start items = .ok (leftBelow more path (itemSeats start items)) := by
  match items with
  | [] => rfl
  | item :: rest =>
      simp only [collectItems, itemSeats] at run ⊢
      split at run
      · cases run
      · rename_i first
        split at run
        · cases run
        · rename_i others
          simp only [collect_left within _ item first,
            collectItems_left within path (start + 1) rest there others, leftBelow_append,
            leftBelow_under _ _ there]

end

variable {node : Node} {row : List Node}

theorem positions_left {found : List Position} (within : ignore ⊆ more)
    (run : positions node ignore = .ok found) :
    positions node more = .ok (leftFields more id (seats node)) :=
  collectFields_left within id 0 node.entries run

theorem children_left (within : ignore ⊆ more) (run : children node ignore = .ok row) :
    children node more = .ok ((seatsLeft node more).map Seat.node) := by
  unfold children at run
  cases collected : positions node ignore with
  | error fault => simp [collected, Except.map] at run
  | ok found =>
      rw [children, positions_left within collected, Except.map, map_node_leftFields, seatsLeft,
        map_node_arranged]

theorem Holds.tagged {data : Data} {trail : Trail} (held : Holds data trail node) :
    node.kind.isSome := by
  induction held with
  | node _ tagged => exact tagged
  | field _ _ _ _ _ ih => exact ih
  | item _ _ ih => exact ih
  | first _ ih => exact ih
  | second _ ih => exact ih

theorem positions_tagged {found : List Position} (run : positions node ignore = .ok found) :
    ∀ position ∈ found, position.node.kind.isSome := by
  have left := positions_left (List.Subset.refl ignore) run
  rw [run, Except.ok.injEq] at left
  intro position member
  have seated := List.mem_map_of_mem (f := Position.node) member
  rw [left, map_node_leftFields] at seated
  obtain ⟨⟨trail, child⟩, inside, same⟩ := List.mem_map.mp seated
  obtain ⟨_, _, held⟩ := mem_seats.mp (List.mem_filter.mp inside).1
  rw [← same]
  exact held.tagged

/-- The children of a node are the tagged positions that are collected, each sorted by where
it starts, in field order where places are the same, and those without a span directly
behind what is before them. -/
theorem children_arranged (node : Node) (ignore : List String) :
    (∀ fault, positions node ignore = .error fault → children node ignore = .error fault) ∧
    ∀ found, positions node ignore = .ok found →
      (∀ position ∈ found, position.node.kind.isSome) ∧
      ∃ sorted order, children node ignore = .ok sorted ∧ sorted.Perm (found.map Position.node) ∧
        Arrangement (found.map Position.node) sorted order := by
  constructor
  · intro fault collected
    rw [children, collected]
    rfl
  · intro found collected
    obtain ⟨order, arranged⟩ := exists_arrangement (found.map Position.node)
    refine ⟨positions_tagged collected, _, order, ?_, inOrder_perm _, arranged⟩
    rw [children, collected]
    rfl

/-- A statement that is not placed. -/
def unplaced : Node where
  kind := some .emptyStatement
  span := none
  entries := [(.text "type", .text "EmptyStatement")]

/-- A module that ends with its first statement. -/
def straggling : Node where
  kind := some .moduleUnit
  span := none
  entries := [(.text "type", .text "Module"), (.text "last", .map (statementAt 10 12).entries),
    (.text "next", .map unplaced.entries), (.text "first", .map (statementAt 3 5).entries)]

/-- The statement that is not placed moves behind the first one together with the one before it. -/
theorem children_straggling :
    positions straggling [] =
      .ok [⟨"last", statementAt 10 12⟩, ⟨"next", unplaced⟩, ⟨"first", statementAt 3 5⟩] ∧
    children straggling [] = .ok [statementAt 3 5, statementAt 10 12, unplaced] := by
  have collected : positions straggling [] =
      .ok [⟨"last", statementAt 10 12⟩, ⟨"next", unplaced⟩, ⟨"first", statementAt 3 5⟩] := rfl
  obtain ⟨-, sorted, order, run, -, arranged⟩ := (children_arranged straggling []).2 _ collected
  refine ⟨collected, run.trans ?_⟩
  -- No other order of the three has the second directly behind the first and the third before them.
  have only : order = [2, 0, 1] := by
    refine List.Perm.eq_of_pairwise (fun a b _ _ => ?_) arranged.ordered ?_
      (arranged.complete.trans (by decide))
    · omega
    · simp [startAt, statementAt, unplaced]
  have listed : sorted.map some = [statementAt 3 5, statementAt 10 12, unplaced].map some := by
    rw [arranged.listed, only]
    rfl
  rw [List.map_injective_iff.mpr (fun _ _ => Option.some.inj) listed]

end Collected

section Ignored

variable {ignore more : List String} {node : Node} {row : List Node}

theorem Trail.begins_mono {trail : Trail} (within : ignore ⊆ more) (begins : trail.Begins ignore) :
    trail.Begins more := by
  obtain ⟨start, some, ahead, member⟩ := begins
  exact ⟨start, some, ahead, within member⟩

instance (trail : Trail) (paths : List String) : Decidable (trail.Begins paths) :=
  decidable_of_iff _ (blockedField_iff paths trail)

theorem mergeSort_filter {α : Type} {le : α → α → Bool}
    (trans : ∀ a b c, le a b = true → le b c = true → le a c = true)
    (total : ∀ a b, (le a b || le b a) = true) (keeps : α → Bool) (list : List α) :
    (list.filter keeps).mergeSort le = (list.mergeSort le).filter keeps := by
  have filter_comm (test : α → Bool) (rest : List α) :
      (rest.filter keeps).filter test = (rest.filter test).filter keeps := by
    simp only [List.filter_filter, Bool.and_comm]
  induction list with
  | nil => simp
  | cons a rest ih =>
      cases kept : keeps a with
      | true =>
          rw [List.filter_cons_of_pos kept, mergeSort_cons_filter trans total,
            mergeSort_cons_filter trans total, List.filter_append, List.filter_cons_of_pos kept, ih,
            filter_comm, filter_comm]
      | false =>
          have dropped : ¬ keeps a = true := by simp [kept]
          obtain ⟨first, second, whole, less, _⟩ := List.mergeSort_cons trans total a rest
          rw [List.filter_cons_of_neg dropped, ih, whole, less, List.filter_append,
            List.filter_append, List.filter_cons_of_neg dropped]

theorem placedSeats_eq_map {found : List Seat}
    (spanned : ∀ seat ∈ found, seat.node.span.isSome = true) (start : Int) :
    placedSeats start found = found.map fun seat => (startOf seat.node, seat) := by
  rw [← map_snd_placedSeats start found, List.map_map, map_snd_placedSeats]
  refine (List.map_id _).symm.trans (List.map_congr_left fun pair member => ?_)
  exact Prod.ext (placedSeats_start spanned start pair member) rfl

theorem arranged_filter {found : List Seat} (spanned : ∀ seat ∈ found, seat.node.span.isSome = true)
    (keeps : Seat → Bool) : arranged (found.filter keeps) = (arranged found).filter keeps := by
  have fewer : ∀ seat ∈ found.filter keeps, seat.node.span.isSome = true := fun seat member =>
    spanned seat (List.mem_of_mem_filter member)
  let place : Seat → Int × Seat := fun seat => (startOf seat.node, seat)
  have seated : (found.filter keeps).map place = (found.map place).filter fun pair =>
    keeps pair.2 := by
    rw [List.filter_map]
    rfl
  rw [arranged, arranged, placedSeats_eq_map spanned, placedSeats_eq_map fewer, seated,
    mergeSort_filter place_trans place_total, List.filter_map]
  rfl

theorem seatsLeft_filter (spanned : ∀ seat ∈ seatsLeft node ignore, seat.node.span.isSome = true)
    (within : ignore ⊆ more) :
    seatsLeft node more = (seatsLeft node ignore).filter fun seat =>
      decide (¬ seat.trail.Begins more) := by
  have narrower (seat : Seat) : (!blockedField more id seat.trail) =
      (decide (¬ seat.trail.Begins more) && !blockedField ignore id seat.trail) := by
    have still : blockedField ignore id seat.trail = true →
        blockedField more id seat.trail = true := by
      rw [blockedField_iff, blockedField_iff]
      exact Trail.begins_mono within
    rw [Bool.eq_iff_iff, Bool.and_eq_true, decide_eq_true_iff, ← blockedField_iff,
      Bool.not_eq_true', Bool.not_eq_true', Bool.not_eq_true]
    constructor
    · intro kept
      refine ⟨kept, Bool.eq_false_iff.mpr fun cut => ?_⟩
      rw [still cut] at kept
      cases kept
    · exact And.left
  rw [seatsLeft, seatsLeft, ← arranged_filter, List.filter_filter]
  · simp only [narrower]
  · exact fun seat member => spanned seat ((arranged_perm _).mem_iff.mpr member)

/-- A module whose statements are held in two rows. -/
def interleaved : Node where
  kind := some .moduleUnit
  span := none
  entries := [(.text "type", .text "Module"),
    (.text "body", .list [.map (statementAt 0 1).entries, .map (statementAt 4 5).entries]),
    (.text "rest", .list [.map (statementAt 2 3).entries])]

end Ignored

end StyleFold.Walk
