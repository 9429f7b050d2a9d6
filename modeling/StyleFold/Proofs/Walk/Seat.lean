import StyleFold.Walk.Children
import Mathlib.Data.List.Nodup

/-!
Where the tagged nodes of a tree are. A trail leads from a node through untagged records and lists
to a tagged child; an address is a row of trails from the root down. For well-tagged trees the
positions that a walk collects are exactly the children whose trail has no ignored beginning, each
once, and its source order is an arrangement of these.
-/

namespace StyleFold.Walk

/-- One step below a node: the place of an entry or item, and the name it has in dotted paths. -/
structure Step where
  index : Nat
  name : String
  deriving DecidableEq, Repr

abbrev Trail := List Step

abbrev Address := List Trail

namespace Trail

def dotted (trail : Trail) : String := ".".intercalate (trail.map Step.name)

/-- Some beginning of the trail, as a dotted path, is among the paths. -/
def Begins (trail : Trail) (paths : List String) : Prop :=
  ∃ start : Trail, start ≠ [] ∧ start <+: trail ∧ start.dotted ∈ paths

end Trail

section Positions

inductive Holds : Data → Trail → Node → Prop where
  | node {entries : Entries} {node : Node} (opened : Node.ofEntries entries = .ok node)
      (tagged : node.kind.isSome) : Holds (.map entries) [] node
  | field {entries : Entries} {view node : Node} {index : Nat} {key value : Data} {trail : Trail}
      (opened : Node.ofEntries entries = .ok view) (untagged : view.kind = none)
      (entry : entries[index]? = some (key, value)) (free : Node.isReserved key = false)
      (inside : Holds value trail node) :
      Holds (.map entries) (⟨index, key.plain⟩ :: trail) node
  | item {items : List Data} {node : Node} {index : Nat} {item : Data} {trail : Trail}
      (entry : items[index]? = some item) (inside : Holds item trail node) :
      Holds (.list items) (⟨index, toString index⟩ :: trail) node
  | first {key value : Data} {node : Node} {trail : Trail} (inside : Holds key trail node) :
      Holds (.pair key value) (⟨0, "0"⟩ :: trail) node
  | second {key value : Data} {node : Node} {trail : Trail} (inside : Holds value trail node) :
      Holds (.pair key value) (⟨1, "1"⟩ :: trail) node

/-- A tagged child of a node: its nearest tagged ancestor is the node. -/
inductive Child (parent : Node) : Trail → Node → Prop where
  | field {node : Node} {index : Nat} {key value : Data} {trail : Trail}
      (entry : parent.entries[index]? = some (key, value)) (free : Node.isReserved key = false)
      (inside : Holds value trail node) : Child parent (⟨index, key.plain⟩ :: trail) node

/-- A tagged position of the tree below a root. -/
inductive Located : Node → Address → Node → Prop where
  | here (root : Node) : Located root [] root
  | step {root child node : Node} {trail : Trail} {address : Address}
      (first : Child root trail child) (rest : Located child address node) :
      Located root (trail :: address) node

end Positions

section Tagging

def hasKnownTag (entries : Entries) : Bool :=
  match Data.lookup? "type" entries with
  | none | some .null => true
  | some (.text tag) => (Kind.ofTag? tag).isSome
  | some _ => false

/-- A span with both ends has whole numbers there. -/
def hasWholeSpan (entries : Entries) : Bool :=
  match Data.lookup? "span" entries with
  | some (.map bounds) =>
      match Data.lookup? "start" bounds, Data.lookup? "end" bounds with
      | some (.int _), some (.int _) => true
      | some _, some _ => false
      | _, _ => true
  | _ => true

mutual

def wellTagged : Data → Bool
  | .map entries => hasKnownTag entries && hasWholeSpan entries && wellTaggedFields entries
  | .list items => wellTaggedItems items
  | .pair key value => wellTagged key && wellTagged value
  | _ => true

def wellTaggedFields : Entries → Bool
  | [] => true
  | (key, value) :: rest => (Node.isReserved key || wellTagged value) && wellTaggedFields rest

def wellTaggedItems : List Data → Bool
  | [] => true
  | item :: rest => wellTagged item && wellTaggedItems rest

end

/-- All that a node holds is well-tagged. -/
def WellTagged (node : Node) : Prop := wellTaggedFields node.entries = true

theorem kindOf_of_hasKnownTag {entries : Entries} (known : hasKnownTag entries = true) :
    ∃ kind, Node.kindOf (Data.lookup? "type" entries) = .ok kind := by
  unfold hasKnownTag at known
  split at known
  · rename_i absent
    exact ⟨none, by rw [absent]; rfl⟩
  · rename_i null
    exact ⟨none, by rw [null]; rfl⟩
  · rename_i tag written
    obtain ⟨kind, found⟩ := Option.isSome_iff_exists.mp known
    exact ⟨some kind, by simp [written, Node.kindOf, found]⟩
  · cases known

theorem spanOf_of_hasWholeSpan {entries : Entries} (whole : hasWholeSpan entries = true) :
    ∃ span, Node.spanOf (Data.lookup? "span" entries) = .ok span := by
  unfold hasWholeSpan at whole
  split at whole
  · rename_i bounds written
    rw [written]
    split at whole
    · rename_i start stop first last
      exact ⟨some ⟨start, stop⟩, by simp [Node.spanOf, first, last, Node.boundOf, bind,
        Except.bind, pure, Except.pure]⟩
    · cases whole
    · rename_i missing
      refine ⟨none, ?_⟩
      cases starts : Data.lookup? "start" bounds with
      | none => simp [Node.spanOf, starts]
      | some first =>
          cases ends : Data.lookup? "end" bounds with
          | none => simp [Node.spanOf, starts, ends]
          | some last => exact absurd ends (missing first last starts)
  · rename_i missing
    refine ⟨none, ?_⟩
    unfold Node.spanOf
    split
    · rename_i bounds written
      exact absurd written (missing bounds)
    · rfl

theorem opens_of_wellTagged {entries : Entries} (valid : wellTagged (.map entries) = true) :
    ∃ node, Node.ofEntries entries = .ok node ∧ WellTagged node := by
  simp only [wellTagged, Bool.and_eq_true] at valid
  obtain ⟨⟨known, whole⟩, fields⟩ := valid
  obtain ⟨kind, kinds⟩ := kindOf_of_hasKnownTag known
  obtain ⟨span, spans⟩ := spanOf_of_hasWholeSpan whole
  refine ⟨⟨kind, span, entries⟩, ?_, fields⟩
  simp [Node.ofEntries, kinds, spans, bind, Except.bind, pure, Except.pure]

mutual

theorem check_of_wellTagged (data : Data) (valid : wellTagged data = true) :
    Node.check data = .ok () := by
  match data with
  | .map entries =>
      obtain ⟨node, opened, _⟩ := opens_of_wellTagged valid
      simp [Node.check, opened, Except.map]
  | .list items => exact checkAll_of_wellTagged items valid
  | .pair key value =>
      simp only [wellTagged, Bool.and_eq_true] at valid
      simp [Node.check, check_of_wellTagged key valid.1, check_of_wellTagged value valid.2]
  | .null | .bool _ | .int _ | .float _ | .text _ | .bytes _ | .moment _ | .set _ | .cycle _ =>
      simp [Node.check]

theorem checkAll_of_wellTagged (items : List Data) (valid : wellTaggedItems items = true) :
    Node.checkAll items = .ok () := by
  match items with
  | [] => rfl
  | item :: rest =>
      simp only [wellTaggedItems, Bool.and_eq_true] at valid
      simp [Node.checkAll, check_of_wellTagged item valid.1, checkAll_of_wellTagged rest valid.2]

end

end Tagging

section Seats

/-- A child with the trail that leads to it. -/
structure Seat where
  trail : Trail
  node : Node

def Seat.under (step : Step) (seat : Seat) : Seat := ⟨step :: seat.trail, seat.node⟩

mutual

def seatsIn : Data → List Seat
  | .map entries =>
      match Node.ofEntries entries with
      | .ok node => if node.kind.isSome then [⟨[], node⟩] else fieldSeats 0 entries
      | .error _ => []
  | .list items => itemSeats 0 items
  | .pair key value =>
      (seatsIn key).map (Seat.under ⟨0, "0"⟩) ++ (seatsIn value).map (Seat.under ⟨1, "1"⟩)
  | _ => []

def fieldSeats (index : Nat) : Entries → List Seat
  | [] => []
  | (key, value) :: rest =>
      (if Node.isReserved key then [] else (seatsIn value).map (Seat.under ⟨index, key.plain⟩)) ++
        fieldSeats (index + 1) rest

def itemSeats (index : Nat) : List Data → List Seat
  | [] => []
  | item :: rest =>
      (seatsIn item).map (Seat.under ⟨index, toString index⟩) ++ itemSeats (index + 1) rest

end

def seats (node : Node) : List Seat := fieldSeats 0 node.entries

theorem mem_map_under {step : Step} {found : List Seat} {trail : Trail} {node : Node} :
    ⟨trail, node⟩ ∈ found.map (Seat.under step) ↔
      ∃ rest, trail = step :: rest ∧ ⟨rest, node⟩ ∈ found := by
  constructor
  · intro member
    obtain ⟨⟨rest, inner⟩, present, same⟩ := List.mem_map.mp member
    cases same
    exact ⟨rest, rfl, present⟩
  · rintro ⟨rest, rfl, present⟩
    exact List.mem_map_of_mem (f := Seat.under step) present

mutual

theorem mem_seatsIn (data : Data) (trail : Trail) (node : Node) :
    ⟨trail, node⟩ ∈ seatsIn data ↔ Holds data trail node := by
  match data with
  | .map entries =>
      simp only [seatsIn]
      cases opened : Node.ofEntries entries with
      | error fault =>
          constructor
          · intro member
            cases member
          · intro held
            cases held with
            | node opened' _ => simp [opened] at opened'
            | field opened' => simp [opened] at opened'
      -- A tagged node is found as it stands, a mapping without a tag is looked through.
      | ok view =>
          cases kind : view.kind with
          | some tag =>
              constructor
              · intro member
                simp only [kind, Option.isSome_some, if_true, List.mem_singleton,
                  Seat.mk.injEq] at member
                obtain ⟨rfl, rfl⟩ := member
                exact .node opened (by simp [kind])
              · intro held
                cases held with
                | node opened' _ =>
                    rw [opened] at opened'
                    cases opened'
                    simp [kind]
                | field opened' untagged =>
                    rw [opened] at opened'
                    cases opened'
                    simp [kind] at untagged
          | none =>
              simp only [kind, Option.isSome_none, Bool.false_eq_true, if_false]
              rw [mem_fieldSeats]
              constructor
              · rintro ⟨index, key, value, rest, entry, free, rfl, inside⟩
                rw [Nat.zero_add]
                exact .field opened kind entry free inside
              · intro held
                cases held with
                | node opened' tagged =>
                    rw [opened] at opened'
                    cases opened'
                    simp [kind] at tagged
                | field _ _ entry free inside =>
                    exact ⟨_, _, _, _, entry, free, by rw [Nat.zero_add], inside⟩
  | .list items =>
      simp only [seatsIn]
      rw [mem_itemSeats]
      constructor
      · rintro ⟨index, item, rest, entry, rfl, inside⟩
        rw [Nat.zero_add]
        exact .item entry inside
      · intro held
        cases held with
        | item entry inside => exact ⟨_, _, _, entry, by rw [Nat.zero_add], inside⟩
  | .pair key value =>
      simp only [seatsIn, List.mem_append, mem_map_under, mem_seatsIn key, mem_seatsIn value]
      constructor
      · rintro (⟨rest, rfl, inside⟩ | ⟨rest, rfl, inside⟩)
        · exact .first inside
        · exact .second inside
      · intro held
        cases held with
        | first inside => exact Or.inl ⟨_, rfl, inside⟩
        | second inside => exact Or.inr ⟨_, rfl, inside⟩
  | .null | .bool _ | .int _ | .float _ | .text _ | .bytes _ | .moment _ | .set _ | .cycle _ =>
      simp only [seatsIn, List.not_mem_nil, false_iff]
      intro held
      cases held

theorem mem_fieldSeats (start : Nat) (entries : Entries) (trail : Trail) (node : Node) :
    ⟨trail, node⟩ ∈ fieldSeats start entries ↔
      ∃ index key value rest, entries[index]? = some (key, value) ∧ Node.isReserved key = false ∧
        trail = ⟨start + index, key.plain⟩ :: rest ∧ Holds value rest node := by
  match entries with
  | [] => simp [fieldSeats]
  | (key, value) :: others =>
      simp only [fieldSeats, List.mem_append]
      rw [mem_fieldSeats (start + 1) others]
      constructor
      · rintro (here | ⟨index, key', value', rest, entry, free, rfl, inside⟩)
        · cases reserved : Node.isReserved key with
          | true => simp [reserved] at here
          | false =>
              simp only [reserved, Bool.false_eq_true, if_false, mem_map_under] at here
              obtain ⟨rest, rfl, inside⟩ := here
              exact ⟨0, key, value, rest, rfl, reserved, rfl,
                (mem_seatsIn value rest node).mp inside⟩
        · refine ⟨index + 1, key', value', rest, entry, free, ?_, inside⟩
          rw [Nat.add_right_comm, Nat.add_assoc]
      · rintro ⟨index, key', value', rest, entry, free, rfl, inside⟩
        cases index with
        | zero =>
            cases entry
            refine Or.inl ?_
            simp only [free, Bool.false_eq_true, if_false, mem_map_under]
            exact ⟨rest, rfl, (mem_seatsIn value rest node).mpr inside⟩
        | succ index =>
            refine Or.inr ⟨index, key', value', rest, entry, free, ?_, inside⟩
            rw [Nat.add_right_comm, Nat.add_assoc]

theorem mem_itemSeats (start : Nat) (items : List Data) (trail : Trail) (node : Node) :
    ⟨trail, node⟩ ∈ itemSeats start items ↔
      ∃ index item rest, items[index]? = some item ∧
        trail = ⟨start + index, toString (start + index)⟩ :: rest ∧ Holds item rest node := by
  match items with
  | [] => simp [itemSeats]
  | item :: others =>
      simp only [itemSeats, List.mem_append, mem_map_under, mem_seatsIn item]
      rw [mem_itemSeats (start + 1) others]
      constructor
      · rintro (⟨rest, rfl, inside⟩ | ⟨index, item', rest, entry, rfl, inside⟩)
        · exact ⟨0, item, rest, rfl, rfl, inside⟩
        · refine ⟨index + 1, item', rest, entry, ?_, inside⟩
          rw [Nat.add_right_comm, Nat.add_assoc]
      · rintro ⟨index, item', rest, entry, rfl, inside⟩
        cases index with
        | zero =>
            cases entry
            exact Or.inl ⟨rest, rfl, inside⟩
        | succ index =>
            refine Or.inr ⟨index, item', rest, entry, ?_, inside⟩
            rw [Nat.add_right_comm, Nat.add_assoc]

end

theorem mem_seats {parent node : Node} {trail : Trail} :
    ⟨trail, node⟩ ∈ seats parent ↔ Child parent trail node := by
  rw [seats, mem_fieldSeats]
  constructor
  · rintro ⟨index, key, value, rest, entry, free, rfl, inside⟩
    rw [Nat.zero_add]
    exact .field entry free inside
  · rintro ⟨entry, free, inside⟩
    exact ⟨_, _, _, _, entry, free, by rw [Nat.zero_add], inside⟩

theorem nodup_under {step : Step} {found : List Seat} (single : (found.map Seat.trail).Nodup) :
    ((found.map (Seat.under step)).map Seat.trail).Nodup := by
  have shape : (found.map (Seat.under step)).map Seat.trail =
      (found.map Seat.trail).map (List.cons step) := by
    simp [Seat.under, Function.comp_def]
  rw [shape]
  exact single.map (List.cons_injective)

theorem nodup_under_append {step : Step} {found others : List Seat}
    (single : (found.map Seat.trail).Nodup) (rest : (others.map Seat.trail).Nodup)
    (later : ∀ seat ∈ others, ∃ other tail, seat.trail = other :: tail ∧ step.index < other.index) :
    ((found.map (Seat.under step) ++ others).map Seat.trail).Nodup := by
  rw [List.map_append]
  refine List.nodup_append.mpr ⟨nodup_under single, rest, ?_⟩
  intro left first right second same
  obtain ⟨seat, present, rfl⟩ := List.mem_map.mp second
  obtain ⟨below, inside, rfl⟩ := List.mem_map.mp first
  obtain ⟨inner, _, rfl⟩ := List.mem_map.mp inside
  obtain ⟨other, tail, shape, order⟩ := later seat present
  rw [shape] at same
  cases same
  exact Nat.lt_irrefl _ order

mutual

theorem nodup_seatsIn (data : Data) : ((seatsIn data).map Seat.trail).Nodup := by
  match data with
  | .map entries =>
      simp only [seatsIn]
      split
      · split
        · simp
        · exact nodup_fieldSeats 0 entries
      · simp
  | .list items => exact nodup_itemSeats 0 items
  | .pair key value =>
      refine nodup_under_append (nodup_seatsIn key) (nodup_under (nodup_seatsIn value)) ?_
      intro seat member
      obtain ⟨inner, _, rfl⟩ := List.mem_map.mp member
      exact ⟨_, _, rfl, Nat.zero_lt_one⟩
  | .null | .bool _ | .int _ | .float _ | .text _ | .bytes _ | .moment _ | .set _ | .cycle _ =>
      simp [seatsIn]

theorem nodup_fieldSeats (start : Nat) (entries : Entries) :
    ((fieldSeats start entries).map Seat.trail).Nodup := by
  match entries with
  | [] => simp [fieldSeats]
  | (key, value) :: rest =>
      simp only [fieldSeats]
      split
      · exact nodup_fieldSeats (start + 1) rest
      · refine nodup_under_append (nodup_seatsIn value) (nodup_fieldSeats (start + 1) rest) ?_
        intro ⟨trail, node⟩ member
        obtain ⟨index, key', _, tail, _, _, shape, _⟩ :=
          (mem_fieldSeats _ rest trail node).mp member
        exact ⟨_, tail, shape, by dsimp only; omega⟩

theorem nodup_itemSeats (start : Nat) (items : List Data) :
    ((itemSeats start items).map Seat.trail).Nodup := by
  match items with
  | [] => simp [itemSeats]
  | item :: rest =>
      simp only [itemSeats]
      refine nodup_under_append (nodup_seatsIn item) (nodup_itemSeats (start + 1) rest) ?_
      intro ⟨trail, node⟩ member
      obtain ⟨index, _, tail, _, shape, _⟩ := (mem_itemSeats _ rest trail node).mp member
      exact ⟨_, tail, shape, by dsimp only; omega⟩

end

theorem nodup_seats (node : Node) : ((seats node).map Seat.trail).Nodup :=
  nodup_fieldSeats 0 node.entries

end Seats

/-! What is collected: the children whose trail has no ignored beginning. -/

section Ignoring

def blocked (ignore : List String) (path : String) : Trail → Bool
  | [] => ignore.contains path
  | step :: rest => ignore.contains path || blocked ignore (extend path step.name) rest

def Seat.at (path : String) (seat : Seat) : Position :=
  ⟨seat.trail.foldl (fun path step => extend path step.name) path, seat.node⟩

def leftBelow (ignore : List String) (path : String) (found : List Seat) : List Position :=
  (found.filter fun seat => !blocked ignore path seat.trail).map (Seat.at path)

/-- The same where the first step of a trail names a field, which has a path of its own. -/
def blockedField (ignore : List String) (pathOf : String → String) : Trail → Bool
  | [] => false
  | step :: rest => blocked ignore (pathOf step.name) rest

def Seat.ofField (pathOf : String → String) (seat : Seat) : Position :=
  match seat.trail with
  | [] => ⟨"", seat.node⟩
  | step :: rest => Seat.at (pathOf step.name) ⟨rest, seat.node⟩

def leftFields (ignore : List String) (pathOf : String → String) (found : List Seat) :
    List Position :=
  (found.filter fun seat => !blockedField ignore pathOf seat.trail).map (Seat.ofField pathOf)

theorem blocked_of_contains {ignore : List String} {path : String} (trail : Trail)
    (here : ignore.contains path = true) : blocked ignore path trail = true := by
  cases trail with
  | nil => exact here
  | cons step rest => rw [blocked, here, Bool.true_or]

theorem leftBelow_of_contains {ignore : List String} {path : String} (found : List Seat)
    (here : ignore.contains path = true) : leftBelow ignore path found = [] := by
  simp [leftBelow, blocked_of_contains _ here]

theorem leftBelow_under {ignore : List String} {path : String} (step : Step) (found : List Seat)
    (here : ignore.contains path = false) :
    leftBelow ignore path (found.map (Seat.under step)) =
      leftBelow ignore (extend path step.name) found := by
  have cut (trail : Trail) :
      blocked ignore path (step :: trail) = blocked ignore (extend path step.name) trail := by
    rw [blocked, here, Bool.false_or]
  simp only [leftBelow, List.filter_map, List.map_map, Function.comp_def, Seat.under, cut]
  rfl

theorem leftBelow_append {ignore : List String} {path : String} (first second : List Seat) :
    leftBelow ignore path (first ++ second) =
      leftBelow ignore path first ++ leftBelow ignore path second := by
  simp [leftBelow]

theorem leftFields_under (ignore : List String) (pathOf : String → String) (step : Step)
    (found : List Seat) :
    leftFields ignore pathOf (found.map (Seat.under step)) =
      leftBelow ignore (pathOf step.name) found := by
  simp only [leftFields, leftBelow, List.filter_map, List.map_map, Function.comp_def, Seat.under,
    blockedField]
  rfl

theorem leftFields_append (ignore : List String) (pathOf : String → String)
    (first second : List Seat) :
    leftFields ignore pathOf (first ++ second) =
      leftFields ignore pathOf first ++ leftFields ignore pathOf second := by
  simp [leftFields]

theorem leftFields_extend {ignore : List String} {path : String} (start : Nat) (entries : Entries)
    (here : ignore.contains path = false) :
    leftFields ignore (extend path) (fieldSeats start entries) =
      leftBelow ignore path (fieldSeats start entries) := by
  induction entries generalizing start with
  | nil => rfl
  | cons entry rest ih =>
      obtain ⟨key, value⟩ := entry
      simp only [fieldSeats, leftFields_append, leftBelow_append, ih]
      congr 1
      split
      · rfl
      · rw [leftFields_under, leftBelow_under _ _ here]

mutual

theorem collect_eq (ignore : List String) (path : String) (data : Data)
    (valid : wellTagged data = true) :
    collect ignore path data = .ok (leftBelow ignore path (seatsIn data)) := by
  match data with
  | .map entries =>
      obtain ⟨node, opened, fields⟩ := opens_of_wellTagged valid
      rw [WellTagged, Node.entries_of_ofEntries opened] at fields
      cases here : ignore.contains path with
      | true => simp only [collect, here, if_true, leftBelow_of_contains _ here]
      | false =>
          simp only [collect, here, Bool.false_eq_true, if_false, opened, seatsIn]
          -- A tagged mapping is a seat itself; a record hands its path on to its fields.
          split
          · simp only [leftBelow, List.filter_cons, blocked, here, Bool.not_false, if_true]
            rfl
          · rw [collectFields_eq ignore (extend path) 0 entries fields,
              leftFields_extend 0 entries here]
  | .list items =>
      cases here : ignore.contains path with
      | true => simp only [collect, here, if_true, leftBelow_of_contains _ here]
      | false =>
          simp only [collect, here, Bool.false_eq_true, if_false, seatsIn]
          exact collectItems_eq ignore path 0 items valid here
  | .pair key value =>
      simp only [wellTagged, Bool.and_eq_true] at valid
      cases here : ignore.contains path with
      | true => simp only [collect, here, if_true, leftBelow_of_contains _ here]
      | false =>
          simp only [collect, here, Bool.false_eq_true, if_false, seatsIn, leftBelow_append,
            leftBelow_under _ _ here, collect_eq ignore _ key valid.1,
            collect_eq ignore _ value valid.2]
  | .null | .bool _ | .int _ | .float _ | .text _ | .bytes _ | .moment _ | .set _ | .cycle _ =>
      simp [collect, seatsIn, leftBelow]

theorem collectFields_eq (ignore : List String) (pathOf : String → String) (start : Nat)
    (entries : Entries) (valid : wellTaggedFields entries = true) :
    collectFields ignore pathOf entries =
      .ok (leftFields ignore pathOf (fieldSeats start entries)) := by
  match entries with
  | [] => rfl
  | (key, value) :: rest =>
      simp only [wellTaggedFields, Bool.and_eq_true, Bool.or_eq_true] at valid
      have others := collectFields_eq ignore pathOf (start + 1) rest valid.2
      cases reserved : Node.isReserved key with
      | true => simp [collectFields, fieldSeats, reserved, others]
      | false =>
          have tagged : wellTagged value = true := by simpa [reserved] using valid.1
          simp only [collectFields, fieldSeats, reserved, Bool.false_eq_true, if_false,
            check_of_wellTagged value tagged, collect_eq ignore (pathOf key.plain) value tagged,
            others, leftFields_append, leftFields_under]

theorem collectItems_eq (ignore : List String) (path : String) (start : Nat) (items : List Data)
    (valid : wellTaggedItems items = true) (here : ignore.contains path = false) :
    collectItems ignore path start items = .ok (leftBelow ignore path (itemSeats start items)) := by
  match items with
  | [] => rfl
  | item :: rest =>
      simp only [wellTaggedItems, Bool.and_eq_true] at valid
      simp only [collectItems, itemSeats, collect_eq ignore _ item valid.1,
        collectItems_eq ignore path (start + 1) rest valid.2 here, leftBelow_append,
        leftBelow_under _ _ here]

end

theorem positions_eq (node : Node) (ignore : List String) (valid : WellTagged node) :
    positions node ignore = .ok (leftFields ignore id (seats node)) :=
  collectFields_eq ignore id 0 node.entries valid

/-! Blocked trails are those with an ignored beginning. -/

theorem dotted_singleton (step : Step) : Trail.dotted [step] = step.name := by
  simp [Trail.dotted]

def joined (first second : Step) : Step := ⟨first.index, extend first.name second.name⟩

theorem dotted_joined (first second : Step) (rest : Trail) :
    Trail.dotted (joined first second :: rest) = Trail.dotted (first :: second :: rest) := by
  simp [Trail.dotted, String.intercalate_cons_append, String.intercalate_cons_cons, joined, extend]

theorem begins_singleton (step : Step) (paths : List String) :
    Trail.Begins [step] paths ↔ step.name ∈ paths := by
  constructor
  · rintro ⟨start, nonempty, begins, member⟩
    rcases List.prefix_cons_iff.mp begins with empty | ⟨tail, rfl, inside⟩
    · exact absurd empty nonempty
    · rw [List.prefix_nil.mp inside, dotted_singleton] at member
      exact member
  · intro member
    exact ⟨[step], by simp, List.prefix_rfl, by rwa [dotted_singleton]⟩

theorem begins_cons_cons (first second : Step) (rest : Trail) (paths : List String) :
    Trail.Begins (first :: second :: rest) paths ↔
      first.name ∈ paths ∨ Trail.Begins (joined first second :: rest) paths := by
  constructor
  · rintro ⟨start, nonempty, begins, member⟩
    rcases List.prefix_cons_iff.mp begins with empty | ⟨tail, rfl, inside⟩
    · exact absurd empty nonempty
    · rcases List.prefix_cons_iff.mp inside with rfl | ⟨more, rfl, deeper⟩
      · exact Or.inl (by rwa [dotted_singleton] at member)
      · refine Or.inr ⟨joined first second :: more, by simp, ?_, by rwa [dotted_joined]⟩
        exact List.cons_prefix_cons.mpr ⟨rfl, deeper⟩
  · rintro (member | ⟨start, nonempty, begins, member⟩)
    · exact ⟨[first], by simp, by simp, by rwa [dotted_singleton]⟩
    · rcases List.prefix_cons_iff.mp begins with empty | ⟨tail, rfl, inside⟩
      · exact absurd empty nonempty
      · refine ⟨first :: second :: tail, by simp, ?_, by rwa [← dotted_joined]⟩
        simpa using inside

theorem blocked_iff (ignore : List String) (step : Step) (rest : Trail) :
    blocked ignore step.name rest = true ↔ Trail.Begins (step :: rest) ignore := by
  -- The path so far is carried as one step, so the next step is joined to it.
  induction rest generalizing step with
  | nil => rw [blocked, List.contains_iff_mem, begins_singleton]
  | cons next rest ih =>
      rw [blocked, Bool.or_eq_true, List.contains_iff_mem, begins_cons_cons]
      exact or_congr Iff.rfl (ih (joined step next))

theorem blockedField_iff (ignore : List String) (trail : Trail) :
    blockedField ignore id trail = true ↔ trail.Begins ignore := by
  cases trail with
  | nil =>
      simp only [blockedField, Bool.false_eq_true, false_iff]
      rintro ⟨start, nonempty, begins, _⟩
      exact nonempty (List.prefix_nil.mp begins)
  | cons step rest => exact blocked_iff ignore step rest

end Ignoring

section Arrangement

def placedSeats (start : Int) : List Seat → List (Int × Seat)
  | [] => []
  | seat :: rest =>
      let here := (seat.node.span.map Span.start).getD start
      (here, seat) :: placedSeats here rest

def arranged (found : List Seat) : List Seat :=
  ((placedSeats (-1) found).mergeSort fun a b => decide (a.1 ≤ b.1)).map Prod.snd

theorem map_snd_placedSeats (start : Int) (found : List Seat) :
    (placedSeats start found).map Prod.snd = found := by
  induction found generalizing start with
  | nil => rfl
  | cons seat rest ih => simp [placedSeats, ih]

theorem map_node_placedSeats (start : Int) (found : List Seat) :
    (placedSeats start found).map (Prod.map id Seat.node) = placed start (found.map Seat.node) := by
  induction found generalizing start with
  | nil => rfl
  | cons seat rest ih => simp [placedSeats, placed, ih]

theorem arranged_perm (found : List Seat) : (arranged found).Perm found := by
  have sorted := (List.mergeSort_perm (placedSeats (-1) found)
    (fun a b => decide (a.1 ≤ b.1))).map Prod.snd
  rwa [map_snd_placedSeats] at sorted

theorem map_node_arranged (found : List Seat) :
    (arranged found).map Seat.node = inOrder (found.map Seat.node) := by
  rw [inOrder, ← map_node_placedSeats,
    ← List.map_mergeSort (r := fun a b : Int × Seat => decide (a.1 ≤ b.1))
      (fun _ _ _ _ => rfl)]
  simp [arranged]

def seatsLeft (node : Node) (ignore : List String) : List Seat :=
  arranged ((seats node).filter fun seat => !blockedField ignore id seat.trail)

theorem map_node_leftFields (ignore : List String) (found : List Seat) :
    (leftFields ignore id found).map Position.node =
      (found.filter fun seat => !blockedField ignore id seat.trail).map Seat.node := by
  rw [leftFields, List.map_map]
  refine List.map_congr_left fun seat _ => ?_
  cases shape : seat.trail <;> simp [Seat.ofField, shape, Seat.at]

theorem children_eq (node : Node) (ignore : List String) (valid : WellTagged node) :
    children node ignore = .ok ((seatsLeft node ignore).map Seat.node) := by
  simp [children, positions_eq node ignore valid, Except.map, map_node_leftFields, seatsLeft,
    map_node_arranged]

theorem mem_seatsLeft {parent node : Node} {ignore : List String} {trail : Trail} :
    ⟨trail, node⟩ ∈ seatsLeft parent ignore ↔ Child parent trail node ∧ ¬ trail.Begins ignore := by
  rw [seatsLeft, (arranged_perm _).mem_iff, List.mem_filter, mem_seats, ← blockedField_iff]
  simp

theorem nodup_seatsLeft (node : Node) (ignore : List String) :
    ((seatsLeft node ignore).map Seat.trail).Nodup := by
  have order := (arranged_perm
    ((seats node).filter fun seat => !blockedField ignore id seat.trail)).map Seat.trail
  rw [seatsLeft, order.nodup_iff]
  exact (nodup_seats node).sublist (List.filter_sublist.map Seat.trail)

end Arrangement

/-! Children of well-tagged nodes are well-tagged, and smaller. -/

section Inheritance

theorem wellTagged_of_entry {entries : Entries} {index : Nat} {key value : Data}
    (valid : wellTaggedFields entries = true) (entry : entries[index]? = some (key, value))
    (free : Node.isReserved key = false) : wellTagged value = true := by
  induction entries generalizing index with
  | nil => simp at entry
  | cons first rest ih =>
      simp only [wellTaggedFields, Bool.and_eq_true, Bool.or_eq_true] at valid
      cases index with
      | zero =>
          cases entry
          simpa [free] using valid.1
      | succ index => exact ih valid.2 entry

theorem wellTagged_of_item {items : List Data} {index : Nat} {item : Data}
    (valid : wellTaggedItems items = true) (entry : items[index]? = some item) :
    wellTagged item = true := by
  induction items generalizing index with
  | nil => simp at entry
  | cons first rest ih =>
      simp only [wellTaggedItems, Bool.and_eq_true] at valid
      cases index with
      | zero =>
          cases entry
          exact valid.1
      | succ index => exact ih valid.2 entry

theorem holds_wellTagged {data : Data} {trail : Trail} {node : Node}
    (held : Holds data trail node) (valid : wellTagged data = true) : WellTagged node := by
  induction held with
  | node opened _ =>
      simp only [wellTagged, Bool.and_eq_true] at valid
      rw [WellTagged, Node.entries_of_ofEntries opened]
      exact valid.2
  | field _ _ entry free _ ih =>
      simp only [wellTagged, Bool.and_eq_true] at valid
      exact ih (wellTagged_of_entry valid.2 entry free)
  | item entry _ ih => exact ih (wellTagged_of_item valid entry)
  | first _ ih =>
      simp only [wellTagged, Bool.and_eq_true] at valid
      exact ih valid.1
  | second _ ih =>
      simp only [wellTagged, Bool.and_eq_true] at valid
      exact ih valid.2

theorem child_wellTagged {parent node : Node} {trail : Trail} (child : Child parent trail node)
    (valid : WellTagged parent) : WellTagged node := by
  obtain ⟨entry, free, inside⟩ := child
  exact holds_wellTagged inside (wellTagged_of_entry valid entry free)

theorem child_size {parent node : Node} {trail : Trail} (child : Child parent trail node)
    (valid : WellTagged parent) : node.size < parent.size := by
  have left : ⟨trail, node⟩ ∈ seatsLeft parent [] :=
    mem_seatsLeft.mpr ⟨child, by rintro ⟨_, _, _, member⟩; cases member⟩
  exact children_size (children_eq parent [] valid) node
    (List.mem_map_of_mem (f := Seat.node) left)

end Inheritance

end StyleFold.Walk
