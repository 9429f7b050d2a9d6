import StyleFold.Proofs.Tree.Shift

/-!
Children of moved nodes. They are the moved children, in the same source order: all starts move by
one distance, and no start moves before the place that children without a span may have.
-/

namespace StyleFold.Walk

section Collecting

variable {d : Int}

abbrev PositionMoves (d : Int) (position other : Position) : Prop :=
  position.node.MovesTo d other.node

mutual

theorem agree_collect (ignore : List String) (path : String) (data : Data)
    (fit : data.Each (Movable d)) :
    Agree d (List.Forall₂ (PositionMoves d)) (collect ignore path data)
      (collect ignore path (data.moved d)) := by
  match data with
  | .map entries =>
      simp only [Data.moved, collect]
      split
      · exact .ok .nil
      · have opened := agree_ofEntries fit
        have fields := agree_collectFields ignore (extend path) entries fit.2
        generalize Node.ofEntries entries = a, Node.ofEntries (movedFields d entries) = b at opened
        cases opened with
        | fault reworded => exact .fault reworded
        | ok moves =>
            dsimp only
            rw [moves.kind]
            split
            · exact .ok (.cons moves .nil)
            · exact fields
  | .list items =>
      simp only [Data.moved, collect]
      split
      · exact .ok .nil
      · exact agree_collectItems ignore path 0 items fit
  | .pair key value =>
      have first := agree_collect ignore (extend path "0") key fit.1
      have second := agree_collect ignore (extend path "1") value fit.2
      simp only [Data.moved, collect]
      split
      · exact .ok .nil
      · generalize collect ignore (extend path "0") key = a,
          collect ignore (extend path "0") (key.moved d) = b at first
        generalize collect ignore (extend path "1") value = x,
          collect ignore (extend path "1") (value.moved d) = y at second
        cases first with
        | fault reworded => exact .fault reworded
        | ok here =>
            cases second with
            | fault reworded => exact .fault reworded
            | ok others => exact .ok (List.rel_append here others)
  | .null | .bool _ | .int _ | .float _ | .text _ | .bytes _ | .moment _ | .set _ | .cycle _ =>
      exact .ok .nil

theorem agree_collectFields (ignore : List String) (pathOf : String → String) (entries : Entries)
    (fit : EachField (Movable d) entries) :
    Agree d (List.Forall₂ (PositionMoves d)) (collectFields ignore pathOf entries)
      (collectFields ignore pathOf (movedFields d entries)) := by
  match entries with
  | [] => exact .ok .nil
  | (key, value) :: rest =>
      have onward := agree_collectFields ignore pathOf rest fit.2
      cases reserved : Node.isReserved key with
      | true =>
          simp only [movedFields, collectFields, reserved, if_true]
          exact onward
      | false =>
          have held := fit.1 reserved
          have checked := agree_check value held
          have inside := agree_collect ignore (pathOf key.plain) value held
          have notSpan : Data.isKey "span" key = false := by
            cases same : Data.isKey "span" key with
            | false => rfl
            | true => simp [Node.isReserved, same] at reserved
          simp only [movedFields, collectFields, reserved, notSpan, Bool.false_eq_true, if_false]
          generalize Node.check value = a, Node.check (value.moved d) = b at checked
          generalize collect ignore (pathOf key.plain) value = x,
            collect ignore (pathOf key.plain) (value.moved d) = y at inside
          generalize collectFields ignore pathOf rest = u,
            collectFields ignore pathOf (movedFields d rest) = v at onward
          cases checked with
          | fault reworded => exact .fault reworded
          | ok =>
              cases inside with
              | fault reworded => exact .fault reworded
              | ok here =>
                  cases onward with
                  | fault reworded => exact .fault reworded
                  | ok others => exact .ok (List.rel_append here others)

theorem agree_collectItems (ignore : List String) (path : String) (index : Nat) (items : List Data)
    (fit : EachItem (Movable d) items) :
    Agree d (List.Forall₂ (PositionMoves d)) (collectItems ignore path index items)
      (collectItems ignore path index (movedItems d items)) := by
  match items with
  | [] => exact .ok .nil
  | item :: rest =>
      have inside := agree_collect ignore (extend path (toString index)) item fit.1
      have onward := agree_collectItems ignore path (index + 1) rest fit.2
      simp only [movedItems, collectItems]
      generalize collect ignore (extend path (toString index)) item = x,
        collect ignore (extend path (toString index)) (item.moved d) = y at inside
      generalize collectItems ignore path (index + 1) rest = u,
        collectItems ignore path (index + 1) (movedItems d rest) = v at onward
      cases inside with
      | fault reworded => exact .fault reworded
      | ok here =>
          cases onward with
          | fault reworded => exact .fault reworded
          | ok others => exact .ok (List.rel_append here others)

end

end Collecting

section Order

variable {d : Int}

def movedPlace (d place : Int) : Int := if place < 0 then place else place + d

theorem placed_moved (start : Int) {nodes : List Node} (fit : ∀ node ∈ nodes, ∀ span,
    node.span = some span → d = 0 ∨ 0 ≤ span.start) :
    placed (movedPlace d start) (nodes.map (Node.moved d)) =
      (placed start nodes).map (Prod.map (movedPlace d) (Node.moved d)) := by
  induction nodes generalizing start with
  | nil => rfl
  | cons node rest ih =>
      have here : ((node.moved d).span.map Span.start).getD (movedPlace d start) =
          movedPlace d ((node.span.map Span.start).getD start) := by
        cases spanned : node.span with
        | none => simp [Node.moved, spanned]
        | some span =>
            have place := fit node List.mem_cons_self span spanned
            simp only [Node.moved, spanned, Option.map_some, Option.getD_some, movedPlace,
              Span.shifted]
            split <;> omega
      simp only [List.map_cons, placed, here, Prod.map_apply]
      rw [ih _ fun node member => fit node (List.mem_cons_of_mem _ member)]

theorem mem_placed {start place : Int} {nodes : List Node} {node : Node}
    (member : (place, node) ∈ placed start nodes) :
    place = start ∨ ∃ other ∈ nodes, ∃ span, other.span = some span ∧ place = span.start := by
  induction nodes generalizing start with
  | nil => cases member
  | cons first rest ih =>
      have opening : (first.span.map Span.start).getD start = start ∨
          ∃ span, first.span = some span ∧ (first.span.map Span.start).getD start = span.start := by
        cases first.span with
        | none => exact .inl rfl
        | some span => exact .inr ⟨span, rfl, rfl⟩
      have mine (same : place = (first.span.map Span.start).getD start) :
          place = start ∨ ∃ other ∈ first :: rest, ∃ span, other.span = some span ∧
            place = span.start := by
        rcases opening with before | ⟨span, spanned, begins⟩
        · exact .inl (same.trans before)
        · exact .inr ⟨first, List.mem_cons_self, span, spanned, same.trans begins⟩
      simp only [placed, List.mem_cons, Prod.mk.injEq] at member
      rcases member with ⟨same, _⟩ | later
      · exact mine same
      · rcases ih later with same | ⟨other, present, span, spanned, begins⟩
        · exact mine same
        · exact .inr ⟨other, List.mem_cons_of_mem _ present, span, spanned, begins⟩

/-- Source order does not change, as long as no start is moved before the beginning. -/
theorem inOrder_moved {nodes : List Node} (fit : ∀ node ∈ nodes, ∀ span, node.span = some span →
    d = 0 ∨ (0 ≤ span.start ∧ 0 ≤ span.start + d)) :
    inOrder (nodes.map (Node.moved d)) = (inOrder nodes).map (Node.moved d) := by
  have places := placed_moved (-1) fun node member span spanned =>
    (fit node member span spanned).imp_right And.left
  rw [show movedPlace d (-1) = -1 from rfl] at places
  have range (entry : Int × Node) (member : entry ∈ placed (-1) nodes) :
      entry.1 = -1 ∨ d = 0 ∨ (0 ≤ entry.1 ∧ 0 ≤ entry.1 + d) := by
    obtain ⟨place, node⟩ := entry
    rcases mem_placed member with same | ⟨other, present, span, spanned, begins⟩
    · exact .inl same
    · dsimp only
      rw [begins]
      exact .inr (fit other present span spanned)
  have order (a b : Int × Node) (first : a ∈ placed (-1) nodes) (second : b ∈ placed (-1) nodes) :
      decide (a.1 ≤ b.1) = decide (movedPlace d a.1 ≤ movedPlace d b.1) := by
    have left := range a first
    have right := range b second
    apply decide_eq_decide.mpr
    unfold movedPlace
    split <;> split <;> omega
  rw [inOrder, inOrder, places, ← List.map_mergeSort
    (r := fun a b : Int × Node => decide (a.1 ≤ b.1)) fun a first b second =>
      order a b first second]
  simp [List.map_map]

theorem agree_children {node other : Node} (moves : node.MovesTo d other) (ignore : List String) :
    Agree d (List.Forall₂ (Node.MovesTo d)) (children node ignore) (children other ignore) := by
  unfold children positions
  rw [moves.entries]
  refine agree_map (agree_collectFields ignore id node.entries moves.fit.2)
    fun found others each => ?_
  obtain ⟨moved, each⟩ : others.map Position.node = (found.map Position.node).map (Node.moved d) ∧
      ∀ node ∈ found.map Position.node, node.MovesTo d (node.moved d) := by
    induction each with
    | nil => exact ⟨rfl, by simp⟩
    | cons first later ih =>
        simp only [List.map_cons, List.forall_mem_cons, ih.1, first.moved]
        exact ⟨trivial, first.moved ▸ first, ih.2⟩
  rw [moved, inOrder_moved fun node member span spanned =>
    (each node member).fit.1.start node span (each node member).opened spanned]
  rw [List.forall₂_map_right_iff, List.forall₂_same]
  intro node member
  exact each node (mem_inOrder.mp member)

end Order

end StyleFold.Walk
