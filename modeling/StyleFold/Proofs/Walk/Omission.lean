import StyleFold.Proofs.Walk.Seat

/-!
Nodes from which one item of a list has been taken. Main statement: when the next child
has a span, the children in source order are the same but for the one that is gone, and
what is at fault stays so.
-/

namespace StyleFold.Walk

section Gathering

mutual

def gather : Data → Except Fault (List Node)
  | .map entries => do
      let node ← Node.ofEntries entries
      if node.kind.isSome then return [node] else gatherFields entries
  | .list items => gatherItems items
  | .pair key value => do return (← gather key) ++ (← gather value)
  | _ => .ok []

def gatherFields : Entries → Except Fault (List Node)
  | [] => .ok []
  | (key, value) :: rest =>
      if Node.isReserved key then gatherFields rest
      else do
        Node.check value
        return (← gather value) ++ (← gatherFields rest)

def gatherItems : List Data → Except Fault (List Node)
  | [] => .ok []
  | item :: rest => do return (← gather item) ++ (← gatherItems rest)

end

abbrev nodesOf (found : Except Fault (List Position)) : Except Fault (List Node) :=
  found.map (List.map Position.node)

mutual

theorem nodesOf_collect (path : String) (data : Data) :
    nodesOf (collect [] path data) = gather data := by
  match data with
  | .map entries =>
      simp only [collect, gather, List.contains_nil, Bool.false_eq_true, if_false]
      cases Node.ofEntries entries with
      | error fault => rfl
      | ok node =>
          cases tagged : node.kind.isSome with
          | true => simp [tagged, bind, Except.bind, pure, Except.pure, Except.map]
          | false =>
              simp only [tagged, bind, Except.bind, Bool.false_eq_true, if_false]
              exact nodesOf_collectFields (extend path) entries
  | .list items =>
      simp only [collect, gather, List.contains_nil, Bool.false_eq_true, if_false]
      exact nodesOf_collectItems path 0 items
  | .pair key value =>
      simp only [collect, gather, List.contains_nil, Bool.false_eq_true, if_false]
      rw [← nodesOf_collect (extend path "0") key, ← nodesOf_collect (extend path "1") value]
      cases collect [] (extend path "0") key with
      | error fault => rfl
      | ok here =>
          cases collect [] (extend path "1") value with
          | error fault => rfl
          | ok others => simp [Except.map, bind, Except.bind, pure, Except.pure]
  | .null | .bool _ | .int _ | .float _ | .text _ | .bytes _ | .moment _ | .set _ | .cycle _ => rfl

theorem nodesOf_collectFields (pathOf : String → String) (entries : Entries) :
    nodesOf (collectFields [] pathOf entries) = gatherFields entries := by
  match entries with
  | [] => rfl
  | (key, value) :: rest =>
      simp only [collectFields, gatherFields]
      cases Node.isReserved key with
      | true => exact nodesOf_collectFields pathOf rest
      | false =>
          simp only [Bool.false_eq_true, if_false]
          rw [← nodesOf_collect (pathOf key.plain) value, ← nodesOf_collectFields pathOf rest]
          cases Node.check value with
          | error fault => rfl
          | ok checked =>
              cases collect [] (pathOf key.plain) value with
              | error fault => rfl
              | ok here =>
                  cases collectFields [] pathOf rest with
                  | error fault => rfl
                  | ok others => simp [Except.map, bind, Except.bind, pure, Except.pure]

theorem nodesOf_collectItems (path : String) (index : Nat) (items : List Data) :
    nodesOf (collectItems [] path index items) = gatherItems items := by
  match items with
  | [] => rfl
  | item :: rest =>
      simp only [collectItems, gatherItems]
      rw [← nodesOf_collect (extend path (toString index)) item,
        ← nodesOf_collectItems path (index + 1) rest]
      cases collect [] (extend path (toString index)) item with
      | error fault => rfl
      | ok here =>
          cases collectItems [] path (index + 1) rest with
          | error fault => rfl
          | ok others => simp [Except.map, bind, Except.bind, pure, Except.pure]

end

theorem children_gather (node : Node) :
    children node [] = (gatherFields node.entries).map inOrder := by
  rw [← nodesOf_collectFields id node.entries, children, positions]
  cases collectFields [] id node.entries <;> rfl

end Gathering

section Taking

/-- The place of the first child, if there is one, is its own. -/
def HeadPlaced (nodes : List Node) : Prop := ∀ node ∈ nodes.head?, node.span.isSome

/-- The same fault, or lists that differ in one node with a place for what comes after it. -/
inductive Lacks (gone : Node) : Except Fault (List Node) → Except Fault (List Node) → Prop where
  | fault (fault : Fault) : Lacks gone (.error fault) (.error fault)
  | one (before : List Node) {after : List Node} (headed : HeadPlaced after) :
      Lacks gone (.ok (before ++ gone :: after)) (.ok (before ++ after))

theorem gatherItems_append (first second : List Data) :
    gatherItems (first ++ second) =
      (do return (← gatherItems first) ++ (← gatherItems second)) := by
  induction first with
  | nil =>
      simp only [List.nil_append, gatherItems]
      cases gatherItems second <;> rfl
  | cons item rest ih =>
      simp only [List.cons_append, gatherItems, ih]
      cases gather item with
      | error fault => rfl
      | ok here =>
          cases gatherItems rest with
          | error fault => rfl
          | ok found => cases gatherItems second <;> simp [bind, Except.bind, pure, Except.pure]

theorem gatherFields_append (first second : Entries) :
    gatherFields (first ++ second) =
      (do return (← gatherFields first) ++ (← gatherFields second)) := by
  induction first with
  | nil =>
      simp only [List.nil_append, gatherFields]
      cases gatherFields second <;> rfl
  | cons entry rest ih =>
      obtain ⟨key, value⟩ := entry
      simp only [List.cons_append, gatherFields, ih]
      cases Node.isReserved key with
      | true => rfl
      | false =>
          simp only [Bool.false_eq_true, if_false]
          cases Node.check value with
          | error fault => rfl
          | ok checked =>
              cases gather value with
              | error fault => rfl
              | ok here =>
                  cases gatherFields rest with
                  | error fault => rfl
                  | ok found =>
                      cases gatherFields second <;> simp [bind, Except.bind, pure, Except.pure]

/-- The children in the items of a list and in the fields after it. -/
def gatherAfter (items : List Data) (entries : Entries) : Except Fault (List Node) := do
  return (← gatherItems items) ++ (← gatherFields entries)

variable {entries : Entries} {gone : Node} (opened : Node.ofEntries entries = .ok gone)

include opened

theorem checkAll_without (front back : List Data) :
    Node.checkAll (front ++ .map entries :: back) = Node.checkAll (front ++ back) := by
  induction front with
  | nil => simp only [List.nil_append, Node.checkAll, Node.check, opened, Except.map]
  | cons item rest ih => simp only [List.cons_append, Node.checkAll, ih]

theorem lacks_gatherFields (tagged : gone.kind.isSome) (before after : Entries) {key : Data}
    (free : Node.isReserved key = false) (front back : List Data)
    (next : ∀ found, gatherAfter back after = .ok found → HeadPlaced found) :
    Lacks gone (gatherFields (before ++ (key, .list (front ++ .map entries :: back)) :: after))
      (gatherFields (before ++ (key, .list (front ++ back)) :: after)) := by
  have here : gather (.map entries) = .ok [gone] := by
    simp [gather, opened, tagged, bind, Except.bind, pure, Except.pure]
  have list (items : List Data) : gather (.list items) = gatherItems items := by simp only [gather]
  simp only [gatherFields_append before, gatherFields, free, Node.check,
    checkAll_without opened, list, gatherItems_append, gatherItems, here]
  -- What fails first fails in both.
  cases gatherFields before with
  | error fault => exact .fault fault
  | ok first =>
      cases Node.checkAll (front ++ back) with
      | error fault => exact .fault fault
      | ok checked =>
          cases gatherItems front with
          | error fault => exact .fault fault
          | ok left =>
              cases items : gatherItems back with
              | error fault => exact .fault fault
              | ok right =>
                  cases fields : gatherFields after with
                  | error fault => exact .fault fault
                  | ok last =>
                      have headed : HeadPlaced (right ++ last) := by
                        refine next _ ?_
                        simp only [gatherAfter, items, fields]
                        rfl
                      have whole : Lacks gone _ _ := .one (first ++ left) headed
                      simpa [bind, Except.bind, pure, Except.pure] using whole

end Taking

section Order

theorem mergeSort_cons_filter {α : Type} {le : α → α → Bool}
    (trans : ∀ a b c, le a b = true → le b c = true → le a c = true)
    (total : ∀ a b, (le a b || le b a) = true) (a : α) (list : List α) :
    (a :: list).mergeSort le = (list.mergeSort le).filter (fun b => !le a b) ++
      a :: (list.mergeSort le).filter fun b => le a b := by
  obtain ⟨first, second, whole, rest, smaller⟩ := List.mergeSort_cons trans total a list
  have sorted := List.pairwise_mergeSort trans total (a :: list)
  rw [whole, List.pairwise_append, List.pairwise_cons] at sorted
  have larger (b : α) (member : b ∈ second) : le a b = true := sorted.2.1.1 b member
  have none : first.filter (fun b => le a b) = [] := by
    simpa [List.filter_eq_nil_iff] using smaller
  have all : second.filter (fun b => !le a b) = [] := by
    simpa [List.filter_eq_nil_iff] using larger
  rw [whole, rest, List.filter_append, List.filter_append, none, all,
    List.filter_eq_self.mpr smaller, List.filter_eq_self.mpr larger]
  simp

theorem mergeSort_without {α : Type} {le : α → α → Bool}
    (trans : ∀ a b c, le a b = true → le b c = true → le a c = true)
    (total : ∀ a b, (le a b || le b a) = true) (gone : α) (before after : List α) :
    ∃ front back, (before ++ gone :: after).mergeSort le = front ++ gone :: back ∧
      (before ++ after).mergeSort le = front ++ back := by
  induction before with
  | nil =>
      obtain ⟨front, back, whole, rest, _⟩ := List.mergeSort_cons trans total gone after
      exact ⟨front, back, whole, rest⟩
  | cons a rest ih =>
      obtain ⟨front, back, whole, less⟩ := ih
      rw [List.cons_append, List.cons_append, mergeSort_cons_filter trans total,
        mergeSort_cons_filter trans total, whole, less]
      simp only [List.filter_append, List.filter_cons]
      cases le a gone with
      | true =>
          refine ⟨front.filter (fun b => !le a b) ++ back.filter (fun b => !le a b) ++
            a :: front.filter (fun b => le a b), back.filter (fun b => le a b), ?_, ?_⟩ <;> simp
      | false =>
          refine ⟨front.filter (fun b => !le a b), back.filter (fun b => !le a b) ++
            a :: (front.filter (fun b => le a b) ++ back.filter (fun b => le a b)), ?_, ?_⟩ <;> simp

theorem placed_headPlaced {nodes : List Node} (headed : HeadPlaced nodes) (start other : Int) :
    placed start nodes = placed other nodes := by
  cases nodes with
  | nil => rfl
  | cons node rest =>
      obtain ⟨span, here⟩ := Option.isSome_iff_exists.mp (headed node rfl)
      simp [placed, here]

theorem placed_append (start : Int) (before : List Node) :
    ∃ place, ∀ after, placed start (before ++ after) =
      placed start before ++ placed place after := by
  induction before generalizing start with
  | nil => exact ⟨start, fun _ => rfl⟩
  | cons node rest ih =>
      obtain ⟨place, same⟩ := ih ((node.span.map Span.start).getD start)
      exact ⟨place, fun after => by simp only [List.cons_append, placed, same]⟩

theorem inOrder_without (gone : Node) (before : List Node) {after : List Node}
    (headed : HeadPlaced after) :
    ∃ front back, inOrder (before ++ gone :: after) = front ++ gone :: back ∧
      inOrder (before ++ after) = front ++ back := by
  obtain ⟨place, split⟩ := placed_append (-1) before
  obtain ⟨front, back, whole, less⟩ := mergeSort_without place_trans place_total
    ((gone.span.map Span.start).getD place, gone) (placed (-1) before) (placed place after)
  refine ⟨front.map Prod.snd, back.map Prod.snd, ?_, ?_⟩
  · rw [inOrder, split, placed, placed_headPlaced headed _ place, whole]
    simp
  · rw [inOrder, split, less]
    simp

end Order

end StyleFold.Walk
