import StyleFold.Tree.Node

/-!
The children of a node: the tagged nodes that its fields hold, directly, in lists, or inside
untagged records. Each has a dotted path of keys and indices below its parent. Paths
to be ignored cut off everything they lead to. Children are visited in source
order; one without a span stays behind the child found before it.
-/

namespace StyleFold.Walk

/-- A child and its path below the parent. -/
structure Position where
  path : String
  node : Node

def extend (path segment : String) : String := path ++ "." ++ segment

section Collecting

mutual

def collect (ignore : List String) (path : String) : Data → Except Fault (List Position)
  | .map entries =>
      if ignore.contains path then .ok []
      else match Node.ofEntries entries with
        | .error fault => .error fault
        | .ok node =>
            if node.kind.isSome then .ok [⟨path, node⟩]
            else collectFields ignore (extend path) entries
  | .list items => if ignore.contains path then .ok [] else collectItems ignore path 0 items
  | .pair key value =>
      if ignore.contains path then .ok []
      else match collect ignore (extend path "0") key with
        | .error fault => .error fault
        | .ok here =>
            match collect ignore (extend path "1") value with
            | .error fault => .error fault
            | .ok others => .ok (here ++ others)
  | _ => .ok []

def collectFields (ignore : List String) (pathOf : String → String) :
    Entries → Except Fault (List Position)
  | [] => .ok []
  | (key, value) :: rest =>
      if Node.isReserved key then collectFields ignore pathOf rest
      else match Node.check value with
        | .error fault => .error fault
        | .ok () =>
            match collect ignore (pathOf key.plain) value with
            | .error fault => .error fault
            | .ok here =>
                match collectFields ignore pathOf rest with
                | .error fault => .error fault
                | .ok others => .ok (here ++ others)

def collectItems (ignore : List String) (path : String) (index : Nat) :
    List Data → Except Fault (List Position)
  | [] => .ok []
  | item :: rest =>
      match collect ignore (extend path (toString index)) item with
      | .error fault => .error fault
      | .ok here =>
          match collectItems ignore path (index + 1) rest with
          | .error fault => .error fault
          | .ok others => .ok (here ++ others)

end

def positions (node : Node) (ignore : List String) : Except Fault (List Position) :=
  collectFields ignore id node.entries

mutual

theorem collect_size {ignore : List String} {path : String} (data : Data)
    {found : List Position} (run : collect ignore path data = .ok found) :
    ∀ position ∈ found, position.node.size < sizeOf data := by
  match data with
  | .map entries =>
      simp only [collect] at run
      split at run
      · cases run
        simp
      · split at run
        · cases run
        · rename_i node opened
          split at run
          · cases run
            intro position member
            simp only [List.mem_singleton] at member
            subst member
            simp [Node.size, Node.entries_of_ofEntries opened]
          · intro position member
            have := collectFields_size entries run position member
            simp only [Data.map.sizeOf_spec]
            omega
  | .list items =>
      simp only [collect] at run
      split at run
      · cases run
        simp
      · intro position member
        have := collectItems_size items run position member
        simp only [Data.list.sizeOf_spec]
        omega
  | .pair key value =>
      simp only [collect] at run
      split at run
      · cases run
        simp
      · split at run
        · cases run
        · rename_i here first
          split at run
          · cases run
          · rename_i others second
            cases run
            intro position member
            rcases List.mem_append.mp member with inside | outside
            · have := collect_size key first position inside
              simp only [Data.pair.sizeOf_spec]
              omega
            · have := collect_size value second position outside
              simp only [Data.pair.sizeOf_spec]
              omega
  | .null | .bool _ | .int _ | .float _ | .text _ | .bytes _ | .moment _ | .set _ | .cycle _ =>
      simp only [collect, Except.ok.injEq] at run
      subst run
      simp

theorem collectFields_size {ignore : List String} {pathOf : String → String} (entries : Entries)
    {found : List Position} (run : collectFields ignore pathOf entries = .ok found) :
    ∀ position ∈ found, position.node.size < sizeOf entries := by
  match entries with
  | [] =>
      simp only [collectFields, Except.ok.injEq] at run
      subst run
      simp
  | (key, value) :: rest =>
      simp only [collectFields] at run
      split at run
      · intro position member
        have := collectFields_size rest run position member
        simp only [List.cons.sizeOf_spec]
        omega
      · split at run
        · cases run
        · split at run
          · cases run
          · rename_i here first
            split at run
            · cases run
            · rename_i others second
              cases run
              intro position member
              rcases List.mem_append.mp member with inside | outside
              · have := collect_size value first position inside
                simp only [List.cons.sizeOf_spec, Prod.mk.sizeOf_spec]
                omega
              · have := collectFields_size rest second position outside
                simp only [List.cons.sizeOf_spec]
                omega

theorem collectItems_size {ignore : List String} {path : String} {index : Nat} (items : List Data)
    {found : List Position} (run : collectItems ignore path index items = .ok found) :
    ∀ position ∈ found, position.node.size < sizeOf items := by
  match items with
  | [] =>
      simp only [collectItems, Except.ok.injEq] at run
      subst run
      simp
  | item :: rest =>
      simp only [collectItems] at run
      split at run
      · cases run
      · rename_i here first
        split at run
        · cases run
        · rename_i others second
          cases run
          intro position member
          rcases List.mem_append.mp member with inside | outside
          · have := collect_size item first position inside
            simp only [List.cons.sizeOf_spec]
            omega
          · have := collectItems_size rest second position outside
            simp only [List.cons.sizeOf_spec]
            omega

end

end Collecting

section Order

/-- Each node with the place it is sorted by: its own start, or that of the last node
before it that has one. -/
def placed (start : Int) : List Node → List (Int × Node)
  | [] => []
  | node :: rest =>
      let here := (node.span.map Span.start).getD start
      (here, node) :: placed here rest

def inOrder (nodes : List Node) : List Node :=
  ((placed (-1) nodes).mergeSort fun a b => decide (a.1 ≤ b.1)).map Prod.snd

theorem map_snd_placed (start : Int) (nodes : List Node) :
    (placed start nodes).map Prod.snd = nodes := by
  induction nodes generalizing start with
  | nil => rfl
  | cons node rest ih => simp [placed, ih]

theorem inOrder_perm (nodes : List Node) : (inOrder nodes).Perm nodes := by
  have sorted :=
    (List.mergeSort_perm (placed (-1) nodes) fun a b => decide (a.1 ≤ b.1)).map Prod.snd
  rwa [map_snd_placed] at sorted

theorem mem_inOrder {nodes : List Node} {node : Node} : node ∈ inOrder nodes ↔ node ∈ nodes :=
  (inOrder_perm nodes).mem_iff

/-! Places are in order like their numbers. -/

theorem place_trans {α : Type} (a b c : Int × α) (first : decide (a.1 ≤ b.1) = true)
    (second : decide (b.1 ≤ c.1) = true) : decide (a.1 ≤ c.1) = true := by
  rw [decide_eq_true_eq] at first second ⊢
  exact Int.le_trans first second

theorem place_total {α : Type} (a b : Int × α) :
    (decide (a.1 ≤ b.1) || decide (b.1 ≤ a.1)) = true := by
  rw [Bool.or_eq_true, decide_eq_true_eq, decide_eq_true_eq]
  exact Int.le_total a.1 b.1

end Order

def children (node : Node) (ignore : List String) : Except Fault (List Node) :=
  (positions node ignore).map fun found => inOrder (found.map Position.node)

theorem children_size {node : Node} {ignore : List String} {found : List Node}
    (run : children node ignore = .ok found) : ∀ child ∈ found, child.size < node.size := by
  unfold children at run
  cases collected : positions node ignore with
  | error fault => simp [collected, Except.map] at run
  | ok list =>
      simp only [collected, Except.map, Except.ok.injEq] at run
      subst run
      intro child member
      obtain ⟨position, present, rfl⟩ := List.mem_map.mp (mem_inOrder.mp member)
      exact collectFields_size node.entries collected position present

end StyleFold.Walk
