import StyleFold.Data.Yaml.Meaning
import StyleFold.Data.Yaml.Tree

/-!
The data of a YAML document. All that matters of a node is found from what is known of its parts,
so an alias repeats what is known of its node; inside the node itself, where that has no end, it
is a cycle. Lists and mappings are filled one level after the other, so of several failures the one
nearest to the root counts, and on one level the first.
-/

namespace StyleFold.Yaml

section Troubles

structure Trouble where
  depth : Nat
  why : Failure
  deriving DecidableEq, Repr

abbrev Built (α : Type) := Except Trouble α

def failed {α : Type} (why : Failure) : Built α := .error ⟨0, why⟩

def below {α : Type} : Built α → Built α
  | .ok a => .ok a
  | .error trouble => .error { trouble with depth := trouble.depth + 1 }

def both {α β : Type} (first : Built α) (second : Built β) : Built (α × β) :=
  match first, second with
  | .ok a, .ok b => .ok (a, b)
  | .error trouble, .ok _ => .error trouble
  | .ok _, .error trouble => .error trouble
  | .error trouble, .error other => .error (if other.depth < trouble.depth then other else trouble)

def all {α : Type} : List (Built α) → Built (List α)
  | [] => .ok []
  | part :: rest => (both part (all rest)).map fun read => read.1 :: read.2

end Troubles

def Tag.isFilled : Tag → Bool
  | .sequence | .mapping | .ordered | .pairs | .set => true
  | _ => false

/-- A node of the wrong shape for its tag is noticed when it is filled or,
if it never is, at once. -/
def Tag.misfit {α : Type} (tag : Tag) : Built α :=
  if tag.isFilled then below (failed .malformed) else failed .malformed

/-- What is known of a node. -/
structure Known where
  tag : Tag
  data : Built Data
  /-- The text that stands for it under the tag of a scalar. -/
  text : Option String := none
  isMapping : Bool := false
  /-- The key and the value of its only entry. -/
  only : Option (Built (Data × Data)) := none
  /-- The entries that it brings where it is merged in, if it can be. -/
  source : Option (Built Entries) := none

namespace Known

def scalar (tag : Tag) (text : String) : Known :=
  { tag, text := some text
    data := if tag.isFilled then tag.misfit else (tag.scalar text).mapError (⟨0, ·⟩) }

section Lists

/-- Of several mappings that are merged in, the earlier ones win. Nothing but mappings can be. -/
def sources : List Known → Option (Built Entries)
  | [] => some (.ok [])
  | item :: rest =>
      match item.isMapping, item.source, sources rest with
      | true, some entries, some others =>
          some ((both others entries).map fun read => read.1 ++ read.2)
      | _, _, _ => none

def row (item : Known) : Built Data :=
  match item.only with
  | some entry => entry.map fun entry => .pair entry.1 entry.2
  | none => failed .malformed

def sequence (tag : Tag) (items : List Known) : Known :=
  { tag, source := sources items
    data := match tag with
      | .sequence => below ((all (items.map Known.data)).map .list)
      | .ordered | .pairs => below ((all (items.map row)).map .list)
      | tag => tag.misfit }

end Lists

section Mappings

def textOf : List (Known × Known) → Option String
  | [] => none
  | (key, value) :: rest => if key.tag = .value then value.text else textOf rest

/-- Keys are scalars. The key for the text of a mapping is itself text. -/
def key (key : Known) : Built Data :=
  if key.tag.isFilled then failed .malformed
  else if key.tag = .value then (key.text.elim (failed .malformed) fun text => .ok (.text text))
  else key.data

def mergedBy (pair : Known × Known) : Option (Built Entries) :=
  if pair.1.tag = .merge then pair.2.source else some (.ok [])

def own (pairs : List (Known × Known)) : Built Entries :=
  all ((pairs.filter fun pair => pair.1.tag != .merge).map fun pair => both pair.1.key pair.2.data)

def entries? (pairs : List (Known × Known)) : Option (Built Entries) :=
  (pairs.mapM mergedBy).map fun merged =>
    (both (all merged) (own pairs)).map fun read => read.1.flatten ++ read.2

def only? : List (Known × Known) → Option (Built (Data × Data))
  | [(key, value)] => some (both key.data value.data)
  | _ => none

/-- A mapping with the tag of a scalar stands for its text. -/
def textData (tag : Tag) : Option String → Built Data
  | none => failed .malformed
  | some text =>
      if tag = .moment then failed .wrongShape else (tag.scalar text).mapError (⟨0, ·⟩)

def mapping (tag : Tag) (pairs : List (Known × Known)) : Known :=
  let entries := entries? pairs
  let filled := below (entries.getD (failed .malformed))
  { tag, text := textOf pairs, isMapping := true, only := only? pairs, source := entries
    data := match tag with
      | .mapping => filled.map fun entries => .map (Data.ofPairs entries)
      | .set => filled.map fun entries => .set ((Data.ofPairs entries).map Prod.fst)
      | tag => if tag.isFilled then tag.misfit else textData tag (textOf pairs) }

end Mappings

section Names

/-- A node where it is repeated inside itself. There is nothing in it yet. -/
def opened : Tree → Known
  | .sequence tag _ =>
      { tag
        data := if tag = .sequence || tag = .ordered || tag = .pairs then .ok (.cycle false)
          else tag.misfit }
  | .mapping tag _ =>
      { tag, isMapping := true, source := some (.ok [])
        data := if tag = .mapping then .ok (.cycle true) else tag.misfit }
  | _ => { tag := .foreign, data := failed .malformed }

abbrev Names := List (String × Known)

end Names

end Known

namespace Tree

open Known (Names)

mutual

def known (names : Names) : Tree → Known × Names
  | .scalar tag text => (.scalar tag text, names)
  | .alias name => ((names.lookup name).getD { tag := .foreign, data := failed .malformed }, names)
  | .anchored name tree =>
      let (node, names) := known ((name, .opened tree) :: names) tree
      (node, (name, node) :: names)
  | .sequence tag items =>
      let (items, names) := knownItems names items
      (.sequence tag items, names)
  | .mapping tag pairs =>
      let (pairs, names) := knownPairs names pairs
      (.mapping tag pairs, names)

def knownItems (names : Names) : List Tree → List Known × Names
  | [] => ([], names)
  | item :: rest =>
      let (item, names) := known names item
      let (rest, names) := knownItems names rest
      (item :: rest, names)

def knownPairs (names : Names) : List (Tree × Tree) → List (Known × Known) × Names
  | [] => ([], names)
  | (key, value) :: rest =>
      let (key, names) := known names key
      let (value, names) := known names value
      let (rest, names) := knownPairs names rest
      ((key, value) :: rest, names)

end

end Tree

def read (text : String) : Except Failure Data := do
  let tree ← Tree.ofTokens (Token.scan text.toList)
  (tree.known []).1.data.mapError Trouble.why

end StyleFold.Yaml
