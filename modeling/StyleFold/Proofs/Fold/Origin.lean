import StyleFold.Proofs.Fold.Exchange
import StyleFold.Proofs.Walk.SourceOrder

/-!
Where the spans of results come from. Some expressions put their own span on what they fold and
others pass on what is below them; holes and characters take the span of what they are from, and
spreads and members move results from one container to another. Main statement: each span in a
result, however deep, is that of the node that was evaluated or of a node below it. So where the
spans of a tree are nested, no result leaves the span of its node.
-/

namespace StyleFold

/-- The second span is inside the first. -/
def Span.Surrounds (outer inner : Span) : Prop :=
  outer.start ≤ inner.start ∧ inner.stop ≤ outer.stop

instance (outer inner : Span) : Decidable (outer.Surrounds inner) :=
  inferInstanceAs (Decidable (_ ∧ _))

theorem Span.Surrounds.refl (span : Span) : span.Surrounds span := ⟨Int.le_refl _, Int.le_refl _⟩

theorem Span.Surrounds.trans {outer middle inner : Span} (one : outer.Surrounds middle)
    (two : middle.Surrounds inner) : outer.Surrounds inner :=
  ⟨Int.le_trans one.1 two.1, Int.le_trans two.2 one.2⟩

namespace Walk

section Nesting

variable {root node : Node} {inner : Span} {around : Option Span} {address : Address}

/-- A span is that of the root or of a node below it. -/
def HasSpan (root : Node) (span : Span) : Prop :=
  ∃ address node, Located root address node ∧ node.span = some span

/-- A node below the root, with the span of the nearest node above it that has one. -/
inductive Surrounded (root : Node) : Option Span → Node → Prop where
  | top {trail : Trail} {node : Node} (child : Child root trail node) :
      Surrounded root root.span node
  | lower {around : Option Span} {parent node : Node} {trail : Trail}
      (above : Surrounded root around parent) (child : Child parent trail node) :
      Surrounded root (parent.span.or around) node

/-- Every span below the root is inside that of its parent; parents without one are passed over. -/
def Nested (root : Node) : Prop :=
  ∀ around node inner, Surrounded root around node → node.span = some inner →
    ∃ outer, around = some outer ∧ outer.Surrounds inner

theorem Surrounded.located {above : Node} (surrounded : Surrounded root around above)
    (located : Located above address node) :
    node = above ∨ ∃ nearer, Surrounded root nearer node := by
  induction located generalizing around with
  | here => exact .inl rfl
  | step first rest ih =>
      rcases ih (.lower surrounded first) with rfl | below
      · exact .inr ⟨_, .lower surrounded first⟩
      · exact .inr below

theorem surrounded_of_located (located : Located root address node) :
    node = root ∨ ∃ around, Surrounded root around node := by
  cases located with
  | here => exact .inl rfl
  | step first rest =>
      rcases Surrounded.located (.top first) rest with rfl | below
      · exact .inr ⟨_, .top first⟩
      · exact .inr below

theorem Nested.within (nested : Nested root) (surrounded : Surrounded root around node)
    (known : around = some inner) : ∃ outer, root.span = some outer ∧ outer.Surrounds inner := by
  induction surrounded generalizing inner with
  | top child => exact ⟨inner, known, .refl inner⟩
  | @lower around parent node trail above child ih =>
      cases spanned : parent.span with
      | none =>
          rw [spanned, Option.none_or] at known
          exact ih known
      | some own =>
          rw [spanned, Option.some_or] at known
          cases known
          obtain ⟨middle, here, outside⟩ := nested _ _ _ above spanned
          obtain ⟨outer, there, further⟩ := ih here
          exact ⟨outer, there, further.trans outside⟩

theorem Nested.surrounds (nested : Nested root) (has : HasSpan root inner) :
    ∃ outer, root.span = some outer ∧ outer.Surrounds inner := by
  obtain ⟨address, node, located, known⟩ := has
  rcases surrounded_of_located located with rfl | ⟨around, surrounded⟩
  · exact ⟨inner, known, .refl inner⟩
  · obtain ⟨middle, here, outside⟩ := nested _ _ _ surrounded known
    obtain ⟨outer, there, further⟩ := nested.within surrounded here
    exact ⟨outer, there, further.trans outside⟩

end Nesting

end Walk

section Spans

mutual

/-- A span is somewhere in a value. -/
inductive Value.Bears (span : Span) : Value → Prop where
  | entry {entries : List Result} {result : Result} (member : result ∈ entries)
      (inside : Result.Bears span result) : Value.Bears span (.array entries)
  | member {members : Members} {name : Label} {result : Result} (member : (name, result) ∈ members)
      (inside : Result.Bears span result) : Value.Bears span (.object members)

/-- A span is that of a result, or of one in it at whatever depth. -/
inductive Result.Bears (span : Span) : Result → Prop where
  | reference (id : Label) : Result.Bears span (.reference id (some span))
  | value (v : Value) : Result.Bears span (.value v (some span))
  | inside {v : Value} {own : Option Span} (inside : Value.Bears span v) :
      Result.Bears span (.value v own)
  | bare {v : Value} (inside : Value.Bears span v) : Result.Bears span (.bare v)

end

variable {held : Span → Prop}

def Owned (held : Span → Prop) (own : Option Span) : Prop := ∀ span, own = some span → held span

def Value.Sourced (held : Span → Prop) (v : Value) : Prop := ∀ span, v.Bears span → held span

def Result.Sourced (held : Span → Prop) (result : Result) : Prop :=
  ∀ span, result.Bears span → held span

def Value.isAtom : Value → Bool
  | .array _ | .object _ => false
  | _ => true

namespace Value

theorem sourced_atom {v : Value} (atom : v.isAtom = true) : v.Sourced held := by
  rintro span (_ | _) <;> cases atom

theorem sourced_array {entries : List Result} :
    (Value.array entries).Sourced held ↔ ∀ result ∈ entries, result.Sourced held := by
  constructor
  · intro sourced result member span bears
    exact sourced span (.entry member bears)
  · rintro each span ⟨member, inside⟩
    exact each _ member span inside

theorem sourced_object {members : Members} :
    (Value.object members).Sourced held ↔ ∀ entry ∈ members, entry.2.Sourced held := by
  constructor
  · intro sourced entry member span bears
    exact sourced span (.member member bears)
  · rintro each span (_ | ⟨member, inside⟩)
    exact each _ member span inside

end Value

namespace Result

theorem sourced_nonStatic : Result.nonStatic.Sourced held := by
  rintro span ⟨⟩

theorem sourced_reference {id : Label} {own : Option Span} (owned : Owned held own) :
    (Result.reference id own).Sourced held := by
  rintro span ⟨⟩
  exact owned span rfl

theorem sourced_value {v : Value} {own : Option Span} (sourced : v.Sourced held)
    (owned : Owned held own) :
    (Result.value v own).Sourced held := by
  rintro span (_ | _ | inside | _)
  · exact owned span rfl
  · exact sourced span inside

theorem sourced_bare {v : Value} (sourced : v.Sourced held) : (Result.bare v).Sourced held := by
  rintro span (_ | _ | _ | inside)
  exact sourced span inside

theorem value_of_sourced {v : Value} {own : Option Span}
    (sourced : (Result.value v own).Sourced held) :
    v.Sourced held ∧ Owned held own := by
  constructor
  · exact fun span bears => sourced span (.inside bears)
  · rintro span rfl
    exact sourced span (.value v)

theorem sourced_respan {result : Result} {own : Option Span} (sourced : result.Sourced held)
    (owned : Owned held own) : (result.respan own).Sourced held := by
  cases result with
  | value v span => exact sourced_value (value_of_sourced sourced).1 owned
  | reference id span => exact sourced_reference owned
  | nonStatic | bare => exact sourced_nonStatic

end Result

end Spans

namespace Fold

section Parts

variable {held : Span → Prop}

mutual

theorem sourced_literalValue (data : Data) : (literalValue data).Sourced held := by
  match data with
  | .list items => exact Value.sourced_array.mpr (sourced_bareItems items)
  | .pair key value =>
      refine Value.sourced_array.mpr fun result member => ?_
      simp only [List.mem_cons, List.not_mem_nil, or_false] at member
      rcases member with rfl | rfl
      · exact Result.sourced_bare (sourced_literalValue key)
      · exact Result.sourced_bare (sourced_literalValue value)
  | .null | .bool _ | .int _ | .float _ | .text _ | .bytes _ | .moment _ | .set
    _ | .map _ | .cycle _ =>
      exact Value.sourced_atom rfl

theorem sourced_bareItems (items : List Data) :
    ∀ result ∈ bareItems items, result.Sourced held := by
  match items with
  | [] => simp [bareItems]
  | item :: rest =>
      intro result member
      rcases List.mem_cons.mp member with rfl | later
      · exact Result.sourced_bare (sourced_literalValue item)
      · exact sourced_bareItems rest result later

end

theorem sourced_named {name : Label} {own : Option Span} (owned : Owned held own) :
    (named name own).Sourced held := by
  unfold named
  split
  · exact Result.sourced_value (Value.sourced_atom rfl) owned
  · exact Result.sourced_reference owned

theorem sourced_charResults (s : String) {own : Option Span} (owned : Owned held own) :
    ∀ result ∈ charResults s own, result.Sourced held := by
  intro result member
  obtain ⟨c, -, rfl⟩ := List.mem_map.mp member
  exact Result.sourced_value (Value.sourced_atom rfl) owned

theorem sourced_spreadEntries {result : Result} (sourced : result.Sourced held) :
    ∀ entry ∈ spreadEntries result, entry.Sourced held := by
  unfold spreadEntries
  split
  · exact Value.sourced_array.mp (Result.value_of_sourced sourced).1
  · exact sourced_charResults _ (Result.value_of_sourced sourced).2
  · simpa using Result.sourced_nonStatic

theorem sourced_indexed {entries : List Result} (each : ∀ result ∈ entries, result.Sourced held) :
    ∀ entry ∈ indexed entries, entry.2.Sourced held := by
  intro entry member
  obtain ⟨index, small, rfl⟩ := List.mem_mapIdx.mp member
  exact each _ (List.getElem_mem small)

theorem sourced_spreadMembers {result : Result} (sourced : result.Sourced held) :
    ∀ entry ∈ spreadMembers result, entry.2.Sourced held := by
  unfold spreadMembers
  split
  · exact Value.sourced_object.mp (Result.value_of_sourced sourced).1
  · exact sourced_indexed (Value.sourced_array.mp (Result.value_of_sourced sourced).1)
  · exact sourced_indexed (sourced_charResults _ (Result.value_of_sourced sourced).2)
  · simp

end Parts

section Tree

variable {root view : Node} {data : Data}

def Sheltered (root : Node) (data : Data) : Prop :=
  ∀ trail node, Walk.Holds data trail node → ∃ address, Walk.Located root address node

def Shelters (root view : Node) : Prop :=
  ∀ (index : Nat) (key value : Data), view.entries[index]? = some (key, value) →
  Node.isReserved key = false →
    Sheltered root value

theorem shelters_of_located {address : Walk.Address} (located : Walk.Located root address view) :
    Shelters root view := fun _ _ _ entry free _ _ held =>
  ⟨_, Walk.located_child located (.field entry free held)⟩

/-- Data that is opened shows a node of the tree, or a record with such nodes in it. -/
theorem opened_sheltered {entries : Entries} (sheltered : Sheltered root (.map entries))
    (opened : Node.ofEntries entries = .ok view) :
    Shelters root view ∧ (view.kind.isSome = true → Owned (Walk.HasSpan root) view.span) := by
  cases tagged : view.kind with
  | some kind =>
      obtain ⟨address, located⟩ := sheltered [] view (.node opened (by simp [tagged]))
      exact ⟨shelters_of_located located, fun _ span known => ⟨address, view, located, known⟩⟩
  | none =>
      -- A record is no node, and what it holds is held by what holds it.
      refine ⟨fun index key value entry free trail node held => ?_, by simp⟩
      rw [Node.entries_of_ofEntries opened] at entry
      exact sheltered _ node (.field opened tagged entry free held)

theorem sheltered_item {items : List Data} (sheltered : Sheltered root (.list items)) :
    ∀ item ∈ items, Sheltered root item := by
  intro item member trail node held
  obtain ⟨index, entry⟩ := List.getElem?_of_mem member
  exact sheltered _ node (.item entry held)

def IsOpen (name : String) : Prop := IsPlain name ∧ Node.isReserved (.text name) = false

instance (name : String) : Decidable (IsOpen name) := inferInstanceAs (Decidable (_ ∧ _))

theorem sheltered_field {name : String} {part : Data} (shelters : Shelters root view)
    (free : IsOpen name) (reads : Reads view name part) : Sheltered root part := by
  obtain ⟨index, entry⟩ := List.getElem?_of_mem (Data.lookup?_mem reads.found)
  exact shelters index _ part entry free.2

end Tree

section Yields

variable {α β : Type} {good : β → Prop} {held : α → Prop}

def Yields (good : α → Prop) (outcome : Except Fault α) : Prop :=
  ∀ value, outcome = .ok value → good value

theorem yields_ok {value : α} (holds : held value) : Yields held (.ok value) := by
  rintro _ ⟨⟩
  exact holds

theorem yields_error {fault : Fault} : Yields held (.error fault) := by
  rintro _ ⟨⟩

theorem yields_any {outcome : Except Fault α} : Yields (fun _ => True) outcome := fun _ _ => trivial

theorem yields_bind {first : Except Fault α} {next : α → Except Fault β} (given : Yields held first)
    (onward : ∀ value, held value → Yields good (next value)) : Yields good (first >>= next) := by
  intro result run
  obtain ⟨value, here, run⟩ := ok_of_bind run
  exact onward value (given value here) result run

variable {root view : Node} {name : String}

theorem yields_field (shelters : Shelters root view) (free : IsOpen name) :
    Yields (fun part : view.Part => Sheltered root part.val) (view.field name) := fun _ run =>
  sheltered_field shelters free (reads_of_field free.1 run)

theorem yields_items (shelters : Shelters root view) (free : IsOpen name) (onText : Fault) :
    Yields (fun row : view.Parts => ∀ item ∈ row.val, Sheltered root item)
      (view.items name onText) := by
  intro row run
  obtain ⟨part, given, run⟩ := ok_of_bind run
  have sheltered := yields_field shelters free part given
  split at run
  · cases run
    exact sheltered_item sheltered
  · split at run
    · cases run
      simp
    · cases run
  · cases run

theorem yields_open {data : Data} {fault : Fault} (sheltered : Sheltered root data) :
    Yields (fun inner : { node : Node // node.size < sizeOf data } => Shelters root inner.val ∧
      (inner.val.kind.isSome = true → Owned (Walk.HasSpan root) inner.val.span))
        (Node.openOr fault data) := by
  intro inner run
  obtain ⟨entries, rfl, opened⟩ := opened_of_openOr run
  exact opened_sheltered sheltered opened

end Yields

section Operators

variable {ε : Type} {held : Span → Prop} {own : Option Span}

def GivesAtom (outcome : Except ε Value) : Prop := ∀ v, outcome = .ok v → v.isAtom = true

theorem givesAtom_ok {v : Value} (atom : v.isAtom = true) : GivesAtom (.ok v : Except ε Value) := by
  rintro _ ⟨⟩
  exact atom

theorem givesAtom_map {α : Type} {f : α → Value} (atom : ∀ a, (f a).isAtom = true)
    (outcome : Except ε α) :
    GivesAtom (outcome.map f) := by
  intro v run
  cases outcome with
  | error why => cases run
  | ok a =>
      cases run
      exact atom a

theorem givesAtom_apply (operator : Arithmetic) (a b : Value) : GivesAtom (operator.apply a b) := by
  unfold Arithmetic.apply
  split
  · exact givesAtom_ok rfl
  · exact givesAtom_map (fun _ => rfl) _
  · rename_i s t
    unfold Arithmetic.onTexts
    split
    · exact givesAtom_ok rfl
    · cases numberOfText s <;> cases numberOfText t <;> rintro _ ⟨⟩
      rfl
  · split
    · cases a.toNumber <;> cases b.toNumber <;> rintro _ ⟨⟩
      rfl
    · exact givesAtom_ok rfl

theorem givesAtom_unary (operator : Unary) (v : Value) : GivesAtom (operator.apply v) := by
  cases operator with
  | plus | negate => exact givesAtom_map (fun _ => rfl) _
  | minus | complement => exact givesAtom_map (fun n => by cases n <;> rfl) _
  | typeOf | void => exact givesAtom_ok rfl

theorem yields_orNonStatic {outcome : Except Refusal Value} (atom : GivesAtom outcome)
    (owned : Owned held own) :
    Yields (Result.Sourced held) (orNonStatic own outcome) := by
  unfold orNonStatic
  split
  · rename_i v
    exact yields_ok (Result.sourced_value (Value.sourced_atom (atom v rfl)) owned)
  · split
    · exact yields_ok Result.sourced_nonStatic
    · exact yields_error

theorem givesAtom_throwIsFalse (outcome : Except Refusal Bool) :
    GivesAtom (throwIsFalse outcome) := by
  unfold throwIsFalse
  split
  · exact givesAtom_ok rfl
  · split
    · exact givesAtom_ok rfl
    · rintro _ ⟨⟩

theorem givesAtom_applySymbol (symbol : String) (a b : Value) :
    GivesAtom (Arithmetic.applySymbol symbol a b) := by
  intro v run
  unfold Arithmetic.applySymbol at run
  split at run
  · rename_i operator _
    cases applied : operator.apply a b with
    | error why =>
        rw [applied] at run
        cases run
    | ok w =>
        rw [applied] at run
        cases run
        exact givesAtom_apply operator a b _ applied
  · obtain ⟨_, _, run⟩ := ok_of_bind run
    cases run

theorem yields_binary (symbol : String) (a b : Value) (owned : Owned held own) :
    Yields (Result.Sourced held) (binary symbol a b own) := by
  unfold binary
  split
  · exact yields_orNonStatic (givesAtom_map (fun _ => rfl) _) owned
  · split
    · exact yields_orNonStatic (givesAtom_throwIsFalse _) owned
    · split
      · exact yields_orNonStatic (givesAtom_throwIsFalse _) owned
      · split
        · rename_i v applied
          exact yields_ok (Result.sourced_value
            (Value.sourced_atom (givesAtom_applySymbol symbol a b v applied)) owned)
        · exact yields_orNonStatic (fun v run => by cases run) owned
        · exact yields_error

theorem yields_unary (symbol : String) (v : Value) (owned : Owned held own) :
    Yields (Result.Sourced held) (unary symbol v own) := by
  unfold unary
  split
  · exact yields_error
  · rename_i operator _
    split
    · split
      · exact yields_ok (Result.sourced_value (Value.sourced_atom rfl) owned)
      · exact yields_orNonStatic (fun v run => by cases run) owned
    · exact yields_orNonStatic (givesAtom_unary operator v) owned

theorem yields_binaryOther (operator : Label) (a b : Value) :
    Yields (Result.Sourced held) (binaryOther operator a b own) := by
  intro result run
  obtain ⟨name, -, run⟩ := ok_of_bind run
  obtain ⟨v, unknown, -⟩ := ok_of_bind run
  obtain ⟨_, _, run⟩ := ok_of_bind unknown
  cases run

theorem yields_pieceValue (node : Node) : Yields (Value.Sourced held) (pieceValue node) := by
  have raw : Yields (Value.Sourced held) (rawPieceValue node) := by
    refine yields_bind yields_any fun part _ => ?_
    cases part with
    | some part => exact yields_ok (sourced_literalValue _)
    | none => exact yields_ok (Value.sourced_atom rfl)
  refine yields_bind yields_any fun part _ => ?_
  cases part with
  | none => exact raw
  | some part =>
      dsimp only
      split
      · exact raw
      · exact yields_ok (sourced_literalValue _)

theorem yields_readMember {base : Value} (key : String) (sourced : base.Sourced held)
    (owned : Owned held own) :
    Yields (Result.Sourced held) ((readMember base key own).mapError Fault.refused) := by
  have atom {v : Value} (atom : v.isAtom = true) : (Result.value v own).Sourced held :=
    Result.sourced_value (Value.sourced_atom atom) owned
  unfold readMember
  split
  · split
    · rename_i found
      exact yields_ok
        (Result.sourced_respan
          (Assoc.holds_of_lookup _ (Value.sourced_object.mp sourced) found) owned)
    · split
      · exact yields_ok Result.sourced_nonStatic
      · exact yields_ok (atom rfl)
  · split
    · exact yields_ok (atom rfl)
    · rename_i entries _
      cases indexOfText key with
      | error why => exact yields_error
      | ok read =>
          cases read with
          | none => exact yields_ok Result.sourced_nonStatic
          | some index =>
              simp only [Except.map, mapError_ok]
              split
              · rename_i found
                exact yields_ok
                  (Result.sourced_respan
                    (Value.sourced_array.mp sourced _ (List.mem_of_getElem? found)) owned)
              · exact yields_ok (atom rfl)
  · exact yields_ok Result.sourced_nonStatic

theorem yields_readLabel {base : Value} (label : Label) (sourced : base.Sourced held)
    (owned : Owned held own) :
    Yields (Result.Sourced held) (readLabel base label own) := by
  unfold readLabel
  split
  · exact yields_readMember _ sourced owned
  · split
    · refine yields_bind yields_any fun key _ => ?_
      split
      · rename_i found
        exact yields_ok (Result.sourced_respan
          (Assoc.holds_of_lookup _ (Value.sourced_object.mp sourced) found) owned)
      · exact yields_ok (Result.sourced_value (Value.sourced_atom rfl) owned)
    · exact yields_error
    · exact yields_ok Result.sourced_nonStatic

end Operators

section Evaluation

variable {table : ScopeTable} {root node : Node} {bound : Nat} {name : String} {own : Option Span}

def SourcedBelow (root : Node) (table : ScopeTable) (bound : Nat) : Prop :=
  ∀ data, sizeOf data < bound → Sheltered root data →
    Yields (Result.Sourced (Walk.HasSpan root)) (evalPart table data)

theorem yields_evalField {α : Type} {good : α → Prop} {next : Result → Except Fault α}
    (below : SourcedBelow root table bound) (small : node.size ≤ bound)
    (shelters : Shelters root node) (free : IsOpen name)
    (onward : ∀ result, result.Sourced (Walk.HasSpan root) → Yields good (next result)) :
    Yields good (do next (← evalPart table (← node.field name).val)) := by
  refine yields_bind (yields_field shelters free) fun part sheltered => ?_
  have lower := part.property
  exact yields_bind (below _ (by omega) sheltered) onward

theorem yields_passing (below : SourcedBelow root table bound) (small : node.size ≤ bound)
    (shelters : Shelters root node) (free : IsOpen name) :
    Yields (Result.Sourced (Walk.HasSpan root)) (do evalPart table (← node.field name).val) := by
  refine yields_bind (yields_field shelters free) fun part sheltered => ?_
  have lower := part.property
  exact below _ (by omega) sheltered

theorem yields_elements (below : SourcedBelow root table bound)
    (owned : Owned (Walk.HasSpan root) own) {items : List Data} (small : sizeOf items < bound)
    (sheltered : ∀ item ∈ items, Sheltered root item) :
    Yields (∀ result ∈ ·, result.Sourced (Walk.HasSpan root)) (evalElements table own items) := by
  induction items with
  | nil =>
      rw [evalElements_nil]
      exact yields_ok (by simp)
  | cons item rest ih =>
      simp only [List.cons.sizeOf_spec] at small
      rw [List.forall_mem_cons] at sheltered
      have onward := ih (by omega) sheltered.2
      by_cases hole : item = .null
      · subst hole
        rw [evalElements_hole]
        refine yields_bind onward fun others each => yields_ok ?_
        exact List.forall_mem_cons.mpr ⟨Result.sourced_value (Value.sourced_atom rfl) owned, each⟩
      · rw [evalElements_element table own rest hole]
        refine yields_bind (yields_open sheltered.1) fun element inner => ?_
        refine yields_bind (yields_field inner.1 (by decide)) fun part inside => ?_
        have lower := Nat.lt_trans part.property element.property
        refine yields_bind (below _ (by omega) inside) fun result sourced => ?_
        refine yields_bind yields_any fun spread _ => yields_bind onward
          fun others each => yields_ok ?_
        refine List.forall_mem_append.mpr ⟨?_, each⟩
        unfold elementEntries
        split
        · simpa using sourced
        · exact sourced_spreadEntries sourced

theorem yields_properties (below : SourcedBelow root table bound) {items : List Data}
    (small : sizeOf items < bound) (sheltered : ∀ item ∈ items, Sheltered root item)
    {members : Members} (sourced : ∀ entry ∈ members, entry.2.Sourced (Walk.HasSpan root)) :
    Yields (∀ entry ∈ ·, entry.2.Sourced (Walk.HasSpan root))
      (evalProperties table members items) := by
  -- The members collected so far have spans from the tree, and so has each one put among them.
  induction items generalizing members with
  | nil =>
      rw [evalProperties_nil]
      exact yields_ok sourced
  | cons item rest ih =>
      simp only [List.cons.sizeOf_spec] at small
      rw [List.forall_mem_cons] at sheltered
      have onward {members : Members} := @ih (by omega) sheltered.2 members
      rw [evalProperties]
      refine yields_bind (yields_open sheltered.1) fun property inner => ?_
      have lower := property.property
      have entry : Yields (∀ entry ∈ ·, entry.2.Sourced (Walk.HasSpan root))
          (evalEntry table members property.val rest) := by
        refine yields_bind yields_any fun key _ => yields_bind yields_any fun found _ => ?_
        cases found with
        | none => exact onward sourced
        | some name =>
            refine yields_evalField below (by omega) inner.1 (by decide) fun result good => ?_
            exact yields_bind yields_any fun name _ => onward (Assoc.forall_put _ sourced good)
      dsimp only
      split
      · refine yields_evalField below (by omega) inner.1 (by decide) fun spread good => ?_
        exact onward (Assoc.forall_putAll _ sourced (sourced_spreadMembers good))
      · exact entry
      · exact entry
      · rename_i tagged
        refine yields_bind yields_any fun label _ => yields_bind yields_any fun name _ => ?_
        exact onward (Assoc.forall_put _ sourced (sourced_named (inner.2 (by simp [tagged]))))
      · exact onward sourced

theorem yields_evalBinary (below : SourcedBelow root table bound) (small : node.size ≤ bound)
    (shelters : Shelters root node) (owned : Owned (Walk.HasSpan root) node.span)
    (tagged : node.kind = some .binaryExpression) :
    Yields (Result.Sourced (Walk.HasSpan root)) (eval table node) := by
  have own {v : Value} (sourced : v.Sourced (Walk.HasSpan root)) :
      (Result.value v node.span).Sourced (Walk.HasSpan root) := Result.sourced_value sourced owned
  rw [eval, tagged]
  refine yields_bind yields_any fun operator _ => ?_
  refine yields_evalField below small shelters (by decide) fun left good => ?_
  obtain ⟨operator, _⟩ := operator
  cases operator with
  | text symbol =>
      dsimp only
      cases Logical.ofSymbol? symbol with
      | some operator =>
          -- One of the sides is the value, and it gets the span of the node.
          cases left with
          | value v span =>
              refine yields_bind yields_any fun decided _ => ?_
              split
              · exact yields_ok (own (Result.value_of_sourced good).1)
              · refine yields_evalField below small shelters (by decide) fun right good => ?_
                cases right with
                | value w span => exact yields_ok (own (Result.value_of_sourced good).1)
                | _ => exact yields_ok Result.sourced_nonStatic
          | _ => exact yields_ok Result.sourced_nonStatic
      | none =>
          refine yields_evalField below small shelters (by decide) fun right _ => ?_
          split
          · exact yields_binary symbol _ _ owned
          · exact yields_ok Result.sourced_nonStatic
  | _ =>
      refine yields_evalField below small shelters (by decide) fun right _ => ?_
      split
      · exact yields_binaryOther _ _ _
      · exact yields_ok Result.sourced_nonStatic

theorem yields_evalUnary (below : SourcedBelow root table bound) (small : node.size ≤ bound)
    (shelters : Shelters root node) (owned : Owned (Walk.HasSpan root) node.span)
    (tagged : node.kind = some .unaryExpression) :
    Yields (Result.Sourced (Walk.HasSpan root)) (eval table node) := by
  rw [eval, tagged]
  refine yields_bind yields_any fun operator _ => ?_
  obtain ⟨operator, _⟩ := operator
  dsimp only
  split
  · exact yields_ok Result.sourced_nonStatic
  · refine yields_evalField below small shelters (by decide) fun result good => ?_
    cases result with
    | value v span =>
        dsimp only
        split
        · exact yields_unary _ v owned
        · exact yields_error
    | _ => exact yields_ok Result.sourced_nonStatic

theorem yields_evalConditional (below : SourcedBelow root table bound) (small : node.size ≤ bound)
    (shelters : Shelters root node) (tagged : node.kind = some .conditionalExpression) :
    Yields (Result.Sourced (Walk.HasSpan root)) (eval table node) := by
  rw [eval, tagged]
  refine yields_evalField below small shelters (by decide) fun test _ => ?_
  cases test with
  | value v span =>
      refine yields_bind yields_any fun holds _ => ?_
      split
      · exact yields_passing below small shelters (by decide)
      · exact yields_passing below small shelters (by decide)
  | _ => exact yields_ok Result.sourced_nonStatic

theorem yields_evalCall (below : SourcedBelow root table bound) (small : node.size ≤ bound)
    (shelters : Shelters root node) (owned : Owned (Walk.HasSpan root) node.span)
    (tagged : node.kind = some .callExpression) :
    Yields (Result.Sourced (Walk.HasSpan root)) (eval table node) := by
  rw [eval, tagged]
  refine yields_bind yields_any fun callee _ => yields_bind yields_any fun api _ => ?_
  split
  · refine yields_bind (yields_items shelters (by decide) _) fun items sheltered => ?_
    have lower := items.property
    refine yields_bind (yields_elements below owned (by omega) sheltered) fun entries each => ?_
    refine yields_ok (Result.sourced_value (Value.sourced_array.mpr fun result member => ?_) owned)
    exact each result (List.mem_reverse.mp member)
  · exact yields_ok Result.sourced_nonStatic

theorem yields_evalMember (below : SourcedBelow root table bound) (small : node.size ≤ bound)
    (shelters : Shelters root node) (owned : Owned (Walk.HasSpan root) node.span)
    (tagged : node.kind = some .memberExpression) :
    Yields (Result.Sourced (Walk.HasSpan root)) (eval table node) := by
  rw [eval, tagged]
  refine yields_evalField below small shelters (by decide) fun base good => ?_
  cases base with
  | nonStatic => exact yields_ok Result.sourced_nonStatic
  | _ =>
      refine yields_bind yields_any fun property _ => yields_bind yields_any fun key _ => ?_
      cases key with
      | none => exact yields_ok Result.sourced_nonStatic
      | some key =>
          dsimp only
          first
            | exact yields_ok (Result.sourced_reference owned)
            | exact yields_readLabel key (Result.value_of_sourced good).1 owned
            | exact yields_ok Result.sourced_nonStatic

theorem yields_evalSequence (below : SourcedBelow root table bound) (small : node.size ≤ bound)
    (shelters : Shelters root node) (tagged : node.kind = some .sequenceExpression) :
    Yields (Result.Sourced (Walk.HasSpan root)) (eval table node) := by
  rw [eval, tagged]
  refine yields_bind (yields_items shelters (by decide) _) fun items sheltered => ?_
  have lower := items.property
  dsimp only
  split
  · rename_i last found
    have member := List.mem_of_getLast? found
    have less := List.sizeOf_lt_of_mem member
    exact below _ (by omega) (sheltered _ member)
  · exact yields_error

/-- The step: the spans in the result of a node are those of nodes in the tree when this holds
of all that is smaller. -/
theorem yields_eval (below : SourcedBelow root table bound) (small : node.size ≤ bound)
    (shelters : Shelters root node)
    (known : node.kind.isSome = true → Owned (Walk.HasSpan root) node.span) :
    Yields (Result.Sourced (Walk.HasSpan root)) (eval table node) := by
  cases tagged : node.kind with
  | none =>
      rw [eval, tagged]
      exact yields_error
  | some kind =>
      have owned := known (by simp [tagged])
      have own {v : Value} (sourced : v.Sourced (Walk.HasSpan root)) :
          (Result.value v node.span).Sourced (Walk.HasSpan root) :=
            Result.sourced_value sourced owned
      have atom {v : Value} (atom : v.isAtom = true) :
          (Result.value v node.span).Sourced (Walk.HasSpan root) := own (Value.sourced_atom atom)
      have pass {kind : Kind} {name : String} (tagged : node.kind = some kind)
          (passes : passesOn kind = some name) :
          Yields (Result.Sourced (Walk.HasSpan root)) (eval table node) := by
        rw [eval_passes table tagged passes]
        refine yields_passing below small shelters ?_
        cases kind <;> cases passes <;> decide
      cases kind with
      | stringLiteral | booleanLiteral =>
          rw [eval, tagged]
          exact yields_bind yields_any fun part _ => yields_ok (own (sourced_literalValue _))
      | numericLiteral =>
          rw [eval, tagged]
          exact yields_bind yields_any fun part _ => yields_bind yields_any fun x _ =>
            yields_ok (atom rfl)
      | bigIntLiteral =>
          rw [eval, tagged]
          exact yields_bind yields_any fun i _ => yields_ok (atom rfl)
      | nullLiteral =>
          rw [eval, tagged]
          exact yields_ok (atom rfl)
      | regExpLiteral =>
          rw [eval, tagged]
          exact yields_bind yields_any fun pattern _ => yields_bind yields_any fun flags _ =>
            yields_ok (atom rfl)
      | invalid =>
          rw [eval, tagged]
          exact yields_error
      | identifier =>
          rw [eval, tagged]
          exact yields_bind yields_any fun label _ => yields_ok (sourced_named owned)
      | arrayExpression =>
          rw [eval, tagged]
          refine yields_bind (yields_items shelters (by decide) _) fun items sheltered => ?_
          have lower := items.property
          refine yields_bind (yields_elements below owned (by omega) sheltered)
            fun entries each => ?_
          exact yields_ok (own (Value.sourced_array.mpr each))
      | objectExpression =>
          rw [eval, tagged]
          refine yields_bind (yields_items shelters (by decide) _) fun items sheltered => ?_
          have lower := items.property
          refine yields_bind (yields_properties below (by omega) sheltered (by simp))
            fun members each => ?_
          exact yields_ok (own (Value.sourced_object.mpr each))
      | binaryExpression => exact yields_evalBinary below small shelters owned tagged
      | unaryExpression => exact yields_evalUnary below small shelters owned tagged
      | conditionalExpression => exact yields_evalConditional below small shelters tagged
      | templateLiteral =>
          rw [eval, tagged]
          refine yields_bind yields_any fun expressions _ => yields_bind yields_any
            fun quasis _ => ?_
          refine yields_bind yields_any fun text _ => ?_
          cases text with
          | some text => exact yields_ok (atom rfl)
          | none => exact yields_ok Result.sourced_nonStatic
      | templateElement =>
          rw [eval, tagged]
          exact yields_bind (yields_pieceValue node) fun v sourced => yields_ok (own sourced)
      | callExpression => exact yields_evalCall below small shelters owned tagged
      | memberExpression => exact yields_evalMember below small shelters owned tagged
      | sequenceExpression => exact yields_evalSequence below small shelters tagged
      | _ =>
          first
            | exact pass tagged rfl
            | rw [eval_unread table tagged rfl]
              exact yields_ok Result.sourced_nonStatic

theorem sourcedBelow (root : Node) (table : ScopeTable) (bound : Nat) :
    SourcedBelow root table bound := by
  induction bound with
  | zero =>
      intro data small
      exact absurd small (Nat.not_lt_zero _)
  | succ bound below =>
      intro data small sheltered
      rw [evalPart]
      refine yields_bind (yields_open sheltered) fun inner known => ?_
      have lower := inner.property
      exact yields_eval below (by omega) known.1 known.2

theorem sourced_eval (table : ScopeTable) (node : Node) :
    Yields (Result.Sourced (Walk.HasSpan node)) (eval table node) :=
  yields_eval (sourcedBelow node table node.size) (Nat.le_refl _) (shelters_of_located (.here node))
    fun _ _ known => ⟨[], node, .here node, known⟩

/-- Each span in a result is that of the node that was evaluated or of one below it. So where the
spans of a tree are nested, the span of that node has all spans of the result inside. -/
theorem evaluate_spans (table : ScopeTable) (data : Data) (result : Result)
    (evaluated : evaluate table data = .ok result) :
    ∃ node, Node.ofData data = .ok node ∧ (∀ span, result.Bears span → Walk.HasSpan node span) ∧
      (Walk.Nested node → ∀ inner, result.Bears inner →
        ∃ outer, node.span = some outer ∧ outer.Surrounds inner) := by
  obtain ⟨node, opened, run⟩ := ok_of_bind evaluated
  have sourced := sourced_eval table node result run
  exact ⟨node, opened, sourced, fun nested inner bears => nested.surrounds (sourced inner bears)⟩

def spanData (start stop : Int) : Data :=
  .map [(.text "start", .int start), (.text "end", .int stop)]

def textAt (start stop : Int) : Node where
  kind := some .stringLiteral
  span := some ⟨start, stop⟩
  entries := [(.text "type", .text "StringLiteral"), (.text "span", spanData start stop),
    (.text "value", .text "x")]

/-- The array `[, ..."x"]`. -/
def holeAndText : Node where
  kind := some .arrayExpression
  span := some ⟨0, 10⟩
  entries :=
    [(.text "type", .text "ArrayExpression"), (.text "span", spanData 0 10),
      (.text "elements", .list [.null,
        .map [(.text "spread", spanData 3 6), (.text "expression", .map (textAt 6 9).entries)]])]

theorem child_holeAndText {trail : Walk.Trail} {node : Node}
    (child : Walk.Child holeAndText trail node) :
    node = textAt 6 9 := by
  have member := Walk.mem_seats.mpr child
  rw [show Walk.seats holeAndText = [⟨[⟨2, "elements"⟩, ⟨1, "1"⟩, ⟨1, "expression"⟩], textAt 6 9⟩]
    from rfl] at member
  cases List.mem_singleton.mp member
  rfl

theorem surrounded_holeAndText {around : Option Span} {node : Node}
    (surrounded : Walk.Surrounded holeAndText around node) :
    around = some ⟨0, 10⟩ ∧ node = textAt 6 9 := by
  induction surrounded with
  | top child => exact ⟨rfl, child_holeAndText child⟩
  | lower above child ih =>
      obtain ⟨-, rfl⟩ := ih
      have member := Walk.mem_seats.mpr child
      rw [show Walk.seats (textAt 6 9) = [] from rfl] at member
      cases member

theorem nested_holeAndText : Walk.Nested holeAndText := by
  intro around node inner surrounded known
  obtain ⟨rfl, rfl⟩ := surrounded_holeAndText surrounded
  cases known
  exact ⟨_, rfl, by decide⟩

theorem evaluate_holeAndText : evaluate {} (.map holeAndText.entries) =
    .ok (.value (.array [.value .undefined (some ⟨0, 10⟩), .value (.string "x") (some ⟨6, 9⟩)])
      (some ⟨0, 10⟩)) := by
  have text : evalPart {} (.map (textAt 6 9).entries) =
      .ok (.value (.string "x") (some ⟨6, 9⟩)) := by
    rw [evalPart_map {} (rfl : Node.ofEntries (textAt 6 9).entries = .ok (textAt 6 9)),
      eval_literal {} (.inl rfl) ⟨rfl, rfl⟩]
    rfl
  rw [evaluate_map, evalPart_map {} (rfl : Node.ofEntries holeAndText.entries = .ok holeAndText),
    eval_array {} rfl ⟨rfl, rfl⟩, evalElements_hole,
    evalElements_cons {} _ rfl ⟨rfl, rfl⟩ rfl, text, evalElements_nil]
  rfl

/-- A hole has the span of the array, a character that of the text it comes from. -/
theorem evaluate_spans_holeAndText : Walk.Nested holeAndText ∧ ∃ result,
    evaluate {} (.map holeAndText.entries) = .ok result ∧
      ∃ node, Node.ofData (.map holeAndText.entries) = .ok node ∧
        (∀ span, result.Bears span → Walk.HasSpan node span) ∧
        (Walk.Nested node → ∀ inner, result.Bears inner →
          ∃ outer, node.span = some outer ∧ outer.Surrounds inner) :=
  ⟨nested_holeAndText, _, evaluate_holeAndText, evaluate_spans {} _ _ evaluate_holeAndText⟩

end Evaluation

end Fold

end StyleFold
