import Mathlib.Data.List.Forall2
import StyleFold.Proofs.Walk.Seat
import StyleFold.Tree.Label

/-!
Trees whose spans have all been moved by one distance. Everything else in the moved tree is
as it was, so reading a field of it gives the moved part, and faults differ at most in
their words. Names that hold nodes with spans are an exception, since a name shows the
spans in it; they are kept apart.
-/

namespace StyleFold

section Moving

def Data.movedEnd (d : Int) : Data → Data
  | .int i => .int (i + d)
  | other => other

def movedEnds (d : Int) (bounds : Entries) : Entries :=
  bounds.map fun entry =>
    (entry.1, if Data.isKey "start" entry.1 || Data.isKey "end" entry.1 then entry.2.movedEnd d
      else entry.2)

def Data.movedSpan (d : Int) : Data → Data
  | .map bounds =>
      if (Data.lookup? "start" bounds).isSome && (Data.lookup? "end" bounds).isSome then
        .map (movedEnds d bounds)
      else .map bounds
  | other => other

mutual

/-- The data with the span of every mapping in it moved. -/
def Data.moved (d : Int) : Data → Data
  | .map entries => .map (movedFields d entries)
  | .list items => .list (movedItems d items)
  | .pair key value => .pair (key.moved d) (value.moved d)
  | other => other

def movedFields (d : Int) : Entries → Entries
  | [] => []
  | (key, value) :: rest =>
      (key, if Data.isKey "span" key then value.movedSpan d
        else if Node.isReserved key then value else value.moved d) :: movedFields d rest

def movedItems (d : Int) : List Data → List Data
  | [] => []
  | item :: rest => item.moved d :: movedItems d rest

end

def Node.moved (d : Int) (node : Node) : Node :=
  ⟨node.kind, node.span.map fun span => span.shifted d, movedFields d node.entries⟩

mutual

def Data.Each (property : Entries → Prop) : Data → Prop
  | .map entries => property entries ∧ EachField property entries
  | .list items => EachItem property items
  | .pair key value => key.Each property ∧ value.Each property
  | _ => True

def EachField (property : Entries → Prop) : Entries → Prop
  | [] => True
  | (key, value) :: rest =>
      (Node.isReserved key = false → value.Each property) ∧ EachField property rest

def EachItem (property : Entries → Prop) : List Data → Prop
  | [] => True
  | item :: rest => item.Each property ∧ EachItem property rest

end

def writtenFields : Kind → List String
  | .identifier | .stringLiteral | .booleanLiteral => ["value"]
  | .regExpLiteral => ["pattern", "flags"]
  | .templateElement => ["cooked", "raw"]
  | _ => []

/-- A mapping that can be moved: so can its span, without a start before the beginning, and there is
nothing to move in its names. -/
structure Movable (d : Int) (entries : Entries) : Prop where
  opens : Node.ofEntries (movedFields d entries) = (Node.ofEntries entries).map (Node.moved d)
  start : ∀ node span, Node.ofEntries entries = .ok node → node.span = some span →
    d = 0 ∨ (0 ≤ span.start ∧ 0 ≤ span.start + d)
  written : ∀ node kind name part, Node.ofEntries entries = .ok node → node.kind = some kind →
    name ∈ writtenFields kind → Data.lookup? name entries = some part → part.moved d = part
  secret : ∀ node inner part, Node.ofEntries entries = .ok node →
    node.kind = some .privateName → Data.lookup? "id" entries = some (.map inner) →
    Data.lookup? "value" inner = some part → part.moved d = part

/-- Changing the values of a mapping by their keys changes what is found under a key. -/
theorem lookup?_map (change : Data → Data → Data) (name : String) (entries : Entries) :
    Data.lookup? name (entries.map fun entry => (entry.1, change entry.1 entry.2)) =
      (Data.lookup? name entries).map (change (.text name)) := by
  induction entries with
  | nil => rfl
  | cons entry rest ih =>
      obtain ⟨key, value⟩ := entry
      simp only [List.map_cons, Data.lookup?]
      cases here : Data.isKey name key with
      | true => simp [Data.isKey_iff.mp here]
      | false => simpa [here] using ih

theorem movedFields_eq_map (d : Int) (entries : Entries) :
    movedFields d entries = entries.map fun entry =>
      (entry.1, if Data.isKey "span" entry.1 then entry.2.movedSpan d
        else if Node.isReserved entry.1 then entry.2 else entry.2.moved d) := by
  induction entries with
  | nil => rfl
  | cons entry rest ih => simp only [movedFields, List.map_cons, ih]

theorem lookup?_movedFields (d : Int) (entries : Entries) {name : String}
    (free : Node.isReserved (.text name) = false) :
    Data.lookup? name (movedFields d entries) = (Data.lookup? name entries).map (Data.moved d) := by
  have notSpan : Data.isKey "span" (.text name) = false := by
    cases same : Data.isKey "span" (.text name) with
    | false => rfl
    | true => simp [Node.isReserved, same] at free
  rw [movedFields_eq_map, lookup?_map fun key value => if Data.isKey "span" key
    then value.movedSpan d
    else if Node.isReserved key then value else value.moved d]
  simp [notSpan, free]

theorem lookup?_type_moved (d : Int) (entries : Entries) :
    Data.lookup? "type" (movedFields d entries) = Data.lookup? "type" entries := by
  rw [movedFields_eq_map, lookup?_map fun key value => if Data.isKey "span" key
    then value.movedSpan d
    else if Node.isReserved key then value else value.moved d]
  cases Data.lookup? "type" entries <;> rfl

theorem lookup?_span_moved (d : Int) (entries : Entries) :
    Data.lookup? "span" (movedFields d entries) =
      (Data.lookup? "span" entries).map (Data.movedSpan d) := by
  rw [movedFields_eq_map, lookup?_map fun key value => if Data.isKey "span" key
    then value.movedSpan d
    else if Node.isReserved key then value else value.moved d]
  cases Data.lookup? "span" entries <;> rfl

theorem lookup?_movedEnds (d : Int) (bounds : Entries) {name : String}
    (isEnd : name = "start" ∨ name = "end") :
    Data.lookup? name (movedEnds d bounds) = (Data.lookup? name bounds).map (Data.movedEnd d) := by
  rw [movedEnds, lookup?_map fun key value =>
    if Data.isKey "start" key || Data.isKey "end" key then value.movedEnd d else value]
  rcases isEnd with rfl | rfl <;> rfl

theorem spanOf_moved (d : Int) {entries : Entries} (whole : Walk.hasWholeSpan entries = true) :
    Node.spanOf (Data.lookup? "span" (movedFields d entries)) =
      (Node.spanOf (Data.lookup? "span" entries)).map (Option.map fun span => span.shifted d) := by
  rw [lookup?_span_moved]
  unfold Walk.hasWholeSpan at whole
  cases written : Data.lookup? "span" entries with
  | none => rfl
  | some value =>
      cases value with
      | map bounds =>
          simp only [written] at whole
          cases first : Data.lookup? "start" bounds with
          | none => simp [Data.movedSpan, Node.spanOf, first, Except.map]
          | some a =>
              cases last : Data.lookup? "end" bounds with
              | none => simp [Data.movedSpan, Node.spanOf, first, last, Except.map]
              | some b =>
                  simp only [first, last] at whole
                  split at whole
                  · rename_i i j left right
                    cases left
                    cases right
                    simp [Data.movedSpan, Node.spanOf, first, last,
                      lookup?_movedEnds d bounds (.inl rfl), lookup?_movedEnds d bounds (.inr rfl),
                      Data.movedEnd, Node.boundOf, bind, Except.bind, pure, Except.pure, Except.map,
                      Span.shifted]
                  · cases whole
                  · rename_i missing
                    exact absurd rfl (missing a b rfl)
      | _ => rfl

theorem ofEntries_moved (d : Int) {entries : Entries} (whole : Walk.hasWholeSpan entries = true) :
    Node.ofEntries (movedFields d entries) = (Node.ofEntries entries).map (Node.moved d) := by
  unfold Node.ofEntries
  rw [lookup?_type_moved, spanOf_moved d whole]
  cases Node.kindOf (Data.lookup? "type" entries) with
  | error fault => rfl
  | ok kind => cases Node.spanOf (Data.lookup? "span" entries) <;> rfl

mutual

theorem moved_zero (data : Data) : data.moved 0 = data := by
  match data with
  | .map entries => rw [Data.moved, movedFields_zero entries]
  | .list items => rw [Data.moved, movedItems_zero items]
  | .pair key value => rw [Data.moved, moved_zero key, moved_zero value]
  | .null | .bool _ | .int _ | .float _ | .text _ | .bytes _ | .moment _ | .set _ | .cycle _ => rfl

theorem movedFields_zero (entries : Entries) : movedFields 0 entries = entries := by
  match entries with
  | [] => rfl
  | (key, value) :: rest =>
      have ends (value : Data) : value.movedEnd 0 = value := by
        cases value <;> simp [Data.movedEnd]
      have span : value.movedSpan 0 = value := by
        cases value <;> simp [Data.movedSpan, movedEnds, ends]
      rw [movedFields, movedFields_zero rest, moved_zero value, span]
      simp

theorem movedItems_zero (items : List Data) : movedItems 0 items = items := by
  match items with
  | [] => rfl
  | item :: rest => rw [movedItems, moved_zero item, movedItems_zero rest]

end

end Moving

section Fitting

mutual

/-- Every mapping in the data passes a test. -/
def Data.all (test : Entries → Bool) : Data → Bool
  | .map entries => test entries && allFields test entries
  | .list items => allItems test items
  | .pair key value => key.all test && value.all test
  | _ => true

def allFields (test : Entries → Bool) : Entries → Bool
  | [] => true
  | (key, value) :: rest => (Node.isReserved key || value.all test) && allFields test rest

def allItems (test : Entries → Bool) : List Data → Bool
  | [] => true
  | item :: rest => item.all test && allItems test rest

end

mutual

theorem each_of_all {test : Entries → Bool} {property : Entries → Prop}
    (gives : ∀ entries, test entries = true → property entries) (data : Data)
    (passes : data.all test = true) : data.Each property := by
  match data with
  | .map entries =>
      simp only [Data.all, Bool.and_eq_true] at passes
      exact ⟨gives entries passes.1, each_of_allFields gives entries passes.2⟩
  | .list items => exact each_of_allItems gives items passes
  | .pair key value =>
      simp only [Data.all, Bool.and_eq_true] at passes
      exact ⟨each_of_all gives key passes.1, each_of_all gives value passes.2⟩
  | .null | .bool _ | .int _ | .float _ | .text _ | .bytes _ | .moment _ | .set _ | .cycle _ =>
      simp only [Data.Each]

theorem each_of_allFields {test : Entries → Bool} {property : Entries → Prop}
    (gives : ∀ entries, test entries = true → property entries) (entries : Entries)
    (passes : allFields test entries = true) : EachField property entries := by
  match entries with
  | [] => trivial
  | (key, value) :: rest =>
      simp only [allFields, Bool.and_eq_true, Bool.or_eq_true] at passes
      refine ⟨fun free => ?_, each_of_allFields gives rest passes.2⟩
      rcases passes.1 with reserved | inside
      · simp [reserved] at free
      · exact each_of_all gives value inside

theorem each_of_allItems {test : Entries → Bool} {property : Entries → Prop}
    (gives : ∀ entries, test entries = true → property entries) (items : List Data)
    (passes : allItems test items = true) : EachItem property items := by
  match items with
  | [] => trivial
  | item :: rest =>
      simp only [allItems, Bool.and_eq_true] at passes
      exact ⟨each_of_all gives item passes.1, each_of_allItems gives rest passes.2⟩

end

mutual

theorem all_true (data : Data) : data.all (fun _ => true) = true := by
  match data with
  | .map entries => simp only [Data.all, Bool.true_and, allFields_true entries]
  | .list items => simp only [Data.all, allItems_true items]
  | .pair key value => simp only [Data.all, all_true key, all_true value, Bool.and_self]
  | .null | .bool _ | .int _ | .float _ | .text _ | .bytes _ | .moment _ | .set _ | .cycle _ =>
      simp only [Data.all]

theorem allFields_true (entries : Entries) : allFields (fun _ => true) entries = true := by
  match entries with
  | [] => rfl
  | (key, value) :: rest =>
      simp only [allFields, all_true value, allFields_true rest, Bool.or_true, Bool.and_self]

theorem allItems_true (items : List Data) : allItems (fun _ => true) items = true := by
  match items with
  | [] => rfl
  | item :: rest => simp only [allItems, all_true item, allItems_true rest, Bool.and_self]

end

def Data.isSpan : Data → Bool
  | .map bounds => (Data.lookup? "start" bounds).isSome && (Data.lookup? "end" bounds).isSome
  | _ => false

mutual

def Data.isSpanless : Data → Bool
  | .map entries => spanlessFields entries
  | .list items => spanlessItems items
  | .pair key value => key.isSpanless && value.isSpanless
  | _ => true

def spanlessFields : Entries → Bool
  | [] => true
  | (key, value) :: rest =>
      (if Data.isKey "span" key then !value.isSpan else Node.isReserved key || value.isSpanless) &&
        spanlessFields rest

def spanlessItems : List Data → Bool
  | [] => true
  | item :: rest => item.isSpanless && spanlessItems rest

end

mutual

theorem moved_of_isSpanless (d : Int) (data : Data) (bare : data.isSpanless = true) :
    data.moved d = data := by
  match data with
  | .map entries => rw [Data.moved, movedFields_of_spanless d entries bare]
  | .list items => rw [Data.moved, movedItems_of_spanless d items bare]
  | .pair key value =>
      simp only [Data.isSpanless, Bool.and_eq_true] at bare
      rw [Data.moved, moved_of_isSpanless d key bare.1, moved_of_isSpanless d value bare.2]
  | .null | .bool _ | .int _ | .float _ | .text _ | .bytes _ | .moment _ | .set _ | .cycle _ => rfl

theorem movedFields_of_spanless (d : Int) (entries : Entries)
    (bare : spanlessFields entries = true) : movedFields d entries = entries := by
  match entries with
  | [] => rfl
  | (key, value) :: rest =>
      simp only [spanlessFields, Bool.and_eq_true] at bare
      rw [movedFields, movedFields_of_spanless d rest bare.2]
      congr 2
      split
      · rename_i here
        rw [if_pos here] at bare
        cases value with
        | map bounds =>
            have missing := bare.1
            simp only [Data.isSpan, Bool.not_eq_true'] at missing
            simp only [Data.movedSpan, missing, Bool.false_eq_true, if_false]
        | _ => rfl
      · rename_i other
        rw [if_neg other, Bool.or_eq_true] at bare
        split
        · rfl
        · rename_i free
          exact moved_of_isSpanless d value (bare.1.resolve_left free)

theorem movedItems_of_spanless (d : Int) (items : List Data) (bare : spanlessItems items = true) :
    movedItems d items = items := by
  match items with
  | [] => rfl
  | item :: rest =>
      simp only [spanlessItems, Bool.and_eq_true] at bare
      rw [movedItems, moved_of_isSpanless d item bare.1, movedItems_of_spanless d rest bare.2]

end

/-- The span starts at or after the beginning of the text, and so it does when it is moved. -/
def hasRoom (d : Int) (entries : Entries) : Bool :=
  match Node.spanOf (Data.lookup? "span" entries) with
  | .ok (some span) => decide (0 ≤ span.start) && decide (0 ≤ span.start + d)
  | _ => true

def hasPlainNames (entries : Entries) : Bool :=
  match Node.kindOf (Data.lookup? "type" entries) with
  | .ok (some .privateName) =>
      match Data.lookup? "id" entries with
      | some (.map inner) => (Data.lookup? "value" inner).all Data.isSpanless
      | _ => true
  | .ok (some kind) =>
      (writtenFields kind).all fun name => (Data.lookup? name entries).all Data.isSpanless
  | _ => true

/-- A mapping whose span is whole and can be moved, and whose names stay as they are. -/
def fitsMove (d : Int) (entries : Entries) : Bool :=
  Walk.hasWholeSpan entries && hasRoom d entries && hasPlainNames entries

theorem ofEntries_parts {entries : Entries} {node : Node}
    (opened : Node.ofEntries entries = .ok node) :
    Node.kindOf (Data.lookup? "type" entries) = .ok node.kind ∧
      Node.spanOf (Data.lookup? "span" entries) = .ok node.span := by
  unfold Node.ofEntries at opened
  cases kind : Node.kindOf (Data.lookup? "type" entries) with
  | error fault => simp [kind, bind, Except.bind] at opened
  | ok k =>
      cases span : Node.spanOf (Data.lookup? "span" entries) with
      | error fault => simp [kind, span, bind, Except.bind] at opened
      | ok s =>
          simp only [kind, span, bind, Except.bind, pure, Except.pure, Except.ok.injEq] at opened
          subst opened
          exact ⟨rfl, rfl⟩

theorem movable_of_fitsMove {d : Int} (entries : Entries) (fits : fitsMove d entries = true) :
    Movable d entries := by
  simp only [fitsMove, Bool.and_eq_true] at fits
  obtain ⟨⟨whole, room⟩, plain⟩ := fits
  refine ⟨ofEntries_moved d whole, ?_, ?_, ?_⟩
  · intro node span opened here
    simp only [hasRoom, (ofEntries_parts opened).2, here, Bool.and_eq_true,
      decide_eq_true_eq] at room
    exact .inr room
  · intro node kind name part opened tagged written found
    rw [hasPlainNames, (ofEntries_parts opened).1, tagged] at plain
    refine moved_of_isSpanless d part ?_
    have bare (bare : (writtenFields kind).all
        (fun name => (Data.lookup? name entries).all Data.isSpanless) = true) :
        part.isSpanless = true := by
      have here := List.all_eq_true.mp bare name written
      simpa [found] using here
    cases kind <;> first | exact bare plain | cases written
  · intro node inner part opened tagged id found
    simp only [hasPlainNames, (ofEntries_parts opened).1, tagged, id, found,
      Option.all_some] at plain
    exact moved_of_isSpanless d part plain

theorem Node.moved_zero (node : Node) : node.moved 0 = node := by
  obtain ⟨kind, span, entries⟩ := node
  rw [Node.moved, movedFields_zero]
  cases span <;> simp [Span.shifted_zero]

theorem movable_zero (entries : Entries) : Movable 0 entries := by
  refine ⟨?_, fun _ _ _ _ => .inl rfl, fun _ _ _ part _ _ _ _ => moved_zero part,
    fun _ _ part _ _ _ _ => moved_zero part⟩
  rw [movedFields_zero]
  cases Node.ofEntries entries with
  | error fault => rfl
  | ok node => simp only [Except.map, Node.moved_zero]

theorem each_movable_zero (data : Data) : data.Each (Movable 0) :=
  each_of_all (fun entries _ => movable_zero entries) data (all_true data)

end Fitting

section Agreement

variable {d : Int} {α β γ δ : Type}

/-- Faults of one family, which is not that of scopes. Nothing is reworded by moving nowhere. -/
structure Reworded (d : Int) (fault other : Fault) : Prop where
  family : other.family = fault.family
  unscoped : fault.family ≠ .scope
  same : d = 0 → other = fault

theorem reworded_refl (d : Int) {fault : Fault} (unscoped : fault.family ≠ .scope) :
    Reworded d fault fault :=
  ⟨rfl, unscoped, fun _ => rfl⟩

/-- Both outcomes are related answers, or faults that differ in words only. -/
inductive Agree (d : Int) (relation : α → β → Prop) : Except Fault α → Except Fault β → Prop where
  | ok {a : α} {b : β} (related : relation a b) : Agree d relation (.ok a) (.ok b)
  | fault {fault other : Fault} (reworded : Reworded d fault other) :
      Agree d relation (.error fault) (.error other)

theorem agree_bind {relation : α → β → Prop} {further : γ → δ → Prop} {first : Except Fault α}
    {second : Except Fault β} {next : α → Except Fault γ} {after : β → Except Fault δ}
    (agree : Agree d relation first second)
    (onward : ∀ a b, relation a b → Agree d further (next a) (after b)) :
    Agree d further (first >>= next) (second >>= after) := by
  cases agree with
  | ok related => exact onward _ _ related
  | fault reworded => exact .fault reworded

theorem agree_map {relation : α → β → Prop} {further : γ → δ → Prop} {first : Except Fault α}
    {second : Except Fault β} {f : α → γ} {g : β → δ} (agree : Agree d relation first second)
    (onward : ∀ a b, relation a b → further (f a) (g b)) :
    Agree d further (first.map f) (second.map g) := by
  cases agree with
  | ok related => exact .ok (onward _ _ related)
  | fault reworded => exact .fault reworded

theorem agree_mono {relation further : α → β → Prop} {first : Except Fault α}
    {second : Except Fault β} (agree : Agree d relation first second)
    (onward : ∀ a b, first = .ok a → second = .ok b → relation a b → further a b) :
    Agree d further first second := by
  cases agree with
  | ok related => exact .ok (onward _ _ rfl rfl related)
  | fault reworded => exact .fault reworded

theorem agree_fault {relation : α → β → Prop} {fault : Fault} (unscoped : fault.family ≠ .scope) :
    Agree d relation (.error fault) (.error fault) := .fault (reworded_refl d unscoped)

theorem agree_refusal {relation : α → β → Prop} (why : Refusal) :
    Agree d relation (.error (.refused why)) (.error (.refused why)) := by
  refine agree_fault ?_
  cases why <;> simp [Fault.family, Refusal.family]

theorem agree_refused {outcome : Except Refusal α} :
    Agree d Eq (outcome.mapError Fault.refused) (outcome.mapError Fault.refused) := by
  cases outcome with
  | ok a => exact .ok rfl
  | error why => exact agree_refusal why

theorem unscoped_of_agree {relation : α → β → Prop} {first : Except Fault α}
    {second : Except Fault β} (agree : Agree d relation first second) {fault : Fault}
    (failed : first = .error fault) :
    fault.family ≠ .scope := by
  cases agree with
  | ok related => cases failed
  | fault reworded =>
      cases failed
      exact reworded.unscoped

end Agreement

section Reading

variable {d : Int}

structure Data.MovesTo (d : Int) (data other : Data) : Prop where
  moved : other = data.moved d
  fit : data.Each (Movable d)

structure Node.MovesTo (d : Int) (node other : Node) : Prop where
  moved : other = node.moved d
  opened : Node.ofEntries node.entries = .ok node
  fit : (Data.map node.entries).Each (Movable d)

theorem Data.movesTo_zero (data : Data) : data.MovesTo 0 data :=
  ⟨(moved_zero data).symm, each_movable_zero data⟩

theorem Node.movesTo_zero {node : Node} (opened : Node.ofEntries node.entries = .ok node) :
    node.MovesTo 0 node := ⟨node.moved_zero.symm, opened, each_movable_zero _⟩

abbrev Node.PartMoves (d : Int) {node other : Node} (part : node.Part)
    (further : other.Part) : Prop :=
  part.val.MovesTo d further.val

variable {node other : Node}

theorem Node.MovesTo.kind (moves : node.MovesTo d other) : other.kind = node.kind := by
  rw [moves.moved]
  rfl

theorem Node.MovesTo.isKind (moves : node.MovesTo d other) (kind : Kind) :
    other.isKind kind = node.isKind kind := by
  rw [Node.isKind, moves.kind, Node.isKind]

theorem Node.MovesTo.span (moves : node.MovesTo d other) :
    other.span = node.span.map fun span => span.shifted d := by
  rw [moves.moved]
  rfl

theorem Node.MovesTo.entries (moves : node.MovesTo d other) :
    other.entries = movedFields d node.entries := by
  rw [moves.moved]
  rfl

theorem ofData_self {tree : Data} (opened : Node.ofData tree = .ok node) :
    Node.ofEntries node.entries = .ok node := by
  cases tree with
  | map entries => rwa [Node.entries_of_ofEntries opened]
  | _ => cases opened

theorem ofEntries_self {entries : Entries} (opened : Node.ofEntries entries = .ok node) :
    Node.ofEntries node.entries = .ok node := by
  rw [Node.entries_of_ofEntries opened, opened]

theorem each_lookup? {property : Entries → Prop} {entries : Entries} {name : String} {part : Data}
    (each : EachField property entries) (free : Node.isReserved (.text name) = false)
    (found : Data.lookup? name entries = some part) : part.Each property := by
  induction entries with
  | nil => simp [Data.lookup?] at found
  | cons entry rest ih =>
      obtain ⟨key, value⟩ := entry
      simp only [EachField] at each
      simp only [Data.lookup?] at found
      split at found
      · rename_i here
        cases found
        rw [Data.isKey_iff.mp here] at each
        exact each.1 free
      · exact ih each.2 found

theorem movesTo_items {items : List Data} (each : EachItem (Movable d) items) :
    List.Forall₂ (Data.MovesTo d) items (movedItems d items) := by
  induction items with
  | nil => exact .nil
  | cons item rest ih =>
      simp only [EachItem] at each
      exact .cons ⟨rfl, each.1⟩ (ih each.2)

theorem ofEntries_unscoped {entries : Entries} {fault : Fault}
    (failed : Node.ofEntries entries = .error fault) : fault.family ≠ .scope := by
  have numeral {text : String} {fault : Fault} (failed : Node.numeralOf text = .error fault) :
      fault.family ≠ .scope := by
    unfold Node.numeralOf at failed
    split at failed <;> cases failed
    decide
  have bound {data : Data} {fault : Fault} (failed : Node.boundOf data = .error fault) :
      fault.family ≠ .scope := by
    unfold Node.boundOf at failed
    split at failed
    · cases failed
    · cases failed
    · split at failed <;> cases failed <;> decide
    · exact numeral failed
    · split at failed
      · exact numeral failed
      · cases failed
        decide
    · cases failed
      decide
  unfold Node.ofEntries at failed
  -- The tag is read first, then the two ends of the span.
  cases kind : Node.kindOf (Data.lookup? "type" entries) with
  | error other =>
      simp only [kind, bind, Except.bind, Except.error.injEq] at failed
      subst failed
      unfold Node.kindOf at kind
      split at kind
      · cases kind
      · cases kind
      · split at kind
        · cases kind
        · cases kind
          simp [Fault.family]
      · cases kind
        simp [Fault.family]
  | ok found =>
      cases span : Node.spanOf (Data.lookup? "span" entries) with
      | ok found => simp [kind, span, bind, Except.bind, pure, Except.pure] at failed
      | error other =>
          simp only [kind, span, bind, Except.bind, Except.error.injEq] at failed
          subst failed
          unfold Node.spanOf at span
          split at span
          · split at span
            · rename_i first last _ _
              cases start : Node.boundOf first with
              | error early =>
                  simp only [start, bind, Except.bind, Except.error.injEq] at span
                  exact span ▸ bound start
              | ok a =>
                  cases stop : Node.boundOf last with
                  | error late =>
                      simp only [start, stop, bind, Except.bind, Except.error.injEq] at span
                      exact span ▸ bound stop
                  | ok b => simp [start, stop, bind, Except.bind, pure, Except.pure] at span
            · cases span
          · cases span

theorem agree_ofEntries {entries : Entries} (fit : (Data.map entries).Each (Movable d)) :
    Agree d (Node.MovesTo d) (Node.ofEntries entries) (Node.ofEntries (movedFields d entries)) := by
  rw [fit.1.opens]
  cases opened : Node.ofEntries entries with
  | error fault => exact agree_fault (ofEntries_unscoped opened)
  | ok node =>
      exact .ok ⟨rfl, ofEntries_self opened, by rw [Node.entries_of_ofEntries opened]; exact fit⟩

theorem openOr_map (fault : Fault) (entries : Entries) :
    (Node.openOr fault (.map entries)).map Subtype.val = Node.ofEntries entries := by
  simp only [Node.openOr]
  split
  · rename_i node opened
    exact opened.symm
  · rename_i other failed
    exact failed.symm

theorem entries_of_openOr {fault : Fault} {data : Data}
    {view : { node : Node // node.size < sizeOf data }}
    (opened : Node.openOr fault data = .ok view) : data = .map view.val.entries := by
  cases data with
  | map entries =>
      have inner := openOr_map fault entries
      rw [opened] at inner
      rw [Node.entries_of_ofEntries inner.symm]
  | _ => cases opened

theorem agree_val {α β : Type} {p : α → Prop} {q : β → Prop} {relation : α → β → Prop}
    {first : Except Fault { a // p a }} {second : Except Fault { b // q b }}
    (agree : Agree d relation (first.map Subtype.val) (second.map Subtype.val)) :
    Agree d (fun a b => relation a.val b.val) first second := by
  cases first <;> cases second <;> cases agree
  · exact .fault (by assumption)
  · exact .ok (by assumption)

theorem agree_openOr {data further : Data} (moves : data.MovesTo d further) {fault late : Fault}
    (reworded : Reworded d fault late) :
    Agree d (fun a b => a.val.MovesTo d b.val) (Node.openOr fault data)
      (Node.openOr late further) := by
  obtain ⟨rfl, fit⟩ := moves
  cases data with
  | map entries =>
      apply agree_val
      rw [Data.moved, openOr_map, openOr_map]
      exact agree_ofEntries fit
  | _ => exact .fault reworded

theorem agree_expect {data further : Data} (moves : data.MovesTo d further) :
    Agree d (fun a b => a.val.MovesTo d b.val) (Node.expect data) (Node.expect further) :=
  agree_openOr moves (reworded_refl d (by decide))

theorem innerWord_moved (data : Data) : Node.innerWord (data.moved d) = Node.innerWord data := by
  cases data <;> rfl

theorem agree_operand {data further : Data} (moves : data.MovesTo d further) :
    Agree d (fun a b => a.val.MovesTo d b.val) (Node.operand data) (Node.operand further) := by
  refine agree_openOr moves ?_
  rw [moves.moved, innerWord_moved]
  exact reworded_refl d (by simp [Fault.family])

mutual

theorem agree_check (data : Data) (fit : data.Each (Movable d)) :
    Agree d Eq (Node.check data) (Node.check (data.moved d)) := by
  match data with
  | .map entries => exact agree_map (agree_ofEntries fit) fun _ _ _ => rfl
  | .list items => exact agree_checkAll items fit
  | .pair key value =>
      have first := agree_check key fit.1
      have second := agree_check value fit.2
      simp only [Data.moved, Node.check]
      generalize Node.check key = a, Node.check (key.moved d) = b at first
      cases first with
      | ok => exact second
      | fault reworded => exact .fault reworded
  | .null | .bool _ | .int _ | .float _ | .text _ | .bytes _ | .moment _ | .set _ | .cycle _ =>
      simp only [Data.moved, Node.check]
      exact .ok rfl

theorem agree_checkAll (items : List Data) (fit : EachItem (Movable d) items) :
    Agree d Eq (Node.checkAll items) (Node.checkAll (movedItems d items)) := by
  match items with
  | [] => exact .ok rfl
  | item :: rest =>
      have first := agree_check item fit.1
      have second := agree_checkAll rest fit.2
      simp only [movedItems, Node.checkAll]
      generalize Node.check item = a, Node.check (item.moved d) = b at first
      cases first with
      | ok => exact second
      | fault reworded => exact .fault reworded

end

def IsFree (name : String) : Prop :=
  Node.isReserved (.text name) = false ∧
    Node.isReserved (.text (String.ofList (Node.camel name.toList))) = false

instance (name : String) : Decidable (IsFree name) := inferInstanceAs (Decidable (_ ∧ _))

theorem find?_moves (moves : node.MovesTo d other) {name : String}
    (free : Node.isReserved (.text name) = false) :
    Option.Rel (Node.PartMoves d) (node.find? name) (other.find? name) := by
  have found := lookup?_movedFields d node.entries free
  rw [← moves.entries] at found
  unfold Node.find?
  split
  · rename_i part here
    split
    · rename_i further there
      refine .some ⟨?_, each_lookup? moves.fit.2 free here⟩
      rw [here, there] at found
      simpa using found
    · rename_i absent
      simp [here, absent] at found
  · rename_i absent
    split
    · rename_i further there
      simp [there, absent] at found
    · exact .none

theorem agree_checked {part : node.Part} {further : other.Part}
    (moves : Node.PartMoves d part further) :
    Agree d (Node.PartMoves d) (node.checked part) (other.checked further) := by
  have agree := agree_check part.val moves.fit
  unfold Node.checked
  rw [moves.moved]
  generalize Node.check part.val = a, Node.check (part.val.moved d) = b at agree
  cases agree with
  | ok => exact .ok moves
  | fault reworded => exact .fault reworded

theorem agree_field (moves : node.MovesTo d other) {name : String} (free : IsFree name) :
    Agree d (Node.PartMoves d) (node.field name) (other.field name) := by
  unfold Node.field
  split
  · exact agree_fault (by decide)
  · have direct := find?_moves moves free.1
    have spelled := find?_moves moves free.2
    generalize node.find? name = a, other.find? name = b at direct
    generalize node.find? (String.ofList (Node.camel name.toList)) = x,
      other.find? (String.ofList (Node.camel name.toList)) = y at spelled
    cases direct with
    | some here => exact agree_checked here
    | none =>
        cases spelled with
        | some here => exact agree_checked here
        | none =>
            dsimp only
            rw [moves.kind]
            exact agree_fault (by simp [Fault.family])

theorem agree_field? (moves : node.MovesTo d other) {name : String}
    (free : Node.isReserved (.text name) = false) :
    Agree d (Option.Rel (Node.PartMoves d)) (node.field? name) (other.field? name) := by
  unfold Node.field?
  have found := find?_moves moves free
  generalize node.find? name = a, other.find? name = b at found
  cases found with
  | none => exact .ok .none
  | @some part further here =>
      dsimp only
      have moved := here.moved
      split
      · rename_i null
        rw [null] at moved
        rw [moved]
        exact .ok .none
      · rename_i full
        split
        · rename_i null
          rw [null] at moved
          refine absurd ?_ full
          cases shape : part.val <;> simp [shape, Data.moved] at moved ⊢
        · exact agree_map (agree_checked here) fun _ _ => .some

theorem agree_items (moves : node.MovesTo d other) {name : String} (free : IsFree name)
    {onText : Fault} (unscoped : onText.family ≠ .scope) :
    Agree d (fun a b => List.Forall₂ (Data.MovesTo d) a.val b.val) (node.items name onText)
      (other.items name onText) := by
  refine agree_bind (agree_field moves free) fun part further here => ?_
  obtain ⟨data, small⟩ := part
  obtain ⟨moved, less⟩ := further
  obtain ⟨same, fit⟩ := here
  dsimp only at same fit
  subst same
  cases data with
  | list items => exact .ok (movesTo_items fit)
  | text s =>
      simp only [Data.moved]
      split
      · exact .ok .nil
      · exact agree_fault unscoped
  | _ => exact agree_fault (by decide)

theorem agree_parts {row : node.Parts} {further : other.Parts}
    (moves : List.Forall₂ (Data.MovesTo d) row.val further.val) :
    List.Forall₂ (Data.MovesTo d) ((node.parts row).map Subtype.val)
      ((other.parts further).map Subtype.val) := by
  simpa [Node.parts] using moves

abbrev RowMoves (d : Int) {node other : Node} (row : Except Fault (List node.Part))
    (further : Except Fault (List other.Part)) : Prop :=
  Agree d (fun a b => List.Forall₂ (Data.MovesTo d) (a.map Subtype.val)
    (b.map Subtype.val)) row further

theorem agree_row (moves : node.MovesTo d other) {name : String}
    (free : Node.isReserved (.text name) = false) {onText : Fault}
    (unscoped : onText.family ≠ .scope) :
    Agree d (RowMoves d) (node.row name onText) (other.row name onText) := by
  refine agree_bind (agree_field? moves free) fun part further here => ?_
  cases here with
  | none => exact .ok (.ok .nil)
  | @some part further here =>
      obtain ⟨data, small⟩ := part
      obtain ⟨moved, less⟩ := further
      obtain ⟨same, fit⟩ := here
      dsimp only at same fit
      subst same
      cases data with
      | list items => exact .ok (.ok (agree_parts (movesTo_items fit)))
      | text s =>
          simp only [Data.moved]
          refine .ok ?_
          split
          · exact .ok .nil
          · exact agree_fault unscoped
      | _ => exact .ok (agree_fault (by decide))

theorem agree_child (moves : node.MovesTo d other) {name : String} (free : IsFree name) :
    Agree d (fun a b => a.val.MovesTo d b.val) (node.child name) (other.child name) := by
  refine agree_bind (agree_field moves free) fun part further here => ?_
  exact agree_bind (agree_expect here) fun _ _ inner => .ok inner

theorem agree_word? (moves : node.MovesTo d other) {name : String} (free : IsFree name) :
    Agree d Eq (node.word? name) (other.word? name) := by
  refine agree_bind (agree_field moves free) fun part further here => ?_
  rw [here.moved]
  cases part.val <;> exact .ok rfl

/-! Labels. -/

mutual

theorem moved_of_canKey (data : Data) (keys : Label.canKeyData data = true) :
    data.moved d = data := by
  match data with
  | .list items =>
      rw [Data.moved, movedItems_of_canKey items (by simpa [Label.canKeyData] using keys)]
  | .pair key value =>
      simp only [Label.canKeyData, Bool.and_eq_true] at keys
      rw [Data.moved, moved_of_canKey key keys.1, moved_of_canKey value keys.2]
  | .map entries => simp [Label.canKeyData] at keys
  | .null | .bool _ | .int _ | .float _ | .text _ | .bytes _ | .moment _ | .set _ | .cycle _ => rfl

theorem movedItems_of_canKey (items : List Data) (keys : Label.canKeyAll items = true) :
    movedItems d items = items := by
  match items with
  | [] => rfl
  | item :: rest =>
      simp only [Label.canKeyAll, Bool.and_eq_true] at keys
      rw [movedItems, moved_of_canKey item keys.1, movedItems_of_canKey rest keys.2]

end

mutual

theorem canKeyData_moved (data : Data) :
    Label.canKeyData (data.moved d) = Label.canKeyData data := by
  match data with
  | .list items => simp only [Data.moved, Label.canKeyData, canKeyAll_moved items]
  | .pair key value =>
      simp only [Data.moved, Label.canKeyData, canKeyData_moved key, canKeyData_moved value]
  | .map entries => rfl
  | .null | .bool _ | .int _ | .float _ | .text _ | .bytes _ | .moment _ | .set _ | .cycle _ => rfl

theorem canKeyAll_moved (items : List Data) :
    Label.canKeyAll (movedItems d items) = Label.canKeyAll items := by
  match items with
  | [] => rfl
  | item :: rest =>
      simp only [movedItems, Label.canKeyAll, canKeyData_moved item, canKeyAll_moved rest]

end

theorem canKey_ofData (data : Data) : (Label.ofData data).canKey = Label.canKeyData data := by
  cases data with
  | list items =>
      simp only [Label.ofData, Label.canKeyData]
      split
      · rename_i keys
        rw [keys]
        rfl
      · rename_i keys
        simp only [Label.canKey, Bool.not_eq_true] at keys ⊢
        exact keys.symm
  | map entries =>
      simp only [Label.ofData]
      cases Node.ofEntries entries <;> rfl
  | _ => rfl

def SameKey (label other : Label) : Prop :=
  other = label ∨ (label.canKey = false ∧ other.canKey = false)

theorem sameKey_moved (data : Data) :
    SameKey (Label.ofData data) (Label.ofData (data.moved d)) := by
  cases keys : Label.canKeyData data with
  | true => exact .inl (by rw [moved_of_canKey _ keys])
  | false =>
      refine .inr ⟨?_, ?_⟩
      · rw [canKey_ofData, keys]
      · rw [canKey_ofData, canKeyData_moved, keys]

theorem agree_label (moves : node.MovesTo d other) {name : String} (free : IsFree name) :
    Agree d SameKey (node.label name) (other.label name) := by
  refine agree_bind (agree_field moves free) fun part further here => .ok ?_
  rw [here.moved]
  exact sameKey_moved part.val

theorem agree_key {label further : Label} (same : SameKey label further) :
    Agree d Eq label.key further.key := by
  rcases same with rfl | ⟨left, right⟩
  · unfold Label.key
    split
    · exact .ok rfl
    · exact agree_fault (by decide)
  · simp only [Label.key, left, right]
    exact agree_fault (by decide)

theorem find?_lookup? {name : String} {part : node.Part} (found : node.find? name = some part) :
    Data.lookup? name node.entries = some part.val := by
  unfold Node.find? at found
  split at found
  · rename_i data here
    cases found
    exact here
  · cases found

theorem checked_same {part found : node.Part} (run : node.checked part = .ok found) :
    part = found := by
  unfold Node.checked at run
  split at run
  · cases run
    rfl
  · cases run

theorem field_lookup? {name : String} {part : node.Part}
    (plain : String.ofList (Node.camel name.toList) = name) (read : node.field name = .ok part) :
    Data.lookup? name node.entries = some part.val := by
  unfold Node.field at read
  split at read
  · cases read
  · split at read
    · rename_i given here
      exact find?_lookup? (checked_same read ▸ here)
    · rw [plain] at read
      split at read
      · rename_i given here
        exact find?_lookup? (checked_same read ▸ here)
      · cases read

theorem field?_lookup? {name : String} {part : node.Part}
    (read : node.field? name = .ok (some part)) :
    Data.lookup? name node.entries = some part.val := by
  unfold Node.field? at read
  split at read
  · rename_i given here
    split at read
    · cases read
    · cases run : node.checked given with
      | error fault => simp [run, Except.map] at read
      | ok found =>
          simp only [run, Except.map, Except.ok.injEq, Option.some.injEq] at read
          exact find?_lookup? (read ▸ checked_same run ▸ here)
  · cases read

theorem agree_written (moves : node.MovesTo d other) {kind : Kind} (tagged : node.kind = some kind)
    (name : String) (written : name ∈ writtenFields kind) (free : IsFree name)
    (plain : String.ofList (Node.camel name.toList) = name) :
    Agree d (fun a b => b.val = a.val) (node.field name) (other.field name) := by
  refine agree_mono (agree_field moves free) fun part further read _ here => ?_
  have stays := moves.fit.1.written node kind name part.val moves.opened tagged written
    (field_lookup? plain read)
  exact here.moved.trans stays

theorem agree_writtenLabel (moves : node.MovesTo d other) {kind : Kind}
    (tagged : node.kind = some kind) (name : String) (written : name ∈ writtenFields kind)
    (free : IsFree name) (plain : String.ofList (Node.camel name.toList) = name) :
    Agree d Eq (node.label name) (other.label name) := by
  refine agree_bind (agree_written moves tagged name written free plain) fun part further same => ?_
  rw [same]
  exact .ok rfl

theorem agree_written? (moves : node.MovesTo d other) {kind : Kind} (tagged : node.kind = some kind)
    (name : String) (written : name ∈ writtenFields kind)
    (free : Node.isReserved (.text name) = false) :
    Agree d (Option.Rel fun a b => b.val = a.val) (node.field? name) (other.field? name) := by
  refine agree_mono (agree_field? moves free) fun part further read _ here => ?_
  cases here with
  | none => exact .none
  | some here =>
      have stays := moves.fit.1.written node kind name _ moves.opened tagged written
        (field?_lookup? read)
      exact .some (here.moved.trans stays)

end Reading

end StyleFold
