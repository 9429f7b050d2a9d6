import StyleFold.Proofs.Fold.Spread

/-!
Spreads of what is not known. An object is folded as if such a spread were not there, and an array
as if it were one element of which nothing is known. Main statement: what is read of the literal
afterwards follows from this alone. An entry before an unknown spread is read as it was written,
although what is spread may replace it, and an element after one is found where it is when a
single element is spread.
-/

namespace StyleFold.Fold

section Sources

variable (table : ScopeTable)

/-- A source that is evaluated, but to no value. -/
def IsUnknown (source : Data) : Prop :=
  ∃ result, evalPart table source = .ok result ∧ ∀ v span, result ≠ .value v span

/-- A property that spreads an unknown source. -/
inductive SpreadsUnknown : Data → Prop where
  | intro {entries : Entries} {view : Node} {source : Data}
      (opened : Node.ofEntries entries = .ok view) (kind : view.kind = some .spreadElement)
      (given : Reads view "arguments" source) (unknown : IsUnknown table source) :
      SpreadsUnknown (.map entries)

/-- An element that spreads an unknown source. -/
inductive UnknownElement : Data → Prop where
  | intro {entries : Entries} {view : Node} {source mark : Data}
      (opened : Node.ofEntries entries = .ok view) (marked : Reads view "spread" mark)
      (there : mark ≠ .null) (given : Reads view "expression" source)
      (unknown : IsUnknown table source) : UnknownElement (.map entries)

/-- A property that contributes nothing to a key. -/
def LeavesAlone (key : String) (property : Data) : Prop :=
  ∃ own, Contributes table property own ∧ valuesOf (.text key) own = []

variable {table}

theorem SpreadsUnknown.contributes {property : Data} (spreads : SpreadsUnknown table property) :
    Contributes table property [] := by
  obtain ⟨opened, kind, given, result, folded, unknown⟩ := spreads
  exact .unspread opened kind given folded (fun _ => unknown _) (fun _ => unknown _)
    (fun _ => unknown _)

theorem SpreadsUnknown.leavesAlone {property : Data} (spreads : SpreadsUnknown table property)
    (key : String) : LeavesAlone table key property :=
  ⟨[], spreads.contributes, rfl⟩

theorem elementEntries_unknown {view : Node} {result : Result}
    (unknown : ∀ v span, result ≠ .value v span) (mark : view.Part) :
    elementEntries result (some mark) = [.nonStatic] := by
  cases result with
  | value v span => exact absurd rfl (unknown v span)
  | reference id span => rfl
  | nonStatic => rfl
  | bare v => rfl

theorem UnknownElement.evalElements {element : Data} (spreads : UnknownElement table element)
    (span : Option Span) : evalElements table span [element] = .ok [.nonStatic] := by
  obtain ⟨opened, marked, there, given, result, folded, unknown⟩ := spreads
  rw [evalElements_cons table span opened given (marked.field? there), folded, ok_bind,
    elementEntries_unknown unknown, evalElements_nil]
  rfl

end Sources

section Objects

variable {table : ScopeTable} {key : String}

theorem valuesOf_append {Val : Type} (front back : List (Label × Val)) :
    valuesOf (.text key) (front ++ back) =
      valuesOf (.text key) front ++ valuesOf (.text key) back := by
  simp only [valuesOf, List.filter_append, List.map_append]

/-- Properties that leave a key alone can be evaluated, and together they leave it alone as well. -/
theorem contributed_alone {properties : List Data}
    (alone : ∀ property ∈ properties, LeavesAlone table key property) :
    ∃ contributed, List.Forall₂ (Contributes table) properties contributed ∧
      valuesOf (.text key) contributed.flatten = [] := by
  induction properties with
  | nil => exact ⟨[], .nil, rfl⟩
  | cons property rest ih =>
      obtain ⟨own, contributes, nothing⟩ := alone property (by simp)
      obtain ⟨contributed, each, later⟩ := ih fun other member => alone other (by simp [member])
      refine ⟨own :: contributed, .cons contributes each, ?_⟩
      rw [List.flatten_cons, valuesOf_append, nothing, later, List.nil_append]

/-- Where everything after a property leaves a key alone, the key has what the property gives it. -/
theorem getLast?_valuesOf_before {before later : List Data} {property : Data} {members : Members}
    {result : Result}
    (evaluated : evalProperties table [] (before ++ property :: later) = .ok members)
    (entry : Contributes table property [(.text key, result)])
    (alone : ∀ other ∈ later, LeavesAlone table key other) :
    Members.get? members (.text key) = some result := by
  obtain ⟨behind, each, nothing⟩ := contributed_alone alone
  rw [evalProperties_append] at evaluated
  obtain ⟨first, ran, rest⟩ := ok_of_bind evaluated
  obtain ⟨ahead, front⟩ := exists_contributed ran
  rw [evalProperties_contributed front] at ran
  cases ran
  rw [evalProperties_contributed (.cons entry each)] at rest
  cases rest
  -- What is written in front may contribute to the key as well, but its last contribution counts.
  have joined (start ends : Members) :
      Members.putAll (Members.putAll [] start) ends = Members.putAll [] (start ++ ends) := by
    simp only [Members.putAll, Assoc.putAll, List.foldl_append]
  have own : valuesOf (.text key) [(Label.text key, result)] = [result] := by
    simp [valuesOf]
  rw [joined, Members.get?, Members.putAll, lookup_putAll_nil, valuesOf_append, List.flatten_cons,
    valuesOf_append, nothing, own]
  simp

end Objects

section Arrays

variable {table : ScopeTable}

/-- The elements before and after an unknown spread are evaluated for
themselves, with one between. -/
theorem evalElements_around {before after : List Data} {element : Data} {entries : List Result}
    (spreads : UnknownElement table element) {span : Option Span}
    (evaluated : evalElements table span (before ++ element :: after) = .ok entries) :
    ∃ front back, evalElements table span before = .ok front ∧
      evalElements table span after = .ok back ∧ entries = front ++ .nonStatic :: back := by
  rw [evalElements_append, evalElements_head, spreads.evalElements, ok_bind] at evaluated
  obtain ⟨front, ahead, run⟩ := ok_of_bind evaluated
  simp only [bind_assoc, pure_bind] at run
  obtain ⟨back, behind, run⟩ := ok_of_bind run
  cases run
  exact ⟨front, back, ahead, behind, rfl⟩

theorem readMember_length (entries : List Result) (span : Option Span) :
    readMember (.array entries) "length" span =
      .ok (.value (.number (Double.ofInt entries.length)) span) := rfl

theorem ne_length_of_index {key : String} {index : Nat}
    (indexes : indexOfText key = .ok (some index)) :
    key ≠ "length" := by
  rintro rfl
  cases indexes

theorem readMember_index {key : String} {index : Nat} (indexes : indexOfText key = .ok (some index))
    (entries : List Result) (span : Option Span) :
    readMember (.array entries) key span =
      .ok ((entries[index]?.map (·.respan span)).getD (.value .undefined span)) := by
  simp only [readMember, beq_iff_eq, if_neg (ne_length_of_index indexes), indexes, Except.map]
  cases entries[index]? <;> rfl

end Arrays

section Readings

variable {table : ScopeTable} {node : Node}

/-- Unknown spreads are not told from what is written around them. In an object the entry that was
written last is read, even if a spread behind it may replace it. In an array an unknown spread takes
up one place: it is unknown what stands there, but what stands behind it and how long the array is
are told as if nothing else were spread. -/
theorem reads_past_unknown_spread {reading : Node} {key : String} {object : Data} {folded : Result}
    (reads : ReadsMember table reading key object) (same : evalPart table object = eval table node)
    (run : eval table node = .ok folded) :
    (∀ before entry later result, node.kind = some .objectExpression →
      Data.lookup? "properties" node.entries = some (.list (before ++ entry :: later)) →
      Contributes table entry [(.text key, result)] →
      (∀ other ∈ later, SpreadsUnknown table other ∨ LeavesAlone table key other) →
      eval table reading = .ok (result.respan reading.span)) ∧
    (∀ before element after, node.kind = some .arrayExpression →
      Data.lookup? "elements" node.entries = some (.list (before ++ element :: after)) →
      UnknownElement table element →
      ∃ front back, evalElements table node.span before = .ok front ∧
        evalElements table node.span after = .ok back ∧
        (key = "length" → eval table reading =
          .ok (.value (.number (Double.ofInt (front.length + 1 + back.length : Nat)))
            reading.span)) ∧
        (∀ index, indexOfText key = .ok (some index) →
          (index < front.length → eval table reading =
            .ok ((front[index]?.map (·.respan reading.span)).getD
              (.value .undefined reading.span))) ∧
          (index = front.length → eval table reading = .ok .nonStatic) ∧
          (front.length < index → eval table reading =
            .ok ((back[index - front.length - 1]?.map (·.respan reading.span)).getD
              (.value .undefined reading.span))))) := by
  constructor
  · intro before entry later result kind written contributes unknown
    obtain ⟨_, members, evaluated, rfl⟩ := (eval_object_ok kind written).mp run
    have alone : ∀ other ∈ later, LeavesAlone table key other := by
      intro other member
      rcases unknown other member with spreads | alone
      · exact spreads.leavesAlone key
      · exact alone
    have asked := eval_readsMember reads (same.trans run)
    rw [readMember, getLast?_valuesOf_before evaluated contributes alone] at asked
    exact asked
  · intro before element after kind written spreads
    obtain ⟨_, entries, evaluated, rfl⟩ := (eval_array_ok kind written).mp run
    obtain ⟨front, back, ahead, behind, rfl⟩ := evalElements_around spreads evaluated
    have asked := eval_readsMember reads (same.trans run)
    rw [asked]
    refine ⟨front, back, ahead, behind, ?_, ?_⟩
    · rintro rfl
      rw [readMember_length, mapError_ok, List.length_append, List.length_cons, ← Nat.add_assoc,
        Nat.add_right_comm]
    · intro index indexes
      rw [readMember_index indexes, mapError_ok]
      refine ⟨fun inside => ?_, fun here => ?_, fun past => ?_⟩
      · rw [List.getElem?_append_left inside]
      · rw [here, List.getElem?_append_right (Nat.le_refl _), Nat.sub_self]
        rfl
      · rw [List.getElem?_append_right (by omega)]
        have next : index - front.length = index - front.length - 1 + 1 := by omega
        rw [next, List.getElem?_cons_succ, Nat.add_sub_cancel]

def unknownCall : Data := callData (nameData "f")

/-- An entry, and a spread that may replace it. -/
def replaceable : List Data :=
  [entryData (nameData "a") (textData "x"), spreadPropertyData unknownCall]

/-- A text, behind a spread that may move it. -/
def movable : List Data := spreadElementData unknownCall :: textRow

theorem isUnknown_unknownCall : IsUnknown {} unknownCall := by
  refine ⟨.nonStatic, ?_, by simp⟩
  have call : evaluate {} unknownCall = .ok .nonStatic := evaluate_callData rfl
  rwa [unknownCall, callData, taggedData, evaluate_map] at call

theorem spreadsUnknown_unknownCall : SpreadsUnknown {} (spreadPropertyData unknownCall) :=
  @SpreadsUnknown.intro _ _ _ unknownCall rfl rfl ⟨rfl, rfl⟩ isUnknown_unknownCall

theorem unknownElement_unknownCall : UnknownElement {} (spreadElementData unknownCall) :=
  @UnknownElement.intro _ _ _ unknownCall (.bool true) rfl ⟨rfl, rfl⟩ (by simp) ⟨rfl, rfl⟩
    isUnknown_unknownCall

theorem contributes_replaceable :
    Contributes {} (entryData (nameData "a") (textData "x"))
      [(.text "a", .value (.string "x") none)] := by
  have named : KeyIs {} ⟨some .identifier, none, [(.text "type", .text "Identifier"),
      (.text "value", .text "a")]⟩ (Label.ofData (.text "a")) := .name (.inl rfl)
        ⟨rfl, rfl⟩ (by simp)
  exact .entry rfl (.inl rfl) ⟨rfl, rfl⟩ rfl named rfl ⟨rfl, rfl⟩ (evalPart_textData {} "x")

theorem evalPart_replaceable : evalPart {} (objectData replaceable) =
    .ok (.value (.object [(.text "a", .value (.string "x") none)]) none) := by
  rw [objectData, taggedData, evalPart_map {} rfl, eval_object {} rfl ⟨rfl, rfl⟩, replaceable,
    evalProperties_contributed
      (.cons contributes_replaceable (.cons spreadsUnknown_unknownCall.contributes .nil))]
  rfl

theorem evalPart_movable : evalPart {} (arrayData movable) =
    .ok (.value (.array [.nonStatic, .value (.string "x") none]) none) := by
  rw [arrayData, taggedData, evalPart_map {} rfl, eval_array {} rfl ⟨rfl, rfl⟩, movable,
    evalElements_head, unknownElement_unknownCall.evalElements, evalElements_textRow]
  rfl

def memberNode (object property : Data) : Node :=
  ⟨some .memberExpression, none,
    [(.text "type", .text "MemberExpression"), (.text "object", object),
      (.text "property", property)]⟩

theorem evaluate_memberData (object property : Data) :
    evaluate table (memberData object property) = eval table (memberNode object property) := by
  rw [memberData, taggedData, evaluate_map]
  exact evalPart_map table rfl

theorem readsMember_name (object : Data) (sound : Node.check object = .ok ()) (name : String) :
    ReadsMember {} (memberNode object (nameData name)) name object :=
  ⟨rfl, ⟨rfl, sound⟩, _, _, ⟨rfl, rfl⟩, rfl, .name rfl ⟨rfl, rfl⟩⟩

theorem readsMember_text (object : Data) (sound : Node.check object = .ok ()) (text : String) :
    ReadsMember {} (memberNode object (computedData (textData text))) text object := by
  have folded : eval {} ⟨some .computed, none,
      [(.text "type", .text "Computed"), (.text "expression", textData text)]⟩ =
      .ok (.value (.string text) none) := by
    rw [eval_passing {} rfl rfl ⟨rfl, rfl⟩, evalPart_textData]
  exact ⟨rfl, ⟨rfl, sound⟩, _, _, ⟨rfl, rfl⟩, rfl, .computed rfl folded rfl⟩

/-- What a call of another function spreads is not seen in what is read afterwards. -/
theorem reads_past_unknownCall :
    evaluate {} (memberData (objectData replaceable) (nameData "a")) =
      .ok (.value (.string "x") none) ∧
    evaluate {} (memberData (arrayData movable) (nameData "length")) =
      .ok (.value (.number (Double.ofInt 2)) none) ∧
    evaluate {} (memberData (arrayData movable) (computedData (textData "1"))) =
      .ok (.value (.string "x") none) := by
  have opened : evalPart {} (arrayData movable) = eval {} ⟨some .arrayExpression, none,
      [(.text "type", .text "ArrayExpression"), (.text "elements", .list movable)]⟩ :=
    evalPart_map {} rfl
  have reading (key : String) (reading : Node)
      (reads : ReadsMember {} reading key (arrayData movable)) :=
    (reads_past_unknown_spread reads opened (opened.symm.trans evalPart_movable)).2 []
      _ textRow rfl rfl
      unknownElement_unknownCall
  refine ⟨?_, ?_, ?_⟩
  · have opened : evalPart {} (objectData replaceable) = eval {} ⟨some .objectExpression, none,
        [(.text "type", .text "ObjectExpression"), (.text "properties", .list replaceable)]⟩ :=
      evalPart_map {} rfl
    rw [evaluate_memberData]
    refine (reads_past_unknown_spread (readsMember_name _ rfl "a") opened
      (opened.symm.trans evalPart_replaceable)).1 [] _ _ _ rfl rfl contributes_replaceable ?_
    intro other member
    rw [List.mem_singleton.mp member]
    exact .inl spreadsUnknown_unknownCall
  · obtain ⟨front, back, ahead, behind, length, _⟩ := reading _ _ (readsMember_name _ rfl "length")
    rw [evalElements_nil] at ahead
    rw [evalElements_textRow] at behind
    cases ahead
    cases behind
    rw [evaluate_memberData]
    exact length rfl
  · obtain ⟨front, back, ahead, behind, _, index⟩ := reading _ _ (readsMember_text _ rfl "1")
    rw [evalElements_nil] at ahead
    rw [evalElements_textRow] at behind
    cases ahead
    cases behind
    rw [evaluate_memberData]
    exact (index 1 (by decide)).2.2 (by decide)

/-- An unknown spread does not make unknown what it may replace, move or lengthen. -/
theorem known_past_unknown_spread :
    (¬ ∀ before later name value source, IsUnknown {} source →
      (∀ other ∈ later, LeavesAlone {} name other) →
      evaluate {} (memberData (objectData
        (before ++ entryData (nameData name) value :: spreadPropertyData source :: later))
          (nameData name)) = .ok .nonStatic) ∧
    (¬ ∀ before after source (index : Nat), IsUnknown {} source → before.length ≤ index →
      evaluate {} (memberData (arrayData (before ++ spreadElementData source :: after))
        (computedData (textData (toString index)))) = .ok .nonStatic) ∧
    (¬ ∀ before after source, IsUnknown {} source →
      evaluate {} (memberData (arrayData (before ++ spreadElementData source :: after))
        (nameData "length")) = .ok .nonStatic) := by
  refine ⟨fun claimed => ?_, fun claimed => ?_, fun claimed => ?_⟩
  · have unknown := claimed [] [] "a" (textData "x") unknownCall isUnknown_unknownCall (by simp)
    have known := eval_readsMember (readsMember_name _ rfl "a") evalPart_replaceable
    rw [evaluate_memberData] at unknown
    cases known.symm.trans unknown
  · have unknown := claimed [] textRow unknownCall 1 isUnknown_unknownCall (by simp)
    have known := eval_readsMember (readsMember_text _ rfl "1") evalPart_movable
    rw [evaluate_memberData] at unknown
    cases known.symm.trans unknown
  · have unknown := claimed [] textRow unknownCall isUnknown_unknownCall
    have known := eval_readsMember (readsMember_name _ rfl "length") evalPart_movable
    rw [evaluate_memberData] at unknown
    cases known.symm.trans unknown

end Readings

end StyleFold.Fold
