import StyleFold.Proofs.Fold.UnknownSpread
import StyleFold.Proofs.Number.Digits

/-!
Indices as names of members. A name is an index when it is the decimal numeral of a number below
`2^32 - 1`, written without leading zeros, which is how the entries of a row are named when it is
spread in an object. Main statement: under such a name an array and an object in which it is
spread hold the same entry.
-/

namespace StyleFold

section Numerals

variable {c : Char} {row : List Char} {n i : Nat} {s : String}

theorem digitChar_digitValue (digit : isDigitIn 10 c = true) : (digitValue c).digitChar = c := by
  rw [← isDecimalDigit_eq, isDecimalDigit, Bool.and_eq_true, decide_eq_true_iff,
    decide_eq_true_iff] at digit
  have low : 48 ≤ c.toNat := digit.1
  have high : c.toNat ≤ 57 := digit.2
  rw [← Char.ofNat_toNat c]
  generalize c.toNat = code at low high
  interval_cases code <;> rfl

theorem head?_toDigits (positive : 0 < n) : (Nat.toDigits 10 n).head? ≠ some '0' := by
  induction n using Nat.base_induction 10 (by decide) with
  | single m small =>
      rw [Nat.toDigits_of_lt_base small]
      interval_cases m <;> decide
  | digit m k small more ih =>
      rw [← Nat.toDigits_append_toDigits (by decide) more small,
        List.head?_append_of_ne_nil _ (List.ne_nil_of_length_pos Nat.length_toDigits_pos)]
      exact ih more

theorem toDigits_foldl (digits : ∀ c ∈ row, isDigitIn 10 c = true) (positive : 0 < n) :
    Nat.toDigits 10 (row.foldl (fun total c => total * 10 + digitValue c) n) =
      Nat.toDigits 10 n ++ row := by
  induction row generalizing n with
  | nil => simp
  | cons c rest ih =>
      rw [List.forall_mem_cons] at digits
      have small : digitValue c < 10 := of_decide_eq_true digits.1
      have step := Nat.toDigits_append_toDigits (by decide) positive small
      rw [Nat.toDigits_of_lt_base small, digitChar_digitValue digits.1] at step
      rw [List.foldl_cons, ih digits.2 (by omega), Nat.mul_comm, ← step, List.append_assoc]
      rfl

theorem toDigits_digitsValue (digits : ∀ c ∈ row, isDigitIn 10 c = true) (nonempty : row ≠ [])
    (bare : row.head? ≠ some '0') : Nat.toDigits 10 (digitsValue 10 row) = row := by
  cases row with
  | nil => exact absurd rfl nonempty
  | cons c rest =>
      rw [List.forall_mem_cons] at digits
      have written := digitChar_digitValue digits.1
      have small : digitValue c < 10 := of_decide_eq_true digits.1
      have positive : 0 < digitValue c := by
        refine Nat.pos_of_ne_zero fun zero => bare ?_
        rw [zero] at written
        rw [← written]
        rfl
      have whole := toDigits_foldl digits.2 positive
      rw [Nat.toDigits_of_lt_base small, written] at whole
      rw [digitsValue, List.foldl_cons, Nat.zero_mul, Nat.zero_add]
      exact whole

def isNumeral (s : String) : Bool :=
  !s.toList.isEmpty && s.toList.all isDecimalDigit &&
    (s.toList == ['0'] || s.toList.head? != some '0')

theorem isNumeral_iff : isNumeral s = true ↔ ∃ n : Nat, s = toString n := by
  rw [isNumeral, isDecimalDigit_eq]
  simp only [Bool.and_eq_true, Bool.or_eq_true, Bool.not_eq_true',
    List.isEmpty_eq_false_iff, beq_iff_eq, bne_iff_ne, List.all_eq_true]
  constructor
  · rintro ⟨⟨nonempty, digits⟩, bare⟩
    have written : Nat.toDigits 10 (digitsValue 10 s.toList) = s.toList := by
      rcases bare with zero | bare
      · rw [zero]
        rfl
      · exact toDigits_digitsValue digits nonempty bare
    refine ⟨digitsValue 10 s.toList, String.toList_injective ?_⟩
    rw [Nat.toString_eq_repr, Nat.toList_repr, written]
  · rintro ⟨n, rfl⟩
    rw [Nat.toString_eq_repr, Nat.toList_repr]
    refine ⟨⟨List.ne_nil_of_length_pos Nat.length_toDigits_pos,
      isDigitIn_of_mem_toDigits (by decide : 1 < 10) (by decide) n⟩, ?_⟩
    rcases Nat.eq_zero_or_pos n with rfl | positive
    · exact .inl rfl
    · exact .inr (head?_toDigits positive)

theorem indexOfText_eq (s : String) : indexOfText s =
    if isNumeral s then
      if digitLimit < s.toList.length then .error .tooManyDigits
      else .ok (if digitsValue 10 s.toList < 2 ^ 32 - 1
        then some (digitsValue 10 s.toList) else none)
    else .ok none := by
  have negated : isNumeral s = !(s.toList.isEmpty || !s.toList.all isDecimalDigit ||
      (s.toList != ['0'] && s.toList.head? == some '0')) := by
    simp [isNumeral, bne]
  rw [indexOfText, negated]
  cases s.toList.isEmpty || !s.toList.all isDecimalDigit ||
    (s.toList != ['0'] && s.toList.head? == some '0') <;> rfl

theorem indexOfText_numeral (n : Nat) : indexOfText (toString n) =
    if 10 ^ digitLimit ≤ n then .error .tooManyDigits
    else .ok (if n < 2 ^ 32 - 1 then some n else none) := by
  have long : digitLimit < (Nat.toDigits 10 n).length ↔ 10 ^ digitLimit ≤ n := by
    have overlong : isOverlong (n : Int) = true ↔ _ := isOverlong_iff
    rwa [isOverlong, decide_eq_true_iff, Int.natAbs_natCast] at overlong
  rw [indexOfText_eq, if_pos (isNumeral_iff.mpr ⟨n, rfl⟩), Nat.toString_eq_repr, Nat.toList_repr,
    digitsValue_toDigits (by decide) (by decide)]
  simp only [long]

theorem indexOfText_other (other : ∀ n : Nat, s ≠ toString n) : indexOfText s = .ok none := by
  rw [indexOfText_eq, if_neg]
  rintro numeral
  obtain ⟨n, rfl⟩ := isNumeral_iff.mp numeral
  exact other n rfl

theorem toString_injective {i j : Nat} (same : toString i = toString j) : i = j := by
  have denoted (n : Nat) : digitsValue 10 (toString n).toList = n := by
    rw [Nat.toString_eq_repr, Nat.toList_repr, digitsValue_toDigits (by decide) (by decide)]
  rw [← denoted i, same, denoted]

theorem index_lt_limit (small : i < 2 ^ 32 - 1) : i < 10 ^ digitLimit := by
  have wide : 10 ≤ digitLimit := by decide
  generalize digitLimit = limit at wide
  calc
    i < 10 ^ 10 := small.trans (by decide)
    _ ≤ 10 ^ limit := Nat.pow_le_pow_right (by decide) wide

theorem indexOfText_eq_some : indexOfText s = .ok (some i) ↔ s = toString i ∧ i < 2 ^ 32 - 1 := by
  constructor
  · intro found
    by_cases numeral : ∃ n : Nat, s = toString n
    · obtain ⟨n, rfl⟩ := numeral
      rw [indexOfText_numeral] at found
      split at found
      · cases found
      · split at found
        · rename_i small
          cases found
          exact ⟨rfl, small⟩
        · cases found
    · rw [indexOfText_other (not_exists.mp numeral)] at found
      cases found
  · rintro ⟨rfl, small⟩
    rw [indexOfText_numeral, if_neg (Nat.not_le.mpr (index_lt_limit small)), if_pos small]

/-- The texts that are no index: no numerals, and numerals of numbers that are too large. -/
theorem indexOfText_eq_none : indexOfText s = .ok none ↔
    ∀ n : Nat, s = toString n → 2 ^ 32 - 1 ≤ n ∧ n < 10 ^ digitLimit := by
  constructor
  · rintro found n rfl
    rw [indexOfText_numeral] at found
    split at found
    · cases found
    · rename_i short
      split at found
      · cases found
      · rename_i past
        exact ⟨Nat.le_of_not_lt past, Nat.lt_of_not_le short⟩
  · intro large
    by_cases numeral : ∃ n : Nat, s = toString n
    · obtain ⟨n, rfl⟩ := numeral
      obtain ⟨past, short⟩ := large n rfl
      rw [indexOfText_numeral, if_neg (Nat.not_le.mpr short), if_neg (Nat.not_lt.mpr past)]
    · exact indexOfText_other (not_exists.mp numeral)

theorem indexOfText_eq_error {why : Refusal} : indexOfText s = .error why ↔
    why = .tooManyDigits ∧ ∃ n : Nat, s = toString n ∧ 10 ^ digitLimit ≤ n := by
  constructor
  · intro failed
    refine ⟨indexOfText_error failed, ?_⟩
    by_cases numeral : ∃ n : Nat, s = toString n
    · obtain ⟨n, rfl⟩ := numeral
      rw [indexOfText_numeral] at failed
      split at failed
      · rename_i long
        exact ⟨n, rfl, long⟩
      · cases failed
    · rw [indexOfText_other (not_exists.mp numeral)] at failed
      cases failed
  · rintro ⟨rfl, n, rfl, long⟩
    rw [indexOfText_numeral, if_pos long]

end Numerals

/-! Entries of a row by their names. -/

namespace Fold

section Entries

variable {entries : List Result} {i : Nat}

theorem lookup_indexed (entries : List Result) (i : Nat) :
    (indexed entries).reverse.lookup (.text (toString i)) = entries[i]? := by
  induction entries using List.reverseRecOn with
  | nil => rfl
  | append_singleton rest last ih =>
      rw [indexed, List.mapIdx_concat, List.reverse_append, List.reverse_singleton,
        List.singleton_append, List.lookup_cons]
      by_cases here : i = rest.length
      · subst here
        simp
      · have other : (Label.text (toString i) == .text (toString rest.length)) = false := by
          rw [← Bool.not_eq_true, text_beq_iff]
          exact fun same => here (toString_injective (Label.text.inj same).symm)
        rw [other, ← indexed, ih]
        by_cases inside : i < rest.length
        · rw [List.getElem?_append_left inside]
        · rw [List.getElem?_eq_none (by omega), List.getElem?_eq_none (by simp; omega)]

/-- A container has a member of its own that is read as the given entry. -/
structure Keeps (container : Value) (key : String) (entry : Result) : Prop where
  read (span : Option Span) : readMember container key span = .ok (entry.respan span)
  has (v : Value) : v.text = .ok key → Value.hasProperty v container = .ok true

theorem keeps_array (inside : i < entries.length) (small : i < 2 ^ 32 - 1) :
    Keeps (.array entries) (toString i) entries[i] := by
  have indexes : indexOfText (toString i) = .ok (some i) := indexOfText_eq_some.mpr ⟨rfl, small⟩
  have other := ne_length_of_index indexes
  generalize toString i = key at indexes other
  constructor
  · intro span
    rw [readMember_index indexes, List.getElem?_eq_getElem inside]
    rfl
  · intro v spelled
    simp [Value.hasProperty, Value.isContainer, Value.propertyKey, spelled, bind,
      Except.bind, other, indexes, Except.map, inside]

/-- Whatever was in the object, an array that is spread in it puts its
entries under their indices. -/
theorem keeps_spread (target : Members) (span : Option Span) (inside : i < entries.length) :
    Keeps (.object (Members.putAll target (spreadMembers (.value (.array entries) span))))
      (toString i) entries[i] := by
  have found : Members.get? (Members.putAll target (indexed entries)) (.text (toString i)) =
      some entries[i] := by
    rw [Members.get?, Members.putAll, lookup_putAll, lookup_indexed,
      List.getElem?_eq_getElem inside]
    rfl
  rw [spreadMembers]
  generalize toString i = key at found
  constructor
  · intro place
    simp only [readMember, found]
  · intro v spelled
    simp [Value.hasProperty, Value.isContainer, Value.propertyKey, spelled, bind,
      Except.bind, Members.has, found]

end Entries

section Expressions

variable {table : ScopeTable} {source object : Data} {key : String} {entry : Result} {v : Value}
  {span : Option Span}

/-- An object literal ends with a spread of a source. -/
structure EndsWithSpread (node : Node) (source : Data) : Prop where
  kind : node.kind = some .objectExpression
  properties : ∃ before entries view,
    Data.lookup? "properties" node.entries = some (.list (before ++ [.map entries])) ∧
    Node.ofEntries entries = .ok view ∧ view.kind = some .spreadElement ∧
    Reads view "arguments" source

/-- What is read of an expression and asked of it tells of an entry that it keeps. -/
structure Shows (table : ScopeTable) (object : Data) (key : String) (entry : Result) : Prop where
  read (reading : Node) : ReadsMember table reading key object →
    eval table reading = .ok (entry.respan reading.span)
  asked (asking : Node) : AsksIn table asking key object →
    eval table asking = .ok (.value (.bool true) asking.span)

theorem Keeps.shows (keeps : Keeps v key entry)
    (folded : evalPart table object = .ok (.value v span)) :
    Shows table object key entry := by
  constructor
  · intro reading reads
    rw [eval_readsMember reads folded, keeps.read, mapError_ok]
  · intro asking asks
    exact eval_asks asks folded keeps.has

theorem eval_endsWithSpread {node : Node} {folded : Result} {entries : List Result}
    {span : Option Span} (ends : EndsWithSpread node source)
    (given : evalPart table source = .ok (.value (.array entries) span))
    (run : eval table node = .ok folded) : ∃ target,
      folded = .value (.object
        (Members.putAll target (spreadMembers (.value (.array entries) span)))) node.span := by
  obtain ⟨before, spread, view, written, opened, kind, reads⟩ := ends.properties
  obtain ⟨-, members, evaluated, rfl⟩ := (eval_object_ok ends.kind written).mp run
  rw [evalProperties_append] at evaluated
  obtain ⟨target, -, last⟩ := ok_of_bind evaluated
  rw [(Contributes.array opened kind reads given).evalProperties, evalProperties_nil] at last
  cases last
  exact ⟨target, rfl⟩

/-- A text is read as an index when it is the decimal numeral of one, and as none otherwise, but a
numeral with too many digits is refused. Under the numeral of its index an entry is found in an
array, and in an object in which the array is spread: both are read as that entry, and it is told of
both that they have it. -/
theorem array_entries_by_index (s : String) :
    (∀ i : Nat, indexOfText s = .ok (some i) ↔ s = toString i ∧ i < 2 ^ 32 - 1) ∧
    (indexOfText s = .ok none ↔
      ∀ n : Nat, s = toString n → 2 ^ 32 - 1 ≤ n ∧ n < 10 ^ digitLimit) ∧
    (∀ why : Refusal, indexOfText s = .error why ↔
      why = .tooManyDigits ∧ ∃ n : Nat, s = toString n ∧ 10 ^ digitLimit ≤ n) ∧
    ∀ (entries : List Result) (i : Nat) (inside : i < entries.length), i < 2 ^ 32 - 1 →
      Keeps (.array entries) (toString i) entries[i] ∧
      (∀ target span,
        Keeps (.object (Members.putAll target (spreadMembers (.value (.array entries) span))))
          (toString i) entries[i]) ∧
      ∀ table source span, evalPart table source = .ok (.value (.array entries) span) →
        Shows table source (toString i) entries[i] ∧
        ∀ object node folded, EndsWithSpread node source → eval table node = .ok folded →
          evalPart table object = .ok folded → Shows table object (toString i) entries[i] := by
  refine ⟨fun i => indexOfText_eq_some, indexOfText_eq_none, fun why => indexOfText_eq_error,
    fun entries i inside small =>
      ⟨keeps_array inside small, fun target span => keeps_spread target span inside, ?_⟩⟩
  intro table source span given
  refine ⟨(keeps_array inside small).shows given, ?_⟩
  intro object node folded ends run same
  obtain ⟨target, rfl⟩ := eval_endsWithSpread ends given run
  exact (keeps_spread target span inside).shows same

/-- A numeral with too many digits is no index and yet not read as none. -/
theorem index_of_overlong :
    (∀ i : Nat, i < 2 ^ 32 - 1 → toString (10 ^ digitLimit : Nat) ≠ toString i) ∧
    indexOfText (toString (10 ^ digitLimit : Nat)) = .error .tooManyDigits := by
  refine ⟨fun i small same => ?_, indexOfText_eq_error.mpr ⟨rfl, _, rfl, le_rfl⟩⟩
  have short := index_lt_limit small
  rw [← toString_injective same] at short
  exact lt_irrefl _ short

/-- A row with a text behind something unknown, spread in an object that has a member already. -/
def spreading : List Data :=
  [entryData (nameData "a") (textData "x"), spreadPropertyData (arrayData movable)]

def askingNode (key : String) (object : Data) : Node :=
  ⟨some .binaryExpression, none,
    [(.text "type", .text "BinaryExpression"), (.text "operator", .text "in"),
      (.text "left", textData key), (.text "right", object)]⟩

theorem asksIn_askingNode (object : Data) (sound : Node.check object = .ok ()) (key : String) :
    AsksIn {} (askingNode key object) key object :=
  ⟨rfl, ⟨rfl, rfl⟩, ⟨_, _, _, ⟨rfl, rfl⟩, evalPart_textData {} key, rfl⟩, ⟨rfl, sound⟩⟩

theorem contributes_spreading : Contributes {} (spreadPropertyData (arrayData movable))
    (indexed [.nonStatic, .value (.string "x") none]) :=
  .array rfl rfl ⟨rfl, rfl⟩ evalPart_movable

/-- The text is found in the row and in the object that it is spread in,
each time under its index. -/
theorem array_entries_by_index_movable :
    evaluate {} (memberData (arrayData movable) (computedData (textData "1"))) =
      .ok (.value (.string "x") none) ∧
    evaluate {} (memberData (objectData spreading) (computedData (textData "1"))) =
      .ok (.value (.string "x") none) ∧
    eval {} (askingNode "1" (arrayData movable)) = .ok (.value (.bool true) none) ∧
    eval {} (askingNode "1" (objectData spreading)) = .ok (.value (.bool true) none) := by
  obtain ⟨row, object⟩ :=
    ((array_entries_by_index "1").2.2.2 [.nonStatic, .value (.string "x") none] 1 (by decide)
      (by decide)).2.2 {} (arrayData movable) none evalPart_movable
  have run : evalPart {} (objectData spreading) = .ok (.value (.object (Members.putAll []
      [[(.text "a", .value (.string "x") none)],
        indexed [.nonStatic, .value (.string "x") none]].flatten))
      none) := by
    rw [objectData, taggedData, evalPart_map {} rfl, eval_object {} rfl ⟨rfl, rfl⟩, spreading,
      evalProperties_contributed (.cons contributes_replaceable (.cons contributes_spreading .nil))]
    rfl
  have opened := run
  rw [objectData, taggedData, evalPart_map {} rfl] at opened
  have shows :=
    object (objectData spreading) _ _ ⟨rfl, [entryData (nameData "a") (textData "x")], _, _, rfl,
      rfl, rfl, ⟨rfl, rfl⟩⟩ opened run
  rw [evaluate_memberData, evaluate_memberData]
  exact ⟨row.read _ (readsMember_text _ rfl "1"), shows.read _ (readsMember_text _ rfl "1"),
    row.asked _ (asksIn_askingNode _ rfl "1"), shows.asked _ (asksIn_askingNode _ rfl "1")⟩

end Expressions

end Fold

end StyleFold
