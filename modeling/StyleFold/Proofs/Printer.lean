import StyleFold.Printer
import StyleFold.Proofs.Tree.Notation

/-!
Printing at a level. What is printed at a deeper level is the same text with that many indents more
behind each line feed, and only objects put line feeds there. Main statement: the two for every
value and result whose labels have no line feeds, whatever is in its texts.
-/

namespace StyleFold

open Text

/-! What is written in a value, and where its lines end. -/

section Written

mutual

/-- Keys, names of references, patterns and flags. -/
def Value.labels : Value → List Label
  | .regexp pattern flags => [pattern, flags]
  | .array entries => rowLabels entries
  | .object members => memberLabels members
  | _ => []

def Result.labels : Result → List Label
  | .nonStatic => []
  | .reference id _ => [id]
  | .value v _ => v.labels
  | .bare v => v.labels

def rowLabels : List Result → List Label
  | [] => []
  | result :: rest => result.labels ++ rowLabels rest

def memberLabels : Members → List Label
  | [] => []
  | (name, result) :: rest => name :: (result.labels ++ memberLabels rest)

end

mutual

/-- An object that has members ends a line before each of them and one behind the last. -/
def Value.breaks : Value → Nat
  | .array entries => rowBreaks entries
  | .object [] => 0
  | .object (member :: rest) => memberBreaks (member :: rest) + 1
  | _ => 0

def Result.breaks : Result → Nat
  | .value v _ => v.breaks
  | .bare v => v.breaks
  | _ => 0

def rowBreaks : List Result → Nat
  | [] => 0
  | result :: rest => result.breaks + rowBreaks rest

def memberBreaks : Members → Nat
  | [] => 0
  | (_, result) :: rest => result.breaks + 1 + memberBreaks rest

end

end Written

namespace Printer

section Leaves

variable {c : Char} {becomes text : List Char}

theorem not_mem_replace (other : c ∉ becomes) : c ∉ replace c becomes text := by
  intro member
  obtain ⟨d, _, inside⟩ := List.mem_flatMap.mp member
  split at inside
  · exact other inside
  · rename_i differs
    rw [List.mem_singleton.mp inside] at differs
    exact differs (beq_self_eq_true d)

theorem unbroken_literal (text : List Char) : Unbroken (String.ofList (literal text)) := by
  have escaped : '\n' ∉ escape text := not_mem_replace (by decide)
  simp [Unbroken, literal, escaped]

theorem unbroken_indent (printer : Printer) (level : Int) : Unbroken (printer.indent level) := by
  simp [Unbroken, indent]

end Leaves

section Deepening

variable (printer : Printer) (level : Nat) {s t : String}

/-- A text with a number of indents behind each of its line feeds. -/
def deepen (text : String) : String :=
  String.ofList (replace '\n' ('\n' :: (printer.indent level).toList) text.toList)

theorem deepen_append :
    printer.deepen level (s ++ t) = printer.deepen level s ++ printer.deepen level t := by
  simp [deepen, replace, String.ofList_append]

theorem deepen_unbroken (unbroken : Unbroken s) : printer.deepen level s = s := by
  have same : replace '\n' ('\n' :: (printer.indent level).toList) s.toList =
      s.toList.flatMap fun c => [c] := by
    refine List.flatMap_congr fun c member => ?_
    rw [if_neg]
    rintro same
    rw [beq_iff_eq.mp same] at member
    exact unbroken member
  rw [deepen, same, List.flatMap_singleton', String.ofList_toList]

theorem deepen_break : printer.deepen level "\n" = "\n" ++ printer.indent level := by
  simp [deepen, replace]

theorem deepen_intercalate (separator : String) (texts : List String) :
    printer.deepen level (separator.intercalate texts) =
      (printer.deepen level separator).intercalate (texts.map (printer.deepen level)) := by
  induction texts with
  | nil => simp [deepen, replace]
  | cons text rest ih =>
      cases rest with
      | nil => simp
      | cons next more =>
          simp only [List.map_cons] at ih ⊢
          rw [String.intercalate_cons_cons, deepen_append, deepen_append, ih,
            String.intercalate_cons_cons]

theorem indent_add {base : Int} (below : 0 ≤ base) :
    printer.indent (base + level) = printer.indent level ++ printer.indent base := by
  have total : printer.indentWidth * (base + level).toNat =
      printer.indentWidth * (level : Int).toNat + printer.indentWidth * base.toNat := by
    rw [← Nat.mul_add]
    congr 1
    omega
  rw [indent, total, ← List.replicate_append_replicate, String.ofList_append, indent, indent]

/-- A text in front of every line goes behind every separator and in front of the whole. -/
theorem intercalate_behind (separator front line : String) (rest : List String) :
    separator.intercalate ((line :: rest).map (front ++ ·)) =
      front ++ (separator ++ front).intercalate (line :: rest) := by
  induction rest generalizing line with
  | nil => simp
  | cons next more ih =>
      have tail := ih next
      simp only [List.map_cons] at tail ⊢
      rw [String.intercalate_cons_cons, tail, String.intercalate_cons_cons]
      simp only [String.append_assoc]

theorem deepen_block {base : Int} (below : 0 ≤ base) (line : String) (rest : List String) :
    "\x7b\n" ++ ",\n".intercalate ((line :: rest).map fun text =>
      printer.indent level ++ printer.deepen level text) ++
        "\n" ++ printer.indent (base + level) ++ "\x7d" =
      printer.deepen level
        ("\x7b\n" ++ ",\n".intercalate (line :: rest) ++ "\n" ++ printer.indent
          base ++ "\x7d") := by
  have front : printer.deepen level "\x7b\n" = "\x7b\n" ++ printer.indent level := by
    simp [deepen, replace, ← String.append_assoc]
  have between : printer.deepen level ",\n" = ",\n" ++ printer.indent level := by
    simp [deepen, replace, ← String.append_assoc]
  -- The indents behind a separator are those in front of the next line.
  have behind := intercalate_behind ",\n" (printer.indent level) (printer.deepen level line)
    (rest.map (printer.deepen level))
  rw [← List.map_cons, List.map_map] at behind
  simp only [deepen_append, deepen_intercalate, front, between, deepen_break,
    indent_add printer level below, deepen_unbroken printer level (unbroken_indent printer base),
    deepen_unbroken printer level (s := "\x7d") (by decide)]
  have lines : ((line :: rest).map fun text => printer.indent level ++ printer.deepen level text) =
      (line :: rest).map ((printer.indent level ++ ·) ∘ printer.deepen level) := rfl
  rw [lines, behind]
  simp only [String.append_assoc, List.map_cons]

end Deepening

/-! Values that are no containers are on one line, which is the same at every level. -/

section Atoms

variable {v : Value}

theorem value_atom (printer : Printer) (other level : Int) (atom : v.isContainer = false) :
    printer.value other v = printer.value level v := by
  cases v with
  | regexp | array | object => cases atom
  | undefined | null | bool | number | whole | bigint | string | foreign => rw [value, value]

theorem unbroken_atom (printer : Printer) (level : Int) (atom : v.isContainer = false) :
    Unbroken (printer.value level v) := by
  cases v with
  | regexp | array | object => cases atom
  | undefined | null =>
      rw [value]
      decide
  | bool b =>
      rw [value]
      cases b <;> decide
  | number x =>
      rw [value]
      exact Css.unbroken_numberText x
  | whole i =>
      rw [value]
      exact Css.unbroken_numberText (Double.ofInt i)
  | bigint i =>
      rw [value]
      exact unbroken_append.mpr ⟨unbroken_int i, by decide⟩
  | string s =>
      rw [value]
      exact unbroken_literal s.toList
  | foreign data =>
      rw [value]
      exact unbroken_shownPart data

theorem breaks_atom (atom : v.isContainer = false) : v.breaks = 0 := by
  cases v with
  | regexp | array | object => cases atom
  | undefined | null | bool | number | whole | bigint | string | foreign => simp [Value.breaks]

theorem unbroken_regexp (printer : Printer) (level : Int) {pattern flags : Label}
    (plain : ∀ label ∈ (Value.regexp pattern flags).labels, Unbroken label.plain) :
    Unbroken (printer.value level (.regexp pattern flags)) := by
  rw [Value.labels, List.forall_mem_cons, List.forall_mem_cons] at plain
  rw [value]
  simp only [unbroken_append, plain, and_true]
  decide

end Atoms

/-! The law of levels, by induction on the value. Members are printed one level below their
object, so the level that is deepened is any from the first on, and the same number of
indents is added at each. -/

section Levels

variable (printer : Printer) (level : Nat)

mutual

theorem value_deeper {base : Int} (below : 0 ≤ base) (v : Value)
    (plain : ∀ label ∈ v.labels, Unbroken label.plain) :
    printer.value (base + level) v = printer.deepen level (printer.value base v) := by
  have row {s : String} (unbroken : Unbroken s) := deepen_unbroken printer level unbroken
  match v with
  | .undefined | .null | .bool _ | .number _ | .whole _ | .bigint _ | .string _ | .foreign _ =>
      rw [row (unbroken_atom printer base rfl), value_atom printer (base + level) base rfl]
  | .regexp _ _ => rw [row (unbroken_regexp printer base plain), value, value]
  | .array entries =>
      rw [value, value, deepen_append, deepen_append, deepen_intercalate,
        entryTexts_deeper below entries plain, row (s := "[") (by decide),
        row (s := ", ") (by decide), row (s := "]") (by decide)]
  | .object [] =>
      rw [value, value, row]
      decide
  | .object (member :: rest) =>
      have lines := memberLines_deeper (Int.le_add_one below) (member :: rest) plain
      rw [value, value, Int.add_right_comm, lines, memberLines, deepen_block printer level below]

theorem entry_deeper {base : Int} (below : 0 ≤ base) (result : Result)
    (plain : ∀ label ∈ result.labels, Unbroken label.plain) :
    printer.entry (base + level) result = printer.deepen level (printer.entry base result) := by
  match result with
  | .value v _ | .bare v =>
      rw [Result.labels] at plain
      rw [entry, entry, value_deeper below v plain]
  | .reference id _ =>
      rw [Result.labels, List.forall_mem_singleton] at plain
      rw [entry, entry, deepen_unbroken]
      simp only [unbroken_append, plain, and_true]
      decide
  | .nonStatic =>
      rw [entry, entry, deepen_unbroken]
      decide

theorem entryTexts_deeper {base : Int} (below : 0 ≤ base) (entries : List Result)
    (plain : ∀ label ∈ rowLabels entries, Unbroken label.plain) :
    printer.entryTexts (base + level) entries =
      (printer.entryTexts base entries).map (printer.deepen level) := by
  match entries with
  | [] => rfl
  | result :: rest =>
      rw [rowLabels, List.forall_mem_append] at plain
      rw [entryTexts, entryTexts, List.map_cons, entry_deeper below result plain.1,
        entryTexts_deeper below rest plain.2]

theorem memberLines_deeper {base : Int} (below : 0 ≤ base) (members : Members)
    (plain : ∀ label ∈ memberLabels members, Unbroken label.plain) :
    printer.memberLines (base + level) members =
      (printer.memberLines base members).map fun line =>
        printer.indent level ++ printer.deepen level line := by
  match members with
  | [] => rfl
  | (name, result) :: rest =>
      rw [memberLabels, List.forall_mem_cons, List.forall_mem_append] at plain
      obtain ⟨key, inner, others⟩ := plain
      rw [memberLines, memberLines, List.map_cons, entry_deeper below result inner,
        memberLines_deeper below rest others, deepen_append, deepen_append, deepen_append,
        deepen_unbroken printer level (unbroken_indent printer base),
        deepen_unbroken printer level key, deepen_unbroken printer level (s := ": ") (by decide),
        indent_add printer level below]
      simp only [String.append_assoc]

end

end Levels

/-! Line feeds in what is printed, by the same induction. -/

section Feeds

variable (printer : Printer) {s t : String}

/-- How many line feeds are in a text. -/
def feeds (text : String) : Nat := text.toList.count '\n'

theorem feeds_append : feeds (s ++ t) = feeds s + feeds t := by simp [feeds]

theorem feeds_unbroken (unbroken : Unbroken s) : feeds s = 0 := List.count_eq_zero.mpr unbroken

theorem feeds_intercalate (separator : String) (texts : List String) :
    feeds (separator.intercalate texts) =
      (texts.map feeds).sum + (texts.length - 1) * feeds separator := by
  induction texts with
  | nil => simp [feeds]
  | cons text rest ih =>
      cases rest with
      | nil => simp
      | cons next more =>
          have step : (more.length + 1) * feeds separator =
              more.length * feeds separator + feeds separator :=
            Nat.succ_mul _ _
          simp only [List.map_cons, List.sum_cons, List.length_cons, Nat.add_sub_cancel] at ih ⊢
          rw [String.intercalate_cons_cons, feeds_append, feeds_append, ih]
          omega

theorem length_memberLines (level : Int) (members : Members) :
    (printer.memberLines level members).length = members.length := by
  induction members with
  | nil => rfl
  | cons member rest ih => rw [memberLines, List.length_cons, List.length_cons, ih]

mutual

theorem feeds_value (level : Int) (v : Value) (plain : ∀ label ∈ v.labels, Unbroken label.plain) :
    feeds (printer.value level v) = v.breaks := by
  match v with
  | .undefined | .null | .bool _ | .number _ | .whole _ | .bigint _ | .string _ | .foreign _ =>
      rw [feeds_unbroken (unbroken_atom printer level rfl), breaks_atom rfl]
  | .regexp _ _ =>
      rw [feeds_unbroken (unbroken_regexp printer level plain)]
      simp [Value.breaks]
  | .array entries =>
      rw [value, Value.breaks, feeds_append, feeds_append, feeds_intercalate,
        feeds_entryTexts level entries plain, feeds_unbroken (s := "[") (by decide),
        feeds_unbroken (s := ", ") (by decide), feeds_unbroken (s := "]") (by decide)]
      omega
  | .object [] =>
      rw [value, Value.breaks, feeds_unbroken]
      decide
  | .object ((name, result) :: rest) =>
      have lines := feeds_memberLines (level + 1) ((name, result) :: rest) plain
      have front : feeds "\x7b\n" = 1 := by decide
      have between : feeds ",\n" = 1 := by decide
      have back : feeds "\n" = 1 := by decide
      rw [List.length_cons] at lines
      rw [value, Value.breaks, feeds_append, feeds_append, feeds_append, feeds_append,
        feeds_intercalate, front, between, back, feeds_unbroken (unbroken_indent printer level),
        feeds_unbroken (s := "\x7d") (by decide), length_memberLines]
      rw [List.length_cons]
      omega

theorem feeds_entry (level : Int) (result : Result)
    (plain : ∀ label ∈ result.labels, Unbroken label.plain) :
    feeds (printer.entry level result) = result.breaks := by
  match result with
  | .value v _ | .bare v =>
      rw [Result.labels] at plain
      rw [entry, Result.breaks, feeds_value level v plain]
  | .reference id _ =>
      rw [Result.labels, List.forall_mem_singleton] at plain
      rw [entry, Result.breaks, feeds_unbroken]
      · simp only [unbroken_append, plain, and_true]
        decide
      · simp
      · simp
  | .nonStatic =>
      rw [entry, Result.breaks, feeds_unbroken]
      · decide
      · simp
      · simp

theorem feeds_entryTexts (level : Int) (entries : List Result)
    (plain : ∀ label ∈ rowLabels entries, Unbroken label.plain) :
    ((printer.entryTexts level entries).map feeds).sum = rowBreaks entries := by
  match entries with
  | [] => rfl
  | result :: rest =>
      rw [rowLabels, List.forall_mem_append] at plain
      rw [entryTexts, List.map_cons, List.sum_cons, rowBreaks, feeds_entry level result plain.1,
        feeds_entryTexts level rest plain.2]

theorem feeds_memberLines (level : Int) (members : Members)
    (plain : ∀ label ∈ memberLabels members, Unbroken label.plain) :
    ((printer.memberLines level members).map feeds).sum + members.length =
      memberBreaks members := by
  match members with
  | [] => rfl
  | (name, result) :: rest =>
      rw [memberLabels, List.forall_mem_cons, List.forall_mem_append] at plain
      obtain ⟨key, inner, others⟩ := plain
      have later := feeds_memberLines level rest others
      rw [memberLines, List.map_cons, List.sum_cons, List.length_cons, memberBreaks,
        feeds_append, feeds_append, feeds_append, feeds_unbroken (unbroken_indent printer level),
        feeds_unbroken key, feeds_unbroken (s := ": ") (by decide), feeds_entry level result inner]
      omega

end

end Feeds

/-! Results: a static one is marked as such, around the text of its value. -/

section Results

variable (printer : Printer) {result : Result}

theorem result_marked (result : Result) : ∃ front back, Unbroken front ∧ Unbroken back ∧
    ∀ level, printer.result level result = front ++ printer.entry level result ++ back := by
  cases result with
  | value v _ =>
      exact ⟨"<static ", ">",
        by decide, by decide, fun level => by rw [Printer.result, entry, static]⟩
  | nonStatic | reference | bare =>
      refine ⟨"", "", by decide, by decide, fun level => ?_⟩
      rw [String.empty_append, String.append_empty]
      rfl

theorem result_deeper (level : Nat) (plain : ∀ label ∈ result.labels, Unbroken label.plain) :
    printer.result level result = printer.deepen level (printer.result 0 result) := by
  obtain ⟨front, back, opening, closing, marked⟩ := printer.result_marked result
  have entry := entry_deeper printer level (Int.le_refl 0) result plain
  rw [Int.zero_add] at entry
  rw [marked, marked, entry, deepen_append, deepen_append, deepen_unbroken printer level opening,
    deepen_unbroken printer level closing]

theorem feeds_result (level : Int) (plain : ∀ label ∈ result.labels, Unbroken label.plain) :
    feeds (printer.result level result) = result.breaks := by
  obtain ⟨front, back, opening, closing, marked⟩ := printer.result_marked result
  rw [marked, feeds_append, feeds_append, feeds_entry printer level result plain,
    feeds_unbroken opening, feeds_unbroken closing, Nat.zero_add, Nat.add_zero]

end Results

section Printed

/-- What is printed at a level is what is printed at the first one with as many indents more behind
each line feed, as long as there are no line feeds in keys, names and patterns. The feeds are those
of the objects: a text adds none, whatever is in it. -/
theorem printed_at_level (printer : Printer) (level : Nat) :
    (∀ v : Value, (∀ label ∈ v.labels, Unbroken label.plain) →
      printer.value level v = printer.deepen level (printer.value 0 v) ∧
        feeds (printer.value level v) = v.breaks) ∧
    (∀ result : Result, (∀ label ∈ result.labels, Unbroken label.plain) →
      printer.result level result = printer.deepen level (printer.result 0 result) ∧
        feeds (printer.result level result) = result.breaks ∧
        printer.print level result = (printer.print 0 result).map (printer.deepen level)) ∧
    ∀ s : String, Unbroken (printer.value level (.string s)) := by
  refine ⟨fun v plain => ⟨?_, feeds_value printer level v plain⟩, fun result plain =>
    ⟨result_deeper printer level plain, feeds_result printer level plain, ?_⟩,
    fun s => unbroken_atom printer level rfl⟩
  · have deeper := value_deeper printer level (Int.le_refl 0) v plain
    rwa [Int.zero_add] at deeper
  · unfold print
    split
    · rfl
    · rw [result_deeper printer level plain]
      rfl

/-- An object in an array in an object, with a line feed in a text. -/
def nested : Value :=
  .object [(.text "a", .value (.array [.nonStatic,
    .value (.object [(.text "b", .value (.string "1\n2") none)]) none]) none)]

/-- The lines of both objects move; the line feed in the text is an escape at either level. -/
theorem nested_at_level :
    (∀ label ∈ nested.labels, Unbroken label.plain) ∧
      Printer.value {} 0 nested = "\x7b\n  a: [<non-static>, \x7b\n    b: '1\\n2'\n  \x7d]\n\x7d" ∧
      Printer.value {} 2 nested =
        "\x7b\n      a: [<non-static>, \x7b\n        b: '1\\n2'\n      \x7d]\n    \x7d" := by
  have plain : ∀ label ∈ nested.labels, Unbroken label.plain := by decide
  have shallow : Printer.value {} 0 nested =
      "\x7b\n  a: [<non-static>, \x7b\n    b: '1\\n2'\n  \x7d]\n\x7d" := by decide
  have deeper := ((printed_at_level {} 2).1 nested plain).1
  rw [shallow] at deeper
  exact ⟨plain, shallow, deeper.trans (by decide)⟩

end Printed

end Printer

end StyleFold
