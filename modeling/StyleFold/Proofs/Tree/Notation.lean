import StyleFold.Proofs.Style.LineBreak
import StyleFold.Tree.Node

/-!
The notation of data in messages stays on its line. Quoted text writes a line feed as an
escape, and all that is put around it has none. Main statement: whatever a tree holds, no line
ends within its notation.
-/

namespace StyleFold

namespace Text

section Quotes

variable {quote : Char} {names : List String} {separator : String}

/-- A text that is given by its characters. The characters of a literal are
known without decoding it. -/
theorem unbroken_ofList {text : List Char} (plain : text.contains '\n' = false) :
    Unbroken (String.ofList text) := by
  simpa [Unbroken] using plain

theorem unbroken_intercalate (between : Unbroken separator) (each : ∀ name ∈ names, Unbroken name) :
    Unbroken (separator.intercalate names) := by
  induction names with
  | nil => simp [Unbroken]
  | cons name rest ih =>
      rw [List.forall_mem_cons] at each
      cases rest with
      | nil => simpa using each.1
      | cons next more =>
          rw [String.intercalate_cons_cons, unbroken_append, unbroken_append]
          exact ⟨⟨each.1, between⟩, ih each.2⟩

theorem unbroken_row {opening closing : String} {names : List String} (front : Unbroken opening)
    (each : ∀ name ∈ names, Unbroken name) (back : Unbroken closing) :
    Unbroken (opening ++ ", ".intercalate names ++ closing) :=
  unbroken_append.mpr ⟨unbroken_append.mpr ⟨front, unbroken_intercalate (by decide) each⟩, back⟩

theorem unbroken_bracketed (each : ∀ name ∈ names, Unbroken name) : Unbroken (bracketed names) := by
  unfold bracketed
  split
  · simp only [unbroken_append, each _ List.mem_cons_self, and_true]
    decide
  · exact unbroken_row (by decide) each (by decide)

theorem hexDigit_ne_break (n : Nat) : hexDigit (n % 16) ≠ '\n' := by
  have small : n % 16 < 16 := Nat.mod_lt n (by decide)
  generalize n % 16 = digit at small
  interval_cases digit <;> decide

theorem unbroken_hexDigits (width n : Nat) : '\n' ∉ hexDigits width n := by
  induction width generalizing n with
  | zero => simp [hexDigits]
  | succ width ih => simp [hexDigits, ih, (hexDigit_ne_break n).symm]

theorem unbroken_quoteChar (plain : quote ≠ '\n') (c : Char) : '\n' ∉ quoteChar quote c := by
  unfold quoteChar
  split
  · rename_i special
    have other : c ≠ '\n' := by
      rintro rfl
      simp [plain.symm] at special
    simp [other.symm]
  · split
    · decide
    · rename_i other
      have other : c ≠ '\n' := by simpa using other
      split
      · decide
      · split
        · decide
        · split
          · simp [other.symm]
          · unfold codeEscape
            dsimp only
            split
            · simp [unbroken_hexDigits]
            · split <;> simp [unbroken_hexDigits]

theorem quoteOf_ne_break (text : List Char) : quoteOf text ≠ '\n' := by
  unfold quoteOf
  split <;> decide

theorem unbroken_quoted (s : String) : Unbroken (quoted s) := by
  have plain := quoteOf_ne_break s.toList
  simp [Unbroken, quoted, quoteChars, plain.symm, unbroken_quoteChar plain]

theorem unbroken_quotedOctets (octets : List Nat) : Unbroken (quotedOctets octets) := by
  have plain := quoteOf_ne_break (octets.map Char.ofNat)
  have each (octet : Nat) : '\n' ∉ quoteOctet (quoteOf (octets.map Char.ofNat)) octet := by
    unfold quoteOctet
    split
    · exact unbroken_quoteChar plain _
    · simp [unbroken_hexDigits]
  simp [Unbroken, quotedOctets, plain.symm, each]

end Quotes

section Numbers

theorem unbroken_nat (n : Nat) : Unbroken (toString n) := by
  rw [Unbroken, Nat.toString_eq_repr, Nat.toList_repr]
  exact Css.unbroken_toDigits n

theorem unbroken_int (i : Int) : Unbroken (toString i) := by
  cases i with
  | ofNat n => exact unbroken_nat n
  | negSucc n =>
      have sign : toString (Int.negSucc n) = "-" ++ toString (n + 1) := rfl
      rw [sign, unbroken_append]
      exact ⟨by decide, unbroken_nat (n + 1)⟩

end Numbers

end Text

open Text

section Moments

theorem unbroken_shownOffset (offset : Int) : Unbroken (Moment.shownOffset offset) := by
  have counted {unit : String} (plain : Unbroken unit) (count : Int) :
      ∀ part ∈ (if count != 0 then [unit ++ toString count] else []), Unbroken part := by
    intro part member
    split at member
    · rw [List.mem_singleton.mp member]
      exact unbroken_append.mpr ⟨plain, unbroken_int count⟩
    · cases member
  have parts (days rest : Int) : ∀ part ∈
      (if days != 0 then ["days=" ++ toString days] else []) ++
        (if rest != 0 then ["seconds=" ++ toString rest] else []), Unbroken part :=
    List.forall_mem_append.mpr ⟨counted (by decide) days, counted (by decide) rest⟩
  unfold Moment.shownOffset
  split
  · decide
  · simp only [unbroken_append,
      unbroken_intercalate (by decide : Unbroken ", ") (parts _ _), and_true]
    decide

theorem unbroken_shownDay (day : Day) : ∀ part ∈ Moment.shownDay day, Unbroken part := by
  simp only [Moment.shownDay, List.forall_mem_cons, unbroken_nat, true_and,
    List.not_mem_nil, false_imp_iff, implies_true]

theorem unbroken_shownClock (clock : Clock) : ∀ part ∈ Moment.shownClock clock, Unbroken part := by
  have each (numbers : List Nat) : ∀ part ∈ numbers.map toString, Unbroken part := by
    intro part member
    obtain ⟨n, _, rfl⟩ := List.mem_map.mp member
    exact unbroken_nat n
  unfold Moment.shownClock
  split
  · exact each [clock.hour, clock.minute, clock.second, clock.micro]
  · split
    · exact each [clock.hour, clock.minute, clock.second]
    · exact each [clock.hour, clock.minute]

theorem unbroken_moment (moment : Moment) : Unbroken moment.shown := by
  cases moment with
  | date day => exact unbroken_row (by decide) (unbroken_shownDay day) (by decide)
  | time clock => exact unbroken_row (by decide) (unbroken_shownClock clock) (by decide)
  | stamp day clock offset =>
      refine unbroken_row (by decide) ?_ (by decide)
      intro part member
      rcases List.mem_append.mp member with front | zone
      · rcases List.mem_append.mp front with date | time
        · exact unbroken_shownDay day part date
        · exact unbroken_shownClock clock part time
      · obtain ⟨ahead, _, rfl⟩ := List.mem_map.mp zone
        exact unbroken_append.mpr ⟨by decide, unbroken_shownOffset ahead⟩

end Moments

section Notation

theorem unbroken_span (span : Span) : Unbroken span.shownPair := by
  simp only [Span.shownPair, unbroken_append, unbroken_int, and_true]
  decide

theorem unbroken_tag (kind : Kind) : Unbroken kind.tag := by
  cases kind <;> exact unbroken_ofList rfl

mutual

theorem unbroken_shown (data : Data) : Unbroken data.shown := by
  match data with
  | .null => decide
  | .bool b => cases b <;> decide
  | .int i => exact unbroken_int i
  | .float x => exact Css.unbroken_layout (by decide) (by decide) x
  | .text s => exact unbroken_quoted s
  | .bytes octets => exact unbroken_quotedOctets octets
  | .moment moment => exact unbroken_moment moment
  | .list items => exact unbroken_row (by decide) (unbroken_shownItems items) (by decide)
  | .pair key value =>
      simp only [Data.shown, unbroken_append, unbroken_shown key, unbroken_shown value, and_true]
      decide
  | .set members =>
      rw [Data.shown]
      split
      · decide
      · exact unbroken_row (by decide) (unbroken_shownItems members) (by decide)
  | .map entries => exact unbroken_row (by decide) (unbroken_shownEntries entries) (by decide)
  | .cycle isMapping => cases isMapping <;> decide

theorem unbroken_shownItems (items : List Data) :
    ∀ text ∈ Data.shownItems items, Unbroken text := by
  match items with
  | [] => simp [Data.shownItems]
  | item :: rest =>
      rw [Data.shownItems, List.forall_mem_cons]
      exact ⟨unbroken_shown item, unbroken_shownItems rest⟩

theorem unbroken_shownEntries (entries : Entries) :
    ∀ text ∈ Data.shownEntries entries, Unbroken text := by
  match entries with
  | [] => simp [Data.shownEntries]
  | (key, value) :: rest =>
      rw [Data.shownEntries, List.forall_mem_cons, unbroken_append, unbroken_append]
      exact ⟨⟨⟨unbroken_shown key, by decide⟩, unbroken_shown value⟩, unbroken_shownEntries rest⟩

end

theorem unbroken_node (node : Node) : Unbroken node.shown := by
  unfold Node.shown
  split
  · simp only [unbroken_append, unbroken_shown, and_true]
    decide
  · have span : Unbroken ((node.span.map Span.shownPair).getD "None") := by
      cases node.span with
      | none => decide
      | some span => exact unbroken_span span
    simp only [unbroken_append, unbroken_tag, span, and_true]
    decide

mutual

theorem unbroken_shownPart (data : Data) : Unbroken (Node.shownPart data) := by
  match data with
  | .list items => exact unbroken_bracketed (unbroken_shownParts items)
  | .pair key value =>
      refine unbroken_bracketed ?_
      simp only [List.forall_mem_cons, unbroken_shownPart key, unbroken_shownPart value, true_and,
        List.not_mem_nil, false_imp_iff, implies_true]
  | .map entries =>
      rw [Node.shownPart]
      split
      · exact unbroken_node _
      · exact unbroken_shown _
  | .null | .bool _ | .int _ | .float _ | .text _ | .bytes _ | .moment _ | .set _ | .cycle _ =>
      exact unbroken_shown _

theorem unbroken_shownParts (items : List Data) :
    ∀ text ∈ Node.shownParts items, Unbroken text := by
  match items with
  | [] => simp [Node.shownParts]
  | item :: rest =>
      rw [Node.shownParts, List.forall_mem_cons]
      exact ⟨unbroken_shownPart item, unbroken_shownParts rest⟩

end

end Notation

end StyleFold
