import StyleFold.Proofs.Printer

/-!
Text literals. The three replacements are one pass that escapes each character for itself, and a
decoder that reads the escapes from left to right finds the text again. Main statement: whatever the
text, its literal ends at its last quote and nowhere before, and no two texts have the same one.
-/

namespace StyleFold.Printer

/-! One pass. Backslashes are replaced before any other replacement writes one, so no
escape is escaped again. -/

section Characters

variable {c : Char}

def special : List Char := ['\\', '\'', '\n']

/-- A character as it stands in a literal. -/
def escapeChar (c : Char) : List Char :=
  if c = '\\' then
    ['\\', '\\'] else if c = '\'' then ['\\', '\''] else if c = '\n' then ['\\', 'n'] else [c]

@[elab_as_elim]
theorem special_cases {motive : Char → Prop} (backslash : motive '\\') (quote : motive '\'')
    (feed : motive '\n') (plain : ∀ c, c ∉ special → motive c) (c : Char) : motive c := by
  by_cases listed : c ∈ special
  · simp only [special, List.mem_cons, List.not_mem_nil, or_false] at listed
    obtain rfl | rfl | rfl := listed
    · exact backslash
    · exact quote
    · exact feed
  · exact plain c listed

theorem escapeChar_plain (plain : c ∉ special) : escapeChar c = [c] := by
  simp only [special, List.mem_cons, List.not_mem_nil, or_false, not_or] at plain
  rw [escapeChar, if_neg plain.1, if_neg plain.2.1, if_neg plain.2.2]

theorem ne_of_plain {mark : Char} (plain : c ∉ special) (listed : mark ∈ special) : c ≠ mark :=
  (ne_of_mem_of_not_mem listed plain).symm

theorem replace_other {mark : Char} {becomes : List Char} (other : c ≠ mark) :
    replace mark becomes [c] = [c] := by
  simp [replace, other]

theorem escape_append (text rest : List Char) :
    escape (text ++ rest) = escape text ++ escape rest := by
  simp only [escape, replace, List.flatMap_append]

theorem escape_singleton (c : Char) : escape [c] = escapeChar c := by
  cases c using special_cases with
  | backslash | quote | feed => decide
  | plain c plain =>
      have backslash : c ≠ '\\' := ne_of_plain plain (by decide)
      have quote : c ≠ '\'' := ne_of_plain plain (by decide)
      have feed : c ≠ '\n' := ne_of_plain plain (by decide)
      rw [escapeChar_plain plain, escape, replace_other backslash, replace_other quote,
        replace_other feed]

theorem escape_cons (c : Char) (text : List Char) :
    escape (c :: text) = escapeChar c ++ escape text := by
  rw [← escape_singleton, ← escape_append, List.singleton_append]

theorem escape_eq_flatMap (text : List Char) : escape text = text.flatMap escapeChar := by
  induction text with
  | nil => rfl
  | cons c rest ih => rw [escape_cons, List.flatMap_cons, ih]

/-- The order matters: if backslashes came last, those of the other escapes would be doubled. -/
example : replace '\\' ['\\', '\\'] (replace '\'' ['\\', '\''] ['\'']) ≠ escape ['\''] := by decide

end Characters

section Decoding

variable {body text : List Char}

/-- The text of a literal, from what is between its quotes. A quote or a line feed that stands for
itself is refused, and so is a backslash that opens none of the three escapes. -/
def unescape : List Char → Option (List Char)
  | [] => some []
  | '\\' :: '\\' :: rest => (unescape rest).map ('\\' :: ·)
  | '\\' :: '\'' :: rest => (unescape rest).map ('\'' :: ·)
  | '\\' :: 'n' :: rest => (unescape rest).map ('\n' :: ·)
  | c :: rest => if c ∈ special then none else (unescape rest).map (c :: ·)

theorem unescape_plain {c : Char} (plain : c ∉ special) (rest : List Char) :
    unescape (c :: rest) = (unescape rest).map (c :: ·) := by
  have backslash : c ≠ '\\' := ne_of_plain plain (by decide)
  rw [unescape]
  · rw [if_neg plain]
  all_goals
    intro _ opened
    exact absurd opened backslash

theorem unescape_escapeChar (c : Char) (rest : List Char) :
    unescape (escapeChar c ++ rest) = (unescape rest).map (c :: ·) := by
  cases c using special_cases with
  | backslash | quote | feed => rfl
  | plain c plain => rw [escapeChar_plain plain, List.singleton_append, unescape_plain plain]

theorem unescape_escape (text : List Char) : unescape (escape text) = some text := by
  induction text with
  | nil => rfl
  | cons c rest ih => rw [escape_cons, unescape_escapeChar, ih, Option.map_some]

theorem eq_escape_of_unescape (decoded : unescape body = some text) : body = escape text := by
  fun_induction unescape body generalizing text with
  | case1 =>
      cases decoded
      rfl
  | case2 rest ih | case3 rest ih | case4 rest ih =>
      obtain ⟨tail, inner, rfl⟩ := Option.map_eq_some_iff.mp decoded
      rw [escape_cons, ← ih inner]
      rfl
  | case5 => cases decoded
  | case6 c rest _ _ _ plain ih =>
      obtain ⟨tail, inner, rfl⟩ := Option.map_eq_some_iff.mp decoded
      rw [escape_cons, ← ih inner, escapeChar_plain plain, List.singleton_append]

theorem unescape_eq_some_iff : unescape body = some text ↔ body = escape text := by
  constructor
  · exact eq_escape_of_unescape
  · rintro rfl
    exact unescape_escape text

/-- From left to right, a doubled backslash leaves nothing for the letter behind it. -/
example : unescape ['\\', '\\', 'n'] = some ['\\', 'n'] := rfl

theorem escape_injective : Function.Injective escape := by
  intro text other same
  have decoded := congrArg unescape same
  rw [unescape_escape, unescape_escape] at decoded
  exact Option.some.inj decoded

end Decoding

/-! Where a literal ends. A quote ends it unless it is escaped, so what is told of a body is told of
the backslashes in front of each quote, the closing one included. -/

section Quotes

variable {c : Char} {front back : List Char}

/-- Whether the next character is escaped: the last one is a backslash that
is not escaped itself. -/
def escaping (front : List Char) : Bool := front.foldl (fun opened c => c == '\\' && !opened) false

/-- A body that stays on its line and between its quotes: each quote in it is escaped,
the one behind it is not. -/
structure Enclosed (body : List Char) : Prop where
  quotes : ∀ front back, body = front ++ '\'' :: back → escaping front = true
  closed : escaping body = false
  unbroken : '\n' ∉ body

theorem escaping_escapeChar (c : Char) (rest : List Char) :
    escaping (escapeChar c ++ rest) = escaping rest := by
  cases c using special_cases with
  | backslash | quote | feed => rfl
  | plain c plain =>
      have backslash : (c == '\\') = false := beq_false_of_ne (ne_of_plain plain (by decide))
      rw [escapeChar_plain plain, List.singleton_append, escaping, List.foldl_cons,
        backslash, Bool.false_and]
      rfl

theorem escaping_escape (text : List Char) : escaping (escape text) = false := by
  induction text with
  | nil => rfl
  | cons c rest ih => rw [escape_cons, escaping_escapeChar, ih]

/-- The only quote in the escape of a character is the second of the two that stand for a quote. -/
theorem escaping_of_escapeChar (split : escapeChar c = front ++ '\'' :: back) :
    escaping front = true := by
  have quoted : '\'' ∈ escapeChar c := by simp [split]
  cases c using special_cases with
  | backslash | feed => exact absurd quoted (by decide)
  | quote =>
      match front with
      | [] => exact absurd (List.cons_eq_cons.mp split).1 (by decide)
      | [_] =>
          obtain ⟨rfl, _⟩ := List.cons_eq_cons.mp split
          rfl
      | _ :: _ :: _ => simp [escapeChar] at split
  | plain c plain =>
      rw [escapeChar_plain plain, List.mem_singleton] at quoted
      exact absurd quoted (ne_of_plain plain (by decide)).symm

/-- By induction on the text: a quote is in the escape of its first character or behind it. -/
theorem escaping_of_escape {text : List Char} (split : escape text = front ++ '\'' :: back) :
    escaping front = true := by
  induction text generalizing front with
  | nil => simp [escape, replace] at split
  | cons c rest ih =>
      rw [escape_cons, List.append_eq_append_iff] at split
      obtain ⟨middle, rfl, later⟩ | ⟨middle, first, later⟩ := split
      · rw [escaping_escapeChar]
        exact ih later
      · cases middle with
        | nil =>
            rw [List.append_nil] at first
            rw [← first, ← List.append_nil (escapeChar c), escaping_escapeChar]
            exact ih later.symm
        | cons mark more =>
            obtain ⟨rfl, _⟩ := List.cons_eq_cons.mp later
            exact escaping_of_escapeChar first

theorem enclosed_escape (text : List Char) : Enclosed (escape text) where
  quotes _ _ := escaping_of_escape
  closed := escaping_escape text
  unbroken := not_mem_replace (by decide)

end Quotes

section Literals

theorem toList_value_string (printer : Printer) (level : Int) (s : String) :
    (printer.value level (.string s)).toList = '\'' :: escape s.toList ++ ['\''] := by
  rw [value, String.toList_ofList, literal]

/-- A text prints between single quotes, with each character escaped for itself: no quote between
them is unescaped, no line ends there, and the last quote does close the literal. The decoder reads
the text from this body and from no other, so the literal tells which text was printed, by whatever
printer and at whatever level. -/
theorem text_literal_decoded (printer : Printer) (level : Int) (s : String) :
    (printer.value level (.string s)).toList = '\'' :: escape s.toList ++ ['\''] ∧
      Enclosed (escape s.toList) ∧
      escape s.toList = s.toList.flatMap escapeChar ∧
      (∀ body, unescape body = some s.toList ↔ body = escape s.toList) ∧
      ∀ (other : Printer) (depth : Int) (t : String),
        other.value depth (.string t) = printer.value level (.string s) ↔ t = s := by
  refine ⟨toList_value_string printer level s, enclosed_escape s.toList, escape_eq_flatMap s.toList,
    fun body => unescape_eq_some_iff, fun other depth t => ⟨fun same => ?_, ?_⟩⟩
  · have literals := congrArg String.toList same
    rw [toList_value_string, toList_value_string, List.cons_append, List.cons_append,
      List.cons_inj_right, List.append_cancel_right_eq] at literals
    exact String.toList_injective (escape_injective literals)
  · rintro rfl
    rw [value, value]

end Literals

end StyleFold.Printer
