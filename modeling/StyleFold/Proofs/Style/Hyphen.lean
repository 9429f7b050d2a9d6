import Mathlib.Data.List.Chain
import StyleFold.Style.Css

/-!
Property names with hyphens. The search for a small letter before a capital goes over a name from
left to right and passes what it has found, so that a rule for each character has to be shown. Main
statement: every capital that is first or follows a small letter gets one hyphen, and then all
letters are small; a name of letters without two capitals in a row can be read off the result, and
nothing is left to do a second time.
-/

namespace StyleFold

section Ascii

namespace Text

def IsAscii (text : List Char) : Prop := ∀ c ∈ text, c.toNat < 128

instance (text : List Char) : Decidable (IsAscii text) := List.decidableBAll _ text

theorem ascii_cases (holds : Char → Prop) (each : ∀ n : Fin 128, holds (Char.ofNat n)) {c : Char}
    (ascii : c.toNat < 128) : holds c := by
  have here := each ⟨c.toNat, ascii⟩
  rwa [Char.ofNat_toNat] at here

theorem lowerFrom_ascii (before : List Char) {text : List Char} (ascii : IsAscii text) :
    lowerFrom before text = text.map Char.toLower := by
  induction text generalizing before with
  | nil => rfl
  | cons c rest ih =>
      have small := ascii c List.mem_cons_self
      have sigma : (c.toNat == 0x3A3) = false := by simp; omega
      have dotted : (c.toNat == 0x130) = false := by simp; omega
      have letter : lowerChar c = c.toLower := if_pos small
      simp only [lowerFrom, sigma, dotted, Bool.false_eq_true, if_false, letter,
        List.singleton_append, List.map_cons, ih _ fun other member =>
          ascii other (List.mem_cons_of_mem _ member)]

theorem lower_ascii {text : List Char} (ascii : IsAscii text) :
    lower text = text.map Char.toLower :=
  lowerFrom_ascii [] ascii

end Text

end Ascii

namespace Css

open Text (IsAscii)

section Letters

variable {c : Char}

theorem ascii_of_capital (capital : isCapital c = true) : c.toNat < 128 := by
  simp only [isCapital, Bool.and_eq_true, decide_eq_true_eq] at capital
  have last : c.toNat ≤ 'Z'.toNat := capital.2
  exact Nat.lt_of_le_of_lt last (by decide)

theorem ascii_of_small (small : isSmall c = true) : c.toNat < 128 := by
  simp only [isSmall, Bool.and_eq_true, decide_eq_true_eq] at small
  have last : c.toNat ≤ 'z'.toNat := small.2
  exact Nat.lt_of_le_of_lt last (by decide)

theorem isCapital_toLower (ascii : c.toNat < 128) : isCapital c.toLower = false :=
  Text.ascii_cases (fun c => isCapital c.toLower = false) (by decide) ascii

theorem toLower_plain (ascii : c.toNat < 128) (plain : isCapital c = false) : c.toLower = c :=
  Text.ascii_cases (fun c => isCapital c = false → c.toLower = c) (by decide) ascii plain

theorem ascii_toLower (ascii : c.toNat < 128) : c.toLower.toNat < 128 :=
  Text.ascii_cases (fun c => c.toLower.toNat < 128) (by decide) ascii

theorem isSmall_toLower (capital : isCapital c = true) : isSmall c.toLower = true :=
  Text.ascii_cases (fun c => isCapital c = true → isSmall c.toLower = true) (by decide)
    (ascii_of_capital capital) capital

theorem toUpper_toLower (capital : isCapital c = true) : c.toLower.toUpper = c :=
  Text.ascii_cases (fun c => isCapital c = true → c.toLower.toUpper = c) (by decide)
    (ascii_of_capital capital) capital

theorem plain_of_small (small : isSmall c = true) : isCapital c = false ∧ c ≠ '-' :=
  Text.ascii_cases (fun c => isSmall c = true → isCapital c = false ∧ c ≠ '-') (by decide)
    (ascii_of_small small) small

end Letters

section Marks

def isMarked (before : Option Char) (c : Char) : Bool := isCapital c && before.all isSmall

/-- Which characters of a name are marked, where `before` stands in front of it. -/
def marks (before : Option Char) (name : List Char) : List Bool :=
  List.zipWith isMarked (before :: name.map some) name

/-- A text with one hyphen in front of each character that is marked. -/
def withHyphens (marks : List Bool) (text : List Char) : List Char :=
  (List.zipWith (fun marked c => if marked then ['-', c] else [c]) marks text).flatten

theorem marks_cons (before : Option Char) (c : Char) (rest : List Char) :
    marks before (c :: rest) = isMarked before c :: marks (some c) rest := rfl

theorem withHyphens_marked (marks : List Bool) (c : Char) (rest : List Char) :
    withHyphens (true :: marks) (c :: rest) = '-' :: c :: withHyphens marks rest := rfl

theorem withHyphens_plain (marks : List Bool) (c : Char) (rest : List Char) :
    withHyphens (false :: marks) (c :: rest) = c :: withHyphens marks rest := rfl

theorem unmarked_after_capital {c : Char} (capital : isCapital c = true) (d : Char) :
    isMarked (some c) d = false := by
  cases small : isSmall c with
  | false => simp [isMarked, small]
  | true => simp [(plain_of_small small).1] at capital

theorem toLower_hyphenate (before : Option Char) (name : List Char)
    (plain : ∀ c ∈ name.head?, isMarked before c = false) :
    (hyphenate name).map Char.toLower = withHyphens (marks before name)
    (name.map Char.toLower) := by
  induction name using hyphenate.induct generalizing before with
  | case1 => rfl
  | case2 c => simp [hyphenate, marks, withHyphens, plain c rfl]
  | case3 c d rest found ih =>
      obtain ⟨small, capital⟩ := Bool.and_eq_true_iff.mp found
      -- The search goes on behind the capital, after which nothing is marked.
      have onward := ih (some d) fun e _ => unmarked_after_capital capital e
      have marked : isMarked (some c) d = true := by simp [isMarked, small, capital]
      simp only [hyphenate, found, if_true, List.map_cons, onward, marks_cons, plain c rfl, marked,
        withHyphens_plain, withHyphens_marked]
      rfl
  | case4 c d rest apart ih =>
      have alone : isMarked (some c) d = false := by
        simpa [isMarked, and_comm] using apart
      have onward := ih (some c) fun e here => by
        cases here
        exact alone
      rw [marks_cons, plain c rfl, List.map_cons, withHyphens_plain, ← onward]
      simp [hyphenate, apart]

theorem toLower_hyphenateName (name : List Char) :
    (hyphenateName name).map Char.toLower = withHyphens (marks none name)
    (name.map Char.toLower) := by
  cases name with
  | nil => rfl
  | cons c rest =>
      cases capital : isCapital c with
      | true =>
          have onward := toLower_hyphenate (some c) rest fun d _ => unmarked_after_capital capital d
          have marked : isMarked none c = true := by simp [isMarked, capital]
          rw [marks_cons, marked, List.map_cons, withHyphens_marked, ← onward]
          simp only [hyphenateName, capital, if_true, List.map_cons]
          rfl
      | false =>
          simp only [hyphenateName, capital, Bool.false_eq_true, if_false]
          exact toLower_hyphenate none (c :: rest) fun d here => by
            cases here
            simp [isMarked, capital]

theorem mem_hyphenate {c : Char} {name : List Char} (member : c ∈ hyphenate name) :
    c ∈ name ∨ c = '-' := by
  induction name using hyphenate.induct with
  | case1 => cases member
  | case2 d => exact .inl member
  | case3 d e rest found ih =>
      simp only [hyphenate, found, if_true, List.mem_cons] at member ⊢
      tauto
  | case4 d e rest apart ih =>
      simp only [hyphenate, apart, Bool.false_eq_true, if_false, List.mem_cons] at member ih ⊢
      tauto

theorem mem_hyphenateName {c : Char} {name : List Char} (member : c ∈ hyphenateName name) :
    c ∈ name ∨ c = '-' := by
  cases name with
  | nil => cases member
  | cons d rest =>
      rw [hyphenateName] at member
      split at member
      · rcases List.mem_cons.mp member with rfl | member
        · exact .inr rfl
        · rcases List.mem_cons.mp member with rfl | member
          · exact .inl List.mem_cons_self
          · exact (mem_hyphenate member).imp_left (List.mem_cons_of_mem _)
      · exact mem_hyphenate member

theorem mem_withHyphens {c : Char} {marks : List Bool} {text : List Char}
    (member : c ∈ withHyphens marks text) : c ∈ text ∨ c = '-' := by
  induction text generalizing marks with
  | nil => simp [withHyphens] at member
  | cons d rest ih =>
      cases marks with
      | nil => simp [withHyphens] at member
      | cons marked others =>
          cases marked with
          | false =>
              rw [withHyphens_plain, List.mem_cons] at member
              rw [List.mem_cons, or_assoc]
              exact member.imp_right ih
          | true =>
              rw [withHyphens_marked, List.mem_cons, List.mem_cons] at member
              rw [List.mem_cons, or_assoc]
              rcases member with hyphen | here | later
              · exact .inr (.inr hyphen)
              · exact .inl here
              · exact .inr (ih later)

variable {name : List Char}

theorem dashifyChars_of_custom (custom : ['-', '-'] <+: name) : dashifyChars name = name := by
  simp [dashifyChars, isCustom, custom]

theorem dashifyChars_eq (ascii : IsAscii name) (plain : ¬ ['-', '-'] <+: name) :
    dashifyChars name = withHyphens (marks none name) (Text.lower name) := by
  have hyphenated : IsAscii (hyphenateName name) := by
    intro c member
    rcases mem_hyphenateName member with there | rfl
    · exact ascii c there
    · decide
  simp [dashifyChars, isCustom, plain, Text.lower_ascii hyphenated, Text.lower_ascii ascii,
    toLower_hyphenateName]

structure IsLow (c : Char) : Prop where
  ascii : c.toNat < 128
  plain : isCapital c = false

theorem low_of_mem (ascii : IsAscii name) {c : Char} {marks : List Bool}
    (member : c ∈ withHyphens marks (Text.lower name)) : IsLow c := by
  rw [Text.lower_ascii ascii] at member
  rcases mem_withHyphens member with small | rfl
  · obtain ⟨d, there, rfl⟩ := List.mem_map.mp small
    exact ⟨ascii_toLower (ascii d there), isCapital_toLower (ascii d there)⟩
  · exact ⟨by decide, by decide⟩

theorem withHyphens_of_low (before : Option Char) (low : ∀ c ∈ name, IsLow c) :
    withHyphens (marks before name) (name.map Char.toLower) = name := by
  induction name generalizing before with
  | nil => rfl
  | cons c rest ih =>
      obtain ⟨ascii, plain⟩ := low c List.mem_cons_self
      have unmarked : isMarked before c = false := by simp [isMarked, plain]
      rw [marks_cons, unmarked, List.map_cons, withHyphens_plain, toLower_plain ascii plain,
        ih (some c) fun other member => low other (List.mem_cons_of_mem _ member)]

theorem dashifyChars_dashifyChars (ascii : IsAscii name) :
    dashifyChars (dashifyChars name) = dashifyChars name := by
  by_cases custom : ['-', '-'] <+: name
  · rw [dashifyChars_of_custom custom, dashifyChars_of_custom custom]
  · have low : ∀ c ∈ dashifyChars name, IsLow c := by
      rw [dashifyChars_eq ascii custom]
      exact fun c => low_of_mem ascii
    by_cases again : ['-', '-'] <+: dashifyChars name
    · exact dashifyChars_of_custom again
    · have still : IsAscii (dashifyChars name) := fun c member => (low c member).ascii
      rw [dashifyChars_eq still again, Text.lower_ascii still, withHyphens_of_low none low]

end Marks

section Restoring

def undash : List Char → List Char
  | [] => []
  | [c] => [c]
  | c :: d :: rest =>
      if c == '-' && isSmall d then d.toUpper :: undash rest else c :: undash (d :: rest)

/-- A name of letters without two capitals in a row. -/
structure IsCamel (name : List Char) : Prop where
  letters : ∀ c ∈ name, isSmall c = true ∨ isCapital c = true
  apart : name.IsChain fun c d => ¬ (isCapital c = true ∧ isCapital d = true)

variable {name : List Char} {c : Char}

theorem undash_letter (letter : c ≠ '-') (rest : List Char) :
    undash (c :: rest) = c :: undash rest := by
  cases rest <;> simp [undash, letter]

theorem undash_withHyphens (before : Option Char) (camel : IsCamel name)
    (start : ∀ c ∈ name.head?, isCapital c = true → isMarked before c = true) :
    undash (withHyphens (marks before name) (name.map Char.toLower)) = name := by
  induction name generalizing before with
  | nil => rfl
  | cons c rest ih =>
      have tail : IsCamel rest :=
        ⟨fun d member => camel.letters d (List.mem_cons_of_mem _ member), camel.apart.tail⟩
      rw [marks_cons, List.map_cons]
      rcases camel.letters c List.mem_cons_self with small | capital
      · obtain ⟨plain, letter⟩ := plain_of_small small
        have onward := ih (some c) tail fun d _ capital => by simp [isMarked, capital, small]
        have unmarked : isMarked before c = false := by simp [isMarked, plain]
        rw [unmarked, withHyphens_plain, toLower_plain (ascii_of_small small) plain,
          undash_letter letter, onward]
      · -- No capital comes next, so that whatever comes next is as it should be.
        have onward := ih (some c) tail fun d here upper => by
          cases rest with
          | nil => cases here
          | cons e others =>
              cases here
              exact absurd ⟨capital, upper⟩ (List.isChain_cons_cons.mp camel.apart).1
        rw [start c rfl capital, withHyphens_marked]
        simp [undash, isSmall_toLower capital, toUpper_toLower capital, onward]

theorem ascii_of_camel (camel : IsCamel name) : IsAscii name := fun c member =>
  (camel.letters c member).elim ascii_of_small ascii_of_capital

theorem plain_of_camel (camel : IsCamel name) : ¬ ['-', '-'] <+: name := by
  rintro ⟨rest, rfl⟩
  rcases camel.letters '-' (by simp) with small | capital <;> contradiction

theorem undash_dashifyChars (camel : IsCamel name) : undash (dashifyChars name) = name := by
  have ascii := ascii_of_camel camel
  rw [dashifyChars_eq ascii (plain_of_camel camel), Text.lower_ascii ascii]
  exact undash_withHyphens none camel fun c _ capital => by simp [isMarked, capital]

end Restoring

section Names

/-- A name with capitals in place of its hyphens. -/
def undashed (name : String) : String := String.ofList (undash name.toList)

/-- A property name of ASCII characters keeps its hyphenated form when that is hyphenated
again. A name of letters without two capitals in a row is restored from it, so that no other
such name has the same form. Unless the name is that of a custom property, the form has no
capitals, and it is the name in lower case with a hyphen in front of every capital that is
first or follows a small letter. -/
theorem dashify_laws (name : String) (ascii : IsAscii name.toList) :
    dashify (dashify name) = dashify name ∧
    (IsCamel name.toList → undashed (dashify name) = name ∧
      ∀ other : String, IsCamel other.toList → dashify other = dashify name → other = name) ∧
    (¬ ['-', '-'] <+: name.toList →
      (∀ c ∈ (dashify name).toList, isCapital c = false) ∧
      (dashify name).toList = withHyphens (marks none name.toList) (Text.lower name.toList)) := by
  have restored {name : String} (camel : IsCamel name.toList) : undashed (dashify name) = name := by
    rw [undashed, dashify, String.toList_ofList, undash_dashifyChars camel, String.ofList_toList]
  refine ⟨?_, fun camel => ⟨restored camel, fun other alike same => ?_⟩, fun plain => ?_⟩
  · rw [dashify, dashify, String.toList_ofList, dashifyChars_dashifyChars ascii]
  · rw [← restored alike, same, restored camel]
  · have form : (dashify name).toList =
        withHyphens (marks none name.toList) (Text.lower name.toList) := by
      rw [dashify, String.toList_ofList, dashifyChars_eq ascii plain]
    rw [form]
    exact ⟨fun c member => (low_of_mem ascii member).plain, rfl⟩

/-- A name that begins with a capital has a hyphen in front and is restored without it. -/
theorem dashify_laws_mozAppearance :
    IsAscii "MozAppearance".toList ∧ IsCamel "MozAppearance".toList ∧
      dashify "MozAppearance" = "-moz-appearance" ∧
    dashify "-moz-appearance" = "-moz-appearance" ∧
      undashed "-moz-appearance" = "MozAppearance" := by
  have ascii : IsAscii "MozAppearance".toList := by decide
  have letters : "MozAppearance".toList.all fun c => isSmall c || isCapital c := by decide
  have camel : IsCamel "MozAppearance".toList :=
    ⟨by simpa only [List.all_eq_true, Bool.or_eq_true] using letters, by decide⟩
  have form : dashify "MozAppearance" = "-moz-appearance" := by decide
  obtain ⟨again, restores, -⟩ := dashify_laws "MozAppearance" ascii
  rw [form] at again restores
  exact ⟨ascii, camel, form, again, (restores camel).1⟩

/-- Of two capitals in a row the second one has no hyphen, and is lost. -/
example : undashed (dashify "WebkitURL") = "WebkitUrl" := by decide

end Names

end Css

end StyleFold
