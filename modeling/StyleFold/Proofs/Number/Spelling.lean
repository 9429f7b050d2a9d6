import StyleFold.Proofs.Number.Digits
import StyleFold.Proofs.Number.Nearest
import StyleFold.Value.Conversion

/-!
How numerals are spelled. A spelling is put together from the parts that the grammar names, and from
them come both its characters and the number it denotes. Main statement: what is read from a text is
the numeral of a spelling of the text without the blanks around it, so texts that nothing spells are
not numbers and the others are rounded from what their spelling denotes.
-/

namespace StyleFold

/-! Blanks around a text. -/

namespace Text

variable {blank : Char → Bool} {text body front back : List Char}

/-- A body with blanks around it, and none at its ends. -/
structure Around (blank : Char → Bool) (text body : List Char) : Prop where
  parts : ∃ front back, text = front ++ body ++ back ∧ (∀ c ∈ front, blank c = true) ∧
    ∀ c ∈ back, blank c = true
  first : ∀ c, body.head? = some c → blank c = false
  last : ∀ c, body.getLast? = some c → blank c = false

theorem dropWhile_of_head? (body : List Char) (first : ∀ c, body.head? = some c → blank c = false) :
    body.dropWhile blank = body := by
  cases body with
  | nil => rfl
  | cons c rest => rw [List.dropWhile_cons, if_neg (by rw [first c rfl]; exact Bool.false_ne_true)]

theorem head?_dropWhile (text : List Char) {c : Char}
    (first : (text.dropWhile blank).head? = some c) :
    blank c = false := by
  have other := List.head?_dropWhile_not blank text
  rw [first] at other
  exact other

theorem Around.trim_eq (around : Around blank text body) : trim blank text = body := by
  obtain ⟨⟨front, back, rfl, before, after⟩, first, last⟩ := around
  rw [trim, trimEnd, List.append_assoc, List.dropWhile_append_of_pos before]
  cases body with
  | nil => rw [List.nil_append, List.dropWhile_eq_nil_iff.mpr after]; rfl
  | cons c rest =>
      rw [dropWhile_of_head? (c :: rest ++ back) first, List.reverse_append,
        List.dropWhile_append_of_pos fun c member => after c (List.mem_reverse.mp member),
        dropWhile_of_head? _ (by rwa [List.head?_reverse]), List.reverse_reverse]

theorem around_trim (blank : Char → Bool) (text : List Char) :
    Around blank text (trim blank text) := by
  have front : text.takeWhile blank ++ text.dropWhile blank = text :=
    List.takeWhile_append_dropWhile
  have back : trim blank text ++ ((text.dropWhile blank).reverse.takeWhile blank).reverse =
      text.dropWhile blank := by
    rw [trim, trimEnd, ← List.reverse_append, List.takeWhile_append_dropWhile, List.reverse_reverse]
  refine ⟨⟨text.takeWhile blank, ((text.dropWhile blank).reverse.takeWhile blank).reverse,
    ?_, ?_, ?_⟩, ?_, ?_⟩
  · rw [List.append_assoc, back, front]
  · exact fun c member => List.mem_takeWhile_imp member
  · exact fun c member => List.mem_takeWhile_imp (List.mem_reverse.mp member)
  · intro c first
    refine head?_dropWhile text ?_
    rw [← back, List.head?_append, first]
    rfl
  · intro c last
    rw [trim, trimEnd, List.getLast?_reverse] at last
    exact head?_dropWhile _ last

theorem around_of_plain (plain : ∀ c ∈ body, blank c = false) (before : ∀ c ∈ front, blank c = true)
    (after : ∀ c ∈ back, blank c = true) : Around blank (front ++ body ++ back) body :=
  ⟨⟨front, back, rfl, before, after⟩, fun c first => plain c (List.mem_of_head? first),
    fun c last => plain c (List.mem_of_getLast? last)⟩

end Text

/-! The parts of a numeral. -/

namespace Spelling

open Double (withSign)

inductive Mark where
  | none
  | plus
  | minus
  deriving DecidableEq

namespace Mark

def chars : Mark → List Char
  | .none => []
  | .plus => ['+']
  | .minus => ['-']

def negative (sign : Mark) : Bool := sign == .minus

theorem splitSign_chars (sign : Mark) {body : List Char}
    (plain : ∀ c, body.head? = some c → c ≠ '-' ∧ c ≠ '+') :
    splitSign (sign.chars ++ body) = (sign.negative, body) := by
  cases sign with
  | plus | minus => rfl
  | none =>
      rw [chars, List.nil_append]
      unfold splitSign
      split
      · exact absurd rfl (plain _ rfl).1
      · exact absurd rfl (plain _ rfl).2
      · rfl

theorem exists_of_splitSign (text : List Char) :
    ∃ sign : Mark, sign.chars ++ (splitSign text).2 = text ∧
      sign.negative = (splitSign text).1 := by
  unfold splitSign
  split
  · exact ⟨.minus, rfl, rfl⟩
  · exact ⟨.plus, rfl, rfl⟩
  · exact ⟨.none, rfl, rfl⟩

end Mark

/-- Digits of a radix, most significant first. -/
structure Row (radix : Nat) where
  chars : List Char
  digits : ∀ c ∈ chars, isDigitIn radix c = true

namespace Row

variable {radix : Nat}

/-- The sum of the digits by their places, which are counted from the last one. -/
def value (row : Row radix) : Nat := Nat.ofDigits radix (row.chars.reverse.map digitValue)

theorem digitsValue_chars (row : Row radix) : digitsValue radix row.chars = row.value :=
  digitsValue_eq_ofDigits radix row.chars

def empty : Row radix := ⟨[], by simp⟩

def ofAll (chars : List Char) (digits : chars.all (isDigitIn radix) = true) : Row radix :=
  ⟨chars, List.all_eq_true.mp digits⟩

def append (row rest : Row radix) : Row radix where
  chars := row.chars ++ rest.chars
  digits c member := (List.mem_append.mp member).elim (row.digits c) (rest.digits c)

def ofNat (n : Nat) : Row 10 :=
  ⟨Nat.toDigits 10 n, isDigitIn_of_mem_toDigits (by decide) (by decide) n⟩

theorem value_ofNat (n : Nat) : (ofNat n).value = n :=
  (digitsValue_chars _).symm.trans (digitsValue_toDigits (by decide) (by decide) n)

theorem exists_iff {chars : List Char} : (!chars.isEmpty && chars.all (isDigitIn radix)) = true ↔
    ∃ row : Row radix, row.chars = chars ∧ row.chars ≠ [] := by
  rw [Bool.and_eq_true, Bool.not_eq_true', List.isEmpty_eq_false_iff, List.all_eq_true]
  constructor
  · rintro ⟨present, digits⟩
    exact ⟨⟨chars, digits⟩, rfl, present⟩
  · rintro ⟨row, rfl, present⟩
    exact ⟨present, row.digits⟩

theorem ofNat_ne_nil (n : Nat) : (ofNat n).chars ≠ [] := Nat.toDigits_ne_nil

end Row

structure Power where
  mark : Char
  marked : mark = 'e' ∨ mark = 'E'
  sign : Mark
  row : Row 10
  present : row.chars ≠ []

namespace Power

def chars (power : Power) : List Char := power.mark :: (power.sign.chars ++ power.row.chars)

def value (power : Power) : Int := Exact.signed power.sign.negative power.row.value

end Power

/-- Digits before a point and after it, where one of them may be missing. -/
structure Decimal where
  sign : Mark
  whole : Row 10
  fraction : Option (Row 10)
  power : Option Power
  present : whole.chars ≠ [] ∨ ∃ row, fraction = some row ∧ row.chars ≠ []

namespace Decimal

def fractionChars (spelling : Decimal) : List Char :=
  (spelling.fraction.elim [] fun row => '.' :: row.chars)

def powerChars (spelling : Decimal) : List Char := spelling.power.elim [] Power.chars

def chars (spelling : Decimal) : List Char :=
  spelling.sign.chars ++ (spelling.whole.chars ++ (spelling.fractionChars ++ spelling.powerChars))

def fractionValue (spelling : Decimal) : ℚ :=
  spelling.fraction.elim 0 fun row => row.value / 10 ^ row.chars.length

def value (spelling : Decimal) : ℚ :=
  withSign spelling.sign.negative
    ((spelling.whole.value + spelling.fractionValue) * 10 ^ spelling.power.elim 0 Power.value)

def ofRow (sign : Mark) (row : Row 10) (present : row.chars ≠ []) : Decimal :=
  ⟨sign, row, none, none, .inl present⟩

theorem chars_ofRow (sign : Mark) (row : Row 10) (present : row.chars ≠ []) :
    (ofRow sign row present).chars = sign.chars ++ row.chars :=
  congrArg (sign.chars ++ ·) (List.append_nil row.chars)

end Decimal

/-- The letter that says in which radix a whole number is written. -/
inductive Letter where
  | hexadecimal (upper : Bool)
  | octal (upper : Bool)
  | binary (upper : Bool)
  deriving DecidableEq

namespace Letter

def radix : Letter → Nat
  | .hexadecimal _ => 16
  | .octal _ => 8
  | .binary _ => 2

def char : Letter → Char
  | .hexadecimal upper => if upper then 'X' else 'x'
  | .octal upper => if upper then 'O' else 'o'
  | .binary upper => if upper then 'B' else 'b'

theorem radixOf?_iff {mark : Char} {radix : Nat} :
    radixOf? mark = some radix ↔ ∃ letter : Letter, letter.char = mark ∧ letter.radix = radix := by
  constructor
  · intro found
    simp only [radixOf?, Bool.or_eq_true, beq_iff_eq] at found
    split at found
    · rename_i either
      rcases either with rfl | rfl
      · exact ⟨.hexadecimal false, rfl, Option.some.inj found⟩
      · exact ⟨.hexadecimal true, rfl, Option.some.inj found⟩
    · split at found
      · rename_i either
        rcases either with rfl | rfl
        · exact ⟨.octal false, rfl, Option.some.inj found⟩
        · exact ⟨.octal true, rfl, Option.some.inj found⟩
      · split at found
        · rename_i either
          rcases either with rfl | rfl
          · exact ⟨.binary false, rfl, Option.some.inj found⟩
          · exact ⟨.binary true, rfl, Option.some.inj found⟩
        · cases found
  · rintro ⟨letter, rfl, rfl⟩
    cases letter with
    | _ upper => cases upper <;> rfl

end Letter

/-- A whole number with the letter of its radix. -/
structure Whole where
  letter : Letter
  row : Row letter.radix
  present : row.chars ≠ []

namespace Whole

def chars (spelling : Whole) : List Char := '0' :: spelling.letter.char :: spelling.row.chars

def value (spelling : Whole) : Nat := spelling.row.value

end Whole

end Spelling

/-- A numeral with all the parts that the grammar gives it. -/
inductive Spelling where
  | empty
  | infinite (sign : Spelling.Mark)
  | whole (spelling : Spelling.Whole)
  | decimal (spelling : Spelling.Decimal)

namespace Spelling

def chars : Spelling → List Char
  | .empty => []
  | .infinite sign => sign.chars ++ "Infinity".toList
  | .whole spelling => spelling.chars
  | .decimal spelling => spelling.chars

/-- The number that a numeral denotes. -/
def value : Spelling → WithBotTop ℚ
  | .empty => ↑(0 : ℚ)
  | .infinite sign => if sign.negative then ⊥ else ⊤
  | .whole spelling => ↑(spelling.value : ℚ)
  | .decimal spelling => ↑spelling.value

end Spelling

/-! Reading a spelling. -/

namespace Spelling

section Digits

variable {c : Char} {radix : Nat}

theorem Row.span (row : Row 10) {rest : List Char}
    (stops : ∀ c, rest.head? = some c → isDigitIn 10 c = false) :
    (row.chars ++ rest).takeWhile isDecimalDigit = row.chars ∧
      (row.chars ++ rest).dropWhile isDecimalDigit = rest := by
  rw [isDecimalDigit_eq, List.takeWhile_append_of_pos row.digits,
    List.dropWhile_append_of_pos row.digits, Text.dropWhile_of_head? _ stops]
  refine ⟨?_, rfl⟩
  cases rest with
  | nil => exact List.append_nil _
  | cons c rest => rw [List.takeWhile_cons, stops c rfl]; exact List.append_nil _

/-- The digits in front of a text. -/
def Row.front (text : List Char) : Row 10 :=
  ⟨text.takeWhile isDecimalDigit, fun c member => by
    rw [← isDecimalDigit_eq]
    exact List.mem_takeWhile_imp member⟩

theorem Row.front_append (text : List Char) :
    (Row.front text).chars ++ text.dropWhile isDecimalDigit = text :=
  List.takeWhile_append_dropWhile

theorem stops_cons {text : List Char} (other : isDigitIn 10 c = false) :
    ∀ first, (c :: text).head? = some first → isDigitIn 10 first = false := by
  rintro first same
  cases same
  exact other

theorem plain_of_digit (digit : isDigitIn 10 c = true) : c ≠ '-' ∧ c ≠ '+' := by
  constructor <;> rintro rfl <;> exact absurd digit (by decide)

theorem Row.plain (row : Row 10) : ∀ c, row.chars.head? = some c → c ≠ '-' ∧ c ≠ '+' :=
  fun c first => plain_of_digit (row.digits c (List.mem_of_head? first))

end Digits

section Numerals

variable {text : List Char}

theorem readExponent?_chars (power : Power) :
    Numeral.readExponent? power.chars = some power.value := by
  obtain ⟨mark, marked, sign, row, present⟩ := power
  have digits := Row.exists_iff.mpr ⟨row, rfl, present⟩
  have signed := sign.splitSign_chars row.plain
  have letter : (mark == 'e' || mark == 'E') = true := by
    rwa [Bool.or_eq_true, beq_iff_eq, beq_iff_eq]
  rw [Power.chars, Numeral.readExponent?, if_pos letter]
  simp only [signed, isDecimalDigit_eq, digits, if_true, row.digitsValue_chars, Power.value]

theorem power_stops (power : Option Power) :
    ∀ c, (power.elim [] Power.chars).head? = some c → isDigitIn 10 c = false := by
  cases power with
  | none => exact fun c first => nomatch first
  | some power =>
      refine stops_cons ?_
      rcases power.marked with same | same <;> rw [same] <;> decide

theorem exists_of_readExponent? {exponent : Int}
    (read : Numeral.readExponent? text = some exponent) :
    ∃ power : Option Power, power.elim [] Power.chars = text ∧
    power.elim 0 Power.value = exponent := by
  unfold Numeral.readExponent? at read
  split at read
  · exact ⟨none, rfl, Option.some.inj read⟩
  · rename_i mark rest
    split at read
    · rename_i letter
      rw [Bool.or_eq_true, beq_iff_eq, beq_iff_eq] at letter
      obtain ⟨sign, chars, negative⟩ := Mark.exists_of_splitSign rest
      dsimp only at read
      split at read
      · rename_i digits
        rw [isDecimalDigit_eq] at digits
        obtain ⟨row, same, present⟩ := Row.exists_iff.mp digits
        refine ⟨some ⟨mark, letter, sign, row, present⟩, ?_, ?_⟩
        · rw [Option.elim_some, Power.chars, same, chars]
        · rw [← Option.some.inj read, Option.elim_some, Power.value, ← Row.digitsValue_chars,
            same, negative]
      · cases read
    · cases read

theorem Decimal.rest_stops (spelling : Decimal) :
    ∀ c, (spelling.fractionChars ++ spelling.powerChars).head? = some c →
    isDigitIn 10 c = false := by
  obtain ⟨sign, whole, fraction, power, present⟩ := spelling
  cases fraction with
  | some row => exact stops_cons (c := '.') (by decide)
  | none => exact power_stops power

def Decimal.fractionRow (spelling : Decimal) : Row 10 := spelling.fraction.getD Row.empty

theorem Decimal.splitFraction_chars (spelling : Decimal) :
    Numeral.splitFraction (spelling.fractionChars ++ spelling.powerChars) =
      (spelling.fractionRow.chars, spelling.powerChars) := by
  obtain ⟨sign, whole, fraction, power, present⟩ := spelling
  have stops := power_stops power
  cases fraction with
  | some row =>
      obtain ⟨digits, rest⟩ := row.span stops
      exact Prod.ext digits rest
  | none =>
      cases power with
      | none => rfl
      | some power =>
          obtain ⟨mark, marked, sign, row, present⟩ := power
          rcases marked with rfl | rfl <;> rfl

/-- The numeral that a decimal is read as. -/
def Decimal.numeral (spelling : Decimal) : Numeral :=
  .decimal spelling.sign.negative
    (digitsValue 10 (spelling.whole.chars ++ spelling.fractionRow.chars))
    (spelling.power.elim 0 Power.value - spelling.fractionRow.chars.length)

theorem Decimal.plain (spelling : Decimal) :
    ∀ c, (spelling.whole.chars ++ (spelling.fractionChars ++ spelling.powerChars)).head? = some c →
      c ≠ '-' ∧ c ≠ '+' := by
  intro c first
  obtain ⟨sign, whole, fraction, power, present⟩ := spelling
  rw [List.head?_append, Option.or_eq_some_iff] at first
  rcases first with digit | ⟨missing, point⟩
  · exact whole.plain c digit
  · obtain ⟨row, rfl, _⟩ := present.resolve_left (not_not.mpr (List.head?_eq_none_iff.mp missing))
    cases point
    decide

theorem Decimal.readDecimal?_chars (spelling : Decimal) :
    Numeral.readDecimal? spelling.chars = some spelling.numeral := by
  obtain ⟨whole, rest⟩ := spelling.whole.span spelling.rest_stops
  have digits : (spelling.whole.chars.isEmpty && spelling.fractionRow.chars.isEmpty) = false := by
    rw [Bool.and_eq_false_iff, List.isEmpty_eq_false_iff, List.isEmpty_eq_false_iff]
    refine spelling.present.imp id ?_
    rintro ⟨row, fraction, present⟩
    rwa [fractionRow, fraction]
  have power : Numeral.readExponent? spelling.powerChars =
      some (spelling.power.elim 0 Power.value) := by
    rw [powerChars]
    cases spelling.power with
    | none => rfl
    | some power => exact readExponent?_chars power
  rw [Numeral.readDecimal?, chars, spelling.sign.splitSign_chars spelling.plain]
  dsimp only
  rw [whole, rest, spelling.splitFraction_chars]
  dsimp only
  rw [digits, power]
  rfl

theorem exists_of_splitFraction (text : List Char) : ∃ fraction : Option (Row 10),
    (fraction.elim [] fun row => '.' :: row.chars) ++ (Numeral.splitFraction text).2 = text ∧
      (fraction.getD Row.empty).chars = (Numeral.splitFraction text).1 := by
  unfold Numeral.splitFraction
  split
  · rename_i rest
    exact ⟨some (Row.front rest), congrArg (List.cons '.') (Row.front_append rest), rfl⟩
  · exact ⟨none, rfl, rfl⟩

theorem exists_of_readDecimal? {numeral : Numeral}
    (read : Numeral.readDecimal? text = some numeral) :
    ∃ spelling : Decimal, spelling.chars = text ∧ spelling.numeral = numeral := by
  obtain ⟨sign, signed, negative⟩ := Mark.exists_of_splitSign text
  obtain ⟨fraction, pointed, digits⟩ :=
    exists_of_splitFraction ((splitSign text).2.dropWhile isDecimalDigit)
  unfold Numeral.readDecimal? at read
  dsimp only at read
  split at read
  · cases read
  · rename_i present
    rw [Bool.not_eq_true, Bool.and_eq_false_iff, List.isEmpty_eq_false_iff,
      List.isEmpty_eq_false_iff, ← digits] at present
    split at read
    · rename_i exponent last
      obtain ⟨power, chars, value⟩ := exists_of_readExponent? last
      have several : (Row.front (splitSign text).2).chars ≠ [] ∨
          ∃ row, fraction = some row ∧ row.chars ≠ [] := by
        refine present.imp id fun nonempty => ?_
        cases fraction with
        | none => exact absurd rfl nonempty
        | some row => exact ⟨row, rfl, nonempty⟩
      refine ⟨⟨sign, Row.front (splitSign text).2, fraction, power, several⟩, ?_, ?_⟩
      · rw [Decimal.chars, Decimal.powerChars, Decimal.fractionChars, chars, pointed,
          Row.front_append, signed]
      · rw [← Option.some.inj read, ← negative, ← digits, ← value]
        rfl
    · cases read

theorem readRadix?_chars (spelling : Whole) : readRadix? spelling.chars = some spelling.value := by
  have letter : radixOf? spelling.letter.char = some spelling.letter.radix :=
    Letter.radixOf?_iff.mpr ⟨_, rfl, rfl⟩
  have digits := Row.exists_iff.mpr ⟨spelling.row, rfl, spelling.present⟩
  rw [Whole.chars, readRadix?, letter]
  dsimp only
  rw [if_pos digits, Row.digitsValue_chars, Whole.value]

theorem exists_of_readRadix? {value : Nat} (read : readRadix? text = some value) :
    ∃ spelling : Whole, spelling.chars = text ∧ spelling.value = value := by
  unfold readRadix? at read
  split at read
  · rename_i mark rest
    split at read
    · rename_i radix marked
      obtain ⟨letter, rfl, rfl⟩ := Letter.radixOf?_iff.mp marked
      split at read
      · rename_i digits
        obtain ⟨row, rfl, present⟩ := Row.exists_iff.mp digits
        refine ⟨⟨letter, row, present⟩, rfl, ?_⟩
        rw [← Option.some.inj read, Whole.value, ← Row.digitsValue_chars]
      · cases read
    · cases read
  · cases read

theorem readDecimal?_whole (spelling : Whole) : Numeral.readDecimal? spelling.chars = none := by
  obtain ⟨letter, row, present⟩ := spelling
  cases letter with
  | _ upper => cases upper <;> rfl

theorem exists_of_readInfinity? {numeral : Numeral}
    (read : Numeral.readInfinity? text = some numeral) :
    ∃ sign : Mark, sign.chars ++ "Infinity".toList = text ∧ .infinite sign.negative = numeral := by
  obtain ⟨sign, signed, negative⟩ := Mark.exists_of_splitSign text
  unfold Numeral.readInfinity? at read
  dsimp only at read
  split at read
  · rename_i same
    refine ⟨sign, ?_, ?_⟩
    · rw [← same, signed]
    · rw [negative]
      exact Option.some.inj read
  · cases read

end Numerals

/-- The numeral that a spelling is read as. -/
def numeral : Spelling → Numeral
  | .empty => .whole 0
  | .infinite sign => .infinite sign.negative
  | .whole spelling => .whole spelling.value
  | .decimal spelling => spelling.numeral

theorem readInfinity?_eq_none {text : List Char}
    (read : (readRadix? text).isSome = true ∨ (Numeral.readDecimal? text).isSome = true) :
    Numeral.readInfinity? text = none := by
  cases infinite : Numeral.readInfinity? text with
  | none => rfl
  | some numeral =>
      obtain ⟨sign, rfl, _⟩ := exists_of_readInfinity? infinite
      cases sign <;> rcases read with read | read <;> cases read

theorem readRadix?_decimal (spelling : Decimal) : readRadix? spelling.chars = none := by
  cases whole : readRadix? spelling.chars with
  | none => rfl
  | some value =>
      obtain ⟨other, same, _⟩ := exists_of_readRadix? whole
      have read := spelling.readDecimal?_chars
      rw [← same, readDecimal?_whole] at read
      cases read

theorem Decimal.isEmpty_chars (spelling : Decimal) : spelling.chars.isEmpty = false := by
  cases empty : spelling.chars with
  | cons c rest => rfl
  | nil =>
      have read := spelling.readDecimal?_chars
      rw [empty] at read
      cases read

theorem read?_iff {text : List Char} {read : Numeral} : Numeral.read? text = some read ↔
    ∃ spelling : Spelling, spelling.chars = Text.trim Text.isScriptBlank text ∧
    spelling.numeral = read := by
  unfold Numeral.read?
  generalize Text.trim Text.isScriptBlank text = body
  constructor
  · intro found
    dsimp only at found
    split at found
    · rename_i empty
      exact ⟨.empty, (List.isEmpty_iff.mp empty).symm, Option.some.inj found⟩
    · split at found
      · rename_i numeral infinite
        obtain ⟨sign, chars, same⟩ := exists_of_readInfinity? infinite
        exact ⟨.infinite sign, chars, same.trans (Option.some.inj found)⟩
      · split at found
        · rename_i value whole
          obtain ⟨spelling, chars, same⟩ := exists_of_readRadix? whole
          exact ⟨.whole spelling, chars,
            (congrArg Numeral.whole same).trans (Option.some.inj found)⟩
        · obtain ⟨spelling, chars, same⟩ := exists_of_readDecimal? found
          exact ⟨.decimal spelling, chars, same⟩
  -- A reader is asked only when those before it have read nothing.
  · rintro ⟨spelling, rfl, rfl⟩
    dsimp only
    cases spelling with
    | empty => rfl
    | infinite sign => cases sign <;> rfl
    | whole spelling =>
        have read := readRadix?_chars spelling
        rw [chars, readInfinity?_eq_none (.inl (by rw [read]; rfl)), read]
        rfl
    | decimal spelling =>
        have read := spelling.readDecimal?_chars
        rw [chars, if_neg (by rw [spelling.isEmpty_chars]; exact Bool.false_ne_true),
          readInfinity?_eq_none (.inr (by rw [read]; rfl)), readRadix?_decimal]
        exact read

section Plain

variable {c : Char}

theorem Mark.not_blank (sign : Mark) (member : c ∈ sign.chars) : Text.isScriptBlank c = false := by
  cases sign with
  | none => cases member
  | plus | minus => rw [List.mem_singleton.mp member]; decide

theorem Row.not_blank {radix : Nat} (row : Row radix) (most : radix ≤ 16) (member : c ∈ row.chars) :
    Text.isScriptBlank c = false :=
  not_blank_of_digit (row.digits c member) most

theorem Letter.radix_le (letter : Letter) : letter.radix ≤ 16 := by
  cases letter <;> simp only [radix] <;> omega

theorem Letter.not_blank (letter : Letter) : Text.isScriptBlank letter.char = false := by
  cases letter with
  | _ upper => cases upper <;> decide

theorem Power.not_blank (power : Power) (member : c ∈ power.chars) :
    Text.isScriptBlank c = false := by
  rcases List.mem_cons.mp member with rfl | rest
  · rcases power.marked with same | same <;> rw [same] <;> decide
  · rcases List.mem_append.mp rest with sign | digit
    · exact power.sign.not_blank sign
    · exact power.row.not_blank (by decide) digit

theorem Decimal.not_blank (spelling : Decimal) (member : c ∈ spelling.chars) :
    Text.isScriptBlank c = false := by
  obtain ⟨sign, whole, fraction, power, present⟩ := spelling
  simp only [chars, fractionChars, powerChars, List.mem_append] at member
  rcases member with member | member | member | member
  · exact sign.not_blank member
  · exact whole.not_blank (by decide) member
  · cases fraction with
    | none => cases member
    | some row =>
        rcases List.mem_cons.mp member with rfl | digit
        · decide
        · exact row.not_blank (by decide) digit
  · cases power with
    | none => cases member
    | some power => exact power.not_blank member

theorem not_blank (spelling : Spelling) (member : c ∈ spelling.chars) :
    Text.isScriptBlank c = false := by
  cases spelling with
  | empty => cases member
  | decimal spelling => exact spelling.not_blank member
  | infinite sign =>
      rcases List.mem_append.mp member with sign | letter
      · exact Mark.not_blank _ sign
      · have letters : "Infinity".toList = ['I', 'n', 'f', 'i', 'n', 'i', 't', 'y'] := rfl
        simp only [letters, List.mem_cons, List.not_mem_nil, or_false] at letter
        rcases letter with rfl | rfl | rfl | rfl | rfl | rfl | rfl | rfl <;> decide
  | whole spelling =>
      rcases List.mem_cons.mp member with rfl | rest
      · decide
      · rcases List.mem_cons.mp rest with rfl | digit
        · exact spelling.letter.not_blank
        · exact spelling.row.not_blank spelling.letter.radix_le digit

theorem around (spelling : Spelling) (front back : List Char)
    (before : ∀ c ∈ front, Text.isScriptBlank c = true)
    (after : ∀ c ∈ back, Text.isScriptBlank c = true) :
    Text.Around Text.isScriptBlank (front ++ spelling.chars ++ back) spelling.chars :=
  Text.around_of_plain (fun _ member => spelling.not_blank member) before after

theorem around_self (spelling : Spelling) :
    Text.Around Text.isScriptBlank spelling.chars spelling.chars := by
  have around := spelling.around [] [] (by simp) (by simp)
  rwa [List.nil_append, List.append_nil] at around

end Plain

end Spelling

end StyleFold
