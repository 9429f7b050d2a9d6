import StyleFold.Proofs.Number.Double
import StyleFold.Value.Operator

/-!
Bitwise operators. An integer of any size, taken in two's complement, is a word of any width, and
the operators on integers are those of words. Main statement: on doubles the bitwise operators and
the shifts are the operations of 32-bit words on their whole parts, and their results are exact.
-/

namespace StyleFold

/-! Integers taken as words. -/

namespace Bits

theorem int_pow_two (count : Nat) : Int.pow 2 count = ((2 ^ count : Nat) : Int) := by
  rw [Nat.cast_pow]
  rfl

variable (width : Nat)

theorem and_not_add_and (x y : BitVec width) : (x &&& ~~~y) + (x &&& y) = x := by
  have apart : (x &&& ~~~y) &&& (x &&& y) = BitVec.ofNat width 0 := by
    ext place inside
    simp only [BitVec.getElem_and, BitVec.getElem_not, BitVec.getElem_zero]
    cases x[place] <;> cases y[place] <;> rfl
  rw [BitVec.add_eq_or_of_and_eq_zero _ _ apart]
  ext place inside
  simp only [BitVec.getElem_or, BitVec.getElem_and, BitVec.getElem_not]
  cases x[place] <;> cases y[place] <;> rfl

theorem ofNat_without (m n : Nat) :
    BitVec.ofNat width (without m n) = BitVec.ofNat width m &&& ~~~BitVec.ofNat width n := by
  have parts : without m n + (m &&& n) = m := Nat.sub_add_cancel Nat.and_le_left
  have words := congrArg (BitVec.ofNat width) parts
  rw [BitVec.ofNat_add, BitVec.ofNat_and] at words
  have split := and_not_add_and width (BitVec.ofNat width m) (BitVec.ofNat width n)
  exact add_right_cancel (words.trans split.symm)

variable (i j : Int)

theorem ofInt_and :
    BitVec.ofInt width (Bits.and i j) = BitVec.ofInt width i &&& BitVec.ofInt width j := by
  cases i <;> cases j
  all_goals simp only [Bits.and, Int.ofNat_eq_natCast, BitVec.ofInt_natCast,
    BitVec.ofInt_negSucc_eq_not_ofNat]
  case ofNat.ofNat m n => exact BitVec.ofNat_and
  case ofNat.negSucc m n => exact ofNat_without width m n
  case negSucc.ofNat m n => rw [ofNat_without, BitVec.and_comm]
  case negSucc.negSucc m n => rw [BitVec.ofNat_or, BitVec.not_or]

theorem ofInt_or :
    BitVec.ofInt width (Bits.or i j) = BitVec.ofInt width i ||| BitVec.ofInt width j := by
  cases i <;> cases j
  all_goals simp only [Bits.or, Int.ofNat_eq_natCast, BitVec.ofInt_natCast,
    BitVec.ofInt_negSucc_eq_not_ofNat]
  case ofNat.ofNat m n => exact BitVec.ofNat_or
  case ofNat.negSucc m n => rw [ofNat_without, BitVec.not_and, BitVec.not_not, BitVec.or_comm]
  case negSucc.ofNat m n => rw [ofNat_without, BitVec.not_and, BitVec.not_not]
  case negSucc.negSucc m n => rw [BitVec.ofNat_and, BitVec.not_and]

theorem ofInt_xor :
    BitVec.ofInt width (Bits.xor i j) = BitVec.ofInt width i ^^^ BitVec.ofInt width j := by
  cases i <;> cases j
  all_goals simp only [Bits.xor, Int.ofNat_eq_natCast, BitVec.ofInt_natCast,
    BitVec.ofInt_negSucc_eq_not_ofNat, BitVec.ofNat_xor]
  case ofNat.negSucc m n => exact BitVec.not_xor_right
  case negSucc.ofNat m n => exact BitVec.not_xor_left
  case negSucc.negSucc m n => rw [← BitVec.not_xor_left, ← BitVec.not_xor_right, BitVec.not_not]

theorem ofInt_complement :
    BitVec.ofInt width (complement i) = ~~~BitVec.ofInt width i := by
  cases i with
  | ofNat m =>
      have negated : complement (.ofNat m) = .negSucc m := by
        simp only [complement, Int.ofNat_eq_natCast]
        omega
      rw [negated, BitVec.ofInt_negSucc_eq_not_ofNat]
      rfl
  | negSucc m =>
      have negated : complement (.negSucc m) = m := by
        simp only [complement]
        omega
      rw [negated, BitVec.ofInt_negSucc_eq_not_ofNat, BitVec.not_not, BitVec.ofInt_natCast]

theorem ofInt_mul_pow (count : Nat) :
    BitVec.ofInt width (i * Int.pow 2 count) = BitVec.ofInt width i <<< count := by
  have power : BitVec.ofInt width (Int.pow 2 count) = BitVec.twoPow width count := by
    apply BitVec.eq_of_toNat_eq
    rw [int_pow_two, BitVec.ofInt_natCast, BitVec.toNat_ofNat, BitVec.toNat_twoPow]
  rw [BitVec.ofInt_mul, power, BitVec.shiftLeft_eq_mul_twoPow]

end Bits

namespace Word

section Readings

theorem signed_eq (i : Int) : signed i = (BitVec.ofInt 32 i).toInt := by
  have width : size = 4294967296 := rfl
  rw [BitVec.toInt_ofInt, Int.bmod_def]
  unfold signed unsigned
  rw [width]
  norm_num
  split <;> split <;> omega

theorem unsigned_eq (i : Int) : unsigned i = (BitVec.ofInt 32 i).toNat := by
  have width : size = 4294967296 := rfl
  rw [BitVec.toNat_ofInt]
  unfold unsigned
  rw [width]
  norm_num
  omega

end Readings

/-- The 32-bit word of a double: its whole part modulo `2^32`. -/
def ofDouble (x : Float) : BitVec 32 := BitVec.ofInt 32 (Double.truncated x)

/-- The shift count that a word stands for. -/
def count (word : BitVec 32) : Nat := word.toNat % 32

/-! What is computed with integers is the operation on words. -/

section Operations

variable (a b : Float)

theorem toSigned_eq : toSigned a = (ofDouble a).toInt := by
  rw [toSigned, signed_eq, wholeOf, Double.whole?_ofFloat]
  rfl

theorem toUnsigned_eq : toUnsigned a = (ofDouble a).toNat := by
  rw [toUnsigned, unsigned_eq, wholeOf, Double.whole?_ofFloat]
  rfl

theorem shiftCount_eq : shiftCount a = count (ofDouble a) := by
  rw [shiftCount, toUnsigned_eq]
  rfl

theorem shiftLeft_eq : shiftLeft a b = (ofDouble a <<< count (ofDouble b)).toInt := by
  rw [shiftLeft, signed_eq, toSigned_eq, Bits.ofInt_mul_pow, BitVec.ofInt_toInt, shiftCount_eq]

theorem shiftRight_eq : shiftRight a b = ((ofDouble a).sshiftRight (count (ofDouble b))).toInt := by
  rw [shiftRight, toSigned_eq, shiftCount_eq, BitVec.toInt_sshiftRight, Int.shiftRight_eq_div_pow,
    Bits.int_pow_two, Int.fdiv_eq_ediv_of_nonneg _ (Int.natCast_nonneg _)]

theorem shiftRightUnsigned_eq :
    shiftRightUnsigned a b = (ofDouble a >>> count (ofDouble b)).toNat := by
  rw [shiftRightUnsigned, toUnsigned_eq, shiftCount_eq, BitVec.toNat_ushiftRight,
    Nat.shiftRight_eq_div_pow, Bits.int_pow_two,
    Int.fdiv_eq_ediv_of_nonneg _ (Int.natCast_nonneg _), Int.natCast_div]

theorem and_eq : and a b = (ofDouble a &&& ofDouble b).toInt := by
  rw [and, signed_eq, Bits.ofInt_and, toSigned_eq, toSigned_eq, BitVec.ofInt_toInt,
    BitVec.ofInt_toInt]

theorem or_eq : or a b = (ofDouble a ||| ofDouble b).toInt := by
  rw [or, signed_eq, Bits.ofInt_or, toSigned_eq, toSigned_eq, BitVec.ofInt_toInt,
    BitVec.ofInt_toInt]

theorem xor_eq : xor a b = (ofDouble a ^^^ ofDouble b).toInt := by
  rw [xor, signed_eq, Bits.ofInt_xor, toSigned_eq, toSigned_eq, BitVec.ofInt_toInt,
    BitVec.ofInt_toInt]

theorem complement_eq : complement a = (~~~ofDouble a).toInt := by
  rw [complement, signed_eq, Bits.ofInt_complement, toSigned_eq, BitVec.ofInt_toInt]

end Operations

section Operators

/-- An operator answers a double that is exactly an integer. -/
structure Answers (outcome : Except Refusal Value) (i : Int) : Prop where
  number : outcome = .ok (.number (Double.ofInt i))
  exact : Double.extended? (Double.ofInt i) = some ↑(i : ℚ)

theorem answers_of_small {i : Int} (small : i.natAbs ≤ 2 ^ 53) :
    Answers (.ok (.number (Double.ofInt i))) i :=
  ⟨rfl, Double.extended?_ofInt small⟩

/-- The answer is a word with its sign. -/
def AnswersSigned (outcome : Except Refusal Value) (word : BitVec 32) : Prop :=
  Answers outcome word.toInt ∧ -2 ^ 31 ≤ word.toInt ∧ word.toInt < 2 ^ 31

/-- The answer is a word without a sign. -/
def AnswersUnsigned (outcome : Except Refusal Value) (word : BitVec 32) : Prop :=
  Answers outcome word.toNat ∧ word.toNat < 2 ^ 32

theorem answersSigned_of_eq {i : Int} {word : BitVec 32} (same : i = word.toInt) :
    AnswersSigned (.ok (.number (Double.ofInt i))) word := by
  have low := BitVec.le_toInt word
  have high := BitVec.toInt_lt (x := word)
  subst same
  exact ⟨answers_of_small (by omega), low, high⟩

theorem answersUnsigned_of_eq {i : Int} {word : BitVec 32} (same : i = word.toNat) :
    AnswersUnsigned (.ok (.number (Double.ofInt i))) word := by
  have high := word.isLt
  subst same
  exact ⟨answers_of_small (by omega), high⟩

/-- On doubles the bitwise operators are the operations of 32-bit words on the whole parts of their
operands, where doubles that are not finite count as zero. A shift counts modulo the width of the
word. The results are words read with their sign, after a logical shift without one, and exact. -/
theorem bitwise_operators_on_words (a b : Float) :
    AnswersSigned (Arithmetic.shiftLeft.apply (.number a) (.number b))
      (ofDouble a <<< count (ofDouble b)) ∧
    AnswersSigned (Arithmetic.shiftRight.apply (.number a) (.number b))
      ((ofDouble a).sshiftRight (count (ofDouble b))) ∧
    AnswersUnsigned (Arithmetic.shiftRightUnsigned.apply (.number a) (.number b))
      (ofDouble a >>> count (ofDouble b)) ∧
    AnswersSigned (Arithmetic.and.apply (.number a) (.number b)) (ofDouble a &&& ofDouble b) ∧
    AnswersSigned (Arithmetic.or.apply (.number a) (.number b)) (ofDouble a ||| ofDouble b) ∧
    AnswersSigned (Arithmetic.xor.apply (.number a) (.number b)) (ofDouble a ^^^ ofDouble b) ∧
    AnswersSigned (Unary.complement.apply (.number a)) (~~~ofDouble a) :=
  ⟨answersSigned_of_eq (shiftLeft_eq a b), answersSigned_of_eq (shiftRight_eq a b),
    answersUnsigned_of_eq (shiftRightUnsigned_eq a b), answersSigned_of_eq (and_eq a b),
    answersSigned_of_eq (or_eq a b), answersSigned_of_eq (xor_eq a b),
    answersSigned_of_eq (complement_eq a)⟩

-- A count of minus one is a count of thirty-one.
example : Word.shiftLeft (Double.ofInt 1) (Double.ofInt (-1)) = -2147483648 := by decide +kernel

end Operators

end Word

end StyleFold
