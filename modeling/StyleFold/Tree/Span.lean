/-!
Byte ranges of nodes. Both ends belong to the range.
-/

namespace StyleFold

structure Span where
  start : Int
  stop : Int
  deriving DecidableEq, Repr

namespace Span

def contains (span : Span) (offset : Int) : Bool :=
  decide (span.start ≤ offset ∧ offset ≤ span.stop)

def shifted (span : Span) (delta : Int) : Span :=
  ⟨span.start + delta, span.stop + delta⟩

def shown (span : Span) : String :=
  "Span(start=" ++ toString span.start ++ ", end=" ++ toString span.stop ++ ")"

def shownPair (span : Span) : String :=
  "(" ++ toString span.start ++ ", " ++ toString span.stop ++ ")"

def shown? : Option Span → String
  | some span => span.shown
  | none => "None"

theorem shifted_zero (span : Span) : span.shifted 0 = span := by
  simp [shifted]

theorem shifted_shifted (span : Span) (first second : Int) :
    (span.shifted first).shifted second = span.shifted (first + second) := by
  simp [shifted, Int.add_assoc]

theorem contains_shifted (span : Span) (delta offset : Int) :
    (span.shifted delta).contains offset = span.contains (offset - delta) := by
  apply decide_eq_decide.mpr
  simp only [shifted]
  omega

end Span

end StyleFold
