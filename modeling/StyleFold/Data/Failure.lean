/-!
Why a text stands for no data.
-/

namespace StyleFold

inductive Failure where
  | malformed
  /-- A numeral, a character code or a moment that does not exist. -/
  | unreadable
  | outOfRange
  | emptyNumeral
  | unknownWord
  | notMoment
  | wrongShape
  deriving DecidableEq, Repr

end StyleFold
