/-!
Days and times of day as files hold them. A day exists in the calendar, which counts leap years
backwards and forwards without end, from year 1 to year 9999. A moment is a day, a time
of day, or both; both together may also say how far they are ahead of universal time.
-/

namespace StyleFold

section Days

namespace Calendar

def isLeap (year : Nat) : Bool := year % 4 == 0 && (year % 100 != 0 || year % 400 == 0)

def monthLength (year month : Nat) : Nat :=
  if month == 2 then (if isLeap year then 29 else 28)
  else if month == 4 || month == 6 || month == 9 || month == 11 then 30
  else 31

def holds (year month day : Nat) : Bool :=
  1 ≤ year && year ≤ 9999 && 1 ≤ month && month ≤ 12 && 1 ≤ day && day ≤ monthLength year month

end Calendar

structure Day where
  year : Nat
  month : Nat
  day : Nat
  inCalendar : Calendar.holds year month day = true
  deriving DecidableEq, Repr

namespace Day

def of? (year month day : Nat) : Option Day :=
  if inCalendar : Calendar.holds year month day = true then some ⟨year, month, day, inCalendar⟩
  else none

def yearStart (year : Nat) : Nat :=
  let past := year - 1
  365 * past + past / 4 - past / 100 + past / 400

def ordinal (day : Day) : Nat :=
  (List.range (day.month - 1)).foldl
    (fun count month => count + Calendar.monthLength day.year (month + 1)) (yearStart day.year) +
    day.day

end Day

end Days

section Clocks

structure Clock where
  hour : Nat
  minute : Nat
  second : Nat
  /-- Millionths of a second. -/
  micro : Nat
  hour_lt : hour < 24
  minute_lt : minute < 60
  second_lt : second < 60
  micro_lt : micro < 1000000
  deriving DecidableEq, Repr

namespace Clock

def of? (hour minute second micro : Nat) : Option Clock :=
  if hour_lt : hour < 24 then
    if minute_lt : minute < 60 then
      if second_lt : second < 60 then
        if micro_lt : micro < 1000000 then
          some ⟨hour, minute, second, micro, hour_lt, minute_lt, second_lt, micro_lt⟩
        else none
      else none
    else none
  else none

def sinceMidnight (clock : Clock) : Nat :=
  ((clock.hour * 60 + clock.minute) * 60 + clock.second) * 1000000 + clock.micro

/-- The millionths that the digits after a point stand for; digits after the sixth do not count. -/
def microOf (digits : List Char) : Nat :=
  ((digits.take 6) ++ List.replicate (6 - digits.length) '0').foldl
    (fun total c => total * 10 + (c.toNat - 48)) 0

end Clock

def Offset.of? (behind : Bool) (hours minutes : Nat) : Option Int :=
  let size := hours * 60 + minutes
  if size < 1440 then some (if behind then -(size : Int) else size) else none

end Clocks

inductive Moment where
  | date (day : Day)
  | time (clock : Clock)
  | stamp (day : Day) (clock : Clock) (offset : Option Int)
  deriving DecidableEq, Repr

namespace Moment

def instant (day : Day) (clock : Clock) (offset : Int) : Int :=
  (day.ordinal : Int) * 86400000000 + clock.sinceMidnight - offset * 60000000

/-- Two moments with offsets are the same when they fall together; a moment with an offset is
never the same as one without. -/
def same : Moment → Moment → Bool
  | .stamp d c (some offset), .stamp d' c' (some offset') =>
      instant d c offset == instant d' c' offset'
  | a, b => a == b

def word : Moment → String
  | .date _ => "date"
  | .time _ => "time"
  | .stamp _ _ _ => "datetime"

section Shown

def shownDay (day : Day) : List String :=
  [toString day.year, toString day.month, toString day.day]

def shownClock (clock : Clock) : List String :=
  [toString clock.hour, toString clock.minute] ++
    (if clock.micro != 0 then [toString clock.second, toString clock.micro]
     else if clock.second != 0 then [toString clock.second]
     else [])

def shownOffset (offset : Int) : String :=
  if offset == 0 then "datetime.timezone.utc"
  else
    let seconds := offset * 60
    let days := seconds.fdiv 86400
    let rest := seconds.fmod 86400
    let parts :=
      (if days != 0 then ["days=" ++ toString days] else []) ++
        (if rest != 0 then ["seconds=" ++ toString rest] else [])
    "datetime.timezone(datetime.timedelta(" ++ ", ".intercalate parts ++ "))"

def shown : Moment → String
  | .date d => "datetime.date(" ++ ", ".intercalate (shownDay d) ++ ")"
  | .time c => "datetime.time(" ++ ", ".intercalate (shownClock c) ++ ")"
  | .stamp d c offset =>
      let zone := offset.toList.map fun offset => "tzinfo=" ++ shownOffset offset
      "datetime.datetime(" ++ ", ".intercalate (shownDay d ++ shownClock c ++ zone) ++ ")"

end Shown

end Moment

end StyleFold
