import SettingText.Calendar.Clock

/-!
Spans of time to the microsecond: days, seconds of a day and microseconds of a second, where only
the days may be negative.
-/

namespace SettingText.Calendar

/-- A span of time. -/
structure Span where
  days : Int
  seconds : Nat
  microseconds : Nat
  deriving DecidableEq, Repr

/-- Why a length of time is no span. -/
inductive SpanFault where
  /-- The day count does not fit a machine word. -/
  | huge
  /-- The day count has more than nine digits. -/
  | tooLong (days : Int)
  /-- The length is infinite. -/
  | infinite
  deriving DecidableEq, Repr

/-- The wording of a refused span. -/
def SpanFault.message : SpanFault → String
  | huge => "Python int too large to convert to C int"
  | tooLong days => s!"days={days}; must have magnitude <= 999999999"
  | infinite => "cannot convert float infinity to integer"

namespace Span

def microsPerDay : Int := 86400000000

/-- The most days of a span, forward or backward. -/
def maxDays : Int := 999999999

/-- A number of days from here on does not fit into a machine word of 32 bits. -/
def wordLimit : Int := 2147483648

/-- The span of a number of microseconds, without regard to its range. -/
def ofMicros (micros : Int) : Span where
  days := micros / microsPerDay
  seconds := (micros % microsPerDay / microsPerSecond).toNat
  microseconds := (micros % microsPerSecond).toNat

def toMicros (s : Span) : Int :=
  s.days * microsPerDay + Int.ofNat s.seconds * microsPerSecond + Int.ofNat s.microseconds

def checked (micros : Int) : Except SpanFault Span :=
  let s := ofMicros micros
  if s.days < -wordLimit || wordLimit ≤ s.days then .error .huge
  else if s.days < -maxDays || maxDays < s.days then .error (.tooLong s.days)
  else .ok s

/-- The parts of a span that are not zero, as a call that builds it. -/
def text (s : Span) : String :=
  let part (name : String) (n : Int) : List String := if n = 0 then [] else [s!"{name}={n}"]
  let parts := part "days" s.days ++ part "seconds" s.seconds ++ part "microseconds" s.microseconds
  let shown := if parts.isEmpty then "0" else ", ".intercalate parts
  s!"datetime.timedelta({shown})"

/-- Drop the zeros at the end of a text of digits. -/
def withoutEndZeros (digits : String) : String :=
  String.ofList ((digits.toList.reverse.dropWhile (· == '0')).reverse)

/-- The seconds with their fraction. -/
def secondsText (second micros : Nat) : String :=
  if micros = 0 then toString second
  else s!"{second}.{withoutEndZeros (Date.padded 6 micros)}"

/-- The text of a span in results: years of 365 days, days, hours, minutes and seconds, each left
    out when it is zero. -/
def resultText (s : Span) : String :=
  let total := s.toMicros
  let size := total.natAbs
  let days := size / 86400000000
  let second := size / 1000000 % 86400
  let micros := size % 1000000
  let part (n : Nat) (mark : String) : String := if n = 0 then "" else s!"{n}{mark}"
  let dayPart := part (days / 365) "Y" ++ part (days % 365) "D"
  let secondPart :=
    if second % 60 = 0 && micros = 0 then "" else secondsText (second % 60) micros ++ "S"
  let timePart :=
    if second = 0 && micros = 0 then (if days = 0 then "T0S" else "")
    else "T" ++ part (second / 3600) "H" ++ part (second / 60 % 60) "M" ++ secondPart
  (if total < 0 then "-P" else "P") ++ dayPart ++ timePart

end Span

end SettingText.Calendar
