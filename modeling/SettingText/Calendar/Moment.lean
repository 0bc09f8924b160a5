import SettingText.Calendar.Region

/-!
Dates with a time of day, either local, or at a fixed distance from universal time, or in a region.
-/

namespace SettingText.Calendar

/-- How a date and time relate to universal time. -/
inductive Zone where
  /-- Not at all: a local time. -/
  | local
  /-- At a fixed distance. -/
  | fixed (offset : Offset)
  /-- As a region's clocks do; the second reading of a repeated hour has `fold` set. -/
  | region (region : Region) (fold : Bool)

/-- A date with a time of day. -/
structure Moment where
  date : Date
  time : TimeOfDay
  zone : Zone

/-- The date and time would leave the calendar. -/
structure OutOfCalendar where
  deriving DecidableEq, Repr

/-- The wording of a date that leaves the calendar. -/
def OutOfCalendar.message (_ : OutOfCalendar) : String := "date value out of range"

namespace Moment

/-- The clock reading in whole seconds. -/
def wallSeconds (date : Date) (time : TimeOfDay) : Int :=
  Int.ofNat date.number * secondsPerDay + Int.ofNat time.seconds

/-- The clock reading in microseconds. -/
def wallMicros (date : Date) (time : TimeOfDay) : Int :=
  wallSeconds date time * microsPerSecond + Int.ofNat time.microsecond

/-- The date and time of a clock reading in microseconds, if it lies in the calendar. -/
def ofWallMicros? (micros : Int) : Option (Date × TimeOfDay) :=
  let seconds := micros / microsPerSecond
  (Date.ofNumber? (seconds / secondsPerDay)).map fun date =>
    (date, TimeOfDay.ofSeconds (seconds % secondsPerDay).toNat (micros % microsPerSecond).toNat)

/-- The distance from universal time at a clock reading, in microseconds. -/
def Zone.offsetAt (zone : Zone) (wall : Int) : Option Offset :=
  match zone with
  | .local => none
  | .fixed offset => some offset
  | .region region fold => some (region.atWall wall fold * microsPerSecond)

/-- The distance from universal time. -/
def offset? (m : Moment) : Option Offset := Zone.offsetAt m.zone (wallSeconds m.date m.time)

/-- The instant in microseconds of universal time, unless the time is local. -/
def instant? (m : Moment) : Option Int := m.offset?.map (wallMicros m.date m.time - ·)

def regionName? (m : Moment) : Option String :=
  match m.zone with
  | .region region _ => some region.name
  | _ => none

/-- The second reading of a repeated hour. -/
def fold (m : Moment) : Bool :=
  match m.zone with
  | .region _ fold => fold
  | _ => false

/-- The text of a date and time. -/
def text (m : Moment) : String :=
  s!"{m.date.text}T{m.time.text}" ++ (m.offset?.map Offset.text).getD ""

/-- The text of a date and time in results. -/
def resultText (m : Moment) : String :=
  s!"{m.date.text}T{m.time.text}" ++ (m.offset?.map Offset.resultText).getD ""

/-- Read the same clock in a region: a local time stays as it is. -/
def placeIn (m : Moment) (region : Region) : Moment := { m with zone := .region region false }

/-- The same instant in a region. Both the universal and the regional time must lie in the
    calendar. -/
def shiftTo (m : Moment) (offset : Offset) (region : Region) : Except OutOfCalendar Moment := do
  let instant := wallMicros m.date m.time - offset
  let some _ := ofWallMicros? instant | .error ⟨⟩
  let (ahead, fold) := region.atInstant (instant / microsPerSecond)
  let some (date, time) := ofWallMicros? (instant + ahead * microsPerSecond) | .error ⟨⟩
  .ok ⟨date, time, .region region fold⟩

/-- Two zones are one object: the same region, or no zone at all. -/
def Zone.shared : Zone → Zone → Bool
  | .local, .local => true
  | .region r _, .region s _ => r.name == s.name
  | _, _ => false

/-- The reading is skipped or comes twice: its distance from universal time hangs on the fold. -/
def ambiguous (m : Moment) : Bool :=
  match m.zone with
  | .region region _ =>
    let wall := wallSeconds m.date m.time
    region.atWall wall false != region.atWall wall true
  | _ => false

/--
Two dates and times are the same when they read the same in one zone, or denote one instant in two
zones and neither reading is ambiguous. A local time never equals another.
-/
def same (a b : Moment) : Bool :=
  if Zone.shared a.zone b.zone then a.date == b.date && a.time == b.time
  else
    match a.instant?, b.instant? with
    | some i, some j => i == j && !a.ambiguous && !b.ambiguous
    | _, _ => false

end Moment

end SettingText.Calendar
