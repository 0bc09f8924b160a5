import SettingText.Calendar.Date

/-!
Times of day to the microsecond, and their distance from universal time.
-/

namespace SettingText.Calendar

def microsPerSecond : Int := 1000000

def secondsPerDay : Int := 86400

/-- A time of day. -/
structure TimeOfDay where
  hour : Nat
  minute : Nat
  second : Nat
  microsecond : Nat
  deriving DecidableEq, Repr

/-- Why numbers form no time of day. -/
inductive TimeFault where
  /-- There is no such hour. -/
  | hour
  /-- There is no such minute. -/
  | minute
  /-- There is no such second. -/
  | second
  deriving DecidableEq, Repr

/-- The wording of a refused time of day. -/
def TimeFault.message : TimeFault → String
  | hour => "hour must be in 0..23"
  | minute => "minute must be in 0..59"
  | second => "second must be in 0..59"

namespace TimeOfDay

def midnight : TimeOfDay := ⟨0, 0, 0, 0⟩

/-- The numbers form a time of day. -/
def check (t : TimeOfDay) : Except TimeFault TimeOfDay :=
  if 23 < t.hour then .error .hour
  else if 59 < t.minute then .error .minute
  else if 59 < t.second then .error .second
  else .ok t

/-- The whole seconds since the start of the day. -/
def seconds (t : TimeOfDay) : Nat := t.hour * 3600 + t.minute * 60 + t.second

/-- The time of day after whole seconds and microseconds. -/
def ofSeconds (seconds microsecond : Nat) : TimeOfDay :=
  ⟨seconds / 3600, seconds / 60 % 60, seconds % 60, microsecond⟩

/-- Hours, minutes and seconds, and the microseconds unless there are none. -/
def text (t : TimeOfDay) : String :=
  let base := s!"{Date.padded 2 t.hour}:{Date.padded 2 t.minute}:{Date.padded 2 t.second}"
  if t.microsecond = 0 then base else s!"{base}.{Date.padded 6 t.microsecond}"

end TimeOfDay

/-- A distance from universal time, in microseconds; east is positive. -/
abbrev Offset := Int

namespace Offset

/-- The text of an offset: hours and minutes, and the smaller parts unless there are none. -/
def text (o : Offset) : String :=
  let sign := if o < 0 then "-" else "+"
  let micros := o.natAbs % 1000000
  let total := o.natAbs / 1000000
  let base := s!"{sign}{Date.padded 2 (total / 3600)}:{Date.padded 2 (total / 60 % 60)}"
  if total % 60 = 0 && micros = 0 then base
  else
    let base := s!"{base}:{Date.padded 2 (total % 60)}"
    if micros = 0 then base else s!"{base}.{Date.padded 6 micros}"

/-- The size of an offset in whole seconds, rounded to the nearest one and half a second up. -/
def sizeInSeconds (o : Offset) : Nat := (o.natAbs + 500000) / 1000000

/-- The text of an offset in results: the minutes that are full after rounding to a second, and a
    letter for universal time. -/
def resultText (o : Offset) : String :=
  let seconds := o.sizeInSeconds
  if seconds = 0 then "Z"
  else
    let minutes := seconds / 60
    let sign := if o < 0 then "-" else "+"
    s!"{sign}{Date.padded 2 (minutes / 60)}:{Date.padded 2 (minutes % 60)}"

end Offset

/-- A time of day that may know its distance from universal time. -/
structure Clock where
  time : TimeOfDay
  offset : Option Offset
  deriving DecidableEq, Repr

namespace Clock

def text (c : Clock) : String :=
  c.time.text ++ (c.offset.map Offset.text).getD ""

def resultText (c : Clock) : String :=
  c.time.text ++ (c.offset.map Offset.resultText).getD ""

/-- The second of the day in universal time; the microseconds of the offset do not count. -/
def universalSeconds (time : TimeOfDay) (offset : Offset) : Int :=
  Int.ofNat time.seconds - Int.fdiv offset microsPerSecond

/-- Two times are the same when both lack an offset or both have one, and they fall on the same
    second and microsecond, in universal time if the offsets differ. -/
def same (a b : Clock) : Bool :=
  match a.offset, b.offset with
  | none, none => a.time == b.time
  | some o, some p =>
    if o = p then a.time == b.time
    else universalSeconds a.time o == universalSeconds b.time p &&
      a.time.microsecond == b.time.microsecond
  | _, _ => false

/-- The microseconds from the start of the day to the time, in universal time, unless the time has
    no offset. Here the microseconds of the offset count. -/
def universalMicros? (c : Clock) : Option Int :=
  c.offset.map (Int.ofNat c.time.seconds * microsPerSecond + Int.ofNat c.time.microsecond - ·)

end Clock

end SettingText.Calendar
