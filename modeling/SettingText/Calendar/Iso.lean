import SettingText.Calendar.Moment
import SettingText.Calendar.Span
import SettingText.Text.Quoted
import SettingText.Text.Blank

/-!
Reading dates and times in the international notation. A date is written as year, month and day or
as year, week and day of the week, each with hyphens throughout or without any; a time has two
digits for each of its parts, with colons throughout or without any, and may end in a fraction and
in an offset. A date and time have any one character between them.

The notation is made of ASCII characters only, so a text is read by its octets. Reading past the
end of the text meets octets that are zero.
-/

namespace SettingText.Calendar

/-- Why a text is no date or time. -/
inductive IsoFault where
  /-- The text is not of the form. -/
  | malformed (text : String)
  /-- The numbers form no date. -/
  | date (fault : DateFault)
  /-- The numbers form no time of day. -/
  | time (fault : TimeFault)
  /-- The offset is a day or more. -/
  | offset (span : Span)
  deriving DecidableEq, Repr

/-- The wording of a refused text. -/
def IsoFault.message : IsoFault → String
  | malformed text => s!"Invalid isoformat string: {Text.quoted text}"
  | date fault => fault.message
  | time fault => fault.message
  | offset span =>
    "offset must be a timedelta strictly between -timedelta(hours=24) and timedelta(hours=24), " ++
      s!"not {span.text}."

namespace Iso

abbrev Octets := List UInt8

def octets (text : String) : Octets := text.toUTF8.toList

/-- The octet of an ASCII character. -/
def code (c : Char) : UInt8 := c.toNat.toUInt8

/-- The first octet, zero past the end. -/
def first (s : Octets) : UInt8 := s.headD 0

def digit? (octet : UInt8) : Option Nat :=
  if code '0' ≤ octet && octet ≤ code '9' then some (octet.toNat - 48) else none

/-- Exactly `count` digits, added to the number read so far, and the rest. -/
def digits (soFar : Nat) : Nat → Octets → Option (Nat × Octets)
  | 0, s => some (soFar, s)
  | count + 1, s =>
    match s with
    | [] => none
    | octet :: rest => (digit? octet).bind fun d => digits (soFar * 10 + d) count rest

def hyphen (inUse : Bool) (s : Octets) : Option Octets :=
  if inUse then (if first s = code '-' then some (s.drop 1) else none) else some s

/-- A week and its day, `left` octets from the end of the date. A missing day is Monday. The weeks
    of the year before the first fall into no month. -/
def readWeek (year : Nat) (hyphens : Bool) (left : Int) (s : Octets) : Option (Int × Nat × Nat) := do
  let (week, s) ← digits 0 2 s
  let day ← if left - 2 > 0 then do
      let s ← hyphen hyphens s
      let (day, _) ← digits 0 1 s
      pure day
    else pure 1
  if year = 0 then (if 1 ≤ week && week ≤ 52 && 1 ≤ day && day ≤ 7 then pure (1, 0, 0) else none)
  else
    let d ← Date.ofWeek? year week day
    pure (Int.ofNat d.year, d.month, d.day)

/-- The year, month and day of a date of `length` octets. What follows the day is not looked at. -/
def readDateParts (length : Nat) (s : Octets) : Option (Int × Nat × Nat) := do
  let (year, s) ← digits 0 4 s
  let hyphens := first s == code '-'
  let s := if hyphens then s.drop 1 else s
  let left : Int := Int.ofNat length - (if hyphens then 5 else 4)
  if first s = code 'W' then readWeek year hyphens (left - 1) (s.drop 1)
  else
    let (month, s) ← digits 0 2 s
    let s ← hyphen hyphens s
    let (day, _) ← digits 0 2 s
    pure (Int.ofNat year, month, day)

abbrev ClockParts := TimeOfDay

/-- The result of reading the parts of a time: the parts, and whether more text follows. -/
abbrev PartsRead := Option (ClockParts × Bool)

/-- The digits of a fraction that count, made microseconds; further digits are skipped. -/
def readFraction (left : Int) (s : Octets) : Option (Nat × Bool) := do
  let count := min 6 left.toNat
  let (value, rest) ← digits 0 count s
  let rest := rest.dropWhile fun octet => (digit? octet).isSome
  pure (value * Nat.pow 10 (6 - count), first rest != 0)

/-- Two digits of a part of a time, the octet behind them, and how much of the time is left. -/
structure Part where
  value : Nat
  /-- The text from the octet behind the digits on. -/
  rest : Octets
  /-- The octets of the time behind the digits. -/
  left : Int

def readPart (left : Int) (s : Octets) : Option Part :=
  (digits 0 2 s).map fun (value, rest) => ⟨value, rest, left - 2⟩

/-- What may come behind a part. -/
inductive Behind where
  /-- The time ends; an octet other than zero may follow. -/
  | ends (more : Bool)
  /-- Another part. -/
  | part (left : Int) (s : Octets)
  /-- The digits of a fraction. -/
  | fraction (left : Int) (s : Octets)
  /-- Nothing that fits. -/
  | broken

/-- Decide what comes behind a part. A fraction may follow every part, and counts as one of a
    second. Behind the seconds a colon marks it too, and without colons it needs no mark. -/
def behind (colons last : Bool) (p : Part) : Behind :=
  let octet := first p.rest
  let left := p.left - 1
  if left ≤ 0 then .ends (octet != 0)
  else if colons && octet = code ':' then
    if last then .fraction left (p.rest.drop 1) else .part left (p.rest.drop 1)
  else if octet = code '.' || octet = code ',' then
    .fraction left (p.rest.drop 1)
  else if colons then .broken
  else if last then .fraction p.left p.rest
  else .part p.left p.rest

/-- The time of day with the fraction that comes last. -/
def withFraction (t : TimeOfDay) (left : Int) (s : Octets) : PartsRead :=
  (readFraction left s).map fun (micros, more) => ({ t with microsecond := micros }, more)

/-- Read the parts of a time that takes `left` octets of the text. -/
def readClockParts (left : Int) (s : Octets) : PartsRead := do
  let hour ← readPart left s
  let colons := first hour.rest == code ':'
  let t : TimeOfDay := ⟨hour.value, 0, 0, 0⟩
  match behind colons false hour with
  | .ends more => pure (t, more)
  | .fraction left s => withFraction t left s
  | .broken => none
  | .part left s =>
    let minute ← readPart left s
    let t := { t with minute := minute.value }
    match behind colons false minute with
    | .ends more => pure (t, more)
    | .fraction left s => withFraction t left s
    | .broken => none
    | .part left s =>
      let second ← readPart left s
      let t := { t with second := second.value }
      match behind colons true second with
      | .ends more => pure (t, more)
      | .fraction left s => withFraction t left s
      | _ => none

def marksOffset (octet : UInt8) : Bool :=
  octet == code '+' || octet == code '-' || octet == code 'Z'

/-- The parts of a time and its offset in microseconds. -/
def readClock (s : Octets) : Option (ClockParts × Option Offset) := do
  let length := s.findIdx marksOffset
  let (parts, more) ← readClockParts (Int.ofNat length) s
  match s.drop length with
  | [] => if more then none else pure (parts, none)
  | mark :: rest =>
    if mark = code 'Z' then
      if first rest = 0 then pure (parts, some 0) else none
    else
      let (away, more) ← readClockParts (Int.ofNat rest.length) rest
      if more then none
      else
        let sign : Int := if mark = code '-' then -1 else 1
        let seconds : Int := Int.ofNat away.seconds
        let micros : Int := if seconds = 0 then 0 else Int.ofNat away.microsecond
        pure (parts, some (sign * (seconds * microsPerSecond + micros)))

/-- An offset must be shorter than a day. -/
def checkOffset (offset : Option Offset) : Except IsoFault (Option Offset) :=
  match offset with
  | some o => if Span.microsPerDay ≤ o.natAbs then .error (.offset (.ofMicros o)) else .ok offset
  | none => .ok none

/-- Where the date ends in a text of a date and time. Only a week date without its day leaves a
    doubt, which the character in the tenth place settles, or the parity of a run of digits. -/
def dateLength (s : Octets) : Option Nat :=
  let octetAt (i : Nat) : UInt8 := s.getD i 0
  let isDigit (octet : UInt8) : Bool := (digit? octet).isSome
  if s.length < 7 then none
  else if s.length = 7 then some 7
  else if octetAt 4 = code '-' then
    if octetAt 5 = code 'W' then
      if s.length > 8 && octetAt 8 = code '-' then
        if s.length = 9 then none
        else if s.length > 10 && isDigit (octetAt 10) then some 8
        else some 10
      else some 8
    else some 10
  else if octetAt 4 = code 'W' then
    let run := 7 + ((s.drop 7).takeWhile isDigit).length
    if run < 9 then some run else if run % 2 = 0 then some 7 else some 8
  else some 8

/-- The number of octets of the character that an octet begins. -/
def characterLength (octet : UInt8) : Nat :=
  if octet < 0x80 then 1
  else if octet &&& 0xf0 = 0xe0 then 3
  else if octet &&& 0xf0 = 0xf0 then 4
  else 2

/-- The numbers of a date and time. -/
def readMomentParts (s : Octets) : Option ((Int × Nat × Nat) × ClockParts × Option Offset) := do
  let length ← dateLength s
  let date ← readDateParts length s
  match s.drop length with
  | [] => pure (date, .midnight, none)
  | octet :: rest =>
    let (clock, offset) ← readClock ((octet :: rest).drop (characterLength octet))
    pure (date, clock, offset)

end Iso

def Date.checked (parts : Int × Nat × Nat) : Except IsoFault Date :=
  (Date.ofParts parts.1 parts.2.1 parts.2.2).mapError .date

def TimeOfDay.checked (parts : TimeOfDay) : Except IsoFault TimeOfDay :=
  parts.check.mapError .time

def Date.read (text : String) : Except IsoFault Date :=
  let s := Iso.octets text
  if s.length = 7 || s.length = 8 || s.length = 10 then
    match Iso.readDateParts s.length s with
    | some parts => Date.checked parts
    | none => .error (.malformed text)
  else .error (.malformed text)

/-- Read a time; the letter for times may stand in front. -/
def Clock.read (text : String) : Except IsoFault Clock := do
  let s := Iso.octets text
  let s := if Iso.first s = Iso.code 'T' then s.drop 1 else s
  match Iso.readClock s with
  | some (parts, offset) =>
    let offset ← Iso.checkOffset offset
    let time ← TimeOfDay.checked parts
    pure ⟨time, offset⟩
  | none => .error (.malformed text)

/-- Read a date and time. -/
def Moment.read (text : String) : Except IsoFault Moment := do
  match Iso.readMomentParts (Iso.octets text) with
  | some (date, parts, offset) =>
    let offset ← Iso.checkOffset offset
    let date ← Date.checked date
    let time ← TimeOfDay.checked parts
    let zone := match offset with
      | some o => Zone.fixed o
      | none => Zone.local
    pure ⟨date, time, zone⟩
  | none => .error (.malformed text)

end SettingText.Calendar
