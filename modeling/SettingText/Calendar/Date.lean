/-!
Dates of the calendar with its present leap year rule, from year 1 to year 9999, and their numbers
in the count of days that begins with 1 for the first of January of year 1.
-/

namespace SettingText.Calendar

def minYear : Nat := 1

def maxYear : Nat := 9999

/-- A year divisible by four, and by 400 if it is divisible by 100, has a leap day. -/
def isLeap (year : Nat) : Bool := year % 4 == 0 && (year % 100 != 0 || year % 400 == 0)

def daysInMonth (year month : Nat) : Nat :=
  match month with
  | 2 => if isLeap year then 29 else 28
  | 4 | 6 | 9 | 11 => 30
  | _ => 31

/-- The number of days of the months before a month. -/
def daysBeforeMonth (year month : Nat) : Nat :=
  (List.range (month - 1)).foldl (fun days m => days + daysInMonth year (m + 1)) 0

/-- The number of days of the years before a year. -/
def daysBeforeYear (year : Nat) : Nat :=
  let y := year - 1
  y * 365 + y / 4 - y / 100 + y / 400

/-- A date. -/
structure Date where
  year : Nat
  month : Nat
  day : Nat
  deriving DecidableEq, Repr

/-- Why numbers form no date. -/
inductive DateFault where
  /-- The year lies outside the calendar. -/
  | year (number : Int)
  /-- There is no such month. -/
  | month
  /-- The month has no such day. -/
  | day
  deriving DecidableEq, Repr

/-- The wording of a refused date. -/
def DateFault.message : DateFault → String
  | year number => s!"year {number} is out of range"
  | month => "month must be in 1..12"
  | day => "day is out of range for month"

namespace Date

def ofParts (year : Int) (month day : Nat) : Except DateFault Date :=
  if year < 1 || (maxYear : Int) < year then .error (.year year)
  else if month < 1 || 12 < month then .error .month
  else if day < 1 || daysInMonth year.toNat month < day then .error .day
  else .ok ⟨year.toNat, month, day⟩

def number (d : Date) : Nat := daysBeforeYear d.year + daysBeforeMonth d.year d.month + d.day

/-- Walk through the months from `month` on until the day falls into one; at most `steps` months. -/
def monthOf (year month day : Nat) : Nat → Nat × Nat
  | 0 => (month, day)
  | steps + 1 =>
    if daysInMonth year month < day then monthOf year (month + 1) (day - daysInMonth year month) steps
    else (month, day)

/-- Year, month and day of a day number. The number is split into periods of 400, 100, 4 and 1
    years; the last day of the longer ones is their leap day. -/
def partsOfNumber (number : Nat) : Date :=
  let n := number - 1
  let n400 := n / 146097
  let n := n % 146097
  let n100 := n / 36524
  let n := n % 36524
  let n4 := n / 1461
  let n := n % 1461
  let n1 := n / 365
  let dayOfYear := n % 365
  let year := n400 * 400 + n100 * 100 + n4 * 4 + n1 + 1
  if n1 = 4 || n100 = 4 then ⟨year - 1, 12, 31⟩
  else
    let (month, day) := monthOf year 1 (dayOfYear + 1) 11
    ⟨year, month, day⟩

/-- The date of a day number, if it lies in the calendar. -/
def ofNumber? (number : Int) : Option Date :=
  if number < 1 then none
  else
    let d := partsOfNumber number.toNat
    if d.year ≤ maxYear then some d else none

/-- The day of the week, Monday being zero. -/
def weekday (number : Nat) : Nat := (number + 6) % 7

/-- Digits of a number, filled up with zeros on the left. -/
def padded (width n : Nat) : String :=
  let digits := Nat.toDigits 10 n
  String.ofList (List.replicate (width - digits.length) '0' ++ digits)

def text (d : Date) : String := s!"{padded 4 d.year}-{padded 2 d.month}-{padded 2 d.day}"

/-- The Monday of the first week of a year, the week that holds its first Thursday. -/
def firstMonday (year : Nat) : Int :=
  let first := daysBeforeYear year + 1
  let day := weekday first
  let monday : Int := Int.ofNat first - Int.ofNat day
  if day > 3 then monday + 7 else monday

/-- A year has a week 53 when it begins on a Thursday, or on a Wednesday and has a leap day. -/
def hasWeek53 (year : Nat) : Bool :=
  let first := weekday (daysBeforeYear year + 1)
  first == 3 || (first == 2 && isLeap year)

/-- Year, month and day of a day of a week, if there are such a year, week and day. The year may
    turn out to lie outside the calendar. -/
def ofWeek? (year week day : Nat) : Option Date :=
  if year < minYear || maxYear < year then none
  else if week < 1 || 53 < week || (week = 53 && !hasWeek53 year) then none
  else if day < 1 || 7 < day then none
  else
    let number := firstMonday year + Int.ofNat ((week - 1) * 7 + (day - 1))
    some (partsOfNumber number.toNat)

end Date

end SettingText.Calendar
