import SettingText.Calendar.Clock

/-!
Regions of one civil time. A region gives the distance of its clocks from universal time, for an
instant and for a reading of the clock. Where the clocks are set back a reading comes twice, and
the `fold` tells the second from the first; where they are set forward a reading is skipped, and is
taken at the distance from before the change.

Instants and clock readings are whole seconds counted from the start of the day before year 1.
-/

namespace SettingText.Calendar

/-- A region of one civil time. -/
structure Region where
  /-- The name of the region. -/
  name : String
  /-- Seconds ahead of universal time at a reading of the clock. -/
  atWall : Int → Bool → Int
  /-- Seconds ahead of universal time at an instant, and whether the clock shows this reading for
      the second time. -/
  atInstant : Int → Int × Bool

/-- A change of the distance from universal time. -/
structure Transition where
  /-- The instant of the change. -/
  instant : Int
  /-- The seconds before the change. -/
  before : Int
  /-- The seconds after the change. -/
  after : Int
  deriving DecidableEq, Repr

namespace Transition

/-- The clock reading from which on the change counts. The first reading of a repeated hour is
    before the change, and so is every skipped reading; for the second reading both are after. -/
def wall (t : Transition) (fold : Bool) : Int :=
  t.instant + (if fold then min t.before t.after else max t.before t.after)

/-- The instant lies in the repeated hour after the change. -/
def repeats (t : Transition) (instant : Int) : Bool :=
  t.instant ≤ instant && instant - t.instant < t.before - t.after

end Transition

/-- A yearly change on a Sunday. -/
structure SundayRule where
  month : Nat
  /-- The week of the month; five stands for the last Sunday. -/
  week : Nat
  /-- The clock reading of the change, in seconds of the day. -/
  clock : Int
  deriving DecidableEq, Repr

def SundayRule.day (r : SundayRule) (year : Nat) : Nat :=
  let first := (Date.mk year r.month 1).number
  let sunday := first + (6 - Date.weekday first)
  let day := sunday + 7 * (r.week - 1)
  let last := first + daysInMonth year r.month - 1
  if last < day then day - 7 else day

/-- Summer time by rule: from one Sunday of a year to another the clocks are ahead. -/
structure SummerTime where
  standard : Int
  summer : Int
  start : SundayRule
  finish : SundayRule
  deriving DecidableEq, Repr

/-- The two changes of a year. -/
def SummerTime.transitions (s : SummerTime) (year : Nat) : List Transition :=
  let reading (r : SundayRule) : Int := Int.ofNat (r.day year) * secondsPerDay + r.clock
  [⟨reading s.start - s.standard, s.standard, s.summer⟩,
    ⟨reading s.finish - s.summer, s.summer, s.standard⟩]

/-- What is known of a region: its distance at first, the changes on record, and the rule for the
    years from `ruleFrom` on. -/
structure RegionRecord where
  name : String
  first : Int
  recorded : List Transition
  rule : Option SummerTime
  ruleFrom : Nat
  deriving DecidableEq, Repr

namespace RegionRecord

/-- The changes that matter for a time in a year. -/
def transitionsNear (r : RegionRecord) (year : Nat) : List Transition :=
  match r.rule with
  | none => r.recorded
  | some rule =>
    let years := [year - 1, year, year + 1].filter (r.ruleFrom ≤ ·)
    r.recorded ++ years.flatMap rule.transitions

def yearOf (seconds : Int) : Nat := (Date.partsOfNumber (seconds / secondsPerDay).toNat).year

def lastChange (test : Transition → Bool) (changes : List Transition) : Option Transition :=
  (changes.filter test).getLast?

def region (r : RegionRecord) : Region where
  name := r.name
  atWall wall fold :=
    match lastChange (fun t => t.wall fold ≤ wall) (r.transitionsNear (yearOf wall)) with
    | some change => change.after
    | none => r.first
  atInstant instant :=
    match lastChange (fun t => t.instant ≤ instant) (r.transitionsNear (yearOf instant)) with
    | some change => (change.after, change.repeats instant)
    | none => (r.first, false)

/-- Read changes from pairs of an instant and the seconds after it. -/
def changesFrom (before : Int) : List (Int × Int) → List Transition
  | [] => []
  | (instant, after) :: rest => ⟨instant, before, after⟩ :: changesFrom after rest

end RegionRecord

end SettingText.Calendar
