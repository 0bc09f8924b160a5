import SettingText.Calendar.Moment
import SettingText.Proofs.Calendar.Date
import SettingText.Proofs.Except

/-!
Instants and the clocks of regions. A clock reading in microseconds stands for one date and time of day,
and a moment that is shifted to a region denotes the same instant there.
-/

namespace SettingText.Calendar

/-- A time of day that there is. -/
structure TimeOfDay.Exists (t : TimeOfDay) : Prop where
  hour : t.hour ≤ 23
  minute : t.minute ≤ 59
  second : t.second ≤ 59
  microsecond : t.microsecond < 1000000

namespace TimeOfDay

variable {t : TimeOfDay}

theorem exists_ofSeconds {seconds microsecond : Nat} (hseconds : seconds < 86400)
    (hmicros : microsecond < 1000000) : (ofSeconds seconds microsecond).Exists := by
  constructor <;> simp only [ofSeconds] <;> omega

theorem seconds_ofSeconds (seconds microsecond : Nat) :
    (ofSeconds seconds microsecond).seconds = seconds := by
  simp only [TimeOfDay.seconds, ofSeconds]
  omega

theorem Exists.seconds_lt (h : t.Exists) : t.seconds < 86400 := by
  obtain ⟨hhour, hminute, hsecond, -⟩ := h
  rw [seconds]
  omega

theorem Exists.ofSeconds_seconds (h : t.Exists) : ofSeconds t.seconds t.microsecond = t := by
  obtain ⟨-, hminute, hsecond, -⟩ := h
  obtain ⟨hour, minute, second, microsecond⟩ := t
  simp only at hminute hsecond
  simp only [ofSeconds, seconds, mk.injEq, and_true]
  omega

end TimeOfDay

/-- The clock readings of the calendar, in microseconds. -/
def InCalendar (micros : Int) : Prop :=
  secondsPerDay * microsPerSecond ≤ micros ∧
    micros < (Date.lastNumber + 1) * (secondsPerDay * microsPerSecond)

namespace Moment

/-- A moment of the calendar. -/
structure Exists (m : Moment) : Prop where
  date : m.date.Exists
  year : m.date.year ≤ maxYear
  time : m.time.Exists

section Readings

variable {date : Date} {time : TimeOfDay} {micros : Int}

theorem wallMicros_eq (date : Date) (time : TimeOfDay) : wallMicros date time =
    (date.number * 86400 + time.seconds) * 1000000 + time.microsecond := rfl

/-- A clock reading stands for the one date and time of day at which clocks show it. -/
theorem ofWallMicros?_eq_some_iff : ofWallMicros? micros = some (date, time) ↔
    date.Exists ∧ date.year ≤ maxYear ∧ time.Exists ∧ wallMicros date time = micros := by
  simp only [ofWallMicros?, microsPerSecond, secondsPerDay]
  constructor
  · intro h
    obtain ⟨found, hfound, heq⟩ := Option.map_eq_some_iff.mp h
    cases heq
    obtain ⟨hexists, hyear, hnumber⟩ := Date.ofNumber?_eq_some_iff.mp hfound
    refine ⟨hexists, hyear, TimeOfDay.exists_ofSeconds (by omega) (by omega), ?_⟩
    rw [wallMicros_eq, TimeOfDay.seconds_ofSeconds, hnumber, TimeOfDay.ofSeconds]
    dsimp only
    omega
  · rintro ⟨hdate, hyear, htime, rfl⟩
    have hseconds := htime.seconds_lt
    have hmicros := htime.microsecond
    rw [wallMicros_eq]
    have hnumber : ((date.number * 86400 + time.seconds : Int) * 1000000 + time.microsecond) /
        1000000 / 86400 = date.number := by omega
    have hsecond : (((date.number * 86400 + time.seconds : Int) * 1000000 + time.microsecond) /
        1000000 % 86400).toNat = time.seconds := by omega
    have hmicro : (((date.number * 86400 + time.seconds : Int) * 1000000 + time.microsecond) %
        1000000).toNat = time.microsecond := by omega
    rw [hnumber, hsecond, hmicro, htime.ofSeconds_seconds,
      Date.ofNumber?_eq_some_iff.mpr ⟨hdate, hyear, rfl⟩]
    rfl

/-- The clock readings of the calendar are those that stand for a date and time of day. -/
theorem exists_ofWallMicros?_iff :
    (∃ found, ofWallMicros? micros = some found) ↔ InCalendar micros := by
  have hrange : InCalendar micros ↔ 1 ≤ micros / 1000000 / 86400 ∧
      micros / 1000000 / 86400 ≤ Date.lastNumber := by
    simp only [InCalendar, secondsPerDay, microsPerSecond]
    omega
  rw [hrange, ← Date.exists_ofNumber?_iff]
  simp only [ofWallMicros?, microsPerSecond, secondsPerDay, Option.map_eq_some_iff]
  constructor
  · rintro ⟨_, found, hfound, -⟩
    exact ⟨found, hfound⟩
  · rintro ⟨found, hfound⟩
    exact ⟨_, found, hfound, rfl⟩

theorem ofWallMicros?_eq_none_iff : ofWallMicros? micros = none ↔ ¬ InCalendar micros := by
  rw [← exists_ofWallMicros?_iff, ← Option.isSome_iff_exists, Option.not_isSome_iff_eq_none]

end Readings

end Moment

namespace Region

/-- The clocks of the region show the reading, for the second time if `fold` is set. -/
def Shows (region : Region) (wall : Int) (fold : Bool) : Prop :=
  ∃ instant, instant + (region.atInstant instant).1 = wall ∧ (region.atInstant instant).2 = fold

/-- The reading lies in a gap: the clocks of the region never show it. -/
def Skips (region : Region) (wall : Int) : Prop :=
  ∀ instant, instant + (region.atInstant instant).1 ≠ wall

/-- What is relied on of a region. -/
structure Lawful (region : Region) : Prop where
  /-- The reading at an instant, with its fold, has the distance that the instant has. -/
  inverts : ∀ instant, region.atWall (instant + (region.atInstant instant).1)
    (region.atInstant instant).2 = (region.atInstant instant).1
  /-- What is shown for the second time was shown before. -/
  repeats : ∀ wall, region.Shows wall true → region.Shows wall false
  /-- Distances are shorter than a day. -/
  short : ∀ wall fold, (region.atWall wall fold).natAbs < 86400

/-- The instant has a clock reading in the calendar, both in universal time and in the region. -/
def Reaches (region : Region) (instant : Int) : Prop :=
  InCalendar instant ∧
    InCalendar (instant + (region.atInstant (instant / microsPerSecond)).1 * microsPerSecond)

variable {region : Region} {wall : Int} {fold : Bool}

theorem Lawful.shows_of_not_skips (h : region.Lawful) (hshown : ¬ region.Skips wall) :
    region.Shows wall false := by
  rw [Skips, not_forall] at hshown
  obtain ⟨instant, hwall⟩ := hshown
  have hwall := not_not.mp hwall
  cases hfold : (region.atInstant instant).2 with
  | false => exact ⟨instant, hwall, hfold⟩
  | true => exact h.repeats wall ⟨instant, hwall, hfold⟩

/-- A reading that is shown leads back to the instant at which it is. -/
theorem Lawful.atInstant_of_shows (h : region.Lawful) (hshows : region.Shows wall fold) :
    region.atInstant (wall - region.atWall wall fold) = (region.atWall wall fold, fold) := by
  obtain ⟨instant, rfl, rfl⟩ := hshows
  rw [h.inverts, Int.add_sub_cancel]

end Region

namespace Moment

variable {m m' : Moment} {offset : Offset} {region : Region}

/-- A moment is shifted to the date and time of day that the clocks of the region show at its instant,
with the fold of that instant. -/
theorem exists_shiftTo (h : region.Reaches (wallMicros m.date m.time - offset)) :
    ∃ m', m.shiftTo offset region = .ok m' ∧ m'.Exists ∧
      m'.zone = .region region
        (region.atInstant ((wallMicros m.date m.time - offset) / microsPerSecond)).2 ∧
      wallMicros m'.date m'.time = wallMicros m.date m.time - offset +
        (region.atInstant ((wallMicros m.date m.time - offset) / microsPerSecond)).1 *
          microsPerSecond := by
  obtain ⟨huniversal, hlocal⟩ := h
  obtain ⟨found, hfound⟩ := exists_ofWallMicros?_iff.mpr huniversal
  obtain ⟨⟨date, time⟩, hdate⟩ := exists_ofWallMicros?_iff.mpr hlocal
  obtain ⟨hexists, hyear, htime, hwall⟩ := ofWallMicros?_eq_some_iff.mp hdate
  refine ⟨⟨date, time, _⟩, ?_, ⟨hexists, hyear, htime⟩, rfl, hwall⟩
  rw [shiftTo]
  simp only [hfound, hdate]

theorem shiftTo_eq_error (h : ¬ region.Reaches (wallMicros m.date m.time - offset)) :
    m.shiftTo offset region = .error ⟨⟩ := by
  rw [shiftTo]
  dsimp only
  cases huniversal : ofWallMicros? (wallMicros m.date m.time - offset) with
  | none => rfl
  | some found =>
    have hlocal := fun hlocal => h ⟨exists_ofWallMicros?_iff.mp ⟨found, huniversal⟩, hlocal⟩
    simp only [ofWallMicros?_eq_none_iff.mpr hlocal]

/-- The reading of a clock in whole seconds. -/
theorem wallMicros_div (h : m.time.Exists) :
    wallMicros m.date m.time / microsPerSecond = wallSeconds m.date m.time := by
  have hmicros := h.microsecond
  simp only [wallMicros, microsPerSecond, Int.ofNat_eq_natCast]
  omega

theorem instant?_of_region {fold : Bool} (h : m.zone = .region region fold) :
    m.instant? = some (wallMicros m.date m.time -
      region.atWall (wallSeconds m.date m.time) fold * microsPerSecond) := by
  rw [instant?, offset?, h]
  rfl

/-- A moment and the one that it is shifted to denote the same instant, and the clocks of the region show
the second one. -/
theorem instant?_shiftTo (hlaw : region.Lawful) (h : m.shiftTo offset region = .ok m') :
    m'.instant? = some (wallMicros m.date m.time - offset) ∧ m'.Exists ∧
      m'.zone = .region region
        (region.atInstant ((wallMicros m.date m.time - offset) / microsPerSecond)).2 ∧
      region.Shows (wallSeconds m'.date m'.time) m'.fold := by
  have hreaches : region.Reaches (wallMicros m.date m.time - offset) := by
    by_contra hnot
    rw [shiftTo_eq_error hnot] at h
    cases h
  obtain ⟨found, hfound, hexists, hzone, hwall⟩ := exists_shiftTo hreaches
  rw [hfound] at h
  cases h
  generalize wallMicros m.date m.time - offset = instant at *
  have hreading : wallSeconds m'.date m'.time =
      instant / microsPerSecond + (region.atInstant (instant / microsPerSecond)).1 := by
    rw [← wallMicros_div hexists.time, hwall]
    simp only [microsPerSecond]
    omega
  refine ⟨?_, hexists, hzone, ?_⟩
  · rw [instant?_of_region hzone, hreading, hlaw.inverts, hwall, Int.add_sub_cancel]
  · rw [fold, hzone]
    exact ⟨_, hreading.symm, rfl⟩

/-- Moments of the calendar at one clock reading of one zone are one. -/
theorem Exists.eq_of_wallMicros (h : m.Exists) (h' : m'.Exists)
    (hwall : wallMicros m.date m.time = wallMicros m'.date m'.time) (hzone : m.zone = m'.zone) :
    m = m' := by
  have hfound := ofWallMicros?_eq_some_iff.mpr ⟨h.date, h.year, h.time, hwall⟩
  have hfound' := ofWallMicros?_eq_some_iff.mpr ⟨h'.date, h'.year, h'.time, rfl⟩
  rw [hfound] at hfound'
  obtain ⟨hdate, htime⟩ := Prod.mk.inj (Option.some.inj hfound')
  cases m
  cases m'
  simp only [mk.injEq]
  exact ⟨hdate, htime, hzone⟩

/-- A clock reading that the region shows stays as it is when it is shifted by its own distance. -/
theorem shiftTo_own {stamp : Moment} {fold : Bool} (hlaw : region.Lawful) (hexists : m.Exists)
    (hzone : m.zone = .region region fold) (hshows : region.Shows (wallSeconds m.date m.time) fold)
    (hdate : stamp.date = m.date) (htime : stamp.time = m.time)
    (h : stamp.shiftTo (region.atWall (wallSeconds m.date m.time) fold * microsPerSecond) region =
      .ok m') : m' = m := by
  have hatInstant := hlaw.atInstant_of_shows hshows
  generalize region.atWall (wallSeconds m.date m.time) fold = ahead at *
  have hseconds : (wallMicros stamp.date stamp.time - ahead * microsPerSecond) / microsPerSecond =
      wallSeconds m.date m.time - ahead := by
    rw [hdate, htime, ← wallMicros_div hexists.time]
    simp only [microsPerSecond]
    omega
  have hreaches : region.Reaches (wallMicros stamp.date stamp.time - ahead * microsPerSecond) := by
    by_contra hnot
    rw [shiftTo_eq_error hnot] at h
    cases h
  obtain ⟨found, hfound, hexists', hzone', hwall⟩ := exists_shiftTo hreaches
  rw [hfound] at h
  cases h
  rw [hseconds, hatInstant] at hzone' hwall
  rw [Int.sub_add_cancel, hdate, htime] at hwall
  exact hexists'.eq_of_wallMicros hexists hwall (hzone'.trans hzone.symm)

end Moment

end SettingText.Calendar
