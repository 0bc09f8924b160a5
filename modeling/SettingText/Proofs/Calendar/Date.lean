import Mathlib.Order.Monotone.Basic
import SettingText.Calendar.Date

/-!
Dates and their numbers. Every number from one on is the number of one date, and the dates of the
calendar are those with numbers up to the last day of its last year.
-/

namespace SettingText.Calendar

variable {year month day : Nat}

/-- The number of days of a year. -/
def daysInYear (year : Nat) : Nat := if isLeap year then 366 else 365

section Years

theorem isLeap_iff : isLeap year = true ↔ year % 4 = 0 ∧ (year % 100 ≠ 0 ∨ year % 400 = 0) := by
  simp [isLeap]

theorem succ_div_eq (n k : Nat) :
    (n + 1) / k = n / k + if (n + 1) % k = 0 then 1 else 0 := by
  rw [Nat.succ_div]
  simp only [Nat.dvd_iff_mod_eq_zero]

theorem daysBeforeYear_succ (h : 1 ≤ year) :
    daysBeforeYear (year + 1) = daysBeforeYear year + daysInYear year := by
  obtain ⟨y, rfl⟩ := Nat.exists_eq_add_of_le' h
  have hhundreds : y / 100 ≤ y / 4 := Nat.div_le_div_left (by decide) (by decide)
  have hfour : (y + 1) % 100 = 0 → (y + 1) % 4 = 0 := by omega
  have hhundred : (y + 1) % 400 = 0 → (y + 1) % 100 = 0 := by omega
  simp only [daysBeforeYear, daysInYear, Nat.add_sub_cancel, isLeap_iff, succ_div_eq y 4,
    succ_div_eq y 100, succ_div_eq y 400]
  generalize y / 4 = fours at *
  generalize y / 100 = hundreds at *
  split_ifs <;> omega

theorem monotone_daysBeforeYear : Monotone daysBeforeYear := by
  refine monotone_nat_of_le_succ fun year => ?_
  obtain rfl | hpos := Nat.eq_zero_or_pos year
  · decide
  · rw [daysBeforeYear_succ hpos]
    exact Nat.le_add_right _ _

end Years

section Months

theorem daysBeforeMonth_succ (year : Nat) (h : 1 ≤ month) :
    daysBeforeMonth year (month + 1) = daysBeforeMonth year month + daysInMonth year month := by
  have hrange : month = month - 1 + 1 := by omega
  rw [daysBeforeMonth, daysBeforeMonth, Nat.add_sub_cancel]
  conv_lhs => rw [hrange, List.range_succ, List.foldl_append]
  rw [List.foldl_cons, List.foldl_nil, ← hrange]

theorem monotone_daysBeforeMonth (year : Nat) : Monotone (daysBeforeMonth year) := by
  refine monotone_nat_of_le_succ fun month => ?_
  obtain rfl | hpos := Nat.eq_zero_or_pos month
  · exact Nat.le_refl _
  · rw [daysBeforeMonth_succ year hpos]
    exact Nat.le_add_right _ _

/-- The months make up the year. -/
theorem daysBeforeMonth_thirteen (year : Nat) : daysBeforeMonth year 13 = daysInYear year := by
  have hrange : List.range (13 - 1) = [0, 1, 2, 3, 4, 5, 6, 7, 8, 9, 10, 11] := by decide
  rw [daysBeforeMonth, hrange, daysInYear]
  cases hleap : isLeap year <;> simp [daysInMonth, hleap]

theorem daysInMonth_le (year month : Nat) : daysInMonth year month ≤ 31 := by
  unfold daysInMonth
  split
  · split_ifs <;> decide
  all_goals decide

theorem daysInMonth_december (year : Nat) : daysInMonth year 12 = 31 := rfl

/-- The walk through the months stops in the one that the day falls into, or in the last. -/
theorem monthOf_spec (year steps : Nat) (hmonth : 1 ≤ month) (hday : 1 ≤ day) :
    month ≤ (Date.monthOf year month day steps).1 ∧
      (Date.monthOf year month day steps).1 ≤ month + steps ∧
      1 ≤ (Date.monthOf year month day steps).2 ∧
      daysBeforeMonth year (Date.monthOf year month day steps).1 +
          (Date.monthOf year month day steps).2 = daysBeforeMonth year month + day ∧
      ((Date.monthOf year month day steps).2 ≤
          daysInMonth year (Date.monthOf year month day steps).1 ∨
        (Date.monthOf year month day steps).1 = month + steps) := by
  induction steps generalizing month day with
  | zero => exact ⟨Nat.le_refl _, Nat.le_refl _, hday, rfl, .inr rfl⟩
  | succ steps ih =>
    rw [Date.monthOf]
    split
    · next hover =>
      have hnext := @ih (month + 1) (day - daysInMonth year month) (by omega) (by omega)
      rw [daysBeforeMonth_succ year hmonth] at hnext
      omega
    · next hfits => exact ⟨Nat.le_refl _, Nat.le_add_right _ _, hday, rfl, .inl (Nat.not_lt.mp hfits)⟩

end Months

namespace Date

variable {d e : Date}

/-- A date that there is, in any year from the first on. -/
structure Exists (d : Date) : Prop where
  year : 1 ≤ d.year
  month : 1 ≤ d.month ∧ d.month ≤ 12
  day : 1 ≤ d.day ∧ d.day ≤ daysInMonth d.year d.month

/-- A day of a year has its place among the days of that year. -/
theorem Exists.dayOfYear (h : d.Exists) :
    daysBeforeMonth d.year d.month < daysBeforeMonth d.year d.month + d.day ∧
    daysBeforeMonth d.year d.month + d.day ≤ daysBeforeMonth d.year (d.month + 1) ∧
    daysBeforeMonth d.year (d.month + 1) ≤ daysInYear d.year := by
  obtain ⟨-, ⟨hmonth, hmonth'⟩, hday, hday'⟩ := h
  have hlast := monotone_daysBeforeMonth d.year (show d.month + 1 ≤ 13 by omega)
  rw [daysBeforeMonth_thirteen] at hlast
  rw [daysBeforeMonth_succ d.year hmonth] at hlast ⊢
  omega

/-- A date comes after the years before its own, and not after its year. -/
theorem Exists.number_bounds (h : d.Exists) :
    daysBeforeYear d.year < d.number ∧ d.number ≤ daysBeforeYear (d.year + 1) := by
  obtain ⟨hlow, hmonth, hyear⟩ := h.dayOfYear
  rw [daysBeforeYear_succ h.year, number]
  omega

/-- Of the steps of a stair only one holds a given height. -/
theorem eq_of_between {stair : Nat → Nat} (hstair : Monotone stair) {a b n : Nat}
    (ha : stair a < n ∧ n ≤ stair (a + 1)) (hb : stair b < n ∧ n ≤ stair (b + 1)) : a = b := by
  obtain hlt | heq | hlt := Nat.lt_trichotomy a b
  · have := hstair (show a + 1 ≤ b from hlt)
    omega
  · exact heq
  · have := hstair (show b + 1 ≤ a from hlt)
    omega

/-- No two dates have the same number. -/
theorem Exists.number_inj (hd : d.Exists) (he : e.Exists) (h : d.number = e.number) : d = e := by
  have hyear : d.year = e.year :=
    eq_of_between monotone_daysBeforeYear hd.number_bounds (by rw [h]; exact he.number_bounds)
  have hplace : daysBeforeMonth d.year d.month + d.day = daysBeforeMonth e.year e.month + e.day := by
    rw [number, number, hyear] at h
    rw [hyear]
    omega
  have hmonth : d.month = e.month := by
    obtain ⟨hd₁, hd₂, -⟩ := hd.dayOfYear
    obtain ⟨he₁, he₂, -⟩ := he.dayOfYear
    rw [hplace, hyear] at hd₁ hd₂
    exact eq_of_between (monotone_daysBeforeMonth e.year) ⟨hd₁, hd₂⟩ ⟨he₁, he₂⟩
  rw [hyear, hmonth] at hplace
  cases d
  cases e
  simp only [mk.injEq]
  exact ⟨hyear, hmonth, by simpa using hplace⟩

/-- The years that the periods of a number make up. -/
theorem daysBeforeYear_periods (n400 : Nat) {n100 n4 n1 : Nat} (h100 : n100 ≤ 3) (h4 : n4 ≤ 24)
    (h1 : n1 ≤ 3) :
    daysBeforeYear (n400 * 400 + n100 * 100 + n4 * 4 + n1 + 1) =
      n400 * 146097 + n100 * 36524 + n4 * 1461 + n1 * 365 := by
  simp only [daysBeforeYear, Nat.add_sub_cancel]
  have hfours : (n400 * 400 + n100 * 100 + n4 * 4 + n1) / 4 = n400 * 100 + n100 * 25 + n4 := by omega
  have hhundreds : (n400 * 400 + n100 * 100 + n4 * 4 + n1) / 100 = n400 * 4 + n100 := by omega
  have hlong : (n400 * 400 + n100 * 100 + n4 * 4 + n1) / 400 = n400 := by omega
  rw [hfours, hhundreds, hlong]
  omega

/-- The last day of a year is the last before the next one. -/
theorem number_newYearsEve (h : 1 ≤ year) : (mk year 12 31).number = daysBeforeYear (year + 1) := by
  have hmonth := daysBeforeMonth_succ year (show 1 ≤ 12 by decide)
  rw [daysBeforeMonth_thirteen, daysInMonth_december] at hmonth
  rw [daysBeforeYear_succ h, hmonth, number, Nat.add_assoc]

/-- A day of a year that is found by walking through its months. -/
theorem exists_of_monthOf (hyear : 1 ≤ year) (hday : 1 ≤ day) (hday' : day ≤ daysInYear year) :
    (mk year (monthOf year 1 day 11).1 (monthOf year 1 day 11).2).Exists ∧
      (mk year (monthOf year 1 day 11).1 (monthOf year 1 day 11).2).number =
        daysBeforeYear year + day := by
  obtain ⟨hmonth, hmonth', hfirst, hplace, hlast⟩ := monthOf_spec year 11 (Nat.le_refl 1) hday
  have hbegin : daysBeforeMonth year 1 = 0 := rfl
  have hnext := daysBeforeMonth_succ year (show 1 ≤ 12 by decide)
  rw [daysBeforeMonth_thirteen, daysInMonth_december] at hnext
  generalize monthOf year 1 day 11 = found at *
  obtain ⟨month, rest⟩ := found
  dsimp only at *
  refine ⟨⟨hyear, ⟨hmonth, hmonth'⟩, hfirst, ?_⟩, ?_⟩
  · change rest ≤ daysInMonth year month
    obtain hfits | hdecember := hlast
    · exact hfits
    · have hdecember : month = 12 := hdecember
      rw [hdecember, daysInMonth_december]
      rw [hdecember] at hplace
      omega
  · rw [number]
    dsimp only
    omega

/-- Every number from one on is the number of a date. -/
theorem partsOfNumber_spec {n : Nat} (h : 1 ≤ n) :
    (partsOfNumber n).Exists ∧ (partsOfNumber n).number = n := by
  have h400 := Nat.div_add_mod (n - 1) 146097
  have h100 := Nat.div_add_mod ((n - 1) % 146097) 36524
  have h4 := Nat.div_add_mod ((n - 1) % 146097 % 36524) 1461
  have h1 := Nat.div_add_mod ((n - 1) % 146097 % 36524 % 1461) 365
  have hlt := Nat.mod_lt (n - 1) (show 146097 > 0 by decide)
  have hlt100 := Nat.mod_lt ((n - 1) % 146097) (show 36524 > 0 by decide)
  have hlt4 := Nat.mod_lt ((n - 1) % 146097 % 36524) (show 1461 > 0 by decide)
  have hlt1 := Nat.mod_lt ((n - 1) % 146097 % 36524 % 1461) (show 365 > 0 by decide)
  rw [partsOfNumber]
  dsimp only
  generalize (n - 1) / 146097 = n400 at *
  generalize (n - 1) % 146097 = r400 at *
  generalize r400 / 36524 = n100 at *
  generalize r400 % 36524 = r100 at *
  generalize r100 / 1461 = n4 at *
  generalize r100 % 1461 = r4 at *
  generalize r4 / 365 = n1 at *
  generalize r4 % 365 = dayOfYear at *
  split
  · next hlast =>
    have hlast : n1 = 4 ∨ n100 = 4 := by simpa using hlast
    have hpos : 1 ≤ n400 * 400 + n100 * 100 + n4 * 4 + n1 := by omega
    rw [Nat.add_sub_cancel]
    refine ⟨⟨hpos, ⟨Nat.le_add_left 1 11, Nat.le_refl 12⟩, Nat.le_add_left 1 30, Nat.le_refl 31⟩,
      ?_⟩
    rw [number_newYearsEve hpos]
    -- the year after it begins a period of its own
    obtain ⟨m400, m100, m4, hm100, hm4, hperiods, hsum⟩ : ∃ m400 m100 m4, m100 ≤ 3 ∧ m4 ≤ 24 ∧
        n400 * 400 + n100 * 100 + n4 * 4 + n1 = m400 * 400 + m100 * 100 + m4 * 4 + 0 ∧
        n = m400 * 146097 + m100 * 36524 + m4 * 1461 := by
      obtain rfl | rfl := hlast
      · exact ⟨n400, n100, n4 + 1, by omega⟩
      · exact ⟨n400 + 1, 0, 0, by omega⟩
    rw [hperiods, daysBeforeYear_periods m400 hm100 hm4 (Nat.zero_le 3), hsum, Nat.zero_mul,
      Nat.add_zero]
  · next hlast =>
    have hlast : n1 ≠ 4 ∧ n100 ≠ 4 := by simpa using hlast
    have hyears := daysBeforeYear_periods n400 (show n100 ≤ 3 by omega) (show n4 ≤ 24 by omega)
      (show n1 ≤ 3 by omega)
    have hlong : 365 ≤ daysInYear (n400 * 400 + n100 * 100 + n4 * 4 + n1 + 1) := by
      rw [daysInYear]
      split <;> decide
    obtain ⟨hexists, hnumber⟩ := exists_of_monthOf (Nat.le_add_left 1 _) (Nat.le_add_left 1 dayOfYear)
      (Nat.le_trans (show dayOfYear + 1 ≤ 365 by omega) hlong)
    refine ⟨hexists, hnumber.trans ?_⟩
    omega

/-- The number of the last day of the calendar. -/
def lastNumber : Nat := daysBeforeYear (maxYear + 1)

/-- The dates up to the last year are those up to its last day. -/
theorem Exists.year_le_iff (h : d.Exists) : d.year ≤ maxYear ↔ d.number ≤ lastNumber := by
  obtain ⟨hlow, hhigh⟩ := h.number_bounds
  constructor
  · intro hyear
    exact hhigh.trans (monotone_daysBeforeYear (Nat.succ_le_succ hyear))
  · intro hnumber
    by_contra hyear
    have hlast := monotone_daysBeforeYear (show maxYear + 1 ≤ d.year by omega)
    rw [lastNumber] at hnumber
    omega

/-- The date of a number is the one date of the calendar that has it. -/
theorem ofNumber?_eq_some_iff {number : Int} : ofNumber? number = some d ↔
    d.Exists ∧ d.year ≤ maxYear ∧ (d.number : Int) = number := by
  rw [ofNumber?]
  constructor
  · intro h
    split at h
    · cases h
    · next hpos =>
      obtain ⟨hexists, hnumber⟩ := partsOfNumber_spec (show 1 ≤ number.toNat by omega)
      dsimp only at h
      split at h
      · next hyear =>
        cases h
        exact ⟨hexists, hyear, by omega⟩
      · cases h
  · rintro ⟨hexists, hyear, rfl⟩
    have hpos := hexists.number_bounds.1
    obtain ⟨hexists', hnumber'⟩ := partsOfNumber_spec (show 1 ≤ d.number by omega)
    rw [if_neg (by omega), Int.toNat_natCast, hexists'.number_inj hexists hnumber']
    exact if_pos hyear

/-- A number has a date from the first day of the calendar to the last. -/
theorem exists_ofNumber?_iff {number : Int} :
    (∃ d, ofNumber? number = some d) ↔ 1 ≤ number ∧ number ≤ lastNumber := by
  simp only [ofNumber?_eq_some_iff]
  constructor
  · rintro ⟨d, hexists, hyear, rfl⟩
    have hlow := hexists.number_bounds.1
    have hhigh := hexists.year_le_iff.mp hyear
    omega
  · rintro ⟨hlow, hhigh⟩
    obtain ⟨hexists, hnumber⟩ := partsOfNumber_spec (show 1 ≤ number.toNat by omega)
    exact ⟨_, hexists, hexists.year_le_iff.mpr (by omega), by omega⟩

/-- The numbers that form a date are those of the dates of the calendar. -/
theorem ofParts_eq_ok_iff {year : Int} {month day : Nat} : ofParts year month day = .ok d ↔
    d.Exists ∧ d.year ≤ maxYear ∧ Int.ofNat d.year = year ∧ d.month = month ∧ d.day = day := by
  have hmax : maxYear = 9999 := rfl
  rw [ofParts]
  simp only [Bool.or_eq_true, decide_eq_true_eq, Int.ofNat_eq_natCast]
  constructor
  · intro h
    split_ifs at h with hyear hmonth hday
    cases h
    refine ⟨⟨?_, ?_, ?_⟩, ?_, ?_, rfl, rfl⟩ <;> dsimp only <;> omega
  · rintro ⟨⟨hyear, hmonth, hday⟩, hlast, rfl, rfl, rfl⟩
    rw [Int.toNat_natCast, if_neg (by omega), if_neg (by omega), if_neg (by omega)]

end Date

end SettingText.Calendar
