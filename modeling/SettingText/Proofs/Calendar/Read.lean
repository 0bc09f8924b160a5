import SettingText.Proofs.Calendar.Iso

/-!
What is read of dates and times. Whatever is read is a moment of the calendar, and its text begins with a
digit.
-/

namespace SettingText.Calendar

namespace Iso

section Parts

variable {c : Char} {octet : UInt8} {rest s : Octets} {soFar count value : Nat} {left : Int}
  {more : Bool} {t t' : TimeOfDay}

theorem digit?_lt (h : digit? octet = some value) : value < 10 := by
  rw [digit?] at h
  split_ifs at h with hrange
  cases h
  rw [Bool.and_eq_true, decide_eq_true_eq, decide_eq_true_eq] at hrange
  have hle : octet.toNat ≤ 57 := hrange.2
  omega

theorem digits_lt (h : digits soFar count s = some (value, rest)) :
    value < (soFar + 1) * 10 ^ count := by
  induction count generalizing soFar s with
  | zero =>
    cases h
    omega
  | succ count ih =>
    cases s with
    | nil => cases h
    | cons octet s =>
      obtain ⟨d, hd, hdigits⟩ := Option.bind_eq_some_iff.mp h
      have hlt := digit?_lt hd
      calc value < (soFar * 10 + d + 1) * 10 ^ count := ih hdigits
        _ ≤ ((soFar + 1) * 10) * 10 ^ count := Nat.mul_le_mul_right _ (by omega)
        _ = (soFar + 1) * 10 ^ (count + 1) := by rw [Nat.mul_assoc, Nat.pow_succ']

/-- A fraction is shorter than a second. -/
theorem readFraction_lt (h : readFraction left s = some (value, more)) : value < 1000000 := by
  obtain ⟨⟨read, rest⟩, hread, heq⟩ := Option.bind_eq_some_iff.mp h
  cases heq
  have hlt := digits_lt hread
  have hcount : min 6 left.toNat ≤ 6 := Nat.min_le_left _ _
  generalize min 6 left.toNat = count at *
  calc read * 10 ^ (6 - count) < 10 ^ count * 10 ^ (6 - count) := by
        refine Nat.mul_lt_mul_of_pos_right ?_ (Nat.pow_pos (by decide))
        rwa [Nat.zero_add, Nat.one_mul] at hlt
    _ = 1000000 := by rw [← Nat.pow_add, Nat.add_sub_cancel' hcount]

theorem withFraction_lt (h : withFraction t left s = some (t', more)) : t'.microsecond < 1000000 := by
  obtain ⟨⟨micros, more⟩, hread, heq⟩ := Option.map_eq_some_iff.mp h
  cases heq
  exact readFraction_lt hread

/-- Wherever a time of day ends, it has no microseconds or those of its fraction. -/
theorem readClockParts_lt (h : readClockParts left s = some (t, more)) : t.microsecond < 1000000 := by
  have hnone : 0 < 1000000 := by decide
  obtain ⟨hour, -, h⟩ := Option.bind_eq_some_iff.mp h
  dsimp only at h
  split at h
  · cases h
    exact hnone
  · exact withFraction_lt h
  · cases h
  · obtain ⟨minute, -, h⟩ := Option.bind_eq_some_iff.mp h
    split at h
    · cases h
      exact hnone
    · exact withFraction_lt h
    · cases h
    · obtain ⟨second, -, h⟩ := Option.bind_eq_some_iff.mp h
      split at h
      · cases h
        exact hnone
      · exact withFraction_lt h
      · cases h

theorem readClock_lt {offset : Option Offset} (h : readClock s = some (t, offset)) :
    t.microsecond < 1000000 := by
  obtain ⟨⟨parts, more⟩, hparts, h⟩ := Option.bind_eq_some_iff.mp h
  suffices parts = t from this ▸ readClockParts_lt hparts
  dsimp only at h
  split at h
  · split_ifs at h
    cases h
    rfl
  · split at h
    · split_ifs at h
      cases h
      rfl
    · obtain ⟨⟨away, more⟩, -, h⟩ := Option.bind_eq_some_iff.mp h
      dsimp only at h
      split at h
      · cases h
      · cases h
        rfl

theorem readMomentParts_lt {date : Int × Nat × Nat} {offset : Option Offset}
    (h : readMomentParts s = some (date, t, offset)) : t.microsecond < 1000000 := by
  obtain ⟨length, -, h⟩ := Option.bind_eq_some_iff.mp h
  obtain ⟨found, -, h⟩ := Option.bind_eq_some_iff.mp h
  dsimp only at h
  split at h
  · cases h
    decide
  · obtain ⟨⟨clock, away⟩, hclock, h⟩ := Option.bind_eq_some_iff.mp h
    cases h
    exact readClock_lt hclock

/-- A date and time begin with a digit. -/
theorem exists_digit_of_readMomentParts {parts : (Int × Nat × Nat) × ClockParts × Option Offset}
    (h : readMomentParts s = some parts) :
    ∃ octet rest, s = octet :: rest ∧ (digit? octet).isSome = true := by
  obtain ⟨length, -, h⟩ := Option.bind_eq_some_iff.mp h
  obtain ⟨found, hdate, -⟩ := Option.bind_eq_some_iff.mp h
  obtain ⟨year, hyear, -⟩ := Option.bind_eq_some_iff.mp hdate
  cases s with
  | nil => cases hyear
  | cons octet rest =>
    obtain ⟨d, hd, -⟩ := Option.bind_eq_some_iff.mp hyear
    exact ⟨octet, rest, rfl, by rw [hd]; rfl⟩

/-- The character that begins with the octet of a digit is the digit. -/
theorem isDigit_of_first_digit {cs : List Char} {octet : UInt8}
    (h : (c :: cs).flatMap String.utf8EncodeChar = octet :: rest)
    (hdigit : (digit? octet).isSome = true) : c.isDigit = true := by
  have hrange : 48 ≤ octet.toNat ∧ octet.toNat ≤ 57 := by
    rw [digit?] at hdigit
    split_ifs at hdigit with hrange
    · rw [Bool.and_eq_true, decide_eq_true_eq, decide_eq_true_eq] at hrange
      exact hrange
    · cases hdigit
  rw [List.flatMap_cons] at h
  obtain hascii | hother := Nat.lt_or_ge c.toNat 128
  · rw [utf8EncodeChar_of_ascii hascii] at h
    have hoctet : octet = code c := (List.cons.inj h).1.symm
    rw [hoctet, code] at hrange
    have hcode : c.toNat.toUInt8.toNat = c.toNat := by
      rw [Nat.toUInt8, UInt8.toNat_ofNat']
      omega
    rw [hcode] at hrange
    simp only [Char.isDigit, Bool.and_eq_true, decide_eq_true_eq]
    exact hrange
  · obtain ⟨octet', behind, hencoded, hlarge⟩ := exists_utf8EncodeChar hother
    rw [hencoded] at h
    have hoctet : octet' = octet := (List.cons.inj h).1
    rw [hoctet] at hlarge
    omega

end Parts

end Iso

namespace Moment

open Iso

variable {text : String} {m : Moment}

theorem exists_parts_of_read (h : read text = .ok m) : ∃ date parts offset,
    readMomentParts (octets text) = some (date, parts, offset) ∧ Date.checked date = .ok m.date ∧
      TimeOfDay.checked parts = .ok m.time := by
  rw [read] at h
  cases hparts : readMomentParts (octets text) with
  | none =>
    rw [hparts] at h
    cases h
  | some found =>
    obtain ⟨date, parts, offset⟩ := found
    rw [hparts] at h
    obtain ⟨away, -, h⟩ := bind_eq_ok_iff.mp h
    obtain ⟨checked, hdate, h⟩ := bind_eq_ok_iff.mp h
    obtain ⟨time, htime, h⟩ := bind_eq_ok_iff.mp h
    cases h
    exact ⟨date, parts, offset, rfl, hdate, htime⟩

/-- What is read is a moment of the calendar. -/
theorem exists_of_read (h : read text = .ok m) : m.Exists := by
  obtain ⟨date, parts, offset, hparts, hdate, htime⟩ := exists_parts_of_read h
  obtain ⟨hexists, hyear, -⟩ := Date.ofParts_eq_ok_iff.mp (mapError_eq_ok_iff.mp hdate)
  obtain ⟨rfl, hhour, hminute, hsecond⟩ := TimeOfDay.checked_eq_ok_iff.mp htime
  exact ⟨hexists, hyear, hhour, hminute, hsecond, readMomentParts_lt hparts⟩

/-- A text that is read as a date and time begins with a digit. -/
theorem exists_digit_of_read (h : read text = .ok m) :
    ∃ c cs, text.toList = c :: cs ∧ c.isDigit = true := by
  obtain ⟨date, parts, offset, hparts, -⟩ := exists_parts_of_read h
  obtain ⟨octet, rest, hoctets, hdigit⟩ := exists_digit_of_readMomentParts hparts
  rw [octets_eq] at hoctets
  cases htext : text.toList with
  | nil =>
    rw [htext] at hoctets
    cases hoctets
  | cons c cs =>
    rw [htext] at hoctets
    exact ⟨c, cs, rfl, isDigit_of_first_digit hoctets hdigit⟩

end Moment

end SettingText.Calendar
