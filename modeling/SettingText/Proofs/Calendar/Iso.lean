import SettingText.Proofs.Calendar.Instant
import SettingText.Proofs.Calendar.Octets

/-!
The international notation of dates and times. A moment of the calendar is read from its own text with
the distance that it has from universal time.
-/

namespace SettingText.Calendar

namespace Iso

variable {c : Char} {width n year month day hour minute second micros : Nat} {rest s : Octets}

section Written

theorem first_cons (octet : UInt8) (s : Octets) : first (octet :: s) = octet := rfl

/-- Digits begin with no other character. -/
theorem first_written_ne (h : n < 10 ^ width) (hwidth : 0 < width) (rest : Octets)
    (hc : digit? (code c) = none) : first (written width n ++ rest) ≠ code c := by
  have hlength := length_written h hwidth
  cases hwritten : written width n with
  | nil =>
    rw [hwritten] at hlength
    exact (Nat.ne_of_gt hwidth hlength.symm).elim
  | cons octet octets =>
    have hmem : octet ∈ written width n := by
      rw [hwritten]
      exact List.mem_cons_self
    have hsome := digit?_of_mem_written hmem
    intro heq
    have hoctet : octet = code c := heq
    rw [hoctet, hc] at hsome
    cases hsome

theorem octets_append (front back : String) : octets (front ++ back) = octets front ++ octets back := by
  rw [octets_eq, octets_eq, octets_eq, String.toList_append, List.flatMap_append]

theorem octets_mark {text : String} (h : text.toList = [c]) (hc : c.toNat < 128) :
    octets text = [code c] := by
  rw [octets_eq, h, List.flatMap_cons, utf8EncodeChar_of_ascii hc]
  rfl

theorem octets_colon : octets ":" = [code ':'] := octets_mark rfl (by decide)

end Written

section Dates

/-- A date in ten octets. -/
def writtenDate (year month day : Nat) : Octets :=
  written 4 year ++ code '-' :: (written 2 month ++ code '-' :: written 2 day)

theorem readDateParts_written (hyear : year < 10 ^ 4) (hmonth : month < 10 ^ 2) (hday : day < 10 ^ 2)
    (rest : Octets) :
    readDateParts 10 (writtenDate year month day ++ rest) = some (Int.ofNat year, month, day) := by
  have hweek : first (written 2 month ++ code '-' :: (written 2 day ++ rest)) ≠ code 'W' :=
    first_written_ne hmonth (by decide) _ (by decide)
  rw [writtenDate, readDateParts]
  simp only [List.append_assoc, List.cons_append, digits_written hyear (by decide), Option.bind_eq_bind,
    Option.bind_some, first_cons, beq_self_eq_true, if_true, List.drop_succ_cons, List.drop_zero]
  rw [if_neg hweek, digits_written hmonth (by decide)]
  simp only [Option.bind_some, hyphen, first_cons, if_true, List.drop_succ_cons, List.drop_zero,
    digits_written hday (by decide)]
  rfl

theorem length_writtenDate (hyear : year < 10 ^ 4) (hmonth : month < 10 ^ 2) (hday : day < 10 ^ 2) :
    (writtenDate year month day).length = 10 := by
  rw [writtenDate, List.length_append, List.length_cons, List.length_append, List.length_cons,
    length_written hyear (by decide), length_written hmonth (by decide), length_written hday (by decide)]

theorem getD_eq_first (s : Octets) (i : Nat) : s.getD i 0 = first (s.drop i) := by
  rw [first, List.headD_eq_head?_getD, List.head?_drop, List.getD_eq_getElem?_getD]

/-- A written date ends behind ten octets. -/
theorem dateLength_written (hyear : year < 10 ^ 4) (hmonth : month < 10 ^ 2) (hday : day < 10 ^ 2)
    (rest : Octets) : dateLength (writtenDate year month day ++ rest) = some 10 := by
  have hlength : (writtenDate year month day ++ rest).length = 10 + rest.length := by
    rw [List.length_append, length_writtenDate hyear hmonth hday]
  have hbehind : (writtenDate year month day ++ rest).drop 4 =
      code '-' :: (written 2 month ++ code '-' :: (written 2 day ++ rest)) := by
    rw [writtenDate, List.append_assoc, List.drop_left' (length_written hyear (by decide)),
      List.cons_append, List.append_assoc, List.cons_append]
  have hhyphen : (writtenDate year month day ++ rest).getD 4 0 = code '-' := by
    rw [getD_eq_first, hbehind, first_cons]
  have hmark : (writtenDate year month day ++ rest).getD 5 0 ≠ code 'W' := by
    rw [getD_eq_first, show 5 = 4 + 1 from rfl, ← List.drop_drop, hbehind, List.drop_one, List.tail_cons]
    exact first_written_ne hmonth (by decide) _ (by decide)
  rw [dateLength]
  dsimp only
  rw [if_neg (by omega), if_neg (by omega), if_pos hhyphen, if_neg hmark]

end Dates

section Clocks

theorem readPart_written (h : n < 10 ^ 2) (left : Int) (rest : Octets) :
    readPart left (written 2 n ++ rest) = some ⟨n, rest, left - 2⟩ := by
  rw [readPart, digits_written h (by decide)]
  rfl

variable {left : Int}

theorem behind_ends (h : left ≤ 1) (colons last : Bool) (value : Nat) (s : Octets) :
    behind colons last ⟨value, s, left⟩ = .ends (first s != 0) := by
  simp only [behind]
  rw [if_pos (by omega)]

theorem behind_colon (h : 1 < left) (value : Nat) (s : Octets) :
    behind true false ⟨value, code ':' :: s, left⟩ = .part (left - 1) s := by
  simp only [behind]
  rw [if_neg (by omega)]
  rfl

theorem behind_point (h : 1 < left) (colons last : Bool) (value : Nat) (s : Octets) :
    behind colons last ⟨value, code '.' :: s, left⟩ = .fraction (left - 1) s := by
  simp only [behind]
  rw [if_neg (by omega)]
  cases colons <;> rfl

theorem readClockParts_minutes (hhour : hour < 10 ^ 2) (hminute : minute < 10 ^ 2) (rest : Octets) :
    readClockParts 5 (written 2 hour ++ code ':' :: (written 2 minute ++ rest)) =
      some (⟨hour, minute, 0, 0⟩, first rest != 0) := by
  rw [readClockParts, readPart_written hhour]
  simp only [Option.bind_eq_bind, Option.bind_some, first_cons, beq_self_eq_true]
  rw [behind_colon (by decide)]
  simp only [readPart_written hminute, Option.bind_some]
  rw [behind_ends (by decide)]
  rfl

/-- Hours, minutes and seconds, in eight octets. -/
def writtenClock (hour minute second : Nat) : Octets :=
  written 2 hour ++ code ':' :: (written 2 minute ++ code ':' :: written 2 second)

theorem readClockParts_seconds (hhour : hour < 10 ^ 2) (hminute : minute < 10 ^ 2)
    (hsecond : second < 10 ^ 2) (rest : Octets) :
    readClockParts 8 (writtenClock hour minute second ++ rest) =
      some (⟨hour, minute, second, 0⟩, first rest != 0) := by
  rw [writtenClock, readClockParts]
  simp only [List.append_assoc, List.cons_append, readPart_written hhour, Option.bind_eq_bind,
    Option.bind_some, first_cons, beq_self_eq_true]
  rw [behind_colon (by decide)]
  simp only [readPart_written hminute, Option.bind_some]
  rw [behind_colon (by decide)]
  simp only [readPart_written hsecond, Option.bind_some]
  rw [behind_ends (by decide)]
  rfl

theorem readFraction_written (hmicros : micros < 10 ^ 6) (hrest : digit? (first rest) = none) :
    readFraction 6 (written 6 micros ++ rest) = some (micros, first rest != 0) := by
  have hdrop : rest.dropWhile (fun octet => (digit? octet).isSome) = rest := by
    cases rest with
    | nil => rfl
    | cons octet rest =>
      have hoctet : digit? octet = none := hrest
      rw [List.dropWhile_cons_of_neg (by rw [hoctet]; decide)]
  rw [readFraction]
  simp only [show min 6 (6 : Int).toNat = 6 from rfl, digits_written hmicros (by decide),
    Option.bind_eq_bind, Option.bind_some, hdrop]
  simp

theorem readClockParts_fraction (hhour : hour < 10 ^ 2) (hminute : minute < 10 ^ 2)
    (hsecond : second < 10 ^ 2) (hmicros : micros < 10 ^ 6) (hrest : digit? (first rest) = none) :
    readClockParts 15 (writtenClock hour minute second ++ code '.' :: (written 6 micros ++ rest)) =
      some (⟨hour, minute, second, micros⟩, first rest != 0) := by
  rw [writtenClock, readClockParts]
  simp only [List.append_assoc, List.cons_append, readPart_written hhour, Option.bind_eq_bind,
    Option.bind_some, first_cons, beq_self_eq_true]
  rw [behind_colon (by decide)]
  simp only [readPart_written hminute, Option.bind_some]
  rw [behind_colon (by decide)]
  simp only [readPart_written hsecond, Option.bind_some]
  rw [behind_point (by decide)]
  simp only [withFraction]
  rw [show (15 - 2 - 1 - 2 - 1 - 2 - 1 : Int) = 6 from rfl, readFraction_written hmicros hrest]
  rfl

/-- The octets of a time of day behind the seconds. -/
def writtenFraction (micros : Nat) : Octets :=
  if micros = 0 then [] else code '.' :: written 6 micros

variable {t : TimeOfDay}

theorem octets_timeText (t : TimeOfDay) : octets t.text =
    writtenClock t.hour t.minute t.second ++ writtenFraction t.microsecond := by
  have hpoint : octets "." = [code '.'] := octets_mark rfl (by decide)
  rw [TimeOfDay.text, writtenFraction, writtenClock]
  simp only [toString]
  split_ifs <;>
    simp only [octets_append, octets_padded, hpoint, octets_colon, List.append_assoc, List.cons_append,
      List.nil_append, List.append_nil]

/-- A time of day is read from its text, whatever follows that is no digit. -/
theorem readClockParts_text (h : t.Exists) (rest : Octets) (hrest : digit? (first rest) = none) :
    readClockParts (Int.ofNat (octets t.text).length) (octets t.text ++ rest) =
      some (t, first rest != 0) := by
  have hhour : t.hour < 10 ^ 2 := Nat.lt_of_le_of_lt h.hour (by decide)
  have hminute : t.minute < 10 ^ 2 := Nat.lt_of_le_of_lt h.minute (by decide)
  have hsecond : t.second < 10 ^ 2 := Nat.lt_of_le_of_lt h.second (by decide)
  have hlength : (writtenClock t.hour t.minute t.second).length = 8 := by
    simp only [writtenClock, List.length_append, List.length_cons, length_written hhour (by decide),
      length_written hminute (by decide), length_written hsecond (by decide)]
  rw [octets_timeText, List.length_append, hlength, writtenFraction, List.append_assoc]
  split_ifs with hmicros
  · refine (readClockParts_seconds hhour hminute hsecond rest).trans ?_
    rw [← hmicros]
  · rw [List.length_cons, length_written h.microsecond (by decide)]
    exact readClockParts_fraction hhour hminute hsecond h.microsecond hrest

/-- No digit marks an offset. -/
theorem marksOffset_of_mem_written : ∀ octet ∈ written width n, marksOffset octet = false := by
  intro octet hoctet
  have hdigit := digit?_of_mem_written hoctet
  cases hmarks : marksOffset octet with
  | false => rfl
  | true =>
    simp only [marksOffset, Bool.or_eq_true, beq_iff_eq] at hmarks
    obtain (rfl | rfl) | rfl := hmarks <;> exact absurd hdigit (by decide)

theorem marksOffset_of_mem_timeText : ∀ octet ∈ octets t.text, marksOffset octet = false := by
  have hcolon : marksOffset (code ':') = false := by decide
  rw [octets_timeText, writtenClock, writtenFraction]
  simp only [List.forall_mem_append, List.forall_mem_cons]
  refine ⟨⟨marksOffset_of_mem_written, hcolon, marksOffset_of_mem_written, hcolon,
    marksOffset_of_mem_written⟩, ?_⟩
  split_ifs
  · exact List.forall_mem_nil _
  · exact List.forall_mem_cons.mpr ⟨by decide, marksOffset_of_mem_written⟩

/-- The octets of a distance in whole seconds, behind its sign. -/
def writtenDistance (seconds : Nat) : Octets :=
  written 2 (seconds / 3600) ++ code ':' :: (written 2 (seconds / 60 % 60) ++
    if seconds % 60 = 0 then [] else code ':' :: written 2 (seconds % 60))

theorem octets_offsetText (seconds : Int) : octets (Offset.text (seconds * microsPerSecond)) =
    code (if seconds < 0 then '-' else '+') :: writtenDistance seconds.natAbs := by
  have hmicros : (seconds * microsPerSecond).natAbs % 1000000 = 0 := by
    simp only [microsPerSecond]
    omega
  have htotal : (seconds * microsPerSecond).natAbs / 1000000 = seconds.natAbs := by
    simp only [microsPerSecond]
    omega
  have hsign : seconds * microsPerSecond < 0 ↔ seconds < 0 := by
    simp only [microsPerSecond]
    omega
  have hminus : octets "-" = [code '-'] := octets_mark rfl (by decide)
  have hplus : octets "+" = [code '+'] := octets_mark rfl (by decide)
  rw [Offset.text, writtenDistance]
  simp only [toString, hmicros, htotal, hsign, decide_true, Bool.and_true, decide_eq_true_eq, if_true]
  split_ifs <;>
    simp only [octets_append, octets_padded, hminus, hplus, octets_colon, List.append_assoc,
      List.cons_append, List.nil_append, List.append_nil]

theorem readClockParts_distance {seconds : Nat} (h : seconds < 86400) :
    readClockParts (Int.ofNat (writtenDistance seconds).length) (writtenDistance seconds) =
      some (TimeOfDay.ofSeconds seconds 0, false) := by
  have hhours : seconds / 3600 < 10 ^ 2 := by omega
  have hminutes : seconds / 60 % 60 < 10 ^ 2 := by omega
  have hseconds : seconds % 60 < 10 ^ 2 := by omega
  rw [writtenDistance, TimeOfDay.ofSeconds, List.length_append, length_written hhours (by decide),
    List.length_cons, List.length_append, length_written hminutes (by decide)]
  split_ifs with hfull
  · rw [hfull]
    exact readClockParts_minutes hhours hminutes []
  · rw [List.length_cons, length_written hseconds (by decide)]
    have hread := readClockParts_seconds hhours hminutes hseconds []
    rw [writtenClock, List.append_nil] at hread
    exact hread

/-- A time of day with its distance from universal time is read from its text. -/
theorem readClock_text (h : t.Exists) {seconds : Int} (hshort : seconds.natAbs < 86400) :
    readClock (octets t.text ++ octets (Offset.text (seconds * microsPerSecond))) =
      some (t, some (seconds * microsPerSecond)) := by
  have hlength : (octets t.text).findIdx marksOffset = (octets t.text).length :=
    List.findIdx_eq_length_of_false (by simpa using marksOffset_of_mem_timeText)
  rw [octets_offsetText]
  generalize hmark : code (if seconds < 0 then '-' else '+') = mark
  have hsigns : marksOffset mark = true ∧ digit? mark = none ∧ mark ≠ code 'Z' ∧
      ((if mark = code '-' then -1 else 1 : Int)) = if seconds < 0 then -1 else 1 := by
    rw [← hmark]
    by_cases hneg : seconds < 0
    · simp only [if_pos hneg]
      decide
    · simp only [if_neg hneg]
      decide
  obtain ⟨hmarks, hdigit, hzulu, hsign⟩ := hsigns
  -- the time of day ends at the sign, since no octet of it marks an offset
  have hend : (octets t.text ++ mark :: writtenDistance seconds.natAbs).findIdx marksOffset =
      (octets t.text).length := by
    rw [List.findIdx_append, hlength, if_neg (Nat.lt_irrefl _), List.findIdx_cons, hmarks]
    simp
  rw [readClock, hend]
  dsimp only
  have hparts := readClockParts_text h (mark :: writtenDistance seconds.natAbs) hdigit
  rw [List.drop_left' rfl, hparts]
  simp only [Option.bind_eq_bind, Option.bind_some, if_neg hzulu, readClockParts_distance hshort]
  have hwhole : (TimeOfDay.ofSeconds seconds.natAbs 0).microsecond = 0 := rfl
  have hvalue : (if seconds < 0 then -1 else 1 : Int) * ((seconds.natAbs : Int) * microsPerSecond) =
      seconds * microsPerSecond := by
    simp only [microsPerSecond]
    split_ifs <;> omega
  simp only [hsign, TimeOfDay.seconds_ofSeconds, hwhole, Int.ofNat_eq_natCast, Nat.cast_zero, ite_self,
    Int.add_zero, hvalue]
  rfl

end Clocks

end Iso

section Text

open Iso

variable {date : Date} {time : TimeOfDay} {m : Moment} {seconds : Int}

theorem octets_dateText (date : Date) :
    octets date.text = writtenDate date.year date.month date.day := by
  have hhyphen : octets "-" = [code '-'] := octets_mark rfl (by decide)
  rw [Date.text, writtenDate]
  simp only [toString, octets_append, octets_padded, hhyphen, List.append_assoc, List.cons_append,
    List.nil_append]

theorem Date.checked_of_exists (h : date.Exists) (hyear : date.year ≤ maxYear) :
    Date.checked (Int.ofNat date.year, date.month, date.day) = .ok date := by
  rw [checked, Date.ofParts_eq_ok_iff.mpr ⟨h, hyear, rfl, rfl, rfl⟩]
  rfl

theorem TimeOfDay.checked_eq_ok_iff {parts time : TimeOfDay} : parts.checked = .ok time ↔
    time = parts ∧ parts.hour ≤ 23 ∧ parts.minute ≤ 59 ∧ parts.second ≤ 59 := by
  rw [checked, mapError_eq_ok_iff, check]
  split_ifs with hhour hminute hsecond
  · simp only [false_iff]
    omega
  · simp only [false_iff]
    omega
  · simp only [false_iff]
    omega
  · rw [Except.ok.injEq, eq_comm, iff_self_and]
    omega

/-- A moment of the calendar, at a distance of whole seconds from universal time, is read from its
text. -/
theorem Moment.read_text (h : m.Exists) (hoffset : m.offset? = some (seconds * microsPerSecond))
    (hshort : seconds.natAbs < 86400) :
    Moment.read m.text = .ok { m with zone := .fixed (seconds * microsPerSecond) } := by
  have hday : ¬ Span.microsPerDay ≤ (seconds * microsPerSecond).natAbs := by
    simp only [Span.microsPerDay, microsPerSecond]
    omega
  have hyear : m.date.year < 10 ^ 4 := Nat.lt_of_le_of_lt h.year (by decide)
  have hmonth : m.date.month < 10 ^ 2 := Nat.lt_of_le_of_lt h.date.month.2 (by decide)
  have hmday : m.date.day < 10 ^ 2 :=
    Nat.lt_of_le_of_lt (h.date.day.2.trans (daysInMonth_le _ _)) (by decide)
  have hmark : octets "T" = [code 'T'] := octets_mark rfl (by decide)
  have hoctets : octets m.text = writtenDate m.date.year m.date.month m.date.day ++
      code 'T' :: (octets m.time.text ++ octets (Offset.text (seconds * microsPerSecond))) := by
    rw [Moment.text, hoffset]
    simp only [toString, octets_append, octets_dateText, hmark, Option.map_some,
      Option.getD_some, List.append_assoc, List.cons_append, List.nil_append]
  have hparts : readMomentParts (octets m.text) =
      some ((Int.ofNat m.date.year, m.date.month, m.date.day), m.time,
        some (seconds * microsPerSecond)) := by
    rw [readMomentParts, hoctets, dateLength_written hyear hmonth hmday]
    simp only [Option.bind_eq_bind, Option.bind_some, readDateParts_written hyear hmonth hmday]
    rw [List.drop_left' (length_writtenDate hyear hmonth hmday)]
    dsimp only
    rw [show characterLength (code 'T') = 1 from by decide, List.drop_one, List.tail_cons,
      readClock_text h.time hshort]
    rfl
  rw [Moment.read, hparts]
  dsimp only
  rw [checkOffset]
  have htime : m.time.checked = .ok m.time :=
    TimeOfDay.checked_eq_ok_iff.mpr ⟨rfl, h.time.hour, h.time.minute, h.time.second⟩
  simp only [if_neg hday, Date.checked_of_exists h.date h.year, htime]
  rfl

end Text

end SettingText.Calendar
