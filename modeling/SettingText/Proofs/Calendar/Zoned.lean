import SettingText.Classes.Own
import SettingText.Proofs.Calendar.Read
import SettingText.Proofs.Calendar.Recorded
import SettingText.Proofs.Converter.Outcome
import SettingText.Proofs.Text.Run

/-!
Date and times with the name of a region behind them. A stamp with a distance from universal time keeps
its instant in the region, a stamp without one keeps its clock reading, and what is read so is read back
from its own text.
-/

namespace SettingText.Calendar

variable {c : Char} {stamp zone raw : String}

section Text

/-- The text of a moment has no bracket. -/
theorem Moment.not_mem_text (m : Moment) : '[' ∉ m.text.toList := by
  have hpadded : ∀ width n, '[' ∉ (Date.padded width n).toList := by
    intro width n hmem
    exact absurd (Iso.isDigit_of_mem_padded hmem) (by decide)
  have htime : '[' ∉ m.time.text.toList := by
    rw [TimeOfDay.text]
    split_ifs <;> simp [toString, hpadded]
  have hoffset : '[' ∉ ((m.offset?.map Offset.text).getD "").toList := by
    cases m.offset? with
    | none => exact List.not_mem_nil
    | some offset =>
      rw [Option.map_some, Option.getD_some, Offset.text]
      dsimp only
      split_ifs <;> simp [toString, hpadded]
  simp [Moment.text, Date.text, toString, hpadded, htime, hoffset]

/-- The text of a stamp with the name of a region. -/
def zoned (stamp zone : String) : String := stamp ++ "[" ++ zone ++ "]"

theorem toList_zoned (stamp zone : String) :
    (zoned stamp zone).toList = stamp.toList ++ '[' :: (zone.toList ++ [']']) := by
  simp [zoned]

theorem zonedParts?_zoned (hstamp : stamp ≠ "") (hopening : '[' ∉ stamp.toList) (hzone : zone ≠ "")
    (hclosing : ']' ∉ zone.toList) :
    zonedParts? (zoned stamp zone).toList = some (stamp.toList, zone.toList) := by
  have htake : (stamp.toList ++ '[' :: (zone.toList ++ [']'])).takeWhile (· != '[') = stamp.toList := by
    refine Text.takeWhile_run ?_ (Text.endsRun_cons_iff.mpr (by decide))
    intro c hc
    simpa using fun heq : c = '[' => hopening (heq ▸ hc)
  have hlast : (stamp.toList ++ '[' :: (zone.toList ++ [']'])).getLast? = some ']' := by
    rw [← List.cons_append, ← List.append_assoc, List.getLast?_concat]
  rw [zonedParts?, toList_zoned, htake]
  dsimp only
  rw [List.drop_left' rfl, hlast]
  simp [hstamp, hzone, hclosing]

theorem isBlank_of_isDigit (h : c.isDigit = true) : Text.isBlank c = false := by
  have hascii : c.toNat < 128 := by
    simp only [Char.isDigit, Bool.and_eq_true, decide_eq_true_eq] at h
    exact Nat.lt_of_le_of_lt h.2 (by decide)
  refine Text.isBlank_of_isDecimalDigit ?_
  rw [Text.isDecimalDigit, Text.digitValue?, if_pos hascii, if_pos h]
  rfl

/-- No white space stands around a stamp with the name of a region. -/
theorem strip_zoned {m : Moment} (h : Moment.read stamp = .ok m) (zone : String) :
    Text.strip (zoned stamp zone) = zoned stamp zone := by
  obtain ⟨c, cs, hstamp, hdigit⟩ := Moment.exists_digit_of_read h
  have htrim : Text.trimBoth Text.isBlank (zoned stamp zone).toList = (zoned stamp zone).toList := by
    refine Text.trimBoth_eq_self ?_ ?_
    · rw [toList_zoned, hstamp]
      exact Text.endsRun_cons_iff.mpr (isBlank_of_isDigit hdigit)
    · rw [toList_zoned, ← List.cons_append, ← List.append_assoc, List.reverse_append]
      exact Text.endsRun_cons_iff.mpr (by decide +kernel)
  rw [Text.strip, htrim, String.ofList_toList]

end Text

/-- The name can stand behind a stamp, and is that of the region. -/
structure Names (regions : String → Option Region) (zone : String) (region : Region) : Prop where
  known : regions zone = some region
  nonempty : zone ≠ ""
  closing : ']' ∉ zone.toList

/-- The regions on record have names that can stand behind a stamp. -/
theorem names_of_find? {region : Region} (h : Regions.find? zone = some region) :
    Names Regions.find? zone region := by
  have hall : ∀ r ∈ Regions.all, r.name ≠ "" ∧ ']' ∉ r.name.toList := by decide
  obtain ⟨r, hfound, -⟩ := Option.map_eq_some_iff.mp h
  obtain ⟨hnonempty, hclosing⟩ := hall r (List.mem_of_find?_eq_some hfound)
  have hname : r.name = zone := by simpa using List.find?_some hfound
  rw [hname] at hnonempty hclosing
  exact ⟨h, hnonempty, hclosing⟩

/-- The instant is kept in the region. The answer is the moment at which the clocks of the region read what
they read at the instant, with the fold that they have at it, unless universal time or the clocks of the
region leave the calendar. -/
structure KeepsInstant (region : Region) (instant : Int) (setting : Setting) (raw : String)
    (outcome : Except Fault Datum) : Prop where
  reached : region.Reaches instant → ∃ m, outcome = .ok (.moment m) ∧ m.Exists ∧
    m.instant? = some instant ∧
    Moment.wallMicros m.date m.time =
      instant + (region.atInstant (instant / microsPerSecond)).1 * microsPerSecond ∧
    m.zone = .region region (region.atInstant (instant / microsPerSecond)).2
  unreached : ¬ region.Reaches instant → outcome = .error
    (.malformed (some raw) "date value out of range" (some setting) (some "datetime") (some .overflow))

section Outcome

variable {region : Region} {m m' : Moment} {regions : String → Option Region} {setting : Setting}
  {instant : Int}

/-- A stamp with the name of a known region is read, and then placed in the region. -/
theorem readMoment_zoned (hnames : Names regions zone region) (hread : Moment.read stamp = .ok m)
    (hopening : '[' ∉ stamp.toList) : readMoment regions (zoned stamp zone) = inRegion m region := by
  have hstamp : stamp ≠ "" := by
    obtain ⟨c, cs, hchars, -⟩ := Moment.exists_digit_of_read hread
    intro hempty
    rw [hempty] at hchars
    cases hchars
  rw [readMoment]
  dsimp only
  rw [strip_zoned hread, zonedParts?_zoned hstamp hopening hnames.nonempty hnames.closing]
  dsimp only
  rw [readStamp, String.ofList_toList, String.ofList_toList, hread, hnames.known]
  rfl

theorem outcome_moment_eq_ok_iff {u : Universe} (hraw : setting.raw = some raw) :
    Converter.outcome u (.moment regions) (some setting) = .ok (.moment m) ↔
      readMoment regions raw = .ok m := by
  rw [Converter.outcome_moment regions hraw, mapError_eq_ok_iff, map_eq_ok_iff]
  simp

/-- A stamp that denotes an instant is shifted to the region. -/
theorem keepsInstant_of_read (u : Universe) (hlaw : region.Lawful) (hnames : Names regions zone region)
    (hread : Moment.read stamp = .ok m) (hopening : '[' ∉ stamp.toList)
    (hinstant : m.instant? = some instant) (hraw : setting.raw = some (zoned stamp zone)) :
    KeepsInstant region instant setting (zoned stamp zone)
      (Converter.outcome u (.moment regions) (some setting)) := by
  obtain ⟨offset, hoffset, hwall⟩ := Option.map_eq_some_iff.mp hinstant
  have hplace : readMoment regions (zoned stamp zone) =
      (m.shiftTo offset region).mapError .outOfCalendar := by
    rw [readMoment_zoned hnames hread hopening, inRegion, hoffset]
  constructor
  · intro hreaches
    rw [← hwall] at hreaches
    obtain ⟨shifted, hshift, hexists, hzone, hclock⟩ := Moment.exists_shiftTo hreaches
    have hsame := (Moment.instant?_shiftTo hlaw hshift).1
    rw [hwall] at hsame hzone hclock
    rw [hshift] at hplace
    exact ⟨shifted, (outcome_moment_eq_ok_iff hraw).mpr hplace, hexists, hsame, hclock, hzone⟩
  · intro hreaches
    rw [← hwall] at hreaches
    rw [Moment.shiftTo_eq_error hreaches] at hplace
    rw [Converter.outcome_moment regions hraw, hplace]
    rfl

/-- What is placed in a region has a clock reading of the calendar there, which the clocks of the region
either skip or show with its fold. -/
theorem exists_fold_of_inRegion (hlaw : region.Lawful) (hexists : m.Exists)
    (h : inRegion m region = .ok m') : m'.Exists ∧ ∃ fold, m'.zone = .region region fold ∧
      (region.Skips (Moment.wallSeconds m'.date m'.time) ∨
        region.Shows (Moment.wallSeconds m'.date m'.time) fold) := by
  rw [inRegion] at h
  cases hoffset : m.offset? with
  | none =>
    rw [hoffset] at h
    cases h
    refine ⟨⟨hexists.date, hexists.year, hexists.time⟩, false, rfl, ?_⟩
    by_cases hskips : region.Skips (Moment.wallSeconds m.date m.time)
    · exact .inl hskips
    · exact .inr (hlaw.shows_of_not_skips hskips)
  | some offset =>
    rw [hoffset] at h
    obtain ⟨-, hexists', hzone, hshows⟩ := Moment.instant?_shiftTo hlaw (mapError_eq_ok_iff.mp h)
    rw [Moment.fold, hzone] at hshows
    exact ⟨hexists', _, hzone, .inr hshows⟩

/-- A moment in a region is read from its text as a stamp with its instant, which is placed in the region
where the moment is if the clocks of the region show its reading. -/
theorem exists_stamp_of_zone (hlaw : region.Lawful) {fold : Bool} (hexists : m.Exists)
    (hzone : m.zone = .region region fold) : ∃ instant stamp, m.instant? = some instant ∧
      Moment.read m.text = .ok stamp ∧ stamp.instant? = some instant ∧
      (region.Shows (Moment.wallSeconds m.date m.time) fold →
        ∀ m', inRegion stamp region = .ok m' → m' = m) := by
  have hoffset : m.offset? =
      some (region.atWall (Moment.wallSeconds m.date m.time) fold * microsPerSecond) := by
    rw [Moment.offset?, hzone]
    rfl
  refine ⟨_, _, Moment.instant?_of_region hzone, Moment.read_text hexists hoffset (hlaw.short _ _), rfl, ?_⟩
  intro hshows m' hplace
  exact Moment.shiftTo_own hlaw hexists hzone hshows rfl rfl (mapError_eq_ok_iff.mp hplace)

/-- A stamp with the name of a known region is read. If it denotes an instant, the answer is the moment of
that instant in the region, and a local stamp is the reading of the region's clocks, for the first time if
it comes twice. The text of an answer, with the name of the region again, keeps the instant of the answer,
and gives the answer itself unless its clock reading is one that the region skips. -/
theorem convert_keeps_instant_or_clock (u : Universe) {regions : String → Option Region}
    {region : Region} (setting : Setting) {stamp zone : String} {read : Moment} (hlaw : region.Lawful)
    (hnames : Names regions zone region) (hopening : '[' ∉ stamp.toList)
    (hread : Moment.read stamp = .ok read) :
    let given (text : String) : Setting := { setting with raw := some (zoned text zone) }
    let outcome (text : String) := Converter.outcome u (.moment regions) (some (given text))
    (∀ instant, read.instant? = some instant →
        KeepsInstant region instant (given stamp) (zoned stamp zone) (outcome stamp)) ∧
      (read.instant? = none →
        outcome stamp = .ok (.moment ⟨read.date, read.time, .region region false⟩)) ∧
      ∀ m, outcome stamp = .ok (.moment m) → ∃ instant, m.instant? = some instant ∧
        KeepsInstant region instant (given m.text) (zoned m.text zone) (outcome m.text) ∧
        (region.Skips (Moment.wallSeconds m.date m.time) ∨
          ∀ m', outcome m.text = .ok (.moment m') → m' = m) := by
  intro given outcome
  refine ⟨fun instant hinstant => ?_, fun hlocal => ?_, fun m houtcome => ?_⟩
  · exact keepsInstant_of_read u hlaw hnames hread hopening hinstant rfl
  · refine (outcome_moment_eq_ok_iff rfl).mpr ?_
    rw [readMoment_zoned hnames hread hopening, inRegion, Option.map_eq_none_iff.mp hlocal]
    rfl
  · -- the answer, in its own text, is a stamp with the distance of the region at its reading
    have hplace := (outcome_moment_eq_ok_iff rfl).mp houtcome
    rw [readMoment_zoned hnames hread hopening] at hplace
    obtain ⟨hexists, fold, hzone, hclock⟩ :=
      exists_fold_of_inRegion hlaw (Moment.exists_of_read hread) hplace
    obtain ⟨instant, again, hinstant, hagain, hsame, hown⟩ := exists_stamp_of_zone hlaw hexists hzone
    refine ⟨instant, hinstant,
      keepsInstant_of_read u hlaw hnames hagain m.not_mem_text hsame rfl, hclock.imp_right ?_⟩
    intro hshows m' houtcome'
    have hplace' := (outcome_moment_eq_ok_iff rfl).mp houtcome'
    rw [readMoment_zoned hnames hagain m.not_mem_text] at hplace'
    exact hown hshows m' hplace'

/-- The hour that came twice when India set its clocks back keeps its second reading. -/
theorem convert_keeps_second_reading :
    let outcome (text : String) := Converter.outcome .standard (.moment Regions.find?)
      (some (.ofText (some (zoned text "Asia/Kolkata"))))
    let m : Moment := ⟨⟨1945, 10, 14⟩, ⟨23, 10, 0, 0⟩, .region Regions.kolkata.region true⟩
    outcome "1945-10-14T17:40:00+00:00" = .ok (.moment m) ∧ outcome m.text = .ok (.moment m) := by
  intro outcome m
  have hread : Moment.read "1945-10-14T17:40:00+00:00" =
      .ok ⟨⟨1945, 10, 14⟩, ⟨17, 40, 0, 0⟩, .fixed 0⟩ := by
    rw [Moment.read, Iso.octets_of_ascii (by simp)]
    rfl
  have hreaches : Regions.kolkata.region.Reaches 61371538800000000 := by
    refine ⟨⟨?_, ?_⟩, ?_, ?_⟩ <;> decide
  have hexists : m.Exists := by
    refine ⟨⟨?_, ?_, ?_⟩, ?_, ?_, ?_, ?_, ?_⟩ <;> decide
  have hspaced : Regions.kolkata.Spaced := Regions.spaced_of_mem_all _ (by decide) rfl
  have hnames : Names Regions.find? "Asia/Kolkata" Regions.kolkata.region := names_of_find? rfl
  obtain ⟨hkept, -, hagain⟩ := convert_keeps_instant_or_clock .standard (.ofText none)
    hspaced.lawful hnames (by decide) hread
  obtain ⟨found, hfound, hexists', -, hclock, hzone⟩ := (hkept 61371538800000000 rfl).reached hreaches
  have hsame : found = m := hexists'.eq_of_wallMicros hexists (hclock.trans (by decide)) hzone
  rw [hsame] at hfound
  refine ⟨hfound, ?_⟩
  obtain ⟨instant, hinstant, hkept', hown⟩ := hagain m hfound
  have hvalue : m.instant? = some 61371538800000000 := by
    rw [Moment.instant?_of_region rfl]
    decide
  obtain rfl : 61371538800000000 = instant := Option.some.inj (hvalue.symm.trans hinstant)
  obtain ⟨again, hagain, -⟩ := hkept'.reached hreaches
  have hshown : ¬ Regions.kolkata.region.Skips (Moment.wallSeconds m.date m.time) :=
    fun hskips => hskips 61371538800 (by decide)
  have hback : again = m := hown.resolve_left hshown again hagain
  rw [hback] at hagain
  exact hagain

end Outcome

end SettingText.Calendar
