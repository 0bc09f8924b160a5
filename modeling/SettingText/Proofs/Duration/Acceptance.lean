import SettingText.Editor.Basic
import SettingText.Proofs.Duration.Failure
import SettingText.Proofs.Duration.Sum
import SettingText.Proofs.Text.Lower

/-!
What the editor of lengths of time accepts: floating-point numbers of seconds and sequences of terms,
where a span can hold them. Whole amounts are added up exactly, so that the length of two texts one after
the other is the sum of their lengths, and the order of the terms does not matter.
-/

namespace SettingText

namespace Duration

open Calendar (Span)

/-- The text, in small letters and without blanks at its ends, is made of the terms. -/
def Reads (terms : List Term) (text : String) : Prop := Spells terms (compact text).toList

/-- The amounts of the units that the terms name. -/
def totals (terms : List Term) : List (TimeUnit × Binary64) :=
  TimeUnit.all.filterMap fun unit => (amountIn (terms.map Term.part) unit).map (unit, ·)

/-- A number of seconds, or a sequence of terms, that a span can hold. -/
def IsAccepted (text : String) : Prop :=
  (∃ x, Number.readFloat (compact text) = .ok x ∧ CanHold [(.second, x)]) ∨
    ∃ terms, terms ≠ [] ∧ Reads terms text ∧ CanHold (totals terms)

namespace Spells

variable {t : Term} {terms ts us : List Term} {cs ds : List Char}

/-- The characters of terms: blanks, digits, points and the letters of units. -/
theorem mem_cases (h : Spells terms cs) :
    ∀ c ∈ cs, Text.isBlank c = true ∨ isDigit c = true ∨ c ∈ ['.', 'd', 'h', 'm', 's'] := by
  induction h with
  | blanks blanks => exact fun c hc => .inl (blanks.all_blank c hc)
  | term blanks t hrest ih =>
    intro c hc
    rw [Term.chars_append, Term.amountChars] at hc
    simp only [List.mem_append] at hc
    obtain hc | (hc | hc) | hc | hc | hc := hc
    · exact .inl (blanks.all_blank c hc)
    · exact .inr (.inl (t.whole.all_digits c hc))
    · cases hfraction : t.fraction with
      | none =>
        rw [hfraction] at hc
        cases hc
      | some digits =>
        rw [hfraction] at hc
        obtain rfl | hc := List.mem_cons.mp hc
        · exact .inr (.inr (by decide))
        · exact .inr (.inl (digits.all_digits c hc))
    · exact .inl (t.gap.all_blank c hc)
    · have hletters : ∀ unit : TimeUnit, unit.chars ⊆ ['.', 'd', 'h', 'm', 's'] := by
        intro unit
        cases unit <;> decide
      exact .inr (.inr (hletters t.unit hc))
    · exact ih c hc

theorem blanks_append (blanks : Blanks) (h : Spells terms cs) :
    Spells terms (blanks.chars ++ cs) := by
  have hboth : ∀ more : Blanks, ∀ c ∈ blanks.chars ++ more.chars, Text.isBlank c = true :=
    fun more c hc => (List.mem_append.mp hc).elim (blanks.all_blank c) (more.all_blank c)
  cases h with
  | blanks more => exact .blanks ⟨blanks.chars ++ more.chars, hboth more⟩
  | term more t hrest =>
    rw [← List.append_assoc]
    exact .term ⟨blanks.chars ++ more.chars, hboth more⟩ t hrest

/-- Texts of terms may stand one after the other. -/
theorem append (hts : Spells ts cs) (hus : Spells us ds) : Spells (ts ++ us) (cs ++ ds) := by
  induction hts with
  | blanks blanks => exact hus.blanks_append blanks
  | term blanks t hrest ih =>
    rw [List.append_assoc, List.append_assoc]
    exact .term blanks t ih

theorem exists_letter (h : Spells (t :: terms) cs) : ∃ c ∈ cs, c ∈ ['d', 'h', 'm', 's'] := by
  have hletter : ∀ unit : TimeUnit, ∃ c ∈ unit.chars, c ∈ ['d', 'h', 'm', 's'] := by
    intro unit
    cases unit <;> exact ⟨_, List.mem_cons_self, by decide⟩
  obtain ⟨c, hc, hmem⟩ := hletter t.unit
  cases h with
  | term blanks t hrest =>
    refine ⟨c, ?_, hmem⟩
    rw [Term.chars_append]
    simp [hc]

/-- A text of terms is no floating-point literal. -/
theorem readFloat_eq {text : String} (h : Spells (t :: terms) text.toList) :
    Number.readFloat text = .error (.notFloat text) := by
  obtain ⟨c, hc, hletter⟩ := h.exists_letter
  have hno : ['d', 'h', 'm', 's'].all (fun c => c.toNat < 127 && !Text.isPlainBlank c && c != '_' &&
      !Number.isFloatPart c) = true := by decide
  have hchar := List.all_eq_true.mp hno c hletter
  simp only [Bool.and_eq_true, Bool.not_eq_true', decide_eq_true_eq, bne_iff_ne] at hchar
  obtain ⟨⟨⟨hascii, hblank⟩, hline⟩, hpart⟩ := hchar
  exact Number.readFloat_of_not_isFloatPart hc hascii hblank hline hpart

end Spells

section Reading

variable {text : String} {terms ts us : List Term} {x : Binary64}

theorem read_of_reads (h : Reads terms text) (hne : terms ≠ []) :
    read text = ofParts (terms.map Term.part) := by
  cases terms with
  | nil => exact (hne rfl).elim
  | cons t terms =>
    have hnonempty : (compact text).isEmpty = false := by
      obtain ⟨c, hc, -⟩ := Spells.exists_letter h
      rw [String.isEmpty_eq_false_iff]
      intro hempty
      rw [hempty] at hc
      cases hc
    rw [read]
    simp only [hnonempty, bareSeconds?, Spells.readFloat_eq h, Spells.parts?_eq h]
    rfl

theorem CanHold.ne_nan (h : CanHold [(.second, x)]) : x ≠ .nan := by
  obtain ⟨tally, htally, -⟩ := h
  have hfinite := exists_tallyFrom_iff.mp ⟨tally, htally⟩ (.second, x) List.mem_cons_self
  rintro rfl
  cases hfinite

theorem read_of_readFloat (h : Number.readFloat (compact text) = .ok x) (hx : x ≠ .nan) :
    read text = spanOf [(.second, x)] := by
  have hnonempty : (compact text).isEmpty = false := by
    rw [String.isEmpty_eq_false_iff]
    intro hempty
    rw [hempty] at h
    cases h
  have hbare : bareSeconds? (compact text) = some x := by
    rw [bareSeconds?, h]
    cases x with
    | nan => exact (hx rfl).elim
    | _ => rfl
  rw [read]
  simp only [hnonempty, hbare]
  rfl

theorem readFloat_of_bareSeconds? (h : bareSeconds? text = some x) :
    Number.readFloat text = .ok x := by
  rw [bareSeconds?] at h
  split at h
  · cases h
  · next y hread =>
    cases h
    exact hread
  · cases h

/-- A length of time is read from the texts of the two forms, and from no other text. -/
theorem exists_read_iff : (∃ s, read text = .ok s) ↔ IsAccepted text := by
  constructor
  · rintro ⟨s, h⟩
    rw [read] at h
    split at h
    · cases h
    · split at h
      · next x hbare =>
        exact .inl ⟨x, readFloat_of_bareSeconds? hbare, exists_spanOf_iff.mp ⟨s, h⟩⟩
      · split at h
        · cases h
        · cases h
        · next parts hnonempty hparts =>
          obtain ⟨terms, hspells, rfl⟩ := exists_spells_of_parts? hparts
          refine .inr ⟨terms, ?_, hspells, exists_spanOf_iff.mp ⟨s, h⟩⟩
          rintro rfl
          exact hnonempty rfl
  · rintro (⟨x, hx, hhold⟩ | ⟨terms, hne, hreads, hhold⟩)
    · rw [read_of_readFloat hx hhold.ne_nan]
      exact exists_spanOf_iff.mpr hhold
    · rw [read_of_reads hreads hne]
      exact exists_spanOf_iff.mpr hhold

/-- A text of terms is put into small letters character by character. -/
theorem Reads.lowered (h : Reads terms text) :
    Text.capitalSigma ∉ Text.trimBoth Text.isBlank text.toList ∧
      Spells terms ((Text.trimBoth Text.isBlank text.toList).flatMap Text.lowerChar) := by
  rw [Reads, compact, Text.lower, Text.strip, String.toList_ofList, String.toList_ofList] at h
  have hsigma : Text.capitalSigma ∉ Text.trimBoth Text.isBlank text.toList := by
    intro hmem
    obtain ⟨c, hc, hsmall⟩ := @Text.exists_sigma_of_mem _ [] hmem
    have hcases := h.mem_cases c hc
    obtain rfl | rfl := hsmall <;> exact absurd hcases (by decide +kernel)
  rw [Text.lowerAfter_eq_flatMap hsigma] at h
  exact ⟨hsigma, h⟩

theorem ne_nil_of_spells {cs : List Char} (hne : terms ≠ [])
    (h : Spells terms (cs.flatMap Text.lowerChar)) : cs ≠ [] := by
  rintro rfl
  cases terms with
  | nil => exact hne rfl
  | cons t terms =>
    obtain ⟨c, hc, -⟩ := Spells.exists_letter h
    cases hc

/-- Texts of terms that are put together are texts of the terms of both. -/
theorem Reads.append {first second : String} (hts : Reads ts first) (hus : Reads us second)
    (hne : ts ≠ []) (hne' : us ≠ []) : Reads (ts ++ us) (first ++ second) := by
  obtain ⟨hsigma, hspells⟩ := hts.lowered
  obtain ⟨hsigma', hspells'⟩ := hus.lowered
  obtain ⟨front, middle, hfirst, hfront, hmiddle⟩ :=
    Text.exists_trimBoth Text.isBlank first.toList
  obtain ⟨middle', back, hsecond, hmiddle', hback⟩ :=
    Text.exists_trimBoth Text.isBlank second.toList
  have hstart := Text.endsRun_trimBoth Text.isBlank first.toList
  have hend := Text.endsRun_reverse_trimBoth Text.isBlank second.toList
  generalize Text.trimBoth Text.isBlank first.toList = cs at *
  generalize Text.trimBoth Text.isBlank second.toList = ds at *
  have hblanks : ∀ c ∈ middle ++ middle', Text.isBlank c = true := fun c hc =>
    (List.mem_append.mp hc).elim (hmiddle c) (hmiddle' c)
  have htrim : Text.trimBoth Text.isBlank (first ++ second).toList =
      cs ++ ((middle ++ middle') ++ ds) := by
    rw [String.toList_append, hfirst, hsecond]
    have hregroup : front ++ (cs ++ middle) ++ (middle' ++ (ds ++ back)) =
        front ++ ((cs ++ ((middle ++ middle') ++ ds)) ++ back) := by
      simp only [List.append_assoc]
    rw [hregroup]
    refine Text.trimBoth_run hfront hback (hstart.append (ne_nil_of_spells hne hspells) _) ?_
    rw [List.reverse_append, List.reverse_append, List.append_assoc]
    exact hend.append (List.reverse_eq_nil_iff.not.mpr (ne_nil_of_spells hne' hspells')) _
  have hno : Text.capitalSigma ∉ cs ++ ((middle ++ middle') ++ ds) := by
    intro hmem
    obtain hmem | hmem := List.mem_append.mp hmem
    · exact hsigma hmem
    · obtain hmem | hmem := List.mem_append.mp hmem
      · exact absurd (hblanks _ hmem) (by decide +kernel)
      · exact hsigma' hmem
  rw [Reads, compact, Text.lower, Text.strip, String.toList_ofList, String.toList_ofList, htrim,
    Text.lowerAfter_eq_flatMap hno, List.flatMap_append, List.flatMap_append,
    Text.flatMap_lowerChar_of_isBlank hblanks]
  exact hspells.append (hspells'.blanks_append ⟨middle ++ middle', hblanks⟩)

/-- Whole amounts come to the sum of the amounts times their units. -/
theorem read_of_areWhole (h : Reads terms text) (hne : terms ≠ []) (hwhole : AreWhole terms) :
    read text = (Span.checked (terms.map Term.micros).sum).mapError .span := by
  rw [read_of_reads h hne, ofParts_whole hwhole]

end Reading

end Duration

namespace EditorKind

open Calendar (Span)
open Duration

variable {text : String} {earlier : List (Option String)} {micros : Int} {s : Span}

theorem duration_answer (text : String) (earlier : List (Option String)) :
    duration.answer (some text :: earlier) = (Duration.read text).map .span := by
  rw [duration, reading]

theorem exists_duration_answer_iff :
    (∃ s, duration.answer (some text :: earlier) = .ok (.span s)) ↔ IsAccepted text := by
  rw [← exists_read_iff]
  refine exists_congr fun s => ?_
  rw [duration_answer, map_eq_ok_iff]
  constructor
  · rintro ⟨found, hread, heq⟩
    cases heq
    exact hread
  · exact fun hread => ⟨s, hread, rfl⟩

/-- The answer to whole amounts is their sum, if a span can hold it. -/
def held (micros : Int) : Except Cause Datum := ((Span.checked micros).mapError .span).map .span

theorem toMicros_of_held (h : held micros = .ok (.span s)) : s.toMicros = micros := by
  obtain ⟨found, hfound, heq⟩ := map_eq_ok_iff.mp h
  cases heq
  obtain ⟨-, rfl⟩ := Span.checked_eq_ok_iff.mp (mapError_eq_ok_iff.mp hfound)
  exact Span.toMicros_ofMicros micros

theorem duration_answer_of_areWhole {terms : List Term} (h : Reads terms text) (hne : terms ≠ [])
    (hwhole : AreWhole terms) :
    duration.answer (some text :: earlier) = held (terms.map Term.micros).sum := by
  rw [duration_answer, read_of_areWhole h hne hwhole, held]

/-- The editor of lengths of time answers a span to the texts of its two forms that a span can hold, and
fails with a bad value or an overflow on every other text. Whole amounts come to the sum of the amounts
times their units, so that the length of two texts one after the other is the sum of their lengths, and
the order of the terms does not matter. -/
theorem duration_accepts_and_adds :
    (∀ (text : String) (earlier : List (Option String)),
      ((∃ s, duration.answer (some text :: earlier) = .ok (.span s)) ↔ IsAccepted text) ∧
        (¬ IsAccepted text → ∃ cause, duration.answer (some text :: earlier) = .error cause ∧
          (cause.kind = .value ∨ cause.kind = .overflow))) ∧
      (∀ (text : String) (earlier : List (Option String)) (terms : List Term),
        Reads terms text → terms ≠ [] → AreWhole terms →
          duration.answer (some text :: earlier) = held (terms.map Term.micros).sum) ∧
      (∀ (first second : String) (earlier : List (Option String)) (ts us : List Term) (s s' : Span),
        Reads ts first → Reads us second → ts ≠ [] → us ≠ [] → AreWhole (ts ++ us) →
          duration.answer (some first :: earlier) = .ok (.span s) →
          duration.answer (some second :: earlier) = .ok (.span s') →
            duration.answer (some (first ++ second) :: earlier) =
              held (s.toMicros + s'.toMicros)) ∧
      ∀ (text other : String) (earlier : List (Option String)) (ts us : List Term),
        Reads ts text → Reads us other → ts ≠ [] → AreWhole ts → ts.Perm us →
          duration.answer (some other :: earlier) = duration.answer (some text :: earlier) := by
  refine ⟨fun text earlier => ⟨exists_duration_answer_iff, fun hnot => ?_⟩,
    fun text earlier terms h hne hwhole => duration_answer_of_areWhole h hne hwhole, ?_, ?_⟩
  · cases hread : Duration.read text with
    | ok s => exact (hnot (exists_read_iff.mp ⟨s, hread⟩)).elim
    | error cause => exact ⟨cause, by rw [duration_answer, hread]; rfl, kind_of_read hread⟩
  · intro first second earlier ts us s s' hts hus hne hne' hwhole hs hs'
    obtain ⟨hwhole₁, hwhole₂⟩ := hwhole.of_append
    rw [duration_answer_of_areWhole hts hne hwhole₁] at hs
    rw [duration_answer_of_areWhole hus hne' hwhole₂] at hs'
    rw [duration_answer_of_areWhole (hts.append hus hne hne') (by simp [hne]) hwhole,
      toMicros_of_held hs, toMicros_of_held hs', List.map_append, List.sum_append]
  · intro text other earlier ts us hts hus hne hwhole hperm
    have hne' : us ≠ [] := fun hnil => hne (List.Perm.eq_nil (hnil ▸ hperm))
    rw [duration_answer_of_areWhole hts hne hwhole,
      duration_answer_of_areWhole hus hne' (hwhole.of_perm hperm),
      (hperm.map Term.micros).sum_eq]

/-- An hour and forty minutes, in either order; and a text of blanks. -/
theorem duration_adds_of_two :
    (∃ ts us, Reads ts "1h" ∧ Reads us "40 M" ∧ ts ≠ [] ∧ us ≠ [] ∧ AreWhole (ts ++ us)) ∧
      duration.answer [some ("1h" ++ "40 M")] = .ok (.span ⟨0, 6000, 0⟩) ∧
      duration.answer [some ("40 M" ++ "1h")] = duration.answer [some ("1h" ++ "40 M")] ∧
      ¬ IsAccepted " " ∧ ∃ cause, duration.answer [some " "] = .error cause ∧
        (cause.kind = .value ∨ cause.kind = .overflow) := by
  let nothing : Blanks := ⟨[], List.forall_mem_nil _⟩
  let hour : Term :=
    ⟨⟨['1'], by decide, List.all_eq_true.mp (by decide +kernel)⟩, none, nothing, .hour⟩
  let minutes : Term := ⟨⟨['4', '0'], by decide, List.all_eq_true.mp (by decide +kernel)⟩, none,
    ⟨[' '], List.all_eq_true.mp (by decide +kernel)⟩, .minute⟩
  have hhour : Reads [hour] "1h" := by
    have hchars : (compact "1h").toList = [] ++ (hour.chars ++ []) := by decide +kernel
    rw [Reads, hchars]
    exact .term nothing hour (.blanks nothing)
  have hminutes : Reads [minutes] "40 M" := by
    have hchars : (compact "40 M").toList = [] ++ (minutes.chars ++ []) := by decide +kernel
    rw [Reads, hchars]
    exact .term nothing minutes (.blanks nothing)
  have hwhole : AreWhole ([hour] ++ [minutes]) := by
    refine ⟨fun t ht => ?_, fun unit => ?_⟩
    · obtain rfl | rfl : t = hour ∨ t = minutes := by simpa using ht
      · rfl
      · rfl
    · cases unit <;> decide +kernel
  have hne : ∀ t : Term, [t] ≠ [] := fun t => List.cons_ne_nil t []
  obtain ⟨haccepts, hsum, hconcat, hperm⟩ := duration_accepts_and_adds
  have hmicros : ([hour].map Term.micros).sum = 3600000000 ∧
      ([minutes].map Term.micros).sum = 2400000000 := by decide +kernel
  have hfirst : duration.answer [some "1h"] = .ok (.span ⟨0, 3600, 0⟩) := by
    rw [hsum "1h" [] [hour] hhour (hne hour) hwhole.of_append.1, hmicros.1]
    rfl
  have hsecond : duration.answer [some "40 M"] = .ok (.span ⟨0, 2400, 0⟩) := by
    rw [hsum "40 M" [] [minutes] hminutes (hne minutes) hwhole.of_append.2, hmicros.2]
    rfl
  have hboth := hconcat "1h" "40 M" [] [hour] [minutes] ⟨0, 3600, 0⟩ ⟨0, 2400, 0⟩ hhour hminutes
    (hne hour) (hne minutes) hwhole hfirst hsecond
  have hreads := hhour.append hminutes (hne hour) (hne minutes)
  have hreads' := hminutes.append hhour (hne minutes) (hne hour)
  have hblank : ¬ IsAccepted " " := by
    intro haccepted
    obtain ⟨s, hs⟩ := (haccepts " " []).1.mpr haccepted
    have hempty : (compact " ").isEmpty = true := by decide +kernel
    rw [duration_answer, Duration.read] at hs
    simp only [hempty] at hs
    cases hs
  refine ⟨⟨[hour], [minutes], hhour, hminutes, hne hour, hne minutes, hwhole⟩, hboth, ?_, hblank,
    (haccepts " " []).2 hblank⟩
  exact hperm ("1h" ++ "40 M") ("40 M" ++ "1h") [] ([hour] ++ [minutes]) ([minutes] ++ [hour])
    hreads hreads' (by simp) hwhole List.perm_append_comm

end EditorKind

end SettingText
