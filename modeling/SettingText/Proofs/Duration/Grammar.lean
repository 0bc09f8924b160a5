import SettingText.Editor.Duration
import SettingText.Proofs.Number.Literal

/-!
The grammar of lengths of time: terms one after the other, each an amount with its unit, with any
blanks between them. The search for amounts finds the terms of a text that is made of terms, and gives
up on every other text.
-/

namespace SettingText.Duration

/-- A row of digits of any script. -/
structure Digits where
  chars : List Char
  ne_nil : chars ≠ []
  all_digits : ∀ c ∈ chars, isDigit c = true

/-- Blanks, or nothing. -/
structure Blanks where
  chars : List Char
  all_blank : ∀ c ∈ chars, Text.isBlank c = true

/-- A written amount with its unit: digits, after a point more digits, and blanks before the unit. -/
structure Term where
  whole : Digits
  fraction : Option Digits
  gap : Blanks
  unit : TimeUnit

def TimeUnit.chars : TimeUnit → List Char
  | day => ['d']
  | hour => ['h']
  | minute => ['m']
  | second => ['s']
  | milli => ['m', 's']

/-- The digits behind the point of an amount, with the point. -/
def pointed : Option Digits → List Char
  | none => []
  | some digits => '.' :: digits.chars

namespace Term

def amountChars (t : Term) : List Char := t.whole.chars ++ pointed t.fraction

def chars (t : Term) : List Char := t.amountChars ++ (t.gap.chars ++ t.unit.chars)

theorem chars_append (t : Term) (rest : List Char) :
    t.chars ++ rest = t.amountChars ++ (t.gap.chars ++ (t.unit.chars ++ rest)) := by
  simp only [chars, List.append_assoc]

/-- What is read from a term. -/
def part (t : Term) : Part := ⟨amountOf t.amountChars, t.unit⟩

end Term

/-- The text is made of the terms, with any blanks before, between and behind them. -/
inductive Spells : List Term → List Char → Prop
  | blanks (blanks : Blanks) : Spells [] blanks.chars
  | term (blanks : Blanks) (term : Term) {terms rest} (hrest : Spells terms rest) :
      Spells (term :: terms) (blanks.chars ++ (term.chars ++ rest))

theorem isDigit_of_isBlank {c : Char} (h : Text.isBlank c = true) : isDigit c = false :=
  Text.isDecimalDigit_of_isBlank h

namespace TimeUnit

variable {unit : TimeUnit} {c : Char} {cs rest : List Char}

theorem exists_chars (unit : TimeUnit) : ∃ c rest, unit.chars = c :: rest ∧
    isDigit c = false ∧ Text.isBlank c = false ∧ c ≠ '.' := by
  cases unit <;> exact ⟨_, _, rfl, by decide +kernel⟩

theorem takeUnit_chars (unit : TimeUnit) (hrest : rest.head? ≠ some 's') :
    takeUnit (unit.chars ++ rest) = some (unit, rest) := by
  cases unit with
  | minute =>
    rw [TimeUnit.chars, List.singleton_append, takeUnit.eq_4]
    rintro behind rfl
    exact hrest rfl
  | _ => rfl

theorem eq_chars_of_takeUnit (h : takeUnit cs = some (unit, rest)) : cs = unit.chars ++ rest := by
  unfold takeUnit at h
  split at h <;> cases h <;> rfl

end TimeUnit

section Amounts

variable {whole : Digits} {fraction : Option Digits} {cs amount rest : List Char}

theorem takeDigits_chars (digits : Digits) (hrest : Text.EndsRun isDigit rest) :
    takeDigits (digits.chars ++ rest) = (digits.chars, rest) := by
  rw [takeDigits, Text.takeWhile_run digits.all_digits hrest,
    Text.dropWhile_run digits.all_digits hrest]

theorem isEmpty_chars (digits : Digits) : digits.chars.isEmpty = false :=
  List.isEmpty_eq_false_iff.mpr digits.ne_nil

/-- An amount is taken as far as it goes. -/
theorem takeAmount_chars (hdigit : Text.EndsRun isDigit rest) (hpoint : rest.head? ≠ some '.') :
    takeAmount (whole.chars ++ pointed fraction ++ rest) =
      some (whole.chars ++ pointed fraction, rest) := by
  rw [List.append_assoc]
  cases fraction with
  | none =>
    rw [takeAmount, pointed, List.nil_append, takeDigits_chars whole hdigit]
    simp only [isEmpty_chars, Bool.false_eq_true, if_false, List.append_nil]
    split
    · next behind => exact (hpoint rfl).elim
    · rfl
  | some digits =>
    have hends : Text.EndsRun isDigit ('.' :: (digits.chars ++ rest)) :=
      Text.endsRun_cons_iff.mpr (by decide +kernel)
    rw [takeAmount, pointed, List.cons_append, takeDigits_chars whole hends]
    simp only [isEmpty_chars, Bool.false_eq_true, if_false, takeDigits_chars digits hdigit]

theorem append_of_takeDigits {digits : List Char} (h : takeDigits cs = (digits, rest)) :
    digits ++ rest = cs := by
  cases h
  exact List.takeWhile_append_dropWhile

theorem exists_of_takeDigits {digits : List Char} (h : takeDigits cs = (digits, rest))
    (hne : ¬ digits.isEmpty = true) : ∃ row : Digits, row.chars = digits := by
  cases h
  exact ⟨⟨_, fun hnil => hne (List.isEmpty_iff.mpr hnil), fun _ hc => List.mem_takeWhile_imp hc⟩, rfl⟩

/-- An amount that is taken is one of digits, with or without a fraction. -/
theorem exists_of_takeAmount (h : takeAmount cs = some (amount, rest)) :
    ∃ (whole : Digits) (fraction : Option Digits),
      amount = whole.chars ++ pointed fraction ∧ cs = amount ++ rest := by
  obtain ⟨digits, after, hdigits⟩ : ∃ digits after, takeDigits cs = (digits, after) := ⟨_, _, rfl⟩
  have hcs := append_of_takeDigits hdigits
  rw [takeAmount, hdigits] at h
  dsimp only at h
  split at h
  · cases h
  · next hwhole =>
    obtain ⟨whole, rfl⟩ := exists_of_takeDigits hdigits hwhole
    split at h
    · next behind =>
      obtain ⟨more, last, hmore⟩ : ∃ more last, takeDigits behind = (more, last) := ⟨_, _, rfl⟩
      rw [hmore] at h
      dsimp only at h
      split at h
      · cases h
        exact ⟨whole, none, (List.append_nil _).symm, hcs.symm⟩
      · next hfraction =>
        obtain ⟨fraction, rfl⟩ := exists_of_takeDigits hmore hfraction
        cases h
        refine ⟨whole, some fraction, rfl, ?_⟩
        rw [List.append_assoc, List.cons_append, append_of_takeDigits hmore, hcs]
    · cases h
      exact ⟨whole, none, (List.append_nil _).symm, hcs.symm⟩

end Amounts

section Terms

variable {t : Term} {terms : List Term} {part : Part} {parts : List Part}
variable {cs gap rest behind : List Char}

/-- What is behind an amount does not go on with it. -/
theorem endsAmount (t : Term) (rest : List Char) :
    ∀ c ∈ (t.gap.chars ++ (t.unit.chars ++ rest)).head?, isDigit c = false ∧ c ≠ '.' := by
  obtain ⟨first, letters, hunit, hdigit, -, hpoint⟩ := t.unit.exists_chars
  intro c hc
  rw [List.head?_append, hunit, List.cons_append, List.head?_cons] at hc
  obtain hblank | ⟨-, hfirst⟩ := Option.or_eq_some_iff.mp hc
  · have hblank := t.gap.all_blank c (List.mem_of_mem_head? hblank)
    refine ⟨isDigit_of_isBlank hblank, ?_⟩
    rintro rfl
    exact absurd hblank (by decide +kernel)
  · cases hfirst
    exact ⟨hdigit, hpoint⟩

/-- A term is taken whole, unless the text goes on as if its unit were a longer one. -/
theorem takePart_chars (t : Term) (hrest : rest.head? ≠ some 's') :
    takePart (t.chars ++ rest) = some (t.part, rest) := by
  have hhead := endsAmount t rest
  obtain ⟨first, letters, hunit, -, hblank, -⟩ := t.unit.exists_chars
  have hends : Text.EndsRun Text.isBlank (t.unit.chars ++ rest) := by
    rw [hunit, List.cons_append]
    exact Text.endsRun_cons_iff.mpr hblank
  have hamount : takeAmount (t.chars ++ rest) =
      some (t.amountChars, t.gap.chars ++ (t.unit.chars ++ rest)) := by
    rw [Term.chars_append]
    exact takeAmount_chars (fun c hc => (hhead c hc).1) fun hpoint => (hhead '.' hpoint).2 rfl
  rw [takePart, hamount, Option.bind_some]
  dsimp only
  rw [Text.dropWhile_run t.gap.all_blank hends, TimeUnit.takeUnit_chars t.unit hrest]
  rfl

/-- What is taken from a text is a term it begins with. -/
theorem exists_term_of_takePart (h : takePart cs = some (part, rest)) :
    ∃ t : Term, cs = t.chars ++ rest ∧ t.part = part := by
  obtain ⟨⟨amount, behind⟩, hamount, hunit⟩ := Option.bind_eq_some_iff.mp h
  obtain ⟨⟨unit, after⟩, htake, heq⟩ := Option.map_eq_some_iff.mp hunit
  obtain ⟨rfl, rfl⟩ := Prod.mk.inj heq
  obtain ⟨whole, fraction, rfl, rfl⟩ := exists_of_takeAmount hamount
  let gap : Blanks := ⟨behind.takeWhile Text.isBlank, fun _ hc => List.mem_takeWhile_imp hc⟩
  refine ⟨⟨whole, fraction, gap, unit⟩, ?_, rfl⟩
  have hbehind : gap.chars ++ (unit.chars ++ after) = behind := by
    rw [← TimeUnit.eq_chars_of_takeUnit htake]
    exact List.takeWhile_append_dropWhile
  rw [Term.chars_append]
  exact congrArg (whole.chars ++ pointed fraction ++ ·) hbehind.symm

theorem takePart_of_head? (h : ∀ c ∈ cs.head?, isDigit c = false) : takePart cs = none := by
  have hwhole : (takeDigits cs).1.isEmpty = true := by
    cases cs with
    | nil => rfl
    | cons c cs => simp [takeDigits, h c rfl]
  rw [takePart, takeAmount]
  simp [hwhole]

theorem findPart_blanks (h : ∀ c ∈ cs, Text.isBlank c = true) : findPart cs = none := by
  induction cs with
  | nil => rfl
  | cons c cs ih =>
    obtain ⟨hc, hcs⟩ := List.forall_mem_cons.mp h
    have hnone : takePart (c :: cs) = none :=
      takePart_of_head? fun d hd => Option.mem_some.mp hd ▸ isDigit_of_isBlank hc
    rw [findPart, hnone]
    exact Option.map_eq_none_iff.mpr (ih hcs)

/-- The search passes over blanks to the term behind them. -/
theorem findPart_blanks_append (h : ∀ c ∈ gap, Text.isBlank c = true)
    (htake : takePart cs = some (part, behind)) :
    findPart (gap ++ cs) = some (gap, part, behind) := by
  induction gap with
  | nil =>
    cases cs with
    | nil => cases htake
    | cons c cs => rw [List.nil_append, findPart, htake]
  | cons c gap ih =>
    obtain ⟨hc, hgap⟩ := List.forall_mem_cons.mp h
    have hnone : takePart (c :: (gap ++ cs)) = none :=
      takePart_of_head? fun d hd => Option.mem_some.mp hd ▸ isDigit_of_isBlank hc
    rw [List.cons_append, findPart, hnone, ih hgap]
    rfl

theorem eq_append_of_findPart (h : findPart cs = some (gap, part, behind)) :
    ∃ rest, cs = gap ++ rest ∧ takePart rest = some (part, behind) := by
  induction cs generalizing gap with
  | nil => cases h
  | cons c cs ih =>
    rw [findPart] at h
    split at h
    · next htake =>
      cases h
      exact ⟨c :: cs, rfl, htake⟩
    · obtain ⟨⟨before, found⟩, hfound, heq⟩ := Option.map_eq_some_iff.mp h
      cases heq
      obtain ⟨rest, rfl, htake⟩ := ih hfound
      exact ⟨rest, rfl, htake⟩

theorem isAllBlank_iff : isAllBlank cs = true ↔ ∀ c ∈ cs, Text.isBlank c = true := List.all_eq_true

namespace Spells

/-- A text of terms begins with a blank or with a digit. -/
theorem isBlank_or_isDigit_of_mem_head? (h : Spells terms cs) :
    ∀ c ∈ cs.head?, Text.isBlank c = true ∨ isDigit c = true := by
  intro c hc
  cases h with
  | blanks blanks => exact .inl (blanks.all_blank c (List.mem_of_mem_head? hc))
  | term blanks t hrest =>
    rw [Term.chars_append, Term.amountChars, List.append_assoc, List.head?_append,
      List.head?_append] at hc
    obtain hblank | ⟨-, hterm⟩ := Option.or_eq_some_iff.mp hc
    · exact .inl (blanks.all_blank c (List.mem_of_mem_head? hblank))
    · obtain hdigit | ⟨hnil, -⟩ := Option.or_eq_some_iff.mp hterm
      · exact .inr (t.whole.all_digits c (List.mem_of_mem_head? hdigit))
      · exact (t.whole.ne_nil (List.head?_eq_none_iff.mp hnil)).elim

theorem head?_ne (h : Spells terms cs) : cs.head? ≠ some 's' := by
  intro hhead
  have hletter : ¬ (Text.isBlank 's' = true ∨ isDigit 's' = true) := by decide +kernel
  exact hletter (h.isBlank_or_isDigit_of_mem_head? 's' hhead)

theorem parts?_eq (h : Spells terms cs) : parts? cs = some (terms.map Term.part) := by
  induction h with
  | blanks blanks =>
    rw [parts?, findPart_blanks blanks.all_blank]
    simp [isAllBlank_iff.mpr blanks.all_blank]
  | term blanks t hrest ih =>
    rw [parts?, findPart_blanks_append blanks.all_blank (takePart_chars t hrest.head?_ne)]
    simp [isAllBlank_iff.mpr blanks.all_blank, ih]

end Spells

theorem exists_spells_of_parts? (h : parts? cs = some parts) :
    ∃ terms, Spells terms cs ∧ terms.map Term.part = parts := by
  induction cs using parts?.induct generalizing parts with
  | case1 cs hnone hblank =>
    rw [parts?, hnone] at h
    simp only [hblank, if_true] at h
    cases h
    exact ⟨[], .blanks ⟨cs, isAllBlank_iff.mp hblank⟩, rfl⟩
  | case2 cs hnone hblank =>
    rw [parts?, hnone] at h
    simp [hblank] at h
  | case3 cs gap part behind hfound hblank ih =>
    rw [parts?, hfound] at h
    simp only [hblank, if_true] at h
    obtain ⟨parts, hparts, rfl⟩ := Option.map_eq_some_iff.mp h
    obtain ⟨rest, rfl, htake⟩ := eq_append_of_findPart hfound
    obtain ⟨t, rfl, rfl⟩ := exists_term_of_takePart htake
    obtain ⟨terms, hspells, rfl⟩ := ih hparts
    exact ⟨t :: terms, .term ⟨gap, isAllBlank_iff.mp hblank⟩ t hspells, rfl⟩
  | case4 cs gap part behind hfound hblank =>
    rw [parts?, hfound] at h
    simp [hblank] at h

/-- The terms of a text are found, and nothing is found in a text that is not made of terms. -/
theorem parts?_eq_some_iff :
    parts? cs = some parts ↔ ∃ terms, Spells terms cs ∧ terms.map Term.part = parts := by
  constructor
  · exact exists_spells_of_parts?
  · rintro ⟨terms, hspells, rfl⟩
    exact hspells.parts?_eq

end Terms

end SettingText.Duration
