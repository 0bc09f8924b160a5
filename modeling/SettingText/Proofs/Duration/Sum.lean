import Mathlib.Algebra.BigOperators.Group.List.Basic
import SettingText.Proofs.Duration.Grammar
import SettingText.Proofs.Except
import SettingText.Proofs.Number.Whole

/-!
Sums of lengths of time. A span holds amounts of units when all of them are finite and their sum is in
bounds, and where the amounts are whole numbers the sum is exact, unit by unit and altogether.
-/

namespace SettingText

namespace Calendar.Span

/-- The microseconds that a span can hold. -/
def InRange (micros : Int) : Prop :=
  -maxDays * microsPerDay ≤ micros ∧ micros < (maxDays + 1) * microsPerDay

instance (micros : Int) : Decidable (InRange micros) := inferInstanceAs (Decidable (_ ∧ _))

variable {micros : Int} {s : Span}

theorem checked_eq_ok_iff : checked micros = .ok s ↔ InRange micros ∧ s = ofMicros micros := by
  have hrange : InRange micros ↔ -999999999 ≤ (ofMicros micros).days ∧
      (ofMicros micros).days ≤ 999999999 := by
    simp only [InRange, ofMicros, maxDays, microsPerDay]
    omega
  rw [hrange, checked]
  simp only [Bool.or_eq_true, decide_eq_true_eq]
  rw [wordLimit, maxDays]
  split
  · simp only [reduceCtorEq, false_iff, not_and]
    omega
  · split
    · simp only [reduceCtorEq, false_iff, not_and]
      omega
    · rw [Except.ok.injEq, eq_comm]
      exact ⟨fun heq => ⟨by omega, heq⟩, And.right⟩

theorem toMicros_ofMicros (micros : Int) : (ofMicros micros).toMicros = micros := by
  simp only [toMicros, ofMicros, microsPerDay, microsPerSecond, Int.ofNat_eq_natCast]
  omega

end Calendar.Span

namespace Duration

open Calendar (Span)

section Holding

variable {amounts : List (TimeUnit × Binary64)} {s : Span}

/-- The sum of amounts of units from a tally on, in their order. -/
def tallyFrom (tally : Tally) (amounts : List (TimeUnit × Binary64)) :
    Except Calendar.SpanFault Tally :=
  amounts.foldlM (fun tally entry => tally.add entry.2 entry.1) tally

/-- A span can hold the amounts: they have a sum, which is in bounds when it is rounded to the
microsecond. -/
def CanHold (amounts : List (TimeUnit × Binary64)) : Prop :=
  ∃ tally, tallyFrom ⟨0, .zero false⟩ amounts = .ok tally ∧ Span.InRange tally.micros

theorem spanOf_eq (amounts : List (TimeUnit × Binary64)) : spanOf amounts =
    (tallyFrom ⟨0, .zero false⟩ amounts).mapError .span >>= fun tally =>
      (Span.checked tally.micros).mapError .span :=
  rfl

theorem exists_spanOf_iff : (∃ s, spanOf amounts = .ok s) ↔ CanHold amounts := by
  rw [spanOf_eq]
  constructor
  · rintro ⟨s, h⟩
    obtain ⟨tally, htally, hspan⟩ := bind_eq_ok_iff.mp h
    exact ⟨tally, mapError_eq_ok_iff.mp htally,
      (Span.checked_eq_ok_iff.mp (mapError_eq_ok_iff.mp hspan)).1⟩
  · rintro ⟨tally, htally, hrange⟩
    exact ⟨Span.ofMicros tally.micros, bind_eq_ok_iff.mpr ⟨tally, mapError_eq_ok_iff.mpr htally,
      mapError_eq_ok_iff.mpr (Span.checked_eq_ok_iff.mpr ⟨hrange, rfl⟩)⟩⟩

theorem exists_add_iff (tally : Tally) (amount : Binary64) (unit : TimeUnit) :
    (∃ more, tally.add amount unit = .ok more) ↔ amount.toRatio?.isSome = true := by
  rw [Tally.add, Binary64.truncate?, Binary64.fraction?]
  cases amount.toRatio? with
  | none => simp
  | some ratio => simp

/-- Amounts have a sum just when all of them are finite. -/
theorem exists_tallyFrom_iff {tally : Tally} : (∃ sum, tallyFrom tally amounts = .ok sum) ↔
    ∀ entry ∈ amounts, entry.2.toRatio?.isSome = true := by
  induction amounts generalizing tally with
  | nil => simp [tallyFrom, pure, Except.pure]
  | cons entry amounts ih =>
    rw [List.forall_mem_cons, ← exists_add_iff tally entry.2 entry.1]
    constructor
    · rintro ⟨sum, h⟩
      obtain ⟨more, hmore, hsum⟩ := bind_eq_ok_iff.mp h
      exact ⟨⟨more, hmore⟩, ih.mp ⟨sum, hsum⟩⟩
    · rintro ⟨⟨more, hmore⟩, hamounts⟩
      obtain ⟨sum, hsum⟩ := ih.mpr hamounts
      exact ⟨sum, bind_eq_ok_iff.mpr ⟨more, hmore, hsum⟩⟩

end Holding

namespace Term

/-- The digits behind the point. -/
def behind (t : Term) : List Char := t.fraction.elim [] Digits.chars

/-- The digits before the point as a number. -/
def count (t : Term) : Nat := Number.valueOf t.whole.chars

/-- The amount is a whole number: there is nothing but zeros behind its point. -/
def IsWhole (t : Term) : Prop := Number.valueOf t.behind = 0

def micros (t : Term) : Int := t.count * t.unit.micros

theorem amountOf_amountChars (t : Term) : amountOf t.amountChars =
    .ofDecimal false (Number.valueOf (t.whole.chars ++ t.behind)) (-Int.ofNat t.behind.length) := by
  have htail : pointed t.fraction = '.' :: t.behind ∨ pointed t.fraction = [] ∧ t.behind = [] := by
    rw [behind]
    cases t.fraction with
    | none => exact .inr ⟨rfl, rfl⟩
    | some digits => exact .inl rfl
  have hbehind : ∀ c ∈ t.behind, Text.isDecimalDigit c = true := by
    rw [behind]
    cases t.fraction with
    | none => exact List.forall_mem_nil _
    | some digits => exact digits.all_digits
  rw [amountOf, amountChars,
    Number.readFloat_digits t.whole.ne_nil t.whole.all_digits hbehind htail]

theorem IsWhole.amountOf {t : Term} (h : t.IsWhole) (hlimit : t.count < Binary64.wholeLimit) :
    (amountOf t.amountChars).IsWhole t.count := by
  rw [amountOf_amountChars, Number.valueOf_append, h]
  exact Binary64.isWhole_ofDecimal t.count t.behind.length hlimit

end Term

section Totals

variable {terms : List Term} {unit : TimeUnit}

/-- What the terms of a unit come to. -/
def countIn (terms : List Term) (unit : TimeUnit) : Nat :=
  ((terms.filter (·.unit == unit)).map Term.count).sum

/-- Whole amounts, of which the sum for each unit stays below the limit. -/
structure AreWhole (terms : List Term) : Prop where
  isWhole : ∀ t ∈ terms, t.IsWhole
  countIn_lt : ∀ unit, countIn terms unit < Binary64.wholeLimit

theorem countIn_append (ts us : List Term) (unit : TimeUnit) :
    countIn (ts ++ us) unit = countIn ts unit + countIn us unit := by
  simp only [countIn, List.filter_append, List.map_append, List.sum_append]

namespace AreWhole

variable {ts us : List Term}

theorem of_append (h : AreWhole (ts ++ us)) : AreWhole ts ∧ AreWhole us := by
  have hcount := fun unit => countIn_append ts us unit ▸ h.countIn_lt unit
  exact ⟨⟨fun t ht => h.isWhole t (List.mem_append_left us ht), fun unit => by
      have := hcount unit
      omega⟩,
    ⟨fun t ht => h.isWhole t (List.mem_append_right ts ht), fun unit => by
      have := hcount unit
      omega⟩⟩

theorem of_perm (h : AreWhole ts) (hperm : ts.Perm us) : AreWhole us where
  isWhole t ht := h.isWhole t (hperm.mem_iff.mpr ht)
  countIn_lt unit := by
    have hsum := ((hperm.filter (·.unit == unit)).map Term.count).sum_eq
    rw [countIn, ← hsum]
    exact h.countIn_lt unit

end AreWhole

/-- Whole amounts are added up exactly. -/
theorem isWhole_foldl {sum : Binary64} {n : Nat} (hsum : sum.IsWhole n)
    (hwhole : ∀ t ∈ terms, t.IsWhole)
    (hlimit : n + (terms.map Term.count).sum < Binary64.wholeLimit) :
    ((terms.map Term.part).foldl (fun sum part => sum.add part.amount) sum).IsWhole
      (n + (terms.map Term.count).sum) := by
  induction terms generalizing sum n with
  | nil => simpa using hsum
  | cons t terms ih =>
    rw [List.map_cons, List.sum_cons, ← Nat.add_assoc] at hlimit
    rw [List.map_cons, List.map_cons, List.sum_cons, ← Nat.add_assoc, List.foldl_cons]
    obtain ⟨ht, hterms⟩ := List.forall_mem_cons.mp hwhole
    have hmore := hsum.add (ht.amountOf (by omega)) (by omega)
    exact ih hmore hterms hlimit

/-- The sum of the amounts of a unit, if there are any, is exact. -/
theorem amountIn_parts (h : AreWhole terms) (unit : TimeUnit) :
    (amountIn (terms.map Term.part) unit = none ∧ countIn terms unit = 0) ∨
      ∃ sum, amountIn (terms.map Term.part) unit = some sum ∧ sum.IsWhole (countIn terms unit) := by
  have hfilter : (terms.map Term.part).filter (·.unit == unit) =
      (terms.filter (·.unit == unit)).map Term.part := by
    rw [List.filter_map]
    rfl
  have hcount := h.countIn_lt unit
  have hwhole : ∀ t ∈ terms.filter (·.unit == unit), t.IsWhole := fun t ht =>
    h.isWhole t (List.mem_of_mem_filter ht)
  rw [amountIn, hfilter, countIn]
  rw [countIn] at hcount
  cases hthose : terms.filter (·.unit == unit) with
  | nil => exact .inl ⟨rfl, rfl⟩
  | cons t those =>
    rw [hthose] at hcount hwhole
    refine .inr ⟨_, rfl, ?_⟩
    have hsum := isWhole_foldl Binary64.isWhole_zero hwhole (by rwa [Nat.zero_add])
    rwa [Nat.zero_add] at hsum

/-- A whole amount adds to the whole microseconds alone. -/
theorem Tally.add_isWhole {amount : Binary64} {n : Nat} (h : amount.IsWhole n) (whole : Int) :
    (Tally.mk whole (.zero false)).add amount unit =
      .ok ⟨whole + n * unit.micros, .zero false⟩ := by
  have hscaled : (Binary64.zero false).mul (.ofInt unit.micros) = .zero false := by
    cases unit <;> decide +kernel
  have hzero := Binary64.isWhole_zero
  have hsum : (Binary64.zero false).add (.zero false) = .zero false := by decide +kernel
  rw [Tally.add, h.truncate?_eq, h.fraction?_eq]
  simp only [hscaled, hzero.truncate?_eq, hzero.fraction?_eq, Option.getD_some, hsum]
  simp

theorem tallyFrom_whole (h : AreWhole terms) (units : List TimeUnit) (whole : Int) :
    tallyFrom ⟨whole, .zero false⟩
        (units.filterMap fun unit => (amountIn (terms.map Term.part) unit).map (unit, ·)) =
      .ok ⟨whole + (units.map fun unit => (countIn terms unit : Int) * unit.micros).sum,
        .zero false⟩ := by
  induction units generalizing whole with
  | nil => simp [tallyFrom, pure, Except.pure]
  | cons unit units ih =>
    rw [List.map_cons, List.sum_cons, ← Int.add_assoc]
    obtain ⟨hnone, hcount⟩ | ⟨sum, hsome, hsum⟩ := amountIn_parts h unit
    · rw [List.filterMap_cons_none (by rw [hnone]; rfl), ih, hcount]
      simp
    · rw [List.filterMap_cons_some (by rw [hsome]; rfl), tallyFrom, List.foldlM_cons]
      simp only [Tally.add_isWhole hsum]
      exact ih _

/-- Nothing is rounded where there are whole microseconds alone. -/
theorem Tally.micros_whole (whole : Int) : (Tally.mk whole (.zero false)).micros = whole := by
  obtain ⟨-, den, hden, hratio⟩ := Binary64.isWhole_zero
  have hpos : 0 < (den : Int) := by omega
  rw [Tally.micros, nearest, hratio]
  simp [Int.mul_ediv_cancel _ (Int.ne_of_gt hpos), hden]

/-- The sum over the units is the sum over the terms. -/
theorem sum_countIn (terms : List Term) :
    (TimeUnit.all.map fun unit => (countIn terms unit : Int) * unit.micros).sum =
      (terms.map Term.micros).sum := by
  induction terms with
  | nil => simp [countIn, TimeUnit.all]
  | cons t terms ih =>
    have hcons : ∀ unit, countIn (t :: terms) unit =
        (if t.unit = unit then t.count else 0) + countIn terms unit := by
      intro unit
      rw [countIn, List.filter_cons]
      by_cases hunit : t.unit = unit <;> simp [hunit, countIn]
    rw [List.map_cons, List.sum_cons, ← ih, Term.micros]
    simp only [TimeUnit.all, List.map_cons, List.map_nil, List.sum_cons, List.sum_nil, hcons]
    cases t.unit <;> simp <;> ring

/-- Whole amounts come to the sum of their microseconds. -/
theorem ofParts_whole (h : AreWhole terms) : ofParts (terms.map Term.part) =
    (Span.checked (terms.map Term.micros).sum).mapError .span := by
  rw [ofParts, spanOf_eq, tallyFrom_whole h, sum_countIn, Int.zero_add]
  simp only [Except.mapError, bind, Except.bind, Tally.micros_whole]

end Totals

end Duration

end SettingText
