import Mathlib.Data.List.Chain
import SettingText.Calendar.Regions
import SettingText.Proofs.Calendar.Instant

/-!
Regions with a record of their changes and no rule. When the changes lie days apart, each reading of the
clocks leads back to its instant, and a reading that comes twice comes for the first time first.
-/

namespace SettingText.Calendar

/-- Four days, which is more than two changes can set the clocks. -/
def distantSeconds : Int := 345600

/-- Changes of a distance that is `start` at first. Each change begins with the distance that the one
before it has left, and lies days behind that one. -/
structure Transition.Follow (start : Int) (changes : List Transition) : Prop where
  initial : start.natAbs < 86400
  short : ∀ t ∈ changes, t.after.natAbs < 86400
  begins : ∀ t ∈ changes.head?, t.before = start
  linked : changes.IsChain fun s t => t.before = s.after
  apart : changes.Pairwise fun s t => s.instant + distantSeconds ≤ t.instant

namespace Transition

variable {start instant wall : Int} {changes past later : List Transition} {t : Transition} {fold : Bool}

/-- The changes behind one of them follow the distance that it leaves. -/
theorem Follow.behind (h : Follow start (past ++ t :: later)) :
    Follow t.after later ∧ ∀ next ∈ later, t.instant + distantSeconds ≤ next.instant := by
  obtain ⟨-, hlinked, -⟩ := List.isChain_append.mp h.linked
  obtain ⟨-, happart, -⟩ := List.pairwise_append.mp h.apart
  obtain ⟨hnext, happart⟩ := List.pairwise_cons.mp happart
  obtain ⟨hbegins, hlinked⟩ := List.isChain_cons.mp hlinked
  have hshort : ∀ next ∈ later, next.after.natAbs < 86400 := fun next hmem =>
    h.short next (by simp [hmem])
  exact ⟨⟨h.short t (by simp), hshort, hbegins, hlinked, happart⟩, hnext⟩

/-- A change begins with the distance at first, or with the one that the change before it has left days
earlier. -/
theorem Follow.before (h : Follow start (past ++ t :: later)) :
    (past = [] ∧ t.before = start) ∨ ∃ earlier last, past = earlier ++ [last] ∧ t.before = last.after ∧
      last.instant + distantSeconds ≤ t.instant := by
  obtain rfl | ⟨earlier, last, rfl⟩ := List.eq_nil_or_concat' past
  · exact .inl ⟨rfl, h.begins t rfl⟩
  · obtain ⟨-, -, hlinked⟩ := List.isChain_append.mp h.linked
    obtain ⟨-, -, happart⟩ := List.pairwise_append.mp h.apart
    exact .inr ⟨earlier, last, rfl, hlinked last (by simp) t (by simp),
      happart last (by simp) t (by simp)⟩

theorem Follow.natAbs_before (h : Follow start (past ++ t :: later)) : t.before.natAbs < 86400 := by
  obtain ⟨-, heq⟩ | ⟨earlier, last, rfl, heq, -⟩ := h.before
  · exact heq ▸ h.initial
  · exact heq ▸ h.short last (by simp)

/-- A clock that reads the distance at first has not come to any change that is still to be. In a
repeated hour the changes must be far off. -/
theorem Follow.lt_wall (h : Follow start changes) (hstill : ∀ t ∈ changes, instant < t.instant)
    (hfar : fold = true → ∀ t ∈ changes, instant + 172800 ≤ t.instant) :
    ∀ t ∈ changes, instant + start < t.wall fold := by
  have hstart := h.initial
  intro t ht
  obtain ⟨past, later, rfl⟩ := List.append_of_mem ht
  have hbefore := h.natAbs_before
  have hafter := h.short t ht
  have hlt := hstill t ht
  rw [wall]
  -- only the first change to be begins with the distance that the clock reads; the others are days away
  obtain ⟨-, heq⟩ | ⟨earlier, last, rfl, -, hdistant⟩ := h.before
  · cases fold with
    | false =>
      simp only [Bool.false_eq_true, if_false]
      omega
    | true =>
      have hlarge := hfar rfl t ht
      simp only [if_true]
      omega
  · have hlast := hstill last (by simp)
    simp only [distantSeconds] at hdistant
    split <;> omega

section LastChange

variable {test : Transition → Bool}

open RegionRecord

theorem lastChange_eq_none (h : ∀ t ∈ changes, test t = false) : lastChange test changes = none := by
  have hfilter : changes.filter test = [] := by
    simpa using h
  rw [lastChange, hfilter]
  rfl

theorem lastChange_eq_some (ht : test t = true) (hlater : ∀ t ∈ later, test t = false) :
    lastChange test (past ++ t :: later) = some t := by
  have hfilter : later.filter test = [] := by
    simpa using hlater
  rw [lastChange, List.filter_append, List.filter_cons_of_pos ht, hfilter, List.getLast?_concat]

/-- No change passes, or there is a last one that does. -/
theorem exists_last (test : Transition → Bool) (changes : List Transition) :
    (∀ t ∈ changes, test t = false) ∨ ∃ past t later, changes = past ++ t :: later ∧ test t = true ∧
      ∀ t ∈ later, test t = false := by
  induction changes with
  | nil => exact .inl (List.forall_mem_nil _)
  | cons t changes ih =>
    obtain hnone | ⟨past, last, later, rfl, hlast, hlater⟩ := ih
    · cases ht : test t with
      | false => exact .inl (List.forall_mem_cons.mpr ⟨ht, hnone⟩)
      | true => exact .inr ⟨[], t, changes, rfl, ht, hnone⟩
    · exact .inr ⟨t :: past, last, later, rfl, hlast, hlater⟩

end LastChange

end Transition

namespace RegionRecord

open Transition

variable {r : RegionRecord} {past later : List Transition} {t : Transition} {instant wall : Int}
  {fold : Bool}

/-- The changes on record are all there are, and follow each other. -/
structure Spaced (r : RegionRecord) : Prop where
  rule : r.rule = none
  follow : Follow r.first r.recorded

section Readings

theorem Spaced.atWall_eq (h : r.Spaced) (wall : Int) (fold : Bool) : r.region.atWall wall fold =
    ((lastChange (fun t => t.wall fold ≤ wall) r.recorded).map (·.after)).getD r.first := by
  rw [region]
  dsimp only
  rw [transitionsNear, h.rule]
  cases lastChange (fun t => t.wall fold ≤ wall) r.recorded <;> rfl

theorem Spaced.atInstant_eq (h : r.Spaced) (instant : Int) : r.region.atInstant instant =
    ((lastChange (fun t => t.instant ≤ instant) r.recorded).map fun t =>
      (t.after, t.repeats instant)).getD (r.first, false) := by
  rw [region]
  dsimp only
  rw [transitionsNear, h.rule]
  cases lastChange (fun t => t.instant ≤ instant) r.recorded <;> rfl

theorem Spaced.atInstant_first (h : r.Spaced) (hnone : ∀ t ∈ r.recorded, instant < t.instant) :
    r.region.atInstant instant = (r.first, false) := by
  rw [h.atInstant_eq, lastChange_eq_none fun t ht => decide_eq_false (Int.not_le.mpr (hnone t ht))]
  rfl

theorem Spaced.atInstant_change (h : r.Spaced) (hsplit : r.recorded = past ++ t :: later)
    (hpast : t.instant ≤ instant) (hstill : ∀ next ∈ later, instant < next.instant) :
    r.region.atInstant instant = (t.after, t.repeats instant) := by
  rw [h.atInstant_eq, hsplit, lastChange_eq_some (decide_eq_true hpast)
    fun t ht => decide_eq_false (Int.not_le.mpr (hstill t ht))]
  rfl

/-- An instant lies before all changes, or behind a last one. -/
theorem exists_last_change (r : RegionRecord) (instant : Int) :
    (∀ t ∈ r.recorded, instant < t.instant) ∨ ∃ past t later, r.recorded = past ++ t :: later ∧
      t.instant ≤ instant ∧ ∀ next ∈ later, instant < next.instant := by
  have hlast := exists_last (fun t => decide (t.instant ≤ instant)) r.recorded
  simpa only [decide_eq_false_iff_not, Int.not_le, decide_eq_true_eq] using hlast

end Readings

section Lawful

theorem wall_le (h : t.instant ≤ instant) : t.wall (t.repeats instant) ≤ instant + t.after := by
  cases hrepeats : t.repeats instant with
  | false =>
    simp only [repeats, Bool.and_eq_false_iff, decide_eq_false_iff_not] at hrepeats
    simp only [Transition.wall, Bool.false_eq_true, if_false]
    omega
  | true =>
    simp only [Transition.wall, if_true]
    omega

theorem Spaced.inverts (h : r.Spaced) (instant : Int) :
    r.region.atWall (instant + (r.region.atInstant instant).1) (r.region.atInstant instant).2 =
      (r.region.atInstant instant).1 := by
  obtain hnone | ⟨past, t, later, hsplit, hpast, hstill⟩ := exists_last_change r instant
  · have hwall : ∀ t ∈ r.recorded, instant + r.first < t.wall false :=
      h.follow.lt_wall hnone (by simp)
    rw [h.atInstant_first hnone, h.atWall_eq,
      lastChange_eq_none fun t ht => decide_eq_false (Int.not_le.mpr (hwall t ht))]
    rfl
  · have hfollow := h.follow
    rw [hsplit] at hfollow
    obtain ⟨hbehind, hdistant⟩ := hfollow.behind
    have hbefore := hfollow.natAbs_before
    have hafter := hbehind.initial
    have hfar : t.repeats instant = true → ∀ next ∈ later, instant + 172800 ≤ next.instant := by
      intro hrepeats next hnext
      have hlarge := hdistant next hnext
      simp only [repeats, Bool.and_eq_true, decide_eq_true_eq] at hrepeats
      simp only [distantSeconds] at hlarge
      omega
    have hwall := hbehind.lt_wall hstill hfar
    rw [h.atInstant_change hsplit hpast hstill, h.atWall_eq, hsplit,
      lastChange_eq_some (decide_eq_true (wall_le hpast))
        fun t ht => decide_eq_false (Int.not_le.mpr (hwall t ht))]
    rfl

/-- The first reading of a repeated hour is as long before the change as the clocks are set back. -/
theorem Spaced.shows_first (h : r.Spaced) (hshows : r.region.Shows wall true) :
    r.region.Shows wall false := by
  obtain ⟨instant, rfl, hfold⟩ := hshows
  obtain hnone | ⟨past, t, later, hsplit, hpast, hstill⟩ := exists_last_change r instant
  · rw [h.atInstant_first hnone] at hfold
    cases hfold
  rw [h.atInstant_change hsplit hpast hstill] at hfold ⊢
  have hfollow := h.follow
  rw [hsplit] at hfollow
  have hbefore := hfollow.natAbs_before
  have hafter := hfollow.behind.1.initial
  have hdistant := hfollow.behind.2
  simp only [repeats, Bool.and_eq_true, decide_eq_true_eq, distantSeconds] at hfold hdistant
  -- at this instant, before the change, the clocks showed the reading for the first time
  have hstill' : ∀ next ∈ t :: later, instant + t.after - t.before < next.instant := by
    refine List.forall_mem_cons.mpr ⟨by omega, fun next hnext => ?_⟩
    have hlarge := hdistant next hnext
    omega
  refine ⟨instant + t.after - t.before, ?_⟩
  obtain ⟨rfl, hfirst⟩ | ⟨earlier, last, rfl, hlast, hlarge⟩ := hfollow.before
  · rw [h.atInstant_first (by rw [hsplit]; exact hstill')]
    exact ⟨by omega, rfl⟩
  · have hsplit' : r.recorded = earlier ++ last :: (t :: later) := by
      rw [hsplit, List.append_assoc]
      rfl
    have hfollow' := h.follow
    rw [hsplit'] at hfollow'
    have hbefore' := hfollow'.natAbs_before
    simp only [distantSeconds] at hlarge
    rw [h.atInstant_change hsplit' (by omega) hstill']
    refine ⟨by omega, ?_⟩
    simp only [repeats, Bool.and_eq_false_iff, decide_eq_false_iff_not]
    omega

theorem Spaced.short (h : r.Spaced) (wall : Int) (fold : Bool) :
    (r.region.atWall wall fold).natAbs < 86400 := by
  rw [h.atWall_eq]
  cases hlast : lastChange (fun t => t.wall fold ≤ wall) r.recorded with
  | none => exact h.follow.initial
  | some t => exact h.follow.short t (List.mem_filter.mp (List.mem_of_getLast? hlast)).1

/-- The clocks of a region with a record of distant changes can be relied on. -/
theorem Spaced.lawful (h : r.Spaced) : r.region.Lawful :=
  ⟨h.inverts, fun _ => h.shows_first, h.short⟩

end Lawful

end RegionRecord

namespace Regions

/-- The changes on record of the regions without a rule follow each other. -/
theorem spaced_of_mem_all : ∀ r ∈ all, r.rule = none → r.Spaced := by
  have hfollow : ∀ r ∈ all, r.rule = none → r.first.natAbs < 86400 ∧
      (∀ t ∈ r.recorded, t.after.natAbs < 86400) ∧ (∀ t ∈ r.recorded.head?, t.before = r.first) ∧
      (r.recorded.IsChain fun s t => t.before = s.after) ∧
      r.recorded.Pairwise fun s t => s.instant + distantSeconds ≤ t.instant := by
    decide
  intro r hmem hrule
  obtain ⟨hinitial, hshort, hbegins, hlinked, hapart⟩ := hfollow r hmem hrule
  exact ⟨hrule, hinitial, hshort, hbegins, hlinked, hapart⟩

end Regions

end SettingText.Calendar
