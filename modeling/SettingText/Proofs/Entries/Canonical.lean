import Mathlib.Data.List.Induction
import SettingText.Entries.Lookup
import SettingText.Proofs.Except

/-!
Keeping each entry once, whatever it means that two entries are equal: an entry need not equal itself, and
what equals a third entry need not be equal. One step keeps an entry or finds an equal one that is kept;
a run keeps what it began with and puts some of the entries behind it, in their order.
-/

namespace SettingText.Entries

variable {ε α : Type} {same : α → α → Except ε Bool} {entries kept kept' result xs ys : List α}
  {entry wanted : α}

/-- No comparison of two of the entries fails. -/
def Comparable (same : α → α → Except ε Bool) (entries : List α) : Prop :=
  ∀ a ∈ entries, ∀ b ∈ entries, ∃ t, same a b = .ok t

/-- Entries that are equal by way of a third one are equal. -/
def Chains (same : α → α → Except ε Bool) (entries : List α) : Prop :=
  ∀ a ∈ entries, ∀ b ∈ entries, ∀ c ∈ entries,
    same a b = .ok true → same b c = .ok true → same a c = .ok true

theorem Comparable.mono {all : List α} (h : Comparable same all) (hsubset : entries ⊆ all) :
    Comparable same entries :=
  fun a ha b hb => h a (hsubset ha) b (hsubset hb)

theorem Chains.mono {all : List α} (h : Chains same all) (hsubset : entries ⊆ all) :
    Chains same entries :=
  fun a ha b hb c hc => h a (hsubset ha) b (hsubset hb) c (hsubset hc)

/-- No entry equals one that stands before it. -/
def Distinct (same : α → α → Except ε Bool) (entries : List α) : Prop :=
  entries.Pairwise fun a b => same a b = .ok false

/-- An entry that equals none of the kept ones is not among them. -/
theorem contains_eq_false (h : ∀ a ∈ kept, same a wanted = .ok false) :
    contains same wanted kept = .ok false := by
  induction kept with
  | nil => rfl
  | cons a rest ih =>
    rw [contains, h a (by simp)]
    exact ih fun b hb => h b (by simp [hb])

theorem contains_ok (h : ∀ a ∈ kept, ∃ b, same a wanted = .ok b) :
    ∃ b, contains same wanted kept = .ok b := by
  induction kept with
  | nil => exact ⟨false, rfl⟩
  | cons a rest ih =>
    obtain ⟨b, hb⟩ := h a (by simp)
    rw [contains, hb]
    cases b with
    | true => exact ⟨true, rfl⟩
    | false => exact ih fun c hc => h c (by simp [hc])

/-- What is not among the kept entries equals none of them. -/
theorem ne_of_contains_eq_false (h : contains same wanted kept = .ok false) :
    ∀ a ∈ kept, same a wanted = .ok false := by
  induction kept with
  | nil => simp
  | cons a rest ih =>
    rw [contains] at h
    obtain ⟨b, hb, h⟩ := bind_eq_ok_iff.mp h
    cases b with
    | true => cases h
    | false => exact List.forall_mem_cons.mpr ⟨hb, ih h⟩

/-- What is among the kept entries equals one of them. -/
theorem exists_of_contains_eq_true (h : contains same wanted kept = .ok true) :
    ∃ a ∈ kept, same a wanted = .ok true := by
  induction kept with
  | nil => cases h
  | cons a rest ih =>
    rw [contains] at h
    obtain ⟨b, hb, h⟩ := bind_eq_ok_iff.mp h
    cases b with
    | true => exact ⟨a, by simp, hb⟩
    | false =>
      obtain ⟨c, hc, hequal⟩ := ih h
      exact ⟨c, by simp [hc], hequal⟩

/-- A step that succeeds finds an equal entry that is kept already, or keeps this one behind the others,
none of which equals it. -/
theorem cases_of_keep (h : keep same kept entry = .ok kept') :
    (kept' = kept ∧ ∃ a ∈ kept, same a entry = .ok true) ∨
      (kept' = kept ++ [entry] ∧ ∀ a ∈ kept, same a entry = .ok false) := by
  obtain ⟨held, hheld, h⟩ := bind_eq_ok_iff.mp h
  cases held with
  | true =>
    cases h
    exact .inl ⟨rfl, exists_of_contains_eq_true hheld⟩
  | false =>
    cases h
    exact .inr ⟨rfl, ne_of_contains_eq_false hheld⟩

theorem keep_of_new (h : ∀ a ∈ kept, same a entry = .ok false) :
    keep same kept entry = .ok (kept ++ [entry]) := by
  rw [keep, contains_eq_false h]
  rfl

theorem exists_keep (h : ∀ a ∈ kept, ∃ t, same a entry = .ok t) :
    ∃ kept', keep same kept entry = .ok kept' := by
  obtain ⟨held, hheld⟩ := contains_ok h
  rw [keep, hheld]
  cases held with
  | true => exact ⟨kept, rfl⟩
  | false => exact ⟨kept ++ [entry], rfl⟩

theorem keep_of_held (hcomparable : ∀ a ∈ kept, ∃ t, same a entry = .ok t)
    (h : ∃ a ∈ kept, same a entry = .ok true) : keep same kept entry = .ok kept := by
  obtain ⟨kept', hkept'⟩ := exists_keep hcomparable
  obtain ⟨rfl, _⟩ | ⟨_, hnew⟩ := cases_of_keep hkept'
  · exact hkept'
  · obtain ⟨a, ha, hequal⟩ := h
    rw [hnew a ha] at hequal
    cases hequal

/-- A run puts some of the entries behind those it began with, in their order. -/
theorem exists_append_of_foldlM_keep (h : entries.foldlM (keep same) kept = .ok result) :
    ∃ fresh, result = kept ++ fresh ∧ fresh.Sublist entries := by
  induction entries generalizing kept with
  | nil =>
    cases h
    exact ⟨[], by simp, .slnil⟩
  | cons entry rest ih =>
    rw [List.foldlM_cons] at h
    obtain ⟨kept', hstep, h⟩ := bind_eq_ok_iff.mp h
    obtain ⟨fresh, rfl, hfresh⟩ := ih h
    obtain ⟨rfl, _⟩ | ⟨rfl, _⟩ := cases_of_keep hstep
    · exact ⟨fresh, rfl, hfresh.cons entry⟩
    · exact ⟨entry :: fresh, by simp, hfresh.cons_cons entry⟩

theorem distinct_of_foldlM_keep (hkept : Distinct same kept)
    (h : entries.foldlM (keep same) kept = .ok result) : Distinct same result := by
  induction entries generalizing kept with
  | nil =>
    cases h
    exact hkept
  | cons entry rest ih =>
    rw [List.foldlM_cons] at h
    obtain ⟨kept', hstep, h⟩ := bind_eq_ok_iff.mp h
    refine ih ?_ h
    obtain ⟨rfl, _⟩ | ⟨rfl, hnew⟩ := cases_of_keep hstep
    · exact hkept
    · refine List.pairwise_append.mpr ⟨hkept, List.pairwise_singleton _ _, fun a ha b hb => ?_⟩
      obtain rfl := List.mem_singleton.mp hb
      exact hnew a ha

/-- Entries of which none equals one before it are all kept. -/
theorem foldlM_keep_of_distinct (h : Distinct same (kept ++ entries)) :
    entries.foldlM (keep same) kept = .ok (kept ++ entries) := by
  induction entries generalizing kept with
  | nil => simp [pure, Except.pure]
  | cons entry rest ih =>
    have hnew : ∀ a ∈ kept, same a entry = .ok false := fun a ha =>
      (List.pairwise_append.mp h).2.2 a ha entry (by simp)
    have hrest : Distinct same ((kept ++ [entry]) ++ rest) := by simpa using h
    calc (entry :: rest).foldlM (keep same) kept
        = rest.foldlM (keep same) (kept ++ [entry]) := by
          rw [List.foldlM_cons, keep_of_new hnew]
          rfl
      _ = .ok (kept ++ entry :: rest) := by rw [ih hrest, List.append_assoc, List.singleton_append]

theorem exists_foldlM_keep (h : Comparable same (kept ++ entries)) :
    ∃ result, entries.foldlM (keep same) kept = .ok result := by
  induction entries generalizing kept with
  | nil => exact ⟨kept, rfl⟩
  | cons entry rest ih =>
    have hcomparable : ∀ a ∈ kept, ∃ equal, same a entry = .ok equal := fun a ha =>
      h a (by simp [ha]) entry (by simp)
    obtain ⟨kept', hstep⟩ := exists_keep hcomparable
    have hkept' : kept' ⊆ kept ++ [entry] := by
      obtain ⟨rfl, _⟩ | ⟨rfl, _⟩ := cases_of_keep hstep <;> simp
    have hsubset : kept' ++ rest ⊆ kept ++ entry :: rest := by
      rw [List.append_cons]
      exact List.append_subset.mpr ⟨List.subset_append_of_subset_left rest hkept',
        List.subset_append_right _ rest⟩
    rw [List.foldlM_cons, hstep]
    exact ih fun a ha b hb => h a (hsubset ha) b (hsubset hb)

/-- Every entry that a run goes through is kept in the end, or an entry is that equals it. -/
theorem mem_or_exists_of_foldlM_keep (h : entries.foldlM (keep same) kept = .ok result)
    (hentry : entry ∈ entries) : entry ∈ result ∨ ∃ a ∈ result, same a entry = .ok true := by
  induction entries generalizing kept with
  | nil => cases hentry
  | cons first rest ih =>
    rw [List.foldlM_cons] at h
    obtain ⟨kept', hstep, hrest⟩ := bind_eq_ok_iff.mp h
    obtain rfl | hentry := List.mem_cons.mp hentry
    · obtain ⟨fresh, rfl, _⟩ := exists_append_of_foldlM_keep hrest
      obtain ⟨rfl, a, ha, hequal⟩ | ⟨rfl, _⟩ := cases_of_keep hstep
      · exact .inr ⟨a, by simp [ha], hequal⟩
      · exact .inl (by simp)
    · exact ih hrest hentry

theorem canonical_append (xs ys : List α) :
    canonical same (xs ++ ys) = canonical same xs >>= fun kept => ys.foldlM (keep same) kept :=
  List.foldlM_append

theorem canonical_append_singleton (front : List α) (last : α) :
    canonical same (front ++ [last]) = canonical same front >>= fun kept => keep same kept last := by
  rw [canonical_append]
  exact bind_congr fun kept => bind_ok (keep same kept last)

theorem sublist_of_canonical (h : canonical same entries = .ok kept) : kept.Sublist entries := by
  obtain ⟨fresh, rfl, hfresh⟩ := exists_append_of_foldlM_keep h
  exact hfresh

theorem distinct_of_canonical (h : canonical same entries = .ok kept) : Distinct same kept :=
  distinct_of_foldlM_keep .nil h

theorem canonical_of_distinct (h : Distinct same entries) : canonical same entries = .ok entries :=
  foldlM_keep_of_distinct h

theorem exists_canonical (h : Comparable same entries) : ∃ kept, canonical same entries = .ok kept :=
  exists_foldlM_keep h

/-- Of the entries that stand before one, some are kept, at the beginning of all that is kept. The entry
follows them there, or it equals one of them. -/
theorem prefix_of_canonical {before after : List α}
    (h : canonical same (before ++ entry :: after) = .ok kept) :
    ∃ earlier, canonical same before = .ok earlier ∧
      (earlier ++ [entry] <+: kept ∨ earlier <+: kept ∧ ∃ a ∈ earlier, same a entry = .ok true) := by
  rw [canonical_append] at h
  obtain ⟨earlier, hearlier, h⟩ := bind_eq_ok_iff.mp h
  refine ⟨earlier, hearlier, ?_⟩
  rw [List.foldlM_cons] at h
  obtain ⟨kept', hstep, h⟩ := bind_eq_ok_iff.mp h
  obtain ⟨fresh, rfl, _⟩ := exists_append_of_foldlM_keep h
  obtain ⟨rfl, hheld⟩ | ⟨rfl, _⟩ := cases_of_keep hstep
  · exact .inr ⟨List.prefix_append _ _, hheld⟩
  · exact .inl (List.prefix_append _ _)

/-- The first part may be done with before the second is looked at, also where a comparison fails. -/
theorem canonical_append_left (xs ys : List α) :
    canonical same (xs ++ ys) = canonical same xs >>= fun kept => canonical same (kept ++ ys) := by
  rw [canonical_append]
  cases hxs : canonical same xs with
  | error fault => rfl
  | ok kept =>
    change ys.foldlM (keep same) kept = canonical same (kept ++ ys)
    rw [canonical_append, canonical_of_distinct (distinct_of_canonical hxs)]
    rfl

/-- Where equality chains, what equals one of the entries equals one of those that are kept. -/
theorem exists_equal_of_canonical {all : List α} (hchains : Chains same all) (hentries : entries ⊆ all)
    (hwanted : wanted ∈ all) (h : canonical same entries = .ok kept) (hentry : entry ∈ entries)
    (hequal : same entry wanted = .ok true) : ∃ a ∈ kept, same a wanted = .ok true := by
  obtain hkept | ⟨a, ha, hfirst⟩ := mem_or_exists_of_foldlM_keep h hentry
  · exact ⟨entry, hkept, hequal⟩
  · have hmem : a ∈ all := hentries ((sublist_of_canonical h).subset ha)
    exact ⟨a, ha, hchains a hmem entry (hentries hentry) wanted hwanted hfirst hequal⟩

/-- The second part may be done with before it is put behind the first, where equality chains. By induction
on the second part from its end: an entry that is left out of it equals one that is kept of it, and so one
that is kept of the whole. -/
theorem canonical_append_right (hcomparable : Comparable same (xs ++ ys))
    (hchains : Chains same (xs ++ ys)) :
    canonical same (xs ++ ys) = canonical same ys >>= fun kept => canonical same (xs ++ kept) := by
  induction ys using List.reverseRecOn with
  | nil => rfl
  | append_singleton front last ih =>
    have hfront : xs ++ front ⊆ xs ++ (front ++ [last]) := by simp
    have hlast : last ∈ xs ++ (front ++ [last]) := by simp
    obtain ⟨kept, hkept⟩ := exists_canonical (hcomparable.mono (List.subset_append_of_subset_right xs
      (List.subset_append_left front [last])))
    obtain ⟨whole, hwhole⟩ := exists_canonical (hcomparable.mono hfront)
    have hparts : canonical same (xs ++ kept) = .ok whole := by
      have hih := ih (hcomparable.mono hfront) (hchains.mono hfront)
      rw [hwhole, hkept] at hih
      exact hih.symm
    obtain ⟨kept', hkept'⟩ := exists_canonical (hcomparable.mono (List.subset_append_right xs _))
    rw [hkept', ← List.append_assoc, canonical_append_singleton, hwhole]
    change keep same whole last = canonical same (xs ++ kept')
    rw [canonical_append_singleton, hkept] at hkept'
    obtain ⟨rfl, b, hb, hequal⟩ | ⟨rfl, _⟩ := cases_of_keep hkept'
    · have hsubset : xs ++ kept' ⊆ xs ++ (front ++ [last]) :=
        List.append_subset.mpr ⟨by simp, ((sublist_of_canonical hkept).trans (by simp)).subset⟩
      rw [hparts]
      refine keep_of_held (fun a ha => ?_) ?_
      · exact hcomparable a (hfront ((sublist_of_canonical hwhole).subset ha)) last hlast
      · exact exists_equal_of_canonical hchains hsubset hlast hparts (by simp [hb]) hequal
    · rw [← List.append_assoc, canonical_append_singleton, hparts]
      rfl

end SettingText.Entries
