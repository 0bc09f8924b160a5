import SettingText.Proofs.Text.Run
import SettingText.Text.Case

/-!
Small letters of texts that are put together. Only a capital sigma looks at its neighbours, so that texts
without one are put into small letters piece by piece, and blanks stay what they are.
-/

namespace SettingText.Text

variable {cs : List Char} {before : List Char}

theorem lowerAfter_eq_flatMap (h : capitalSigma ∉ cs) : lowerAfter before cs = cs.flatMap lowerChar := by
  induction cs generalizing before with
  | nil => rfl
  | cons c cs ih =>
    have hc : c ≠ capitalSigma := fun heq => h (heq ▸ List.mem_cons_self)
    rw [lowerAfter, if_neg hc, ih fun hmem => h (List.mem_cons_of_mem c hmem), List.flatMap_cons]

/-- A capital sigma leaves one of the two small ones behind. -/
theorem exists_sigma_of_mem (h : capitalSigma ∈ cs) : ∃ c ∈ lowerAfter before cs, c = 'σ' ∨ c = 'ς' := by
  induction cs generalizing before with
  | nil => cases h
  | cons c cs ih =>
    rw [lowerAfter]
    by_cases hc : c = capitalSigma
    · refine ⟨smallSigma before cs, ?_, ?_⟩
      · rw [if_pos hc]
        exact List.mem_cons_self
      · rw [smallSigma]
        split
        · exact .inr rfl
        · exact .inl rfl
    · obtain hmem | hmem := List.mem_cons.mp h
      · exact (hc hmem.symm).elim
      · obtain ⟨d, hd, hsigma⟩ := @ih (c :: before) hmem
        exact ⟨d, List.mem_append_right _ hd, hsigma⟩

theorem lowerChar_blankRanges : ∀ b ∈ blankRanges.toList, ∀ n ∈ List.range' b.1 (b.2 + 1 - b.1),
    lowerChar (Char.ofNat n) = [Char.ofNat n] := by
  decide +kernel

theorem lowerChar_of_isBlank {c : Char} (h : isBlank c = true) : lowerChar c = [c] := by
  rw [isBlank, CodePoint.within, ← Array.any_toList, List.any_eq_true] at h
  obtain ⟨b, hb, hrange⟩ := h
  simp only [Bool.and_eq_true, decide_eq_true_eq] at hrange
  have hmem : c.toNat ∈ List.range' b.1 (b.2 + 1 - b.1) := by
    rw [List.mem_range'_1]
    omega
  have hlower := lowerChar_blankRanges b hb c.toNat hmem
  rwa [Char.ofNat_toNat] at hlower

theorem flatMap_lowerChar_of_isBlank (h : ∀ c ∈ cs, isBlank c = true) : cs.flatMap lowerChar = cs := by
  induction cs with
  | nil => rfl
  | cons c cs ih =>
    obtain ⟨hc, hcs⟩ := List.forall_mem_cons.mp h
    rw [List.flatMap_cons, lowerChar_of_isBlank hc, ih hcs]
    rfl

end SettingText.Text
