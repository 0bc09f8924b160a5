import SettingText.Editor.Duration
import SettingText.Proofs.Except

/-!
Why a text is no length of time.
-/

namespace SettingText.Duration

variable {cause : Cause}

/-- Amounts that make no span come to more than one can hold. -/
theorem kind_of_spanOf {amounts : List (TimeUnit × Binary64)} (h : spanOf amounts = .error cause) :
    cause.kind = .overflow := by
  obtain h | ⟨_, -, h⟩ := bind_eq_error_iff.mp h <;>
    obtain ⟨fault, -, rfl⟩ := mapError_eq_error_iff.mp h <;> rfl

/-- A text that is not read is a bad value, or more than a span can hold. -/
theorem kind_of_read {text : String} (h : read text = .error cause) :
    cause.kind = .value ∨ cause.kind = .overflow := by
  rw [read] at h
  split at h
  · cases h
    exact .inl rfl
  · split at h
    · exact .inr (kind_of_spanOf h)
    · split at h
      · cases h
        exact .inl rfl
      · cases h
        exact .inl rfl
      · exact .inr (kind_of_spanOf h)

end SettingText.Duration
