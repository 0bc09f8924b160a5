import SettingText.Outcome.Basic
import SettingText.Validation.Basic

/-!
Outcomes made from plain data.
-/

namespace SettingText

open Validation in
/-- A failure made from plain data. -/
def Failure.validate : Json → Checked Failure :=
  record fun members =>
    (Checked.both (required members "code" Validation.text)
      (Checked.both (required members "message" Validation.text)
        (optional members "detail" [] dict))).map
      fun (code, message, detail) => ⟨code, message, detail⟩

open Validation in
/-- An outcome made from plain data. Members it does not know are left out. -/
def Outcome.validate : Json → Checked Outcome :=
  record fun members =>
    let failure : Json → Checked (Option Failure)
      | .null => .ok none
      | value => (Failure.validate value).map some
    (Checked.both (required members "ok" bool)
      (Checked.both (required members "op" Validation.text)
        (Checked.both (optional members "data" [] dict)
          (optional members "error" none failure)))).map
      fun (ok, op, data, failure) => ⟨ok, op, data, failure⟩

end SettingText
