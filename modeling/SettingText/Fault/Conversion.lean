import SettingText.Fault.Cause
import SettingText.Json.Value
import SettingText.Setting
import SettingText.Types.Descriptor

/-!
The ways a conversion fails: no converter is found for a type, a text does not parse, a converter is
put together wrongly, or an error that is none of these passes through.
-/

namespace SettingText

/-- A failed conversion. -/
inductive Fault where
  /-- No converter can be found or built for a type. -/
  | noConverter (descriptor : Descriptor)
  /-- A text could not be parsed. `target` is the name of the type it was to become, and `cause`
      the kind of the error that the parser met. -/
  | malformed (raw : Option String) (reason : String) (value : Option Setting)
      (target : Option String) (cause : Option ErrorKind)
  /-- A converter was put together wrongly. -/
  | misconfigured (message : String)
  /-- An error that is no failure of a conversion. -/
  | stray (cause : Cause)
  deriving DecidableEq, Repr

namespace Fault

/-- The failure belongs to conversions; any other error passes through. -/
def isConversionError : Fault → Bool
  | stray _ => false
  | _ => true

/-- The wording of a failure. -/
def message : Fault → String
  | noConverter descriptor => s!"No converter available for {descriptor.text}"
  | malformed raw reason _ target _ =>
    let goal := match target with
      | some name => s!" to {name}"
      | none => ""
    s!"Cannot convert {Setting.shownRaw raw}{goal}: {reason}"
  | misconfigured message => message
  | stray cause => cause.message

/-- The code of a failure, for programs. -/
def code : Fault → String
  | noConverter _ => "NO_CONVERTER"
  | malformed .. => "MALFORMED_VALUE"
  | misconfigured _ => "MISCONFIGURED_CONVERTER"
  | stray _ => "CONVERSION_ERROR"

/-- A text, or null for none. -/
def rawJson (raw : Option String) : Json :=
  match raw with
  | some text => .text text
  | none => .null

/-- What a failure is about, for programs. -/
def detail : Fault → List (String × Json)
  | noConverter descriptor => [("type", .text descriptor.text)]
  | malformed raw reason value target _ =>
    [("raw", rawJson raw), ("reason", .text reason)] ++
      (target.map fun name => ("type", Json.text name)).toList ++
      (value.map fun setting => ("setting", Json.text setting.describe)).toList
  | misconfigured _ => []
  | stray _ => []

/-- The kind of the error behind a malformed text. -/
def cause? : Fault → Option ErrorKind
  | malformed _ _ _ _ cause => cause
  | _ => none

/--
The outcome of a parser for a setting. A parse error becomes a malformed text that names the setting
and the target; any other error passes through.
-/
def ofParse (setting : Setting) (raw : String) (target : Option String) (cause : Cause) : Fault :=
  if cause.kind.isParseError then
    malformed (some raw) cause.message (some setting) target (some cause.kind)
  else stray cause

end Fault

end SettingText
