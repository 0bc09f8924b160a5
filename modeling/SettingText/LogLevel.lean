import SettingText.Number.Literal

/-!
The severity of a log record: six levels with names and numbers.
-/

namespace SettingText

/-- A severity. -/
inductive LogLevel where
  | notset | debug | info | warning | error | critical
  deriving DecidableEq, Repr

namespace LogLevel

/-- All severities, the least first. -/
def all : List LogLevel := [notset, debug, info, warning, error, critical]

def number : LogLevel → Nat
  | notset => 0
  | debug => 10
  | info => 20
  | warning => 30
  | error => 40
  | critical => 50

def name : LogLevel → String
  | notset => "NOTSET"
  | debug => "DEBUG"
  | info => "INFO"
  | warning => "WARNING"
  | error => "ERROR"
  | critical => "CRITICAL"

/-- Why a text is no severity. -/
inductive ReadFault where
  /-- The text is neither a name nor a number. -/
  | notNumber (fault : Number.LiteralFault)
  /-- No severity has this number. -/
  | unknown (number : Int)
  deriving DecidableEq, Repr

/-- The wording of a refused severity. -/
def ReadFault.message : ReadFault → String
  | notNumber fault => fault.message
  | unknown number => s!"{number} is not a valid LogLevel"

/-- The severity of a name or of one of the two short forms. -/
def ofName? (name : String) : Option LogLevel :=
  match name with
  | "WARN" => some warning
  | "FATAL" => some critical
  | _ => all.find? (·.name == name)

def ofNumber? (n : Int) : Option LogLevel := all.find? fun level => (level.number : Int) == n

/-- Read a severity by its name, in any case, or by its number. -/
def read (text : String) : Except ReadFault LogLevel :=
  let name := Text.upper (Text.strip text)
  match ofName? name with
  | some level => .ok level
  | none =>
    match Number.readInteger 10 name with
    | .error fault => .error (.notNumber fault)
    | .ok n =>
      match ofNumber? n with
      | some level => .ok level
      | none => .error (.unknown n)

end LogLevel

end SettingText
