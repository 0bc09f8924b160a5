import SettingText.Journal.Pattern
import SettingText.Journal.Record

/-!
Which log records are let through, and how they are laid out: as JSON for programs, or as a line for
people.
-/

namespace SettingText

/-- How a program logs. -/
structure LogStyle where
  /-- The program's own records are let through from the least severity on. -/
  verbose : Bool := false
  /-- Records are laid out as JSON. -/
  json : Bool := false
  deriving DecidableEq, Repr

def LogRecord.programLogger : String := "settingconv"

/-- The logger of a name. Without a name it is the one above all loggers. -/
def LogRecord.loggerOf (name : String) : String := if name.isEmpty then "root" else name

/-- A logger is another one or lies below it. -/
def LogRecord.isBelow (logger above : String) : Bool :=
  logger == above || logger.startsWith (above ++ ".")

namespace LogStyle

/-- The least severity that the program's own loggers let through. -/
def programLevel (style : LogStyle) : LogLevel := if style.verbose then .debug else .warning

/-- The least severity that all other loggers let through. -/
def otherLevel : LogLevel := .warning

/-- The least severity that a logger lets through. -/
def levelOf (style : LogStyle) (logger : String) : LogLevel :=
  if LogRecord.isBelow logger LogRecord.programLogger then style.programLevel else otherLevel

/-- A logger lets records of a severity through. -/
def enables (style : LogStyle) (logger : String) (level : LogLevel) : Bool :=
  decide ((style.levelOf logger).number ≤ level.number)

/-- The record is let through. -/
def passes (style : LogStyle) (r : LogRecord) : Bool := style.enables r.logger r.level

end LogStyle

namespace LogRecord

/-- The width to which messages are filled up. -/
def messageWidth : Nat := 30

def line (r : LogRecord) : String :=
  r.message.pushn ' ' (messageWidth - r.message.length) ++ s!" [{r.logger}]"

/-- The record as JSON, without the time. -/
def toJson (r : LogRecord) : List (String × Json) :=
  [("event", .text r.message), ("logger", .text r.logger),
    ("level", .text (r.level.name.map Char.toLower))]

/-- The message of a pattern and its values. Without values a pattern stands for itself. -/
def messageOf (pattern : String) (values : List Json) : Except Cause String :=
  if values.isEmpty then .ok pattern else Pattern.fill pattern values

end LogRecord

end SettingText
