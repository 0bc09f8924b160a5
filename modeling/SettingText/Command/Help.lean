import SettingText.Command.Arguments

/-!
What a program and its commands are called, which arguments and options they take, and how that is
laid out as help: a line of usage, what is done, and the options and commands in two columns.
-/

namespace SettingText.Command

/-- A command of a program. -/
structure CommandInfo where
  name : String
  /-- The words for its positional arguments. -/
  arguments : List String
  /-- What it does. -/
  help : String
  options : List OptionInfo
  /-- Lines that show how it is used. -/
  examples : List String
  deriving DecidableEq, Repr

/-- A program whose work is done by commands. -/
structure ProgramInfo where
  title : String
  version : String
  /-- What it does. -/
  help : String
  options : List OptionInfo
  commands : List CommandInfo
  deriving DecidableEq, Repr

/-- The option as help shows it: its names and the word for its value. -/
def OptionInfo.label (o : OptionInfo) : String :=
  ((o.short.map fun c => s!"-{c}, ").getD "") ++ o.long ++ ((o.value.map fun v => s!" {v}").getD "")

/-- Two columns, two blanks apart. The first is as wide as its longest text. -/
def columns (rows : List (String × String)) : List String :=
  let width := (rows.map (·.1.length)).foldl max 0
  rows.map fun (left, right) => "  " ++ left.pushn ' ' (width - left.length) ++ "  " ++ right

/-- A part of help under a heading. -/
def part (heading : String) (rows : List (String × String)) : List String :=
  ["", s!"{heading}:"] ++ columns rows

def optionsPart (options : List OptionInfo) : List String :=
  part "Options" (options.map fun o => (o.label, o.help))

/-- How a program or one of its commands is called: its name, and what may follow it. -/
structure Usage where
  name : String
  rest : String
  deriving DecidableEq, Repr

def Usage.line (u : Usage) : String := s!"Usage: {u.name} {u.rest}"

/-- How a program of some name is called. -/
def Usage.ofProgram (name : String) : Usage := ⟨name, "[OPTIONS] [COMMAND] [ARGS]..."⟩

def Usage.ofCommand (program : String) (c : CommandInfo) : Usage :=
  ⟨s!"{program} {c.name}", " ".intercalate ("[OPTIONS]" :: c.arguments)⟩

/-- Lines of text, each with its end. -/
def ofLines (lines : List String) : String := String.join (lines.map (· ++ "\n"))

def ProgramInfo.helpText (p : ProgramInfo) (name : String) : String :=
  ofLines ([(Usage.ofProgram name).line, "", s!"  {p.help}"] ++ optionsPart p.options ++
    part "Commands" (p.commands.map fun c => (c.name, c.help)))

def CommandInfo.helpText (c : CommandInfo) (program : String) : String :=
  ofLines ([(Usage.ofCommand program c).line, "", s!"  {c.help}"] ++ optionsPart c.options)

def CommandInfo.examplesText (c : CommandInfo) (program : String) : String :=
  ofLines ([s!"Examples for '{program} {c.name}':", ""] ++ c.examples.map fun e => s!"  {e}")

/-- The line that tells the version of a program. -/
def ProgramInfo.versionText (p : ProgramInfo) : String :=
  ofLines [s!"{p.title}, version {p.version}"]

end SettingText.Command
