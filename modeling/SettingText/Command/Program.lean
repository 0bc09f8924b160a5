import SettingText.Command.Help

/-!
The program: it converts the text of a setting to a type, or describes how it would be converted.
-/

namespace SettingText.Command

/-- What the program can do. -/
inductive Action where
  | convert | describe
  deriving DecidableEq, Repr

/-- All that the program can do. -/
def Action.all : List Action := [convert, describe]

def helpOption : OptionInfo := { long := "--help", help := "Show this message and exit." }

def examplesOption : OptionInfo := { long := "--examples", help := "Show usage examples." }

def Action.info : Action → CommandInfo
  | convert =>
    { name := "convert"
      arguments := ["TYPE", "[RAW]"]
      help := "Convert RAW to TYPE and print the result."
      options := [
        { long := "--name", value := some "TEXT", help := "Setting name reported in errors." },
        { long := "--absent", help := "Convert an absent value instead of RAW." },
        examplesOption, helpOption]
      examples := [
        "settingconv convert 'list[int]' '1,2,3'",
        "settingconv convert 'dict[str, int]' 'a=1,b=2'",
        "settingconv convert 'tuple[str, ...]' 'a\\,b,c'",
        "settingconv convert 'int | None' --absent",
        "settingconv --json convert LogLevel warn"] }
  | describe =>
    { name := "describe"
      arguments := ["TYPE"]
      help := "Show the synthesized descriptor and resolved converter for TYPE."
      options := [examplesOption, helpOption]
      examples := [
        "settingconv describe 'Sequence[int]'",
        "settingconv describe 'type[collections.abc.Mapping]'"] }

/-- The action of a command's name. -/
def Action.ofName? (name : String) : Option Action := Action.all.find? (·.info.name == name)

def program : ProgramInfo :=
  { title := "settingconv"
    version := "0.3.0"
    help := "settingconv — convert raw setting strings into typed values."
    options := [
      { long := "--version", help := "Show the version and exit." },
      { long := "--json", help := "Structured JSON output." },
      { long := "--verbose", short := some 'v', help := "Debug logging and error detail." },
      { long := "--log-json", help := "Structured JSON log output to stderr." },
      { long := "--config", short := some 'c', value := some "TEXT",
        help := "Override config file path." },
      helpOption]
    commands := Action.all.map (·.info) }

end SettingText.Command
