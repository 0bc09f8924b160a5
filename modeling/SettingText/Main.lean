import SettingText.Classes.Own
import SettingText.Command.Run

/-! The command line: reads what the program may ask for, runs it, and prints its reply. -/

open SettingText

/-- The variables that may be settings. -/
def readVariables : IO (List (String × String)) := do
  Config.variableNames.filterMapM fun name => do
    return (← IO.getEnv name).map fun value => (name, value)

/-- The files that may be read, as far as they are there. -/
def readFiles (s : Config.Surroundings) (args : List String) : IO FileTree := do
  (s.candidates (Command.namedFile args)).foldlM (fun tree name => do
    try return tree.add name (← IO.FS.readFile name.text) catch _ => return tree) s.files

def main (args : List String) : IO UInt32 := do
  let current := PathName.read (← IO.currentDir).toString
  let s : Config.Surroundings := { files := { current }, environment := ← readVariables }
  let s := { s with files := ← readFiles s args }
  let reply := Command.run "settingconv" Universe.standard s args
  IO.print reply.out
  IO.eprint reply.errorText
  return UInt32.ofNat reply.status
