import SettingText.FileTree

/-!
Which configuration file is used. A file named by hand counts alone, also when it is missing; a file
named by a variable counts before the one that is found by walking up from a directory.
-/

namespace SettingText.Config

def fileName : String := "settingconv.toml"

def fileVariable : String := "SETTINGCONV_CONFIG"

/-- Where a program runs: its files and its variables, in order. -/
structure Surroundings where
  files : FileTree := {}
  environment : List (String × String) := []

namespace Surroundings

/-- The value of a variable. Of several values the last counts. -/
def value? (s : Surroundings) (name : String) : Option String :=
  (s.environment.reverse.find? (·.1 == name)).map (·.2)

/-- Walk up from a directory, whose segments are given from the last to the first, to the nearest
    one that holds a configuration file. -/
def nearest (files : FileTree) : List String → Option PathName
  | [] => Option.guard files.isFile ⟨1, [fileName]⟩
  | segment :: above =>
    let candidate : PathName := ⟨1, (fileName :: segment :: above).reverse⟩
    if files.isFile candidate then some candidate else nearest files above

/-- The configuration file that is found: the one a variable names, if it is a file, or, without
    such a variable, the nearest one above the start. -/
def find? (s : Surroundings) (start : Option PathName) : Option PathName :=
  match (s.value? fileVariable).filter (!·.isEmpty) with
  | some named => Option.guard s.files.isFile (PathName.read named)
  | none =>
    let place := s.files.resolve (start.getD s.files.current)
    nearest s.files place.segments.reverse

/-- The configuration file that is read: the one named by hand if it is a file, or the one that is
    found when none is named. -/
def choose (s : Surroundings) (byHand : Option String) (start : Option PathName) :
    Option PathName :=
  match byHand.filter (!·.isEmpty) with
  | some named => Option.guard s.files.isFile (PathName.read named)
  | none => s.find? start

/-- The names of all files that may be read, from a directory on. -/
def candidates (byHand : Option String) (s : Surroundings) : List PathName :=
  let named := (byHand.toList ++ (s.value? fileVariable).toList).map PathName.read
  let place := s.files.current.segments
  named ++ (List.range (place.length + 1)).map fun n => ⟨1, place.take n ++ [fileName]⟩

end Surroundings

end SettingText.Config
