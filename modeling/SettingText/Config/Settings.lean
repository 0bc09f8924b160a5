import SettingText.Config.Source
import SettingText.Fault.Kind
import SettingText.Validation.Basic

/-!
The settings of the program, and how they are loaded: what is given by hand counts before variables,
these before the configuration file, and that before the defaults.
-/

namespace SettingText.Config

/-- The settings. -/
structure Settings where
  /-- The configuration file that was read. -/
  configPath : Option PathName := none
  jsonOutput : Bool := false
  verbose : Bool := false
  logJson : Bool := false
  /-- Resolved converters are kept. -/
  memoize : Bool := true
  /-- The names of classes must begin with one of these, if there are any. -/
  allowedPrefixes : List String := []
  /-- Plugins are looked for. -/
  pluginsEnabled : Bool := true
  deriving DecidableEq, Repr

/-- Why settings cannot be loaded. -/
inductive LoadFault where
  /-- The configuration file is malformed. -/
  | malformedFile (file : PathName)
  /-- A variable is malformed. -/
  | malformedVariable
  /-- The settings are not what is expected of them. -/
  | refused (issues : List Issue)
  deriving DecidableEq, Repr

def LoadFault.kind : LoadFault → ErrorKind
  | malformedFile _ => .invalidConfig
  | malformedVariable => .settings
  | refused _ => .validation

/-- The wording of a malformed file. What is wrong with the text is not told; a mark stands in its
    place. -/
def malformedMessage (file : PathName) : String := s!"Invalid TOML in {file.text}: <toml>"

/-- The names that may stand outside the sections. -/
def knownNames : List String := "config_path" :: flags ++ sections.map (·.1)

/-- Names that are not known are refused. -/
def checkNames (members : Source) : Checked Unit :=
  match (members.map (·.1)).filter (!knownNames.contains ·) with
  | [] => .ok ()
  | unknown => .error (unknown.map fun name => ⟨[name], .extraForbidden⟩)

open Validation in
/-- A leaf of a section that may be missing. -/
def checkLeaf {α : Type} (members : Source) (group leaf : String) (otherwise : α)
    (check : Json → Checked α) : Checked α :=
  optional members group otherwise (record fun inner => optional inner leaf otherwise check)

open Validation in
/-- Make settings of merged sources. -/
def Settings.validate (file : Option PathName) (members : Source) : Checked Settings :=
  (Checked.both (checkNames members)
    (Checked.both (optional members "json_output" false bool)
      (Checked.both (optional members "verbose" false bool)
        (Checked.both (optional members "log_json" false bool)
          (Checked.both (checkLeaf members "registry" "memoize" true bool)
            (Checked.both (checkLeaf members "classes" "allowed_prefixes" [] texts)
              (checkLeaf members "plugins" "enabled" true bool))))))).map
    fun ((), jsonOutput, verbose, logJson, memoize, allowedPrefixes, pluginsEnabled) =>
      { configPath := file, jsonOutput, verbose, logJson, memoize, allowedPrefixes, pluginsEnabled }

/-- Loading settings. The name of the configuration file is kept in a slot, from which the source of
    the file takes it, since sources are made without being told of it. -/
abbrev LoadM (α : Type) := ExceptT LoadFault (StateM (Option PathName)) α

/-- The source of the configuration file whose name is in the slot. -/
def fileSource (files : FileTree) : LoadM Source := do
  match ← get with
  | none => return []
  | some name =>
    match ofFile files (some name) with
    | some source => return source
    | none => throw (.malformedFile name)

/-- The source that variables make. -/
def variableSource (environment : List (String × String)) : LoadM Source :=
  match ofVariables environment with
  | some source => return source
  | none => throw .malformedVariable

/-- All sources as one, each of which counts before those behind it. -/
def mergedAll (sources : List Source) : Source :=
  sources.foldl (fun state source => merged source state) []

/-- Make settings of all sources: what is given by hand, the variables, and the configuration file
    whose name is in the slot. -/
def construct (s : Surroundings) (file : Option PathName) (given : Source) : LoadM Settings := do
  let lowest ← fileSource s.files
  let environment ← variableSource s.environment
  match Settings.validate file (mergedAll [given, environment, lowest]) with
  | .ok settings => return settings
  | .error issues => throw (.refused issues)

/-- Load the settings. `byHand` names a configuration file, `start` tells where to look for one
    otherwise, and `given` are the settings given by hand. The slot is emptied however the loading
    ends. -/
def loadM (s : Surroundings) (byHand : Option String) (start : Option PathName) (given : Source) :
    LoadM Settings := do
  let file := s.choose byHand start
  set file
  try construct s file given finally set (none : Option PathName)

/-- What loading the settings comes to when the slot is empty. -/
def load (s : Surroundings) (byHand : Option String) (start : Option PathName) (given : Source) :
    Except LoadFault Settings :=
  ((loadM s byHand start given).run.run none).1

/-- The settings as plain data. -/
def Settings.toJson (s : Settings) : Json :=
  .object [("config_path", (s.configPath.map fun p => Json.text p.text).getD .null),
    ("json_output", .bool s.jsonOutput), ("verbose", .bool s.verbose),
    ("log_json", .bool s.logJson),
    ("registry", .object [("memoize", .bool s.memoize)]),
    ("classes", .object [("allowed_prefixes", .list (s.allowedPrefixes.map .text))]),
    ("plugins", .object [("enabled", .bool s.pluginsEnabled)])]

end SettingText.Config
