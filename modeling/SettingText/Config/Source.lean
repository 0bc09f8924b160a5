import SettingText.Config.Discovery
import SettingText.Json.Reader
import SettingText.Text.Case
import SettingText.Toml.Reader

/-!
Sources of settings: tables given by hand, variables, and a configuration file. Sources are merged
leaf by leaf, so that a section that is partly given in one source keeps the leaves of the others.
-/

namespace SettingText.Config

/-- The leaves of a section: their names, and whether they are written in JSON in a variable. -/
abbrev Leaves := List (String × Bool)

def sections : List (String × Leaves) :=
  [("registry", [("memoize", false)]), ("classes", [("allowed_prefixes", true)]),
    ("plugins", [("enabled", false)])]

/-- The settings that stand in no section and may come from any source. -/
def flags : List String := ["json_output", "verbose", "log_json"]

abbrev Source := List (String × Json)

mutual

/-- A value after an update: tables are merged, and any other value is replaced. -/
def updated : Json → Json → Json
  | .object members, .object updates => .object (merged members updates)
  | _, .object updates => .object updates
  | _, .null => .null
  | _, .bool b => .bool b
  | _, .int n => .int n
  | _, .float x => .float x
  | _, .text s => .text s
  | _, .list items => .list items

/-- Members after an update. -/
def merged (members : Source) : List (String × Json) → Source
  | [] => members
  | (name, value) :: rest =>
    merged (Json.put members name (match Json.find? members name with
      | some old => updated old value
      | none => value)) rest

end

/-- The beginning of the names of variables, in small letters. -/
def variableStart : String := "settingconv_"

/-- What separates the parts of the name of a variable. -/
def variableMark : String := "__"

/-- The names under which variables are mostly set: small letters are made capital. -/
def variableNames : List String :=
  let names := flags ++ sections.flatMap fun (name, leaves) =>
    name :: leaves.map fun (leaf, _) => name ++ variableMark ++ leaf
  fileVariable :: names.map fun name => (variableStart ++ name).map Char.toUpper

/-- Put a value at the end of a way through tables. A way that leads through anything else leads
    nowhere. -/
def putAt (value : Json) (last : String) : List String → Source → Source
  | [], members => Json.put members last value
  | name :: way, members =>
    match Json.find? members name with
    | none => Json.put members name (.object (putAt value last way []))
    | some (.object inner) => Json.put members name (.object (putAt value last way inner))
    | some _ => members

/-- The leaf of a section that is written in JSON in a variable. -/
def isWritten (leaves : Leaves) (way : List String) (last : String) : Bool :=
  way.isEmpty && leaves.any fun (name, written) =>
    written && (name == last || variableStart ++ name == last)

/-- The value of a variable for a part of a section; nothing if it is malformed. -/
def partValue (leaves : Leaves) (way : List String) (last raw : String) : Option Json :=
  if isWritten leaves way last && !raw.isEmpty then Json.read raw else some (.text raw)

/-- The parts of a section that variables give. -/
def sectionParts (name : String) (leaves : Leaves) (environment : List (String × String)) :
    Option Source :=
  let start := variableStart ++ name ++ variableMark
  environment.foldlM (fun members (key, raw) => do
    if key.startsWith start then
      let parts := ((key.drop start.length).toString.splitOn variableMark)
      let way := parts.dropLast
      let last := parts.getLast?.getD ""
      return putAt (← partValue leaves way last raw) last way members
    else return members) []

/-- The leaf of a name in any case, or the name itself. -/
def leafName (leaves : Leaves) (name : String) : String :=
  ((leaves.find? fun leaf => leaf.1 == Text.lower name).map (·.1)).getD name

/-- The members of a section under the names of its leaves. -/
def named (leaves : Leaves) (members : Source) : Source :=
  Json.ofPairs (members.map fun (name, value) => (leafName leaves name, value))

/-- The section that variables give: one of them may hold it as a whole, in JSON, and others its
    parts. The answer is `none` for a malformed variable. -/
def sectionOfVariables (environment : List (String × String)) (name : String) (leaves : Leaves) :
    Option (Option Json) :=
  match (environment.reverse.find? (·.1 == variableStart ++ name)).map (·.2) with
  | none => do
    let parts ← sectionParts name leaves environment
    return if parts.isEmpty then none else some (.object (named leaves parts))
  | some raw => do
    match ← Json.read raw with
    | .object members => do
      let parts ← sectionParts name leaves environment
      return some (.object (named leaves (merged members parts)))
    | .null => return none
    | other => return some other

/-- The source that variables make. Names count in any case, and of two variables of one name the
    last. The answer is `none` for a malformed variable. -/
def ofVariables (environment : List (String × String)) : Option Source := do
  let environment := environment.map fun (name, value) => (Text.lower name, value)
  let single := flags.filterMap fun name =>
    (environment.reverse.find? (·.1 == variableStart ++ name)).map fun found =>
      (name, Json.text found.2)
  let sections ← sections.filterMapM fun (name, leaves) => do
    return (← sectionOfVariables environment name leaves).map fun value => (name, value)
  return single ++ sections

/-- The source that a configuration file makes; without a file it is empty. The answer is `none` for
    a malformed file. -/
def ofFile (files : FileTree) (file : Option PathName) : Option Source :=
  match file.bind files.contents? with
  | some text => Toml.readJson text
  | none => some []

end SettingText.Config
