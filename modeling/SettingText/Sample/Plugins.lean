import SettingText.Plugin.Basic
import SettingText.Sample.Classes

/-!
Sample functions, editors and plugins, with which the library is tried out.
-/

namespace SettingText.Sample

def hostname (text : String) : Datum := .refined (ref "Hostname") (.text text)

/-- Texts, missing ones as nothing. -/
def rawDatum (raw : Option String) : Datum := (raw.map Datum.text).getD .nothing

/-- A function of the text; without one the result is nothing. -/
def ofRaw (f : String → Except Fault Datum) (value : Option Setting) : Except Fault Datum :=
  match value.bind (·.raw) with
  | some raw => f raw
  | none => .ok .nothing

/-- A function of the setting; without one the result is nothing. -/
def ofSetting (f : Setting → Datum) (value : Option Setting) : Except Fault Datum :=
  .ok ((value.map f).getD .nothing)

def blankParts (text : String) : List String :=
  ((text.toList.splitBy fun a b => Text.isBlank a == Text.isBlank b).filter
    fun part => !part.all Text.isBlank).map String.ofList

def partsAt (mark : Char) (text : String) : List String :=
  (text.toList.splitOn mark).map String.ofList

/-- The host names of a text, with semicolons between. -/
def hosts (raw : String) : List Datum :=
  (((partsAt ';' raw).map fun part => Text.lower (Text.strip part)).filter (!·.isEmpty)).map hostname

def functions : List (String × (Option Setting → Except Fault Datum)) := [
  ("upper", ofRaw fun raw => .ok (.text (Text.upper raw))),
  ("custom", fun _ => .ok (.list [.text "custom"])),
  ("hostname", ofRaw fun raw => .ok (hostname (Text.lower raw))),
  ("host_list", ofRaw fun raw => .ok (.list (hosts raw))),
  ("presence", fun value => .ok (.text (match value with
    | none => "no value"
    | some s => (s.raw.map ("present:" ++ ·)).getD "absent"))),
  ("describe", fun value => .ok (.text ((value.map (·.describe)).getD "no value"))),
  ("lineage", ofSetting fun s => .list (s.lineage.map rawDatum)),
  ("qualifiers", ofSetting fun s => .list (s.qualifiers.map .text)),
  ("integer", ofRaw fun raw => (readInt raw).mapError .stray),
  ("misconfigured", fun _ => .error (.misconfigured "wired wrong")),
  ("boom", fun _ => .error (.stray (.other .runtime "boom"))),
  ("pairs", ofRaw fun raw => .ok (.list ((blankParts raw).map fun part =>
    .tuple ((partsAt ':' part).map .text)))),
  ("triples", ofRaw fun raw => .ok (.list [.tuple ((blankParts raw).map .text)]))]

/-- A sample function as a converter, under its name or another one. -/
def function? (name : String) (shown : Option String) : Option Converter :=
  (functions.find? (·.1 == name)).map fun (name, run) =>
    .function ((shown.filter (!·.isEmpty)).getD name) run

/-- A number of a class, read without some letters at its end. -/
def readWithout (mark : Char) (cls text : String) : Except Cause Datum :=
  (readFloat (String.ofList (Text.dropEndWhile (· == mark) text.toList))).map (.refined (ref cls))

/-- The quotient of two numbers with a slash between. -/
def readRatio (text : String) : Except Cause Datum := do
  let above := text.toList.takeWhile (· != '/')
  let read (cs : List Char) := (Number.readFloat (String.ofList cs)).mapError Cause.literal
  let a ← read above
  let b ← read (text.toList.drop (above.length + 1))
  if b.isZero then throw (.other .zeroDivision "float division by zero")
  return .refined (ref "Ratio") (.float (a.div b))

def editors : List EditorKind := [
  .duration,
  .reading "CelsiusEditor" (readWithout 'C' "Celsius"),
  .reading "KelvinEditor" (readWithout 'K' "Kelvin"),
  .reading "RatioEditor" readRatio,
  ⟨"CallsEditor", fun texts => .ok (.refined (ref "Calls") (.int texts.length))⟩,
  ⟨"WrongTypeEditor", fun _ => .ok (.text "nope")⟩,
  ⟨"NoneEditor", fun _ => .ok .nothing⟩,
  ⟨"BrokenEditor", fun _ => .error (.other .runtime "editor broke")⟩]

def editor? (name : String) : Option EditorKind := editors.find? (·.name == name)

/-- A table with one sample function for each of some types. -/
def table (items : List (TypeForm × String)) : Option (HookResult ConverterItem) :=
  some (.table (items.map fun (type, name) => ⟨type, function? name none⟩))

/-- A sample class as a type. -/
def type (name : String) : TypeForm := .cls (ref name)

def plugins : List Plugin := [
  { name := "HostnamePlugin", converters := table [(type "Hostname", "hostname")] },
  { name := "UpperHostPlugin",
    converters := table [(type "Hostname", "upper"), (.cls (.builtin "str"), "upper")] },
  { name := "HostListPlugin",
    converters := table [(.generic false (.builtin "list") [type "Hostname"], "host_list")] },
  { name := "RatioPlugin",
    editors := some (.table [⟨.cls (ref "Ratio"), editor? "RatioEditor"⟩]) },
  { name := "BadPlugin",
    converters := table [(type "Hostname", "not a converter"), (type "Ratio", "hostname")],
    editors := some (.noTable "list") },
  { name := "BadEditorsPlugin",
    editors := some (.table [⟨.other "'Ratio'", editor? "RatioEditor"⟩,
      ⟨.cls (ref "Celsius"), none⟩, ⟨.cls (ref "Calls"), editor? "CallsEditor"⟩]) },
  { name := "FailingPlugin", converters := some .fails },
  { name := "NonePlugin", converters := some .nothing, editors := some .nothing },
  { name := "NoHooksPlugin" },
  { name := "UnbuildablePlugin", buildable := false }]

def plugin? (name : String) : Option Plugin := plugins.find? (·.name == name)

end SettingText.Sample
