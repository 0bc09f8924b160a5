import SettingText.Plugin.Basic

/-!
The plugin manager: the plugins registered under their names, and the application of what they
contribute to a registry. Hooks are asked from the plugin registered last to the first; when one
fails, its hook contributes nothing. Applying plugins itself never fails: what cannot be used is
noted down and skipped.
-/

namespace SettingText

/-- A plugin under the name it is registered by. -/
structure Registered where
  name : String
  plugin : Plugin
  form : Plugin.Form

/-- Why a plugin cannot be registered or taken away. -/
inductive PluginFault where
  /-- The name or the plugin is registered already. -/
  | taken
  | notRegistered
  deriving DecidableEq, Repr

def PluginFault.kind : PluginFault → ErrorKind
  | taken => .value
  | notRegistered => .assertion

def PluginFault.message? : PluginFault → Option String
  | taken => none
  | notRegistered => some "plugin is not registered"

/-- A plugin manager. The plugin registered last comes first. -/
structure PluginManager where
  registered : List Registered := []
  /-- Plugins were looked for. -/
  loaded : Bool := false
  journal : List LogRecord := []

namespace PluginManager

def warning (message : String) : LogRecord := ⟨LogRecord.pluginLogger, .warning, message⟩

/-- A note about plugins. -/
def remark (message : String) : LogRecord := ⟨LogRecord.pluginLogger, .debug, message⟩

/-- Note something down. -/
def note (record : LogRecord) (m : PluginManager) : PluginManager :=
  { m with journal := m.journal ++ [record] }

def names (m : PluginManager) : List String :=
  (m.registered.map (·.name)).mergeSort fun a b => decide (a ≤ b)

/-- The same object is registered: the same class, or the one instance of it. -/
def isSame (plugin : Plugin) (form : Plugin.Form) (r : Registered) : Bool :=
  r.plugin.name == plugin.name && r.form == form && form != .made

/-- Register a plugin under a name, or under the name of its class. -/
def register (m : PluginManager) (plugin : Plugin) (form : Plugin.Form) (name : Option String) :
    Except PluginFault PluginManager :=
  let name := match name with
    | some given => if given.isEmpty then plugin.name else given
    | none => plugin.name
  if m.registered.any (·.name == name) || m.registered.any (isSame plugin form) then .error .taken
  else .ok (note (remark s!"Registered plugin: {name}")
    { m with registered := ⟨name, plugin, form⟩ :: m.registered })

/-- Take a plugin away that was registered by hand. -/
def unregister (m : PluginManager) (plugin : Plugin) : Except PluginFault PluginManager :=
  if m.registered.any (isSame plugin .shared) then
    .ok { m with registered := m.registered.filter (!isSame plugin .shared ·) }
  else .error .notRegistered

/-- Replace a registered class by an instance of it, which is then the plugin registered last. -/
def instantiate (m : PluginManager) (r : Registered) : PluginManager :=
  let others := m.registered.filter (·.name != r.name)
  if r.plugin.buildable then
    note (remark s!"Instantiated entry-point plugin: {r.name}")
      { m with registered := { r with form := .made } :: others }
  else
    note (warning s!"Failed to instantiate entry-point plugin {r.name}")
      { m with registered := others }

/-- Look for plugins. None is found; `explodes` tells that looking fails. Registered classes are
    replaced by instances. -/
def discover (m : PluginManager) (explodes : Bool) : PluginManager :=
  let m := if explodes then note (warning "Failed to load entry-point plugins") m else m
  let classes := m.registered.reverse.filter (·.form == .cls)
  { classes.foldl instantiate m with loaded := true }

/-- What a hook of one kind gives, the plugin registered last first. -/
def results {α : Type} (m : PluginManager) (hook : Plugin → Option (HookResult α)) :
    List (HookResult α) :=
  m.registered.filterMap fun r => Plugin.resultAs r.form (hook r.plugin)

def isFailure {α : Type} : HookResult α → Bool
  | .fails => true
  | _ => false

/-- The warning about a result that is no table. -/
def refusal {α : Type} (hook : Plugin.Hook) : HookResult α → Option LogRecord
  | .noTable typeName =>
    some (warning s!"Plugin hook {hook.name} returned {typeName}, expected dict")
  | _ => none

def itemsOf {α : Type} : HookResult α → List α
  | .table items => items
  | _ => []

/-- The items of all results of a hook, with the warnings about it. -/
def collect {α : Type} (hook : Plugin.Hook) (results : List (HookResult α)) :
    List α × List LogRecord :=
  if results.any isFailure then ([], [warning s!"Plugin hook {hook.name} failed"])
  else (results.flatMap itemsOf, results.filterMap (refusal hook))

def installConverter (r : Registry) (item : ConverterItem) : Registry :=
  match item.converter with
  | some converter => (r.put item.type.synthesize converter).2
  | none => r.note (warning s!"Skipping non-converter registration for {item.type.shown}")

def installEditor (r : Registry) (item : EditorItem) : Registry :=
  match item.key, item.kind with
  | .cls c, some kind => r.registerEditor c kind
  | key, _ => r.note (warning s!"Skipping editor registration for {key.shown}")

def countsConverter (item : ConverterItem) : Bool := item.converter.isSome

def countsEditor (item : EditorItem) : Bool :=
  match item.key, item.kind with
  | .cls _, some _ => true
  | _, _ => false

/-- Install all that the plugins contribute; gives the number of registrations made. -/
def apply (m : PluginManager) (r : Registry) : Nat × Registry :=
  let (converters, notes) := collect .converters (m.results (·.converters))
  let r := converters.foldl installConverter { r with journal := r.journal ++ notes }
  let (editors, notes) := collect .editors (m.results (·.editors))
  let r := editors.foldl installEditor { r with journal := r.journal ++ notes }
  let count := converters.countP countsConverter + editors.countP countsEditor
  (count, r.note (remark s!"Applied {count} plugin registrations"))

end PluginManager

end SettingText
