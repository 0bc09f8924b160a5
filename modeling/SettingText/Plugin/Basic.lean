import SettingText.Registry.Basic
import SettingText.Types.Form

/-!
Plugins: what they contribute to a registry. A plugin has hooks, one that gives converters and one
that gives editors. A hook may be missing, fail, give nothing, or give something that is no table;
in a table, single items may be of no use.
-/

namespace SettingText

/-- What a hook gives. -/
inductive HookResult (α : Type) where
  /-- The hook fails. -/
  | fails
  | nothing
  /-- Something that is no table, by the name of its class. -/
  | noTable (typeName : String)
  | table (items : List α)

/-- An item of a table of converters: a type, and its converter unless it is none. -/
structure ConverterItem where
  type : TypeForm
  converter : Option Converter

/-- The key of an item of a table of editors. -/
inductive EditorKey where
  | cls (c : ClassRef)
  /-- Something that is no class, as a message shows it. -/
  | other (shown : String)
  deriving DecidableEq, Repr

def EditorKey.shown : EditorKey → String
  | cls c => c.shown
  | other shown => shown

/-- An item of a table of editors: a key, and an editor unless it is none. -/
structure EditorItem where
  key : EditorKey
  kind : Option EditorKind

/-- A plugin. -/
structure Plugin where
  /-- The name of its class. -/
  name : String
  converters : Option (HookResult ConverterItem) := none
  editors : Option (HookResult EditorItem) := none
  /-- The class can be instantiated without arguments. -/
  buildable : Bool := true

namespace Plugin

/-- The two hooks. -/
inductive Hook where
  | converters | editors
  deriving DecidableEq, Repr

def Hook.name : Hook → String
  | converters => "register_converters"
  | editors => "register_editors"

/-- What is registered: an instance of a plugin, or its class. -/
inductive Form where
  /-- The one instance that is registered by hand. -/
  | shared
  /-- An instance made from a registered class. -/
  | made
  /-- The class, whose hooks fail. -/
  | cls
  deriving DecidableEq, Repr

/-- What the hooks of a form of a plugin give. -/
def resultAs {α : Type} (form : Form) (result : Option (HookResult α)) : Option (HookResult α) :=
  match form with
  | .cls => result.map fun _ => .fails
  | _ => result

end Plugin

end SettingText
