import SettingText.Text.Quoted

/-!
Names of classes: the module a class belongs to and its own name.
-/

namespace SettingText

/-- The name of a class. -/
structure ClassRef where
  module : String
  name : String
  deriving DecidableEq, Repr, Hashable

namespace ClassRef

def builtin (name : String) : ClassRef := ⟨"builtins", name⟩

def abstraction (name : String) : ClassRef := ⟨"collections.abc", name⟩

/-- The module and the name, with a point between. -/
def fullName (c : ClassRef) : String := s!"{c.module}.{c.name}"

/-- The name as types show it: the classes that need no import go by their own name. -/
def text (c : ClassRef) : String :=
  if c.module = "builtins" || c.module = "collections.abc" then c.name else c.fullName

/-- The name as a message shows the class itself. -/
def shown (c : ClassRef) : String :=
  if c.module = "builtins" then s!"<class '{c.name}'>" else s!"<class '{c.fullName}'>"

def object : ClassRef := builtin "object"

/-- The class of the absent value. -/
def nothing : ClassRef := builtin "NoneType"

end ClassRef

end SettingText
