import SettingText.LogLevel

/-!
Log records: what a program notes down while it works.
-/

namespace SettingText

/-- A log record: the logger it goes to, its severity and its message. -/
structure LogRecord where
  logger : String
  level : LogLevel
  message : String
  deriving DecidableEq, Repr

namespace LogRecord

def registryLogger : String := "settingconv.registry"

/-- The logger of converters for single values. -/
def scalarLogger : String := "settingconv.converters.scalars"

def editorLogger : String := "settingconv.converters.editors"

def pluginLogger : String := "settingconv.plugins.manager"

/-- A converter was registered for a type. -/
def registered (type : String) : LogRecord :=
  ⟨registryLogger, .debug, s!"Registered converter for {type}"⟩

/-- A converter was put together for a type. -/
def built (converter type : String) : LogRecord :=
  ⟨registryLogger, .debug, s!"Built {converter} for {type}"⟩

def viaEditor (type : String) : LogRecord :=
  ⟨registryLogger, .debug, s!"Using editor for {type}"⟩

def viaFallback (converter type : String) : LogRecord :=
  ⟨registryLogger, .debug, s!"Using fallback {converter} for {type}"⟩

/-- A method of a class makes its objects. -/
def viaMethod (className method : String) : LogRecord :=
  ⟨scalarLogger, .debug, s!"Using {className}.{method} as string factory"⟩

def editorRegistered (className : String) : LogRecord :=
  ⟨editorLogger, .debug, s!"Registered editor for {className}"⟩

end LogRecord

end SettingText
