import SettingText.Classes.Standard

/-!
The classes of this package, by the names under which a program may ask for them.
-/

namespace SettingText.Classes

/-- The module that holds all others. -/
def ownPackage : String := "settingconv"

def own (module name : String) : ClassRef := ⟨s!"{ownPackage}.{module}", name⟩

/-- A class of the package that makes nothing from a text. -/
def ownInfo (module name : String) (above : List ClassRef) : ClassInfo where
  ref := own module name
  ancestors := above ++ [.object]
  interfaces := plainInterfaces

/-- A class of the package with a way to make an object from a text. -/
def ownMade (module name : String) (above : List ClassRef) (maker : ClassRef → Maker) : ClassInfo :=
  { ownInfo module name above with maker := some (maker (own module name)) }

/-- Make an object of which a result shows a text. -/
def shownAs (shown : String → String) (c : ClassRef) : Maker :=
  .taking c fun text => .opaqueObject c (.text (shown text))

/-- Make an object of which a result shows fields. -/
def withFields (fields : String → List (String × Json)) (c : ClassRef) : Maker :=
  .taking c fun text => .opaqueObject c (.object (fields text))

/-- Make an object of which a result shows the name of its class. -/
def nameless (c : ClassRef) : Maker := shownAs (fun _ => s!"<{c.fullName} object>") c

/-- Refuse a text because it lacks something. -/
def lacking (name : String) (c : ClassRef) : Maker :=
  .refusing c .noAttribute s!"'str' object has no attribute '{name}'"

def errorWith (wording : String → String) (c : ClassRef) : Maker :=
  .taking c fun text => .worded c (wording text)

/-- Settings and type descriptors. -/
def domainClasses : List ClassInfo :=
  let conversionError := own "domain.errors" "ConversionError"
  let error := [ClassRef.builtin "Exception", .builtin "BaseException"]
  [ownMade "domain.value" "Value" [] (withFields fun text =>
      [("raw", .text text), ("name", .text ""), ("qualifiers", .list []), ("parent", .null)]),
    ownMade "domain.types" "ConcreteType" [] (withFields fun text => [("cls", .text text)]),
    ownInfo "domain.types" "ParameterizedType" [],
    ownMade "domain.errors" "ConversionError" error (errorWith id),
    ownMade "domain.errors" "NoConverterAvailable" (conversionError :: error)
      (errorWith ("No converter available for " ++ ·)),
    ownInfo "domain.errors" "MalformedValue" (conversionError :: error),
    ownMade "domain.errors" "MisconfiguredConverter" (conversionError :: error) (errorWith id)]

def converterClass : ClassRef := own "converters.base" "Converter"

def aboveConverter : List ClassRef := [⟨"abc", "ABC"⟩, ⟨"typing", "Generic"⟩]

def converterInfo (module name : String) (between : List ClassRef) (parameters : Parameters)
    (maker : Option (ClassRef → Maker)) : ClassInfo :=
  { ownInfo module name (between ++ converterClass :: aboveConverter) with
    interfaces := abstractions ["Hashable", "Callable"]
    parameters := parameters
    maker := maker.map (· (own module name)) }

def parsingClass : ClassRef := own "converters.scalars" "ParsingConverter"

/-- A converter for single values. -/
def scalarInfo (name : String) (parameters : Parameters) (maker : Option (ClassRef → Maker)) :
    ClassInfo :=
  converterInfo "converters.scalars" name [parsingClass] parameters maker

/-- A converter that is put together from others. -/
def structuralInfo (name : String) (parameters : Parameters)
    (maker : Option (ClassRef → Maker)) : ClassInfo :=
  converterInfo "converters.structural" name [] parameters maker

/-- How a converter looks that was given a text instead of a converter. -/
def aroundText (name text : String) : String := s!"{name}({Text.quoted text})"

def converterClasses : List ClassInfo :=
  [{ ownInfo "converters.base" "Converter" aboveConverter with
      interfaces := abstractions ["Hashable", "Callable"]
      parameters := .exactly 1 },
    converterInfo "converters.base" "FunctionConverter" [] (.exactly 1)
      (some (shownAs (aroundText "FunctionConverter"))),
    converterInfo "converters.scalars" "ParsingConverter" [] (.exactly 1) none,
    converterInfo "converters.scalars" "StringConverter" [] .none none,
    converterInfo "converters.scalars" "BooleanConverter" [] .none none,
    scalarInfo "ClassConverter" .none (some (shownAs fun _ => "ClassConverter(bound=object)")),
    scalarInfo "LogLevelConverter" .none none,
    scalarInfo "DateTimeConverter" .none none,
    scalarInfo "DateConverter" .none none,
    scalarInfo "TimeConverter" .none none,
    scalarInfo "URIConverter" .none none,
    scalarInfo "FactoryConverter" (.exactly 1) (some (shownAs (aroundText "FactoryConverter"))),
    structuralInfo "CollectionConverter" .none none,
    structuralInfo "EntryConverter" .none none,
    structuralInfo "MapConverter" .none (some (shownAs (aroundText "MapConverter"))),
    structuralInfo "OptionalConverter" .none (some (shownAs (aroundText "OptionalConverter"))),
    structuralInfo "ArrayConverter" (.exactly 1) none,
    converterInfo "converters.editors" "EditorConverter" [] .none (some (lacking "__mro__"))]

/-- The severities of log records, by name. -/
def levelNames : List (String × Datum) := LogLevel.all.map fun level => (level.name, .level level)

/-- The values that conversions give. -/
def valueClasses : List ClassInfo :=
  let levels : Enumeration := ⟨Datum.levelClass, levelNames, fun _ => none⟩
  let mapLineage := abstractions ["Mapping", "Collection", "Sized", "Iterable", "Container"]
  [levels.info [⟨"enum", "IntEnum"⟩, .builtin "int", ⟨"enum", "ReprEnum"⟩, ⟨"enum", "Enum"⟩, .object],
    { ownMade "converters.scalars" "URI" [.builtin "str"] (.taking · Datum.uri) with
      interfaces := abstractions ("Hashable" :: sequenceNames) },
    { ownInfo "converters.structural" "MapEntry" [.builtin "tuple", ⟨"typing", "Generic"⟩] with
      interfaces := abstractions ("Hashable" :: sequenceNames)
      parameters := .exactly 2 },
    { ownMade "converters.structural" "EntryMap" (mapLineage ++ [⟨"typing", "Generic"⟩])
        (.taking · fun text =>
          if text.isEmpty then .map []
          else .broken (.other .noAttribute "'str' object has no attribute 'key'")) with
      interfaces := []
      parameters := .any }]

/-- Make a registry from no registrations; a text that is not empty has none to give. -/
def registryMaker (c : ClassRef) : Maker :=
  .calling c fun text =>
    if text.isEmpty then .ok (.opaqueObject c (.text s!"<{c.fullName} object>"))
    else .error (.stray (.other .noAttribute "'str' object has no attribute 'items'"))

/-- Registries, plugins, configuration and commands. -/
def serviceClasses : List ClassInfo :=
  let refused := [ClassRef.builtin "ValueError", .builtin "Exception", .builtin "BaseException"]
  let editor := own "converters.editors" "Editor"
  [ownInfo "converters.editors" "Editor" [⟨"typing", "Protocol"⟩, ⟨"typing", "Generic"⟩],
    { ownInfo "converters.editors" "DurationEditor" [] with
      interfaces := editor :: plainInterfaces },
    ownInfo "converters.editors" "EditorRegistry" [],
    ownMade "registry" "ConverterRegistry" [] registryMaker,
    ownInfo "result" "ConversionFailure" [],
    ownInfo "result" "ConversionResult" [],
    ownInfo "plugins.hookspecs" "SettingconvHookSpec" [],
    ownInfo "plugins.manager" "PluginManager" [],
    ownInfo "config.models" "RegistryConfig" [],
    ownInfo "config.models" "ClassesConfig" [],
    ownInfo "config.models" "PluginsConfig" [],
    ownInfo "config.settings" "TomlSettingsSource" [],
    ownInfo "config.settings" "ConvSettings" [],
    ownMade "config.settings" "InvalidConfig" refused (errorWith id),
    ownMade "commands._base" "ConvCommand" [] (shownAs fun text => s!"<ConvCommand {text}>"),
    ownMade "commands._context" "AppContext" [] (lacking "verbose"),
    ownMade "commands.typeexpr" "TypeExpressionError" refused (errorWith id),
    ownMade "commands.typeexpr" "_Parser" [] nameless]

def ownClasses : List ClassInfo :=
  domainClasses ++ converterClasses ++ valueClasses ++ serviceClasses

def ownModules : List String :=
  ownPackage :: ["domain", "domain.value", "domain.types", "domain.errors", "converters",
    "converters.base", "converters.scalars", "converters.structural", "converters.editors",
    "registry", "result", "plugins", "plugins.hookspecs", "plugins.manager", "config",
    "config.models", "config.settings", "config.discovery", "config.logging", "output",
    "output.console", "output.formatters", "commands", "commands._base", "commands._context",
    "commands.convert", "commands.typeexpr", "cli"].map fun name => s!"{ownPackage}.{name}"

/-- Names that the package offers at its top. -/
def ownAliases : List (String × String × ClassRef) :=
  [own "domain.value" "Value", converterClass, own "converters.structural" "EntryMap",
    own "converters.structural" "MapEntry", own "domain.errors" "ConversionError",
    own "domain.errors" "MalformedValue", own "domain.errors" "MisconfiguredConverter",
    own "domain.errors" "NoConverterAvailable", own "registry" "ConverterRegistry"].map
      fun c => (ownPackage, c.name, c)

/-- Names of the package that are no classes. -/
def ownOthers : List (String × String) :=
  [(ownPackage, "TOP_TYPE"), (ownPackage, "synthesize"), (ownPackage, "default_registry")]

end SettingText.Classes

namespace SettingText.Universe

/-- The built-in and standard classes and those of the package. -/
def standard : Universe where
  classes := Classes.builtinClasses ++ Classes.errorClasses ++ Classes.standardClasses ++
    Classes.ownClasses
  modules := Classes.standardModules ++ Classes.ownModules
  aliases := Classes.errorAliases ++ Classes.ownAliases
  others := Classes.standardOthers ++ Classes.ownOthers

end SettingText.Universe
