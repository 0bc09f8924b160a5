import SettingText.Classes.Builtin

/-!
The standard classes, which live in modules: abstract collections, dates and times, exact numbers,
paths and identifiers.
-/

namespace SettingText.Classes

/-- The abstractions whose objects are compared by their items, and so are no keys. -/
def comparedNames : List String := ["Set", "Mapping"]

/-- An abstract collection below others, the nearest first. -/
def abstractInfo (name : String) (above : List String) (parameters : Parameters) : ClassInfo where
  ref := .abstraction name
  ancestors := abstractions above ++ [.object]
  interfaces := if (name :: above).any comparedNames.contains then [] else plainInterfaces
  parameters := parameters

/-- The abstract collections and the other abstractions of their module. -/
def abstractClasses : List ClassInfo :=
  let collection := ["Sized", "Iterable", "Container"]
  let sequence := ["Reversible", "Collection"] ++ collection
  let sized := "Collection" :: collection
  [abstractInfo "Awaitable" [] .any,
    abstractInfo "Coroutine" ["Awaitable"] .any,
    abstractInfo "AsyncIterable" [] .any,
    abstractInfo "AsyncIterator" ["AsyncIterable"] .any,
    abstractInfo "AsyncGenerator" ["AsyncIterator", "AsyncIterable"] .any,
    abstractInfo "Hashable" [] .none,
    abstractInfo "Iterable" [] .any,
    abstractInfo "Iterator" ["Iterable"] .any,
    abstractInfo "Generator" ["Iterator", "Iterable"] .any,
    abstractInfo "Reversible" ["Iterable"] .any,
    abstractInfo "Sized" [] .none,
    abstractInfo "Container" [] .any,
    abstractInfo "Callable" [] .callable,
    abstractInfo "Collection" collection .any,
    abstractInfo "Set" sized .any,
    abstractInfo "MutableSet" ("Set" :: sized) .any,
    abstractInfo "Mapping" sized .any,
    abstractInfo "MutableMapping" ("Mapping" :: sized) .any,
    abstractInfo "MappingView" ["Sized"] .any,
    abstractInfo "KeysView" ("MappingView" :: "Set" :: sized) .any,
    abstractInfo "ItemsView" ("MappingView" :: "Set" :: sized) .any,
    abstractInfo "ValuesView" ("MappingView" :: sized) .any,
    abstractInfo "Sequence" sequence .any,
    abstractInfo "MutableSequence" ("Sequence" :: sequence) .any,
    abstractInfo "ByteString" ("Sequence" :: sequence) .any]

/-- A standard class whose objects can be keys. -/
def standardInfo (ref : ClassRef) (above : List ClassRef) (maker : Maker) : ClassInfo where
  ref := ref
  ancestors := above ++ [.object]
  interfaces := plainInterfaces
  maker := some maker

/-- Dates and times. Three of them are read by a method of their own. -/
def calendarClasses : List ClassInfo :=
  let method (name : String) (read : String → Except Calendar.IsoFault Datum) : Maker :=
    .byMethod (Datum.calendarClass name) "fromisoformat" fun text =>
      (read text).mapError fun fault => .stray (.iso fault)
  let timedelta := Datum.calendarClass "timedelta"
  [standardInfo (Datum.calendarClass "date") []
      (method "date" fun text => (Calendar.Date.read text).map .date),
    standardInfo (Datum.calendarClass "datetime") [Datum.calendarClass "date"]
      (method "datetime" fun text => (Calendar.Moment.read text).map .moment),
    standardInfo (Datum.calendarClass "time") []
      (method "time" fun text => (Calendar.Clock.read text).map .clock),
    standardInfo timedelta []
      (.refusing timedelta .type "unsupported type for timedelta days component: str")]

def numberInfo (name : String) (above : List String) : ClassInfo where
  ref := ⟨"numbers", name⟩
  ancestors := above.map (⟨"numbers", ·⟩) ++ [.object]
  interfaces := plainInterfaces

/-- Numbers beyond the built-in ones. -/
def numberClasses : List ClassInfo :=
  let decimal : ClassRef := ⟨"decimal", "Decimal"⟩
  let fraction : ClassRef := ⟨"fractions", "Fraction"⟩
  let tower := ["Real", "Complex", "Number"]
  [numberInfo "Number" [],
    numberInfo "Complex" ["Number"],
    numberInfo "Real" ["Complex", "Number"],
    numberInfo "Rational" tower,
    numberInfo "Integral" ("Rational" :: tower),
    standardInfo decimal [] (.reading decimal fun text =>
      (Decimal.read text).map .decimal |>.mapError .decimal),
    standardInfo fraction (("Rational" :: tower).map (⟨"numbers", ·⟩)) (.reading fraction fun text =>
      (Fraction.read text).map .fraction |>.mapError .fraction)]

def pathInfo (name : String) (above : List String) : ClassInfo :=
  let c : ClassRef := ⟨"pathlib", name⟩
  standardInfo c (above.map (⟨"pathlib", ·⟩)) (.taking c fun text => .path (PathName.read text))

def pathClasses : List ClassInfo :=
  [pathInfo "PurePath" [],
    pathInfo "PurePosixPath" ["PurePath"],
    pathInfo "Path" ["PurePath"],
    pathInfo "PosixPath" ["Path", "PurePosixPath", "PurePath"]]

/-- The remaining standard classes. -/
def otherClasses : List ClassInfo :=
  let uuid : ClassRef := ⟨"uuid", "UUID"⟩
  let ordered : ClassRef := ⟨"collections", "OrderedDict"⟩
  let anything : ClassRef := ⟨"typing", "Any"⟩
  let simple (ref : ClassRef) (above : List ClassRef) : ClassInfo :=
    { ref, ancestors := above ++ [.object], interfaces := plainInterfaces }
  let enumeration (name : String) (above : List ClassRef) : ClassInfo :=
    { simple ⟨"enum", name⟩ above with parameters := .memberName }
  [standardInfo uuid [] (.reading uuid fun text => (Uuid.read text).map .uuid |>.mapError .uuid),
    { standardInfo ordered [.builtin "dict"] (.reading ordered
        (emptyTable ordered "need more than 1 value to unpack")) with
      interfaces := abstractions tableNames
      parameters := .any },
    standardInfo anything [] (.refusing anything .type "Any cannot be instantiated"),
    simple ⟨"typing", "Generic"⟩ [],
    simple ⟨"typing", "Protocol"⟩ [⟨"typing", "Generic"⟩],
    enumeration "Enum" [],
    enumeration "ReprEnum" [⟨"enum", "Enum"⟩],
    enumeration "IntEnum" [.builtin "int", ⟨"enum", "ReprEnum"⟩, ⟨"enum", "Enum"⟩],
    enumeration "Flag" [⟨"enum", "Enum"⟩]]

def standardClasses : List ClassInfo :=
  abstractClasses ++ calendarClasses ++ numberClasses ++ pathClasses ++ otherClasses

def standardModules : List String := [
  "builtins", "collections", "collections.abc", "datetime", "decimal", "enum", "fractions",
  "numbers", "os", "os.path", "pathlib", "typing", "uuid"]

/-- Names in standard modules that are no classes. -/
def standardOthers : List (String × String) :=
  functionNames.map ("builtins", ·) ++ ["join", "split", "exists"].map ("os.path", ·)

end SettingText.Classes
