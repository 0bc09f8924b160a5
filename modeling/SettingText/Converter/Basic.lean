import SettingText.Editor.Basic
import SettingText.Types.Descriptor

/-!
Converters: ways to turn a setting into a value. Single values are read by a parser of their own, by
the factory of a class or by an editor; converters for collections, entries, maps, optional values
and arrays are put together from other converters.
-/

namespace SettingText

abbrev NameResolver := String → Except ClassFault Universe.Found

/-- What a class must lie below. -/
inductive ClassBound where
  | cls (c : ClassRef)
  /-- A generic class with arguments, which nothing lies below. -/
  | parameterized (name : String)
  /-- Something that is no class at all. -/
  | other
  deriving DecidableEq, Repr

def ClassBound.name : ClassBound → String
  | cls c => c.name
  | parameterized name => name
  | other => ""

/-- The container in which a collection gathers its items. -/
inductive Container where
  /-- A list that begins with some items; they may depend on how many are to come. -/
  | sequence (first : Nat → List Datum)
  /-- A set. -/
  | set
  /-- Something that takes no items, by the name of its class. -/
  | unfit (typeName : String)

/-- What becomes of a container when all items are in it. -/
inductive Finish where
  /-- It is the result. -/
  | asIs
  | tuple
  | frozenset
  /-- The number of its items is the result. -/
  | count
  /-- The items become entries, each of which is kept once. -/
  | entries
  deriving DecidableEq, Repr

/-- A converter. -/
inductive Converter where
  /-- No converter at all, where one may be missing. -/
  | missing
  /-- The text itself. -/
  | text
  /-- A truth value. -/
  | truth
  /-- The severity of a log record. -/
  | level
  /-- A date with a time of day, in a region perhaps. -/
  | moment (regions : String → Option Calendar.Region)
  | date
  | clock
  /-- A reference to a resource. -/
  | uri
  /-- A converter that lacks a parser. -/
  | unparsed
  /-- A function of the setting, with a name to show. -/
  | function (name : String) (run : Option Setting → Except Fault Datum)
  /-- A class that lies below a bound; its name must begin with one of the prefixes, if there are
      any. -/
  | className (resolver : NameResolver) (bound : ClassBound) (prefixes : List String)
  /-- A way to make an object from a text, with a name to show; `target` is the name of the type. -/
  | factory (label : String) (target : Option String) (make : String → Except Fault Datum)
  /-- An editor for a class, or none where it was looked for in vain. -/
  | editor (target : ClassRef) (inUse : Option EditorInUse)
  /-- A collection of items, which are cut apart at commas. -/
  | collection (container : Container) (inner : Converter) (finish : Finish)
  /-- A key and a value, which are cut apart at an equals sign. -/
  | entry (key value : Converter)
  /-- A map of the entries that another converter gives. -/
  | map (entries : Converter)
  /-- A value or nothing. -/
  | optional (base : Converter)
  /-- A tuple of the items that another converter gives. -/
  | array (element : Descriptor) (sequence : Converter)

namespace Converter

def shown : Converter → String
  | missing => "None"
  | text => "StringConverter()"
  | truth => "BooleanConverter()"
  | level => "LogLevelConverter()"
  | moment _ => "DateTimeConverter()"
  | date => "DateConverter()"
  | clock => "TimeConverter()"
  | uri => "URIConverter()"
  | unparsed => "ParsingConverter()"
  | function name _ => s!"FunctionConverter({name})"
  | className _ bound _ => s!"ClassConverter(bound={bound.name})"
  | factory label _ _ => s!"FactoryConverter({label})"
  | editor target _ => s!"EditorConverter({target.name})"
  | collection _ inner _ => s!"CollectionConverter({inner.shown})"
  | entry key value => s!"EntryConverter({key.shown}, {value.shown})"
  | map entries => s!"MapConverter({entries.shown})"
  | optional base => s!"OptionalConverter({base.shown})"
  | array element sequence => s!"ArrayConverter({element.text}, {sequence.shown})"

/-- The converter of a class from the way its objects are made. -/
def ofMaker (target : Option String) (maker : Maker) : Converter :=
  factory maker.label target maker.make

/-- The converter of a class that knows how to make objects. -/
def forClass? (u : Universe) (c : ClassRef) : Option Converter :=
  (u.makerOf c).map (ofMaker (some c.name))

def isPresent : Converter → Bool
  | missing => false
  | _ => true

/-- A collection must have a container and a converter for its items. -/
def collectionOf (container : Option Container) (inner : Converter) (finish : Finish) :
    Except Fault Converter :=
  match container, inner with
  | none, _ | _, missing =>
    .error (.misconfigured "CollectionConverter requires a factory and an inner converter")
  | some container, inner => .ok (collection container inner finish)

/-- A map must have a converter for its entries. -/
def mapOf : Converter → Except Fault Converter
  | missing => .error (.misconfigured "MapConverter requires an entry converter")
  | entries => .ok (map entries)

/-- An optional value must have a converter for the value. -/
def optionalOf : Converter → Except Fault Converter
  | missing => .error (.misconfigured "OptionalConverter requires a base converter")
  | base => .ok (optional base)

/-- What an array is asked to hold. -/
inductive Element where
  /-- One type. -/
  | type (d : Descriptor)
  /-- Anything else, as a message shows it. -/
  | other (shown : String)
  deriving DecidableEq, Repr

/-- An array must have exactly one element type, and a converter for its items. -/
def arrayOf : Element → Converter → Except Fault Converter
  | .other shown, _ =>
    .error (.misconfigured s!"ArrayConverter needs exactly one element type, got {shown}")
  | .type _, missing => .error (.misconfigured "ArrayConverter requires a sequence converter")
  | .type d, sequence => .ok (array d sequence)

end Converter

end SettingText
