import SettingText.Fault.Kind
import SettingText.Calendar.Iso
import SettingText.Classes.Ref
import SettingText.LogLevel
import SettingText.Network.Uri
import SettingText.Number.Complex
import SettingText.Number.Decimal
import SettingText.Number.Fraction
import SettingText.Uuid

/-!
Why a step failed. Each cause has a kind, which decides whether it counts as a parse error, and a
wording.
-/

namespace SettingText

/-- Why a name is no class that may be used. -/
inductive ClassFault where
  /-- No built-in class has the name. -/
  | notBuiltin (name : String)
  /-- Nothing can be imported under the name. -/
  | notImportable (name : String)
  /-- What the name stands for is no class. -/
  | notClass (name : String)
  /-- The name would be relative to a package, and there is none. -/
  | relative (name : String)
  /-- A table of names does not have this one. -/
  | notListed (name : String)
  /-- The name begins with none of the allowed texts. -/
  | outsidePrefixes (name : String)
  /-- The class is no subclass of the bound. -/
  | notSubclass (name bound : String)
  /-- The bound is no class. -/
  | boundNotClass
  /-- The bound is a shape with arguments. -/
  | boundNotPlain
  /-- The bound describes an interface that cannot be tested for. -/
  | boundNotTestable
  /-- What the name stands for is no class, and cannot be compared with a bound. -/
  | nameNotClass
  deriving DecidableEq, Repr

def ClassFault.kind : ClassFault → ErrorKind
  | notBuiltin _ | notImportable _ | notClass _ | outsidePrefixes _ => .lookup
  | notListed _ => .key
  | relative _ | notSubclass .. | boundNotClass | boundNotPlain | boundNotTestable
  | nameNotClass => .type

def ClassFault.message : ClassFault → String
  | notBuiltin name => s!"No builtin class named {Text.quoted name}"
  | notImportable name => s!"Cannot import {Text.quoted name}"
  | notClass name => s!"{Text.quoted name} is not a class"
  | relative name =>
    "the 'package' argument is required to perform a relative import for " ++ Text.quoted name
  | notListed name => Text.quoted name
  | outsidePrefixes name => s!"{Text.quoted name} is outside the allowed class prefixes"
  | notSubclass name bound => s!"{name} is not a subclass of {bound}"
  | boundNotClass => "issubclass() arg 2 must be a class, a tuple of classes, or a union"
  | boundNotPlain => "issubclass() argument 2 cannot be a parameterized generic"
  | boundNotTestable =>
    "Instance and class checks can only be used with @runtime_checkable protocols"
  | nameNotClass => "issubclass() arg 1 must be a class"

/-- Why a step failed. -/
inductive Cause where
  | literal (fault : Number.LiteralFault)
  | decimal (fault : Decimal.ReadFault)
  | fraction (fault : Fraction.ReadFault)
  | complex (fault : Complex.ReadFault)
  | uuid (fault : Uuid.ReadFault)
  | level (fault : LogLevel.ReadFault)
  | iso (fault : Calendar.IsoFault)
  | span (fault : Calendar.SpanFault)
  | outOfCalendar (fault : Calendar.OutOfCalendar)
  | unknownRegion (name : String)
  | uri (fault : Network.UriFault)
  | className (fault : ClassFault)
  /-- The text names no member of an enumeration. -/
  | notMember (text enumeration : String)
  /-- A signalling number was compared. -/
  | signalled
  /-- A signalling number was to be put into a set or looked up. -/
  | signalledKey
  /-- A value that can change was to be put into a set or looked up. -/
  | unhashable (typeName : String)
  /-- A value that has no items was to be gone through. -/
  | notIterable (typeName : String)
  /-- A value that has no items was to be spread over the parts of an entry. -/
  | notSpreadable (typeName : String)
  /-- An entry is made of a key and a value; other items were given. -/
  | entrySize (count : Nat)
  /-- A key is in none of the entries. -/
  | missingKey (shown : String)
  /-- A converter is missing where one is needed. -/
  | missingConverter
  /-- A converter has no parser of its own. -/
  | noParser
  /-- A duration without any text. -/
  | emptyDuration
  /-- A text that is no duration. -/
  | badDuration (text : String)
  /-- An error of a kind and wording of its own. -/
  | other (kind : ErrorKind) (message : String)
  deriving DecidableEq, Repr

namespace Cause

def kind : Cause → ErrorKind
  | literal _ | complex _ | uuid _ | level _ | iso _ | emptyDuration | badDuration _ => .value
  | decimal _ | signalled => .invalidOperation
  | fraction (.zeroDenominator _) => .zeroDivision
  | fraction _ => .value
  | span _ | outOfCalendar _ => .overflow
  | unknownRegion _ | notMember .. => .lookup
  | uri .badCharacter => .validation
  | uri _ => .value
  | className fault => fault.kind
  | signalledKey | unhashable _ | notIterable _ | notSpreadable _ | entrySize _ => .type
  | missingKey _ => .key
  | missingConverter => .noAttribute
  | noParser => .notImplemented
  | other kind _ => kind

/-- The name of the constructor of entries. -/
def entryMaker : String := "MapEntry.__new__()"

def message : Cause → String
  | literal fault => fault.message
  | decimal fault => fault.message
  | fraction fault => fault.message
  | complex fault => fault.message
  | uuid fault => fault.message
  | level fault => fault.message
  | iso fault => fault.message
  | span fault => fault.message
  | outOfCalendar fault => fault.message
  | unknownRegion name => s!"Unknown time zone {Text.quoted name}"
  | uri fault => fault.message
  | className fault => fault.message
  | notMember text enumeration => s!"{Text.quoted text} is not a member of {enumeration}"
  | signalled => Decimal.signalMessage
  | signalledKey => "Cannot hash a signaling NaN value"
  | unhashable typeName => s!"unhashable type: '{typeName}'"
  | notIterable typeName => s!"'{typeName}' object is not iterable"
  | notSpreadable typeName =>
    "settingconv.converters.structural.MapEntry() argument after * must be an iterable, not " ++
      typeName
  | entrySize 0 => s!"{entryMaker} missing 2 required positional arguments: 'key' and 'value'"
  | entrySize 1 => s!"{entryMaker} missing 1 required positional argument: 'value'"
  | entrySize count => s!"{entryMaker} takes 3 positional arguments but {count + 1} were given"
  | missingKey shown => shown
  | missingConverter => "'NoneType' object has no attribute 'convert'"
  | noParser => ""
  | emptyDuration => "empty duration"
  | badDuration text => s!"invalid duration {Text.quoted text}"
  | other _ message => message

end Cause

end SettingText
