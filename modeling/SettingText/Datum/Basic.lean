import SettingText.Calendar.Moment
import SettingText.Calendar.Span
import SettingText.Classes.Ref
import SettingText.Json.Value
import SettingText.LogLevel
import SettingText.Number.Complex
import SettingText.Number.Decimal
import SettingText.Number.Fraction
import SettingText.PathName
import SettingText.Uuid
import SettingText.Fault.Cause

/-!
Converted values: what a text becomes when it is read at a type.
-/

namespace SettingText

/-- A converted value. -/
inductive Datum where
  /-- No value at all. -/
  | nothing
  | bool (b : Bool)
  | text (s : String)
  | int (n : Int)
  | float (x : Binary64)
  | complex (z : Complex)
  | decimal (d : Decimal)
  | fraction (q : Fraction)
  | uuid (u : Uuid)
  | path (p : PathName)
  | moment (m : Calendar.Moment)
  | date (d : Calendar.Date)
  | clock (c : Calendar.Clock)
  | span (s : Calendar.Span)
  | level (l : LogLevel)
  /-- A member of an enumeration, with the value it stands for. -/
  | member (cls : ClassRef) (name : String) (value : Datum)
  /-- A value that belongs to a class of its own and is otherwise like its base. -/
  | refined (cls : ClassRef) (base : Datum)
  /-- A class. -/
  | cls (c : ClassRef)
  /-- A key with its value. -/
  | entry (key value : Datum)
  /-- A read-only map in the order of its entries. -/
  | map (entries : List (Datum × Datum))
  | list (items : List Datum)
  | tuple (items : List Datum)
  | set (items : List Datum)
  | frozenset (items : List Datum)
  /-- A map of a class of its own, with at most one entry for a key. -/
  | dict (cls : ClassRef) (entries : List (Datum × Datum))
  /-- An object with named fields. -/
  | record (cls : ClassRef) (fields : List (String × Datum))
  /-- A tuple whose items have names. -/
  | named (cls : ClassRef) (fields : List (String × Datum))
  /-- An object that is known by its text. -/
  | worded (cls : ClassRef) (text : String)
  /-- An object that is known by its class; `plain` is its form in results. -/
  | opaqueObject (cls : ClassRef) (plain : Json)
  /-- An object every use of which fails. -/
  | broken (cause : Cause)
  deriving Inhabited

namespace Datum

/-- A class of the module of dates and times. -/
def calendarClass (name : String) : ClassRef := ⟨"datetime", name⟩

def levelClass : ClassRef := ⟨"settingconv.converters.scalars", "LogLevel"⟩

/-- The class of references to resources. -/
def uriClass : ClassRef := ⟨"settingconv.converters.scalars", "URI"⟩

def entryClass : ClassRef := ⟨"settingconv.converters.structural", "MapEntry"⟩

/-- The class of read-only maps. -/
def mapClass : ClassRef := ⟨"settingconv.converters.structural", "EntryMap"⟩

/-- A reference to a resource. -/
def uri (text : String) : Datum := refined uriClass (.text text)

def classOf : Datum → ClassRef
  | nothing => .nothing
  | bool _ => .builtin "bool"
  | text _ => .builtin "str"
  | int _ => .builtin "int"
  | float _ => .builtin "float"
  | complex _ => .builtin "complex"
  | decimal _ => ⟨"decimal", "Decimal"⟩
  | fraction _ => ⟨"fractions", "Fraction"⟩
  | uuid _ => ⟨"uuid", "UUID"⟩
  | path _ => ⟨"pathlib", "PosixPath"⟩
  | moment _ => calendarClass "datetime"
  | date _ => calendarClass "date"
  | clock _ => calendarClass "time"
  | span _ => calendarClass "timedelta"
  | level _ => levelClass
  | member c _ _ | refined c _ | dict c _ | record c _ | named c _ | worded c _
  | opaqueObject c _ => c
  | cls _ => .builtin "type"
  | entry _ _ => entryClass
  | map _ => mapClass
  | list _ => .builtin "list"
  | tuple _ => .builtin "tuple"
  | set _ => .builtin "set"
  | frozenset _ => .builtin "frozenset"
  | broken _ => .object

/-- The classes that messages show with their module. -/
def showsModule (c : ClassRef) : Bool :=
  [calendarClass "datetime", calendarClass "date", calendarClass "time", calendarClass "timedelta",
    ⟨"decimal", "Decimal"⟩, ⟨"collections", "OrderedDict"⟩].contains c

/-- The name of a value's class in messages about its use. -/
def typeName (d : Datum) : String :=
  let c := d.classOf
  if showsModule c then c.fullName else c.name

/-- How deep values stand in one another. -/
def depth : Datum → Nat
  | member _ _ value => value.depth + 1
  | refined _ base => base.depth + 1
  | entry key value => max key.depth value.depth + 1
  | map entries => depthPairs entries + 1
  | list items => depthItems items + 1
  | tuple items => depthItems items + 1
  | set items => depthItems items + 1
  | frozenset items => depthItems items + 1
  | dict _ entries => depthPairs entries + 1
  | record _ fields => depthFields fields + 1
  | named _ fields => depthFields fields + 1
  | _ => 0
where
  /-- The depth of the deepest item. -/
  depthItems : List Datum → Nat
    | [] => 0
    | d :: rest => max d.depth (depthItems rest)
  /-- The depth of the deepest key or value. -/
  depthPairs : List (Datum × Datum) → Nat
    | [] => 0
    | (k, v) :: rest => max (max k.depth v.depth) (depthPairs rest)
  /-- The depth of the deepest field. -/
  depthFields : List (String × Datum) → Nat
    | [] => 0
    | (_, d) :: rest => max d.depth (depthFields rest)

/-- The items of a value, in the order in which they are gone through. -/
def items? : Datum → Option (List Datum)
  | text s | refined _ (text s) => some (s.toList.map fun c => text c.toString)
  | entry key value => some [key, value]
  | map entries | dict _ entries => some (entries.map (·.1))
  | list items | tuple items | set items | frozenset items => some items
  | named _ fields => some (fields.map (·.2))
  | _ => none

/-- The items of a value that must have some. -/
def items (d : Datum) : Except Cause (List Datum) :=
  match d with
  | broken cause => .error cause
  | _ => match d.items? with
    | some items => .ok items
    | none => .error (.notIterable d.typeName)

/-- The entry whose key and value are the two items of a value. -/
def toEntry (d : Datum) : Except Cause (Datum × Datum) :=
  match d.items? with
  | none => .error (.notSpreadable d.typeName)
  | some [key, value] => .ok (key, value)
  | some items => .error (.entrySize items.length)

end Datum

end SettingText
