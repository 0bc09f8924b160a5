import SettingText.Converter.Convert
import SettingText.Journal.Record
import SettingText.Registry.Recipe

/-!
Registries: the converters registered for types, the converters that were built from them, and what
building needs. Converters are objects, so each is held under a serial number by which two uses of
one converter are told from two equal ones.
-/

namespace SettingText

/-- A converter with the serial number under which it is held. -/
structure Held where
  serial : Nat
  converter : Converter

/-- Converters by the types they are held for. -/
structure Shelf where
  entries : List (Descriptor × Held) := []

namespace Shelf

/-- The converter held for a type. -/
def find? (s : Shelf) (d : Descriptor) : Option Held := (s.entries.find? (·.1 == d)).map (·.2)

/-- Hold a converter for a type, in place of the one held before. -/
def put (s : Shelf) (d : Descriptor) (held : Held) : Shelf :=
  ⟨(d, held) :: s.entries.filter (·.1 != d)⟩

/-- Hold nothing for a type. -/
def erase (s : Shelf) (d : Descriptor) : Shelf := ⟨s.entries.filter (·.1 != d)⟩

theorem find?_put_same (s : Shelf) (d : Descriptor) (held : Held) :
    (s.put d held).find? d = some held := by simp [put, find?]

/-- Other types keep what is held for them. -/
theorem find?_erase_other (s : Shelf) {d e : Descriptor} (h : e ≠ d) :
    (s.erase d).find? e = s.find? e := by
  simp only [erase, find?, List.find?_filter]
  congr 2
  funext x
  by_cases he : (x.1 == e) = true
  · have := eq_of_beq he
    simp [this, h]
  · simp [he]

theorem find?_erase_same (s : Shelf) (d : Descriptor) : (s.erase d).find? d = none := by
  simp only [erase, find?, List.find?_filter, Option.map_eq_none_iff, List.find?_eq_none]
  intro x _
  by_cases h : x.1 = d <;> simp [h]

theorem find?_put_other (s : Shelf) {d e : Descriptor} (h : e ≠ d) (held : Held) :
    (s.put d held).find? e = s.find? e := by
  have hne : ((d, held).1 == e) = false := by simpa using fun x => h x.symm
  rw [← s.find?_erase_other h, put, find?, List.find?_cons, hne]
  rfl

end Shelf

/-- What the fallback offers for a class. -/
structure Offer where
  converter : Converter
  /-- The method of the class that the converter uses, if it is not the class itself. -/
  method : Option String := none

/-- The way a class makes its own objects, as an offer. -/
def Offer.ofClass (u : Universe) (c : ClassRef) : Option Offer :=
  (u.makerOf c).map fun maker => ⟨.ofMaker (some c.name) maker, maker.method⟩

/-- A registry. -/
structure Registry where
  /-- The classes it knows. -/
  classes : Universe
  /-- The registered converters. -/
  scalars : Shelf := {}
  /-- The converters that were resolved since the registrations last changed. -/
  cache : Shelf := {}
  /-- Resolved converters are kept. -/
  memoize : Bool := true
  editors : EditorTable := .standard
  /-- What to do for a class that nothing else serves. -/
  fallback : ClassRef → Option Offer := Offer.ofClass classes
  resolver : NameResolver := fun name => (classes.resolve name).map .cls
  prefixes : List String := []
  /-- The serial number of the next converter. -/
  nextSerial : Nat := 0
  /-- The number of the next editor. -/
  nextEditor : Nat := 0
  bench : Bench := .empty
  /-- What was noted down, the latest last. -/
  journal : List LogRecord := []

/-- Work on a registry that may fail. What was done before the failure stays done. -/
abbrev RegistryM := ExceptT Fault (StateM Registry)

namespace Registry

/-- The registered converter of a type; where one is missing there is none. -/
def scalar? (r : Registry) (d : Descriptor) : Option Held :=
  (r.scalars.find? d).filter (·.converter.isPresent)

/-- The converter that was kept for a type. -/
def cached? (r : Registry) (d : Descriptor) : Option Held :=
  if r.memoize then r.cache.find? d else none

def contains (r : Registry) (d : Descriptor) : Bool := (r.scalars.find? d).isSome

/-- Note something down. -/
def note (record : LogRecord) (r : Registry) : Registry :=
  { r with journal := r.journal ++ [record] }

def hold (r : Registry) (converter : Converter) : Held × Registry :=
  (⟨r.nextSerial, converter⟩, { r with nextSerial := r.nextSerial + 1 })

/-- Put a new editor to use. -/
def engage (r : Registry) (kind : EditorKind) : EditorInUse × Registry :=
  (⟨kind, r.nextEditor⟩, { r with nextEditor := r.nextEditor + 1 })

/-- Keep a resolved converter. -/
def remember (r : Registry) (d : Descriptor) (held : Held) : Registry :=
  if r.memoize then { r with cache := r.cache.put d held } else r

/-- Register a converter that is held already. Everything kept is forgotten. -/
def putHeld (r : Registry) (d : Descriptor) (held : Held) : Registry :=
  note (.registered d.text) { r with scalars := r.scalars.put d held, cache := {} }

/-- Register a converter; gives the one it replaces. -/
def put (r : Registry) (d : Descriptor) (converter : Converter) : Option Held × Registry :=
  let (held, r) := r.hold converter
  (r.scalars.find? d, r.putHeld d held)

/-- Take a registration away; gives the converter that was registered. -/
def remove (r : Registry) (d : Descriptor) : Option Held × Registry :=
  (r.scalars.find? d, { r with scalars := r.scalars.erase d, cache := {} })

def registerEditor (r : Registry) (c : ClassRef) (kind : EditorKind) : Registry :=
  note (.editorRegistered c.name) { r with editors := r.editors.register c kind }

/-- Take the editor of a class away. -/
def unregisterEditor (r : Registry) (c : ClassRef) : Registry :=
  { r with editors := r.editors.unregister c }

/-- Register one and the same converter for several types. -/
def shareAmong (r : Registry) (types : List Descriptor) (converter : Converter) : Registry :=
  let (held, r) := r.hold converter
  { r with scalars := types.foldl (fun shelf d => shelf.put d held) r.scalars }

/-- The converters every program starts with; class names must begin with one of the prefixes. -/
def builtinScalars (resolver : NameResolver) (prefixes : List String) :
    List (List Descriptor × Converter) :=
  [([.plain (.builtin "str"), .top], .text),
    ([.plain (.builtin "bool")], .truth),
    ([.plain (.builtin "type")], .className resolver (.cls .object) prefixes),
    ([.plain Datum.levelClass], .level),
    ([.plain (Datum.calendarClass "datetime")], .moment Calendar.Regions.find?),
    ([.plain (Datum.calendarClass "date")], .date),
    ([.plain (Datum.calendarClass "time")], .clock),
    ([.plain Datum.uriClass], .uri)]

/-- The registry with the converters every program starts with. -/
def withBuiltins (r : Registry) : Registry :=
  (builtinScalars r.resolver r.prefixes).foldl (fun r (types, c) => r.shareAmong types c) r

/-- The registry every program starts with. -/
def standard (u : Universe) : Registry := withBuiltins { classes := u }

end Registry

end SettingText
