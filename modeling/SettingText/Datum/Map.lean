import SettingText.Datum.Canonical

/-!
Maps as values: looking a key up, going through the entries, and tables made of pairs. The first
entry of a key answers for it, also where the entries are gone through.
-/

namespace SettingText.Datum

/-- A key that a map does not have. -/
def keyMissing (key : Datum) : Cause := .missingKey key.shown

/-- The value of a key, if the map has it. -/
def lookup? (entries : List (Datum × Datum)) (key : Datum) : Except Cause (Option Datum) :=
  Entries.find (fun k => equal k key) entries

/-- The value of a key, which the map must have. -/
def lookup (entries : List (Datum × Datum)) (key : Datum) : Except Cause Datum := do
  match ← lookup? entries key with
  | some value => return value
  | none => throw (keyMissing key)

/-- Every key with the value found under it. -/
def mapItems (entries : List (Datum × Datum)) : Except Cause (List (Datum × Datum)) :=
  Entries.items equalObjects keyMissing entries

/-- A table of pairs, in which the last value of a key counts. -/
def tableOfPairs (pairs : List (Datum × Datum)) : Except Cause Datum := do
  let entries ← pairs.foldlM (fun table (key, value) => do
    checkHashable key
    Entries.put (sameKey equal) key value table) []
  return .dict (.builtin "dict") entries

/-- A map takes no new values. -/
def assignmentRefused : Cause :=
  .other .type "'EntryMap' object does not support item assignment"

end SettingText.Datum
