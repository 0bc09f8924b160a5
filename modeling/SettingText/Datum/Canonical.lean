import SettingText.Datum.Equality

/-!
Entries made of the items of a collection, each kept once, and the items of a set. An item that
cannot be compared or hashed stops the work at its place.
-/

namespace SettingText.Datum

/-- Keep the entry made of an item unless it equals one that is kept already. -/
def keepEntry (kept : List (Datum × Datum)) (item : Datum) : Except Cause (List (Datum × Datum)) := do
  Entries.keep equalEntries kept (← item.toEntry)

/-- The entries made of items, in order, without those that equal an earlier one. -/
def canonicalEntries (items : List Datum) : Except Cause (List (Datum × Datum)) :=
  items.foldlM keepEntry []

/-- Put an item into a set. -/
def addItem (items : List Datum) (item : Datum) : Except Cause (List Datum) := do
  checkHashable item
  if ← holds (sameKey equal) item items then return items else return items ++ [item]

def setOf (items : List Datum) : Except Cause (List Datum) := items.foldlM addItem []

end SettingText.Datum
