import SettingText.Datum.Map

/-!
The plain form of a converted value, in which results show it: dates, numbers with an exact text and
objects become texts, collections become lists, and maps become objects whose names are the texts of
their keys.
-/

namespace SettingText.Datum

/-- The members of an object, from keys and values in plain form. -/
def objectOf (pairs : List (Json × Json)) : Json :=
  .object (Json.ofPairs (pairs.map fun (key, value) => (key.plainText, value)))

/-- The plain form of a value, down to a depth. -/
def plainWithin : Nat → Datum → Except Cause Json
  | 0, _ => .ok .null
  | depth + 1, d =>
    let plainPairs (pairs : List (Datum × Datum)) : Except Cause Json :=
      return objectOf (← pairs.mapM fun (key, value) =>
        return (← plainWithin depth key, ← plainWithin depth value))
    match d with
    | nothing => .ok .null
    | bool b => .ok (.bool b)
    | text s => .ok (.text s)
    | int n => .ok (.int n)
    | float x => .ok (.float x)
    | complex z => .ok (.text z.text)
    | decimal x => .ok (.text x.text)
    | fraction q => .ok (.text q.text)
    | uuid u => .ok (.text u.text)
    | path p => .ok (.text p.text)
    | moment m => .ok (.text m.resultText)
    | date x => .ok (.text x.text)
    | clock c => .ok (.text c.resultText)
    | span s => .ok (.text s.resultText)
    | level l => .ok (.int l.number)
    | member _ _ value => plainWithin depth value
    | refined _ base => plainWithin depth base
    | cls c => .ok (.text c.fullName)
    | entry key value =>
      return .object [("key", ← plainWithin depth key), ("value", ← plainWithin depth value)]
    | map entries => do
      plainPairs (← mapItems entries)
    | dict _ entries => plainPairs entries
    | list items | tuple items | set items | frozenset items =>
      return .list (← items.mapM (plainWithin depth))
    | named _ fields => return .list (← fields.mapM fun (_, value) => plainWithin depth value)
    | record .. => .ok (.text d.shown)
    | worded _ words => .ok (.text words)
    | opaqueObject _ plain => .ok plain
    | broken cause => .error cause

/-- The plain form of a value. -/
def plain (d : Datum) : Except Cause Json := plainWithin (d.depth + 1) d

end SettingText.Datum
