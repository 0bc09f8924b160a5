import SettingText.Datum.Shown
import SettingText.Entries.Lookup

/-!
When two values are equal. Numbers are equal by value whatever their form, texts by their
characters, collections by their items; a number that is undefined equals nothing, not even itself.
Comparing fails for a signalling number, and for maps whose keys cannot be looked up.
-/

namespace SettingText.Datum

/-- The exact value of a number that is neither a fraction nor complex. -/
def realOf? : Datum → Option Decimal
  | bool b => some (.ofInt (if b then 1 else 0))
  | int n => some (.ofInt n)
  | float x => some (.ofBinary64 x)
  | decimal d => some d
  | level l => some (.ofInt l.number)
  | refined _ (int n) => some (.ofInt n)
  | refined _ (float x) => some (.ofBinary64 x)
  | _ => none

/-- The characters of a text of any class. -/
def textOf? : Datum → Option String
  | text s | refined _ (text s) => some s
  | _ => none

/-- The date of a date of any class. -/
def dateOf? : Datum → Option Calendar.Date
  | date d | refined _ (date d) => some d
  | _ => none

def fixedItems? : Datum → Option (List Datum)
  | tuple items => some items
  | entry key value => some [key, value]
  | named _ fields => some (fields.map (·.2))
  | _ => none

/-- The items of a set of either kind. -/
def setItems? : Datum → Option (List Datum)
  | set items | frozenset items => some items
  | _ => none

/-- A value that can be put into a set or be a key of a table; the cause tells why it cannot. -/
def checkHashable : Datum → Except Cause Unit
  | list _ => .error (.unhashable "list")
  | set _ => .error (.unhashable "set")
  | map _ => .error (.unhashable "EntryMap")
  | dict c _ => .error (.unhashable (if showsModule c then c.fullName else c.name))
  | decimal d => if d.isSignalling then .error .signalledKey else .ok ()
  | entry key value => do checkHashable key; checkHashable value
  | tuple items => checkItems items
  | named _ fields => checkFields fields
  | broken cause => .error cause
  | _ => .ok ()
where
  /-- Every item of a fixed sequence can be a key. -/
  checkItems : List Datum → Except Cause Unit
    | [] => .ok ()
    | d :: rest => do checkHashable d; checkItems rest
  /-- Every field of a tuple with names can be a key. -/
  checkFields : List (String × Datum) → Except Cause Unit
    | [] => .ok ()
    | (_, d) :: rest => do checkHashable d; checkFields rest

/-- What a table tells the times in a key apart by, beyond equality: the exact distance of each from
    the start of its day in universal time. -/
def keyMarks : Datum → List (Option Int)
  | clock c => [c.universalMicros?]
  | entry key value => keyMarks key ++ keyMarks value
  | tuple items => marksOfItems items
  | named _ fields => marksOfFields fields
  | _ => []
where
  /-- The marks of the items of a fixed sequence. -/
  marksOfItems : List Datum → List (Option Int)
    | [] => []
    | d :: rest => keyMarks d ++ marksOfItems rest
  /-- The marks of the fields of a tuple with names. -/
  marksOfFields : List (String × Datum) → List (Option Int)
    | [] => []
    | (_, d) :: rest => keyMarks d ++ marksOfFields rest

/-- Two keys are one key of a table, or one item of a set, when they are equal and no time in them
    tells them apart. -/
def sameKey (same : Datum → Datum → Except Cause Bool) (a b : Datum) : Except Cause Bool :=
  if keyMarks a = keyMarks b then same a b else .ok false

/-- Two numbers are equal by value; a signalling one refuses. -/
def sameReal (x y : Decimal) : Except Cause Bool :=
  if x.isSignalling || y.isSignalling then .error .signalled else .ok (x.eq y)

/-- Two lists of the same length hold equal items, place by place. -/
def sameItems (same : Datum → Datum → Except Cause Bool) :
    List Datum → List Datum → Except Cause Bool
  | [], [] => .ok true
  | a :: as, b :: bs => do if ← same a b then sameItems same as bs else return false
  | _, _ => .ok false

def holds (same : Datum → Datum → Except Cause Bool) (wanted : Datum) (items : List Datum) :
    Except Cause Bool :=
  Entries.contains same wanted items

/-- Every item of the first list has an equal one in the second. -/
def covered (same : Datum → Datum → Except Cause Bool) (second : List Datum) :
    List Datum → Except Cause Bool
  | [] => .ok true
  | d :: rest => do if ← holds same d second then covered same second rest else return false

/-- The entries of a map as a table: each key once, with the value found under it. -/
def tableOf (same : Bool → Datum → Datum → Except Cause Bool) (entries : List (Datum × Datum)) :
    Except Cause (List (Datum × Datum)) :=
  let add (table : List (Datum × Datum)) (key : Datum) (position : Nat) := do
    match ← Entries.findAt same position key 0 entries with
    | some value =>
      checkHashable key
      Entries.put (sameKey (same false)) key value table
    | none => throw (.missingKey key.shown)
  entries.zipIdx.foldlM (fun table ((key, _), position) => add table key position) []

/-- A map of any kind as a table. -/
def tableOf? (same : Bool → Datum → Datum → Except Cause Bool) :
    Datum → Option (Except Cause (List (Datum × Datum)))
  | map entries => some (tableOf same entries)
  | dict _ entries => some (.ok entries)
  | _ => none

/--
Equality, with the equality of parts given. `one` tells that both are the same object: then the items of
a collection are the same objects too and need no comparing, and an object without an equality of its
own equals itself.
-/
def equalBy (within : Bool → Datum → Datum → Except Cause Bool) (one : Bool) (a b : Datum) :
    Except Cause Bool :=
  let same (x y : Datum) : Except Cause Bool := if one then .ok true else within false x y
  match realOf? a, realOf? b with
  | some x, some y => sameReal x y
  | _, _ =>
  match textOf? a, textOf? b with
  | some x, some y => .ok (x == y)
  | _, _ =>
  match dateOf? a, dateOf? b with
  | some x, some y => .ok (x == y)
  | _, _ =>
  match fixedItems? a, fixedItems? b with
  | some x, some y => sameItems same x y
  | _, _ =>
  match setItems? a, setItems? b with
  | some x, some y => if x.length = y.length then covered (sameKey same) y x else .ok false
  | _, _ =>
  match tableOf? within a, tableOf? within b with
  | some x, some y => do
    let first ← x
    let second ← y
    -- the tables of one object hold the same keys, also those that equal nothing
    if one then return true
    else Entries.sameTable (sameKey (within false)) (within false) first second
  | _, _ =>
  match a, b with
  | nothing, nothing => .ok true
  | complex x, complex y => .ok (x.re.eq y.re && x.im.eq y.im)
  | fraction x, fraction y => .ok (x == y)
  | uuid x, uuid y => .ok (x == y)
  | path x, path y => .ok (x == y)
  | moment x, moment y => .ok (x.same y)
  | clock x, clock y => .ok (x.same y)
  | span x, span y => .ok (x == y)
  | cls x, cls y => .ok (x == y)
  | member c x _, member d y _ => .ok (c == d && x == y)
  | list x, list y => if x.length = y.length then sameItems same x y else .ok false
  | _, _ => .ok one

/-- Equality, down to a depth. -/
def equalWithin : Nat → Bool → Datum → Datum → Except Cause Bool
  | 0, one, _, _ => .ok one
  | depth + 1, one, a, b => equalBy (equalWithin depth) one a b

/-- Two different objects are equal. -/
def equal (a b : Datum) : Except Cause Bool := equalWithin (max a.depth b.depth + 1) false a b

/-- Two values are equal; `one` tells that they are the same object. -/
def equalObjects (one : Bool) (a b : Datum) : Except Cause Bool :=
  equalWithin (max a.depth b.depth + 1) one a b

/-- Two entries are equal: their keys are and their values are. -/
def equalEntries (a b : Datum × Datum) : Except Cause Bool := do
  if ← equal a.1 b.1 then equal a.2 b.2 else return false

end SettingText.Datum
