/-!
Maps as lists of entries. A map keeps its entries in order; a lookup goes through them from the
first on, so the first entry of a key wins and later ones are only shown.

Equality of keys is a parameter, and may fail. Its first argument tells whether the two keys are one
and the same object, for keys that do not equal even themselves.
-/

namespace SettingText.Entries

variable {ε κ ν α : Type}

/-- The value of the first entry whose key matches. -/
def find (matching : κ → Except ε Bool) : List (κ × ν) → Except ε (Option ν)
  | [] => .ok none
  | (key, value) :: rest => do
    if ← matching key then return some value else find matching rest

/-- The value found under the key of the entry at a position; `index` counts the entries passed. -/
def findAt (same : Bool → κ → κ → Except ε Bool) (position : Nat) (wanted : κ) (index : Nat) :
    List (κ × ν) → Except ε (Option ν)
  | [] => .ok none
  | (key, value) :: rest => do
    if ← same (index == position) key wanted then return some value
    else findAt same position wanted (index + 1) rest

/-- Every key of the map with the value found under it. -/
def items (same : Bool → κ → κ → Except ε Bool) (missing : κ → ε) (entries : List (κ × ν)) :
    Except ε (List (κ × ν)) :=
  entries.zipIdx.mapM fun ((key, _), position) => do
    match ← findAt same position key 0 entries with
    | some value => return (key, value)
    | none => throw (missing key)

/-- An entry equal to this one is among the kept ones. -/
def contains (same : α → α → Except ε Bool) (wanted : α) : List α → Except ε Bool
  | [] => .ok false
  | entry :: rest => do
    if ← same entry wanted then return true else contains same wanted rest

/-- Keep an entry unless it equals one that is kept already. -/
def keep (same : α → α → Except ε Bool) (kept : List α) (entry : α) : Except ε (List α) := do
  if ← contains same entry kept then return kept else return kept ++ [entry]

/-- The entries in order, without those that equal an earlier one. -/
def canonical (same : α → α → Except ε Bool) (entries : List α) : Except ε (List α) :=
  entries.foldlM (keep same) []

/-- Put a value under a key: in the place of the value under an equal key, or at the end. -/
def put (same : κ → κ → Except ε Bool) (key : κ) (value : ν) :
    List (κ × ν) → Except ε (List (κ × ν))
  | [] => .ok [(key, value)]
  | (k, v) :: rest => do
    if ← same k key then return (k, value) :: rest
    else return (k, v) :: (← put same key value rest)

/-- Every key of the first table is in the second, with an equal value. -/
def within (sameKey : κ → κ → Except ε Bool) (sameValue : ν → ν → Except ε Bool)
    (second : List (κ × ν)) : List (κ × ν) → Except ε Bool
  | [] => .ok true
  | (key, value) :: rest => do
    match ← find (fun k => sameKey k key) second with
    | some other => if ← sameValue value other then within sameKey sameValue second rest else return false
    | none => return false

/-- Two tables without repeated keys are the same when they have the same keys with equal values. -/
def sameTable (sameKey : κ → κ → Except ε Bool) (sameValue : ν → ν → Except ε Bool)
    (first second : List (κ × ν)) : Except ε Bool :=
  if first.length = second.length then within sameKey sameValue second first else .ok false

end SettingText.Entries
