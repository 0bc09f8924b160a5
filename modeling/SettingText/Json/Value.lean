import SettingText.Number.Shortest
import SettingText.Text.Quoted

/-!
JSON values. Whole numbers and floating-point numbers are told apart, and the members of an object
keep their order.
-/

namespace SettingText

/-- A JSON value. -/
inductive Json where
  | null
  | bool (b : Bool)
  | int (n : Int)
  | float (x : Binary64)
  | text (s : String)
  | list (items : List Json)
  | object (members : List (String × Json))
  deriving Repr, Inhabited

namespace Json

def find? (members : List (String × Json)) (name : String) : Option Json :=
  (members.find? (·.1 == name)).map (·.2)

/-- Put a member in the place of the one of its name, or at the end. -/
def put (members : List (String × Json)) (name : String) (value : Json) : List (String × Json) :=
  if members.any (·.1 == name) then
    members.map fun m => if m.1 == name then (name, value) else m
  else members ++ [(name, value)]

/-- Members in the order of their names' first occurrence, each with its last value. -/
def ofPairs (pairs : List (String × Json)) : List (String × Json) :=
  pairs.foldl (fun members pair => put members pair.1 pair.2) []

/-- The words for truth values and for nothing. -/
def boolText (b : Bool) : String := if b then "True" else "False"

/-- The value as a message shows it inside another value. -/
def shown : Json → String
  | null => "None"
  | bool b => boolText b
  | int n => toString n
  | float x => x.text
  | text s => Text.quoted s
  | list items => "[" ++ ", ".intercalate (shownItems items) ++ "]"
  | object members => "\x7b" ++ ", ".intercalate (shownMembers members) ++ "\x7d"
where
  /-- The items of a list. -/
  shownItems : List Json → List String
    | [] => []
    | item :: rest => item.shown :: shownItems rest
  /-- The members of an object. -/
  shownMembers : List (String × Json) → List String
    | [] => []
    | (name, value) :: rest => s!"{Text.quoted name}: {value.shown}" :: shownMembers rest

/-- The value as a message shows it on its own: a text stands for itself. -/
def plainText : Json → String
  | text s => s
  | other => other.shown

end Json

end SettingText
