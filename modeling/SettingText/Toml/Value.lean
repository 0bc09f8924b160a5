import SettingText.Json.Value

/-!
The values of a configuration text. Besides what JSON has, there are dates and times.
-/

namespace SettingText.Toml

/-- A value. -/
inductive Value where
  | bool (b : Bool)
  | int (n : Int)
  | float (x : Binary64)
  | text (s : String)
  /-- A date, a time of day, or both, as written. -/
  | dated (text : String)
  | list (items : List Value)
  | table (members : List (String × Value))
  deriving Repr, Inhabited

namespace Value

/-- The value as plain data. No setting is a date, so dates count as null. -/
def toJson : Value → Json
  | bool b => .bool b
  | int n => .int n
  | float x => .float x
  | text s => .text s
  | dated _ => .null
  | list items => .list (itemsToJson items)
  | table members => .object (membersToJson members)
where
  /-- The items of a list. -/
  itemsToJson : List Value → List Json
    | [] => []
    | item :: rest => item.toJson :: itemsToJson rest
  /-- The members of a table. -/
  membersToJson : List (String × Value) → List (String × Json)
    | [] => []
    | (name, value) :: rest => (name, value.toJson) :: membersToJson rest

end Value

end SettingText.Toml
