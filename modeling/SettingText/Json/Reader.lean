import SettingText.Json.Token

/-!
Reading JSON text. The reader goes through the tokens once and keeps the open lists and objects on a
stack. A name that occurs twice in an object has its last value at its first place.
-/

namespace SettingText.Json

/-- An open list or object. The last item stands first. -/
inductive Open where
  | list (items : List Json)
  /-- An object, and the name whose value is being read. -/
  | object (members : List (String × Json)) (name : String)

/-- What must come next. -/
inductive Awaited where
  | value
  /-- The first item of a list, or its end. -/
  | firstItem
  /-- The first name of an object, or its end. -/
  | firstName
  /-- A further name of an object, whose members so far are given. -/
  | name (members : List (String × Json))
  /-- The colon behind a name. -/
  | colon (members : List (String × Json)) (name : String)
  /-- What may stand behind a value. -/
  | behind (value : Json)

def readTokens (awaited : Awaited) (around : List Open) : List Token → Option Json
  | [] =>
    match awaited, around with
    | .behind value, [] => some value
    | _, _ => none
  | token :: rest =>
    match awaited, token, around with
    | .value, .single value, _ | .firstItem, .single value, _ =>
      readTokens (.behind value) around rest
    | .value, .openList, _ | .firstItem, .openList, _ => readTokens .firstItem (.list [] :: around) rest
    | .value, .openObject, _ | .firstItem, .openObject, _ => readTokens .firstName around rest
    | .firstItem, .closeList, .list items :: outer =>
      readTokens (.behind (.list items.reverse)) outer rest
    | .firstName, .closeObject, _ => readTokens (.behind (.object [])) around rest
    | .firstName, .single (.text name), _ => readTokens (.colon [] name) around rest
    | .name members, .single (.text name), _ => readTokens (.colon members name) around rest
    | .colon members name, .colon, _ => readTokens .value (.object members name :: around) rest
    | .behind value, .comma, .list items :: outer =>
      readTokens .value (.list (value :: items) :: outer) rest
    | .behind value, .closeList, .list items :: outer =>
      readTokens (.behind (.list (value :: items).reverse)) outer rest
    | .behind value, .comma, .object members name :: outer =>
      readTokens (.name ((name, value) :: members)) outer rest
    | .behind value, .closeObject, .object members name :: outer =>
      readTokens (.behind (.object (ofPairs ((name, value) :: members).reverse))) outer rest
    | _, _, _ => none

def read (text : String) : Option Json := do
  readTokens .value [] (← tokens? text)

end SettingText.Json
