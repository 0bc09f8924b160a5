import SettingText.Datum.Plain
import SettingText.Json.Writer

/-!
The tagged form of a converted value: JSON in which every value other than a text, a truth value or
nothing is an object that names its kind, so that values of different types are told apart.
-/

namespace SettingText.Datum

def tag (name : String) (value : Json) : Json := .object [(name, value)]

def tagText (name text : String) : Json := tag name (.text text)

/-- An object known by its class and one more member. -/
def tagObject (c : ClassRef) (members : List (String × Json)) : Json :=
  .object (("object", .text c.fullName) :: members)

/-- The text by which a set puts its items in order. -/
def orderText (item : Json) : String := (sortMembers item).line Json.loose
where
  /-- The same value with the members of its objects in the order of their names. -/
  sortMembers : Json → Json
    | .list items => .list (sortItems items)
    | .object members => .object ((sortPairs members).mergeSort fun a b => decide (a.1 ≤ b.1))
    | other => other
  /-- The items of a list. -/
  sortItems : List Json → List Json
    | [] => []
    | item :: rest => sortMembers item :: sortItems rest
  /-- The members of an object. -/
  sortPairs : List (String × Json) → List (String × Json)
    | [] => []
    | (name, value) :: rest => (name, sortMembers value) :: sortPairs rest

/-- The items of a set of either kind in the order of their texts. -/
def tagSet (kind : String) (items : List Json) : Json :=
  tag kind (.list (items.mergeSort fun a b => decide (orderText a ≤ orderText b)))

/-- The tagged form of a value, down to a depth. -/
def taggedWithin : Nat → Datum → Except Cause Json
  | 0, _ => .ok .null
  | depth + 1, d =>
    let taggedItems (items : List Datum) : Except Cause (List Json) :=
      items.mapM (taggedWithin depth)
    let taggedFields (fields : List (String × Datum)) : Except Cause Json :=
      return .object (← fields.mapM fun (name, value) => return (name, ← taggedWithin depth value))
    match d with
    | nothing => .ok .null
    | bool b => .ok (.bool b)
    | text s => .ok (.text s)
    | int n => .ok (tagText "int" (toString n))
    | float x => .ok (tagText "float" x.text)
    | complex z => .ok (tag "complex" (.list [.text z.re.text, .text z.im.text]))
    | decimal x => .ok (tagText "decimal" x.text)
    | fraction q => .ok (tagObject d.classOf [("str", .text q.text)])
    | uuid u => .ok (tagText "uuid" u.text)
    | path p => .ok (tagText "path" p.text)
    | moment m => .ok (.object [("datetime", .text m.text),
        ("zone", (m.regionName?.map Json.text).getD .null), ("fold", .int (if m.fold then 1 else 0))])
    | date x => .ok (tagText "date" x.text)
    | clock c => .ok (tagText "time" c.text)
    | span s => .ok (tag "timedelta" (.list [.int s.days, .int s.seconds, .int s.microseconds]))
    | level l => .ok (.object [("loglevel", .text l.name), ("int", .text (toString l.number))])
    | member c name _ => .ok (tagText "enum" s!"{c.name}.{name}")
    | refined c base =>
      match base with
      | text s => .ok (tagText c.name s)
      | int n => .ok (tagText c.name (toString n))
      | float x => .ok (tagText c.name x.text)
      | date x => .ok (tagText c.name x.text)
      | _ => .ok (tagObject c [])
    | cls c => .ok (tagText "class" c.fullName)
    | entry key value =>
      return tag "entry" (.list [← taggedWithin depth key, ← taggedWithin depth value])
    | map entries =>
      return tag "map" (.list (← entries.mapM fun (key, value) =>
        return .list [← taggedWithin depth key, ← taggedWithin depth value]))
    | list items => return tag "list" (.list (← taggedItems items))
    | tuple items => return tag "tuple" (.list (← taggedItems items))
    | set items => return tagSet "set" (← taggedItems items)
    | frozenset items => return tagSet "frozenset" (← taggedItems items)
    | dict c _ => .ok (tagObject c [])
    | record c fields | named c fields => return tagObject c [("fields", ← taggedFields fields)]
    | worded c words => .ok (tagObject c [("str", .text words)])
    | opaqueObject c _ => .ok (tagObject c [])
    | broken cause => .error cause

/-- The tagged form of a value. -/
def tagged (d : Datum) : Except Cause Json := taggedWithin (d.depth + 1) d

end SettingText.Datum
