import SettingText.Json.Value

/-!
Checking plain data against what is expected of it. Every fault is an issue with the place where it
was found; all issues are reported together.
-/

namespace SettingText

/-- What is wrong with a piece of data. -/
inductive IssueKind where
  | boolParsing | boolType | modelType | listType | stringType | dictType
  | missing | extraForbidden | frozenInstance
  deriving DecidableEq, Repr

def IssueKind.name : IssueKind → String
  | boolParsing => "bool_parsing"
  | boolType => "bool_type"
  | modelType => "model_type"
  | listType => "list_type"
  | stringType => "string_type"
  | dictType => "dict_type"
  | missing => "missing"
  | extraForbidden => "extra_forbidden"
  | frozenInstance => "frozen_instance"

/-- An issue: where it was found, from the outside inward, and what is wrong. -/
structure Issue where
  place : List String
  kind : IssueKind
  deriving DecidableEq, Repr

/-- The place of an issue, with points between its steps. -/
def Issue.placeText (i : Issue) : String := ".".intercalate i.place

/-- The result of a check: a value, or all issues found. -/
abbrev Checked (α : Type) := Except (List Issue) α

namespace Checked

/-- One issue found here. -/
def issue {α : Type} (kind : IssueKind) : Checked α := .error [⟨[], kind⟩]

/-- A check of a part: its issues lie one step further inside. -/
def within {α : Type} (step : String) : Checked α → Checked α
  | .ok a => .ok a
  | .error issues => .error (issues.map fun i => { i with place := step :: i.place })

/-- Both checks; the issues of both are reported. -/
def both {α β : Type} : Checked α → Checked β → Checked (α × β)
  | .ok a, .ok b => .ok (a, b)
  | .error i, .error j => .error (i ++ j)
  | .error i, .ok _ => .error i
  | .ok _, .error j => .error j

/-- A check of every element, each at its position. -/
def all {α β : Type} (check : α → Checked β) (position : Nat) : List α → Checked (List β)
  | [] => .ok []
  | a :: rest =>
    (both (within (toString position) (check a)) (all check (position + 1) rest)).map
      fun (b, others) => b :: others

end Checked

namespace Validation

/-- The words for truth values, in small letters. -/
def boolWords : List (String × Bool) :=
  [("1", true), ("true", true), ("t", true), ("yes", true), ("y", true), ("on", true),
    ("0", false), ("false", false), ("f", false), ("no", false), ("n", false), ("off", false)]

/-- Whole numbers from here on, and the same distance below zero, are too large to be looked at. -/
def numberLimit : Int := 9223372036854775808

/-- A truth value of a whole number that is not too large. -/
def boolOfInt (n : Int) : Checked Bool :=
  if n = 0 then .ok false else if n = 1 then .ok true else .issue .boolParsing

/-- A truth value: itself, one of the words for it in any case, or zero or one. -/
def bool : Json → Checked Bool
  | .bool b => .ok b
  | .text s =>
    match boolWords.find? (·.1 == s.map Char.toLower) with
    | some (_, b) => .ok b
    | none => .issue .boolParsing
  | .int n => if -numberLimit ≤ n && n < numberLimit then boolOfInt n else .issue .boolType
  | .float x =>
    match x.toRatio? with
    | some (num, den) =>
      let whole := num / Int.ofNat den
      if num % Int.ofNat den = 0 && whole.natAbs < numberLimit.natAbs then boolOfInt whole
      else .issue .boolType
    | none => .issue .boolType
  | _ => .issue .boolType

def text : Json → Checked String
  | .text s => .ok s
  | _ => .issue .stringType

def texts : Json → Checked (List String)
  | .list items => Checked.all text 0 items
  | _ => .issue .listType

/-- A table of any values. -/
def dict : Json → Checked (List (String × Json))
  | .object members => .ok members
  | _ => .issue .dictType

/-- A member that must be there. -/
def required {α : Type} (members : List (String × Json)) (name : String)
    (check : Json → Checked α) : Checked α :=
  Checked.within name (match Json.find? members name with
    | some value => check value
    | none => .issue .missing)

/-- A member that may be missing. -/
def optional {α : Type} (members : List (String × Json)) (name : String) (otherwise : α)
    (check : Json → Checked α) : Checked α :=
  match Json.find? members name with
  | some value => Checked.within name (check value)
  | none => .ok otherwise

/-- A record: a table from whose members it is made. -/
def record {α : Type} (check : List (String × Json) → Checked α) : Json → Checked α
  | .object members => check members
  | _ => .issue .modelType

end Validation

end SettingText
