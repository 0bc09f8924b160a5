import SettingText.Json.Value

/-!
Writing JSON text: on one line in ASCII, or over several lines with two blanks for each level.
-/

namespace SettingText.Json

def letterEscape? (c : Char) : Option Char :=
  match c.toNat with
  | 8 => some 'b'
  | 9 => some 't'
  | 10 => some 'n'
  | 12 => some 'f'
  | 13 => some 'r'
  | _ => none

/-- An escape by a code unit of sixteen bits. -/
def unitEscape (unit : Nat) : List Char :=
  Text.Quoted.backslash :: 'u' :: Text.Quoted.hex 4 unit

/-- An escape by code; beyond sixteen bits, by the two surrogates. -/
def codeEscape (c : Char) : List Char :=
  if c.toNat < 0x10000 then unitEscape c.toNat
  else
    let n := c.toNat - 0x10000
    unitEscape (0xd800 + n / 0x400) ++ unitEscape (0xdc00 + n % 0x400)

/-- A character inside a string; `spared` tells which characters stand for themselves. -/
def escape (spared : Char → Bool) (c : Char) : List Char :=
  if c == Text.Quoted.double || c == Text.Quoted.backslash then [Text.Quoted.backslash, c]
  else
    match letterEscape? c with
    | some letter => [Text.Quoted.backslash, letter]
    | none => if spared c then [c] else codeEscape c

def quote (spared : Char → Bool) (s : String) : String :=
  String.ofList
    (Text.Quoted.double :: (s.toList.flatMap (escape spared) ++ [Text.Quoted.double]))

def isAsciiText (c : Char) : Bool := 32 ≤ c.toNat && c.toNat ≤ 126

/-- Every character but the controls. -/
def isNoControl (c : Char) : Bool := 32 ≤ c.toNat

def asciiQuote (s : String) : String := quote isAsciiText s

/-- A floating-point number on one line; numbers that are not finite go by their names. -/
def lineFloat (x : Binary64) : String :=
  x.render { Binary64.plainLayout with
    nan := "NaN", infinity := "Infinity", negativeInfinity := "-Infinity" }

/-- The marks between the parts of a value on one line. -/
structure LineStyle where
  /-- Between items and between members. -/
  comma : String
  /-- Between a name and its value. -/
  colon : String

def tight : LineStyle := ⟨",", ":"⟩

/-- A blank behind each mark. -/
def loose : LineStyle := ⟨", ", ": "⟩

/-- A value on one line, in ASCII. -/
def line (style : LineStyle) : Json → String
  | null => "null"
  | bool b => if b then "true" else "false"
  | int n => toString n
  | float x => lineFloat x
  | text s => asciiQuote s
  | list items => "[" ++ style.comma.intercalate (lineItems items) ++ "]"
  | object members => "\x7b" ++ style.comma.intercalate (lineMembers members) ++ "\x7d"
where
  /-- The items of a list. -/
  lineItems : List Json → List String
    | [] => []
    | item :: rest => line style item :: lineItems rest
  /-- The members of an object. -/
  lineMembers : List (String × Json) → List String
    | [] => []
    | (name, value) :: rest => (asciiQuote name ++ style.colon ++ line style value) :: lineMembers rest

def margin (level : Nat) : String := "".pushn ' ' (2 * level)

/-- Lines of a level between two brackets; nothing between them if there are none. -/
def block (level : Nat) (opening closing : String) (parts : List String) : String :=
  if parts.isEmpty then opening ++ closing
  else
    let inner := parts.map (margin (level + 1) ++ ·)
    opening ++ "\n" ++ ",\n".intercalate inner ++ "\n" ++ margin level ++ closing

/-- A value over several lines. Numbers that are not finite are null. -/
def indented (level : Nat) : Json → String
  | null => "null"
  | bool b => if b then "true" else "false"
  | int n => toString n
  | float x => x.render Binary64.jsonLayout
  | text s => quote isNoControl s
  | list items => block level "[" "]" (itemLines items)
  | object members => block level "\x7b" "\x7d" (memberLines members)
where
  /-- The items of a list. -/
  itemLines : List Json → List String
    | [] => []
    | item :: rest => indented (level + 1) item :: itemLines rest
  /-- The members of an object. -/
  memberLines : List (String × Json) → List String
    | [] => []
    | (name, value) :: rest =>
      (quote isNoControl name ++ ": " ++ indented (level + 1) value) :: memberLines rest

end SettingText.Json
