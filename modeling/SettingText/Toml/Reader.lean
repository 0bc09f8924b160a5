import SettingText.Toml.Scalar
import SettingText.Toml.Table

/-!
Reading a configuration text: one statement a line, in sections with headings. A list may go on over
several lines, a table in braces may not.
-/

namespace SettingText.Toml

mutual

/-- A value. Here and below, `limit` is at least twice the length of the text. -/
def takeValue : (limit : Nat) → List Char → Option (Value × List Char)
  | 0, _ => none
  | limit + 1, cs =>
    match cs with
    | [] => none
    | c :: rest =>
      if c = Text.Quoted.double || c = Text.Quoted.single then
        (takeString true cs).map fun (s, rest) => (.text s, rest)
      else if c = '[' then
        (takeItems limit [] rest).map fun (items, rest) => (.list items, rest)
      else if c = '\x7b' then do
        let rest := dropBlanks rest
        if rest.head? = some '\x7d' then return (.table [], rest.drop 1)
        else do
          let (assignments, rest) ← takeAssignments limit [] rest
          return (← ofAssignments assignments, rest)
      else takeScalar cs

/-- The items of a list behind its opening bracket or a comma, after those before it, the last
    first. -/
def takeItems : (limit : Nat) → List Value → List Char → Option (List Value × List Char)
  | 0, _, _ => none
  | limit + 1, before, cs => do
    match ← skipLines false cs with
    | ']' :: rest => return (before.reverse, rest)
    | cs => do
      let (item, rest) ← takeValue limit cs
      match ← skipLines false rest with
      | ',' :: rest => takeItems limit (item :: before) rest
      | ']' :: rest => return ((item :: before).reverse, rest)
      | _ => none

/-- The assignments of a table in braces, after those before it, the last first. -/
def takeAssignments : (limit : Nat) → List (List String × Value) → List Char →
    Option (List (List String × Value) × List Char)
  | 0, _, _ => none
  | limit + 1, before, cs => do
    let (assignment, rest) ← takeAssignment limit cs
    match dropBlanks rest with
    | ',' :: rest => takeAssignments limit (assignment :: before) (dropBlanks rest)
    | c :: rest => if c = '\x7d' then return ((assignment :: before).reverse, rest) else none
    | [] => none

/-- A name with points, an equals sign and a value. -/
def takeAssignment : (limit : Nat) → List Char → Option ((List String × Value) × List Char)
  | 0, _ => none
  | limit + 1, cs => do
    let (path, rest) ← takePath (cs.length + 1) cs
    match rest with
    | '=' :: rest => do
      let (value, rest) ← takeValue limit (dropBlanks rest)
      return ((path, value), rest)
    | _ => none

end

/-- A name with points between brackets, of which the closing ones are given. -/
def takeHeading (closing : List Char) (cs : List Char) : Option (List String × List Char) := do
  let (path, rest) ← takePath (cs.length + 1) (dropBlanks cs)
  if closing.isPrefixOf rest then return (path, rest.drop closing.length) else none

def takeStatement (cs : List Char) : Option (Statement × List Char) :=
  match cs with
  | '[' :: '[' :: rest =>
    (takeHeading [']', ']'] rest).map fun (path, rest) => (.element path, rest)
  | '[' :: rest => (takeHeading [']'] rest).map fun (path, rest) => (.heading path, rest)
  | _ => (takeAssignment (2 * cs.length + 4) cs).map fun ((path, value), rest) =>
      (.assignment path value, rest)

/-- The rest of a line, which may only be a comment; gives what follows the line. -/
def endLine (cs : List Char) : Option (List Char) := do
  match ← skipComment (dropBlanks cs) with
  | [] => return []
  | c :: rest => if c = '\n' then return rest else none

/-- The statements of a text; `limit` is at least the number of its lines. -/
def statements : (limit : Nat) → List Char → Option (List Statement)
  | 0, _ => some []
  | limit + 1, cs =>
    match dropBlanks cs with
    | [] => some []
    | c :: rest =>
      if c = '\n' || c = '#' then do statements limit (← endLine (c :: rest))
      else do
        let (statement, rest) ← takeStatement (c :: rest)
        return statement :: (← statements limit (← endLine rest))

/-- Every line end as one character. -/
def plainLines : List Char → List Char
  | '\r' :: '\n' :: rest => '\n' :: plainLines rest
  | '\r' :: rest => '\n' :: plainLines rest
  | c :: rest => c :: plainLines rest
  | [] => []

/-- Read a configuration text; nothing if it is malformed. -/
def read (text : String) : Option (List (String × Value)) :=
  let cs := plainLines text.toList
  (statements (cs.length + 1) cs).bind ofStatements

/-- The settings of a configuration text as plain data. -/
def readJson (text : String) : Option (List (String × Json)) :=
  (read text).map Value.toJson.membersToJson

end SettingText.Toml
