import SettingText.Toml.Value

/-!
Tables while they are being filled. A table may be opened by a heading, by a name with points, or
merely by lying on the way to another one; how it was opened decides who may still add to it. A
value that is written in one piece is closed for good.
-/

namespace SettingText.Toml

/-- How a table was opened. -/
inductive Opening where
  /-- It lies on the way to another table. -/
  | passing
  /-- By a name with points, in the section of this number. -/
  | dotted (part : Nat)
  /-- By a heading of its own. -/
  | heading
  deriving DecidableEq, Repr

/-- What a name stands for in a table that is being filled. -/
inductive Node where
  /-- A value that is written in one piece. -/
  | value (v : Value)
  | table (opening : Opening) (members : List (String × Node))
  /-- A list of tables that headings add to; the last is open. -/
  | tables (done : List (List (String × Node))) (last : List (String × Node))
  deriving Inhabited

/-- The members of a table that is being filled. -/
abbrev Members := List (String × Node)

namespace Members

def find? (ms : Members) (name : String) : Option Node := (List.find? (·.1 == name) ms).map (·.2)

/-- Put a node under a name, in the place of the one it stood for. -/
def put (ms : Members) (name : String) (node : Node) : Members :=
  if ms.any (·.1 == name) then ms.map fun m => if m.1 == name then (name, node) else m
  else ms ++ [(name, node)]

end Members

/-- A name with points may go through a table that lies on a way, and through one that was opened
    by such a name in the same section. -/
def Opening.admits (part : Nat) : Opening → Bool
  | passing => true
  | dotted n => n == part
  | heading => false

/-- Put a value under a name with points, in the section of a number. -/
def assign (part : Nat) (v : Value) : List String → Members → Option Members
  | [], _ => none
  | [name], ms => if (ms.find? name).isSome then none else some (ms.put name (.value v))
  | name :: rest, ms =>
    match ms.find? name with
    | none => do return ms.put name (.table (.dotted part) (← assign part v rest []))
    | some (.table opening inner) =>
      if opening.admits part then do
        return ms.put name (.table (.dotted part) (← assign part v rest inner))
      else none
    | some _ => none

/-- Change the table at the end of a way. Tables that are missing are opened in passing, and a list
    of tables is entered at its last table. -/
def atPath (change : Members → Option Members) : List String → Members → Option Members
  | [], ms => change ms
  | name :: rest, ms =>
    match ms.find? name with
    | none => do return ms.put name (.table .passing (← atPath change rest []))
    | some (.table opening inner) => do
      return ms.put name (.table opening (← atPath change rest inner))
    | some (.tables done last) => do return ms.put name (.tables done (← atPath change rest last))
    | some (.value _) => none

/-- Open a table by a heading. A table that was opened already, unless in passing, stays closed. -/
def openTable (name : String) (ms : Members) : Option Members :=
  match ms.find? name with
  | none => some (ms.put name (.table .heading []))
  | some (.table .passing inner) => some (ms.put name (.table .heading inner))
  | some _ => none

/-- Open a further table of a list of tables by a heading. -/
def openElement (name : String) (ms : Members) : Option Members :=
  match ms.find? name with
  | none => some (ms.put name (.tables [] []))
  | some (.tables done last) => some (ms.put name (.tables (done ++ [last]) []))
  | some _ => none

def Node.toValue : Node → Value
  | value v => v
  | table _ members => .table (membersToValue members)
  | tables done last => .list (tablesToValue done ++ [.table (membersToValue last)])
where
  /-- The members of a table. -/
  membersToValue : List (String × Node) → List (String × Value)
    | [] => []
    | (name, node) :: rest => (name, node.toValue) :: membersToValue rest
  /-- Some tables. -/
  tablesToValue : List (List (String × Node)) → List Value
    | [] => []
    | members :: rest => .table (membersToValue members) :: tablesToValue rest

/-- The table that assignments make within one pair of braces. -/
def ofAssignments (assignments : List (List String × Value)) : Option Value := do
  let members ← assignments.foldlM (fun ms (path, v) => assign 0 v path ms) []
  return (Node.table .passing members).toValue

/-- A line of a configuration text that says something. -/
inductive Statement where
  | assignment (path : List String) (value : Value)
  | heading (path : List String)
  /-- The heading of a further table of a list. -/
  | element (path : List String)

/-- A configuration text that has been read to some line. -/
structure Progress where
  members : Members := []
  /-- The heading of the present section. -/
  path : List String := []
  /-- The number of the present section. -/
  part : Nat := 0

/-- Begin a section. -/
def Progress.enter (p : Progress) (path : List String)
    (opening : String → Members → Option Members) : Option Progress := do
  let name ← path.getLast?
  let members ← atPath (opening name) path.dropLast p.members
  return { members, path, part := p.part + 1 }

/-- Carry out a statement. -/
def Progress.step (p : Progress) : Statement → Option Progress
  | .assignment path v => do
    return { p with members := ← atPath (assign p.part v path) p.path p.members }
  | .heading path => p.enter path openTable
  | .element path => p.enter path openElement

/-- The table that statements make. -/
def ofStatements (statements : List Statement) : Option (List (String × Value)) := do
  let p ← statements.foldlM Progress.step {}
  return Node.toValue.membersToValue p.members

end SettingText.Toml
