import SettingText.Classes.Universe

/-!
Ways to make an object from one text: by the constructor of a class, by a method of it, or, for an
enumeration, by the value or the name of a member.
-/

namespace SettingText

namespace Maker

def calling (c : ClassRef) (make : String → Except Fault Datum) : Maker := { label := c.name, make }

/-- Call a class that reads the text. -/
def reading (c : ClassRef) (read : String → Except Cause Datum) : Maker :=
  calling c fun text => (read text).mapError .stray

/-- Call a class that takes any text. -/
def taking (c : ClassRef) (make : String → Datum) : Maker := calling c fun text => .ok (make text)

/-- Call a class that refuses every text. -/
def refusing (c : ClassRef) (kind : ErrorKind) (message : String) : Maker :=
  calling c fun _ => .error (.stray (.other kind message))

def byMethod (c : ClassRef) (name : String) (make : String → Except Fault Datum) : Maker where
  label := s!"{c.name}.{name}"
  method := some name
  make := make

end Maker

/-- An enumeration: the names of its members, second names included, and what they stand for. -/
structure Enumeration where
  ref : ClassRef
  members : List (String × Datum)
  /-- The member of a value that is a text. -/
  ofValue? : String → Option Datum

namespace Enumeration

/-- The member a text stands for: by its value, by its name, or by its name in any case. -/
def member? (e : Enumeration) (text : String) : Option Datum :=
  (e.ofValue? text).orElse fun _ =>
  (e.members.find? (·.1 == text)).map (·.2) |>.orElse fun _ =>
  (e.members.find? (fun m => Text.lower m.1 == Text.lower text)).map (·.2)

/-- Look a member up. -/
def maker (e : Enumeration) : Maker where
  label := e.ref.name ++ ".<lookup>"
  make text :=
    match e.member? text with
    | some member => .ok member
    | none => .error (.stray (.notMember text e.ref.name))

def textValue? (members : List (String × Datum)) (text : String) : Option Datum :=
  (members.find? fun m =>
    match m.2 with
    | .member _ _ (.text value) => value == text
    | _ => false).map (·.2)

def info (e : Enumeration) (ancestors : List ClassRef) : ClassInfo where
  ref := e.ref
  ancestors := ancestors
  interfaces := [.abstraction "Hashable"]
  parameters := .memberName
  maker := some e.maker

end Enumeration

end SettingText
