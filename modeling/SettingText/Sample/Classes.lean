import SettingText.Classes.Own

/-!
Sample classes, with which the library is tried out: enumerations, classes that make their objects
by a method or by their constructor, and classes that cannot make one from a text.
-/

namespace SettingText.Sample

def ref (name : String) : ClassRef := ⟨"fixtures", name⟩

/-- A member of a sample enumeration. -/
def member (cls name : String) (value : Datum) : String × Datum :=
  (name, .member (ref cls) name value)

/-- An enumeration whose members are found by the texts they stand for and by their names. -/
def enumeration (name : String) (members : List (String × Datum)) (more : List (String × Datum)) :
    Enumeration :=
  let all := members ++ more
  ⟨ref name, all, Enumeration.textValue? all⟩

/-- Three colours, one of them a second name. -/
def color : Enumeration :=
  let red := member "Color" "RED" (.text "red")
  enumeration "Color" [red, member "Color" "GREEN" (.text "green")] [("CRIMSON", red.2)]

/-- Members whose values are the names of others, and names that differ in case only. -/
def tricky : Enumeration :=
  enumeration "Tricky" [member "Tricky" "A" (.text "B"), member "Tricky" "B" (.text "A"),
    member "Tricky" "lower" (.text "x"), member "Tricky" "LOWER" (.text "y")] []

/-- Members whose values are numbers, and one whose value is a text. -/
def num : Enumeration :=
  enumeration "Num" [member "Num" "ONE" (.int 1), member "Num" "TWO" (.int 2),
    member "Num" "TEXT" (.text "1")] []

def perm : Enumeration := enumeration "Perm" [member "Perm" "R" (.int 1), member "Perm" "W" (.int 2)] []

/-- An enumeration that knows a further value of a member. -/
def fuzzy : Enumeration :=
  let on := member "Fuzzy" "ON" (.text "on")
  let e := enumeration "Fuzzy" [on, member "Fuzzy" "OFF" (.text "off")] []
  { e with ofValue? := fun text => if text == "1" then some on.2 else e.ofValue? text }

def enumerations : List ClassInfo :=
  let enum : List ClassRef := [⟨"enum", "Enum"⟩, .object]
  [color, tricky, num, fuzzy].map (·.info enum) ++ [perm.info (⟨"enum", "Flag"⟩ :: enum)]

def record (name : String) (fields : List (String × Datum)) : Datum := .record (ref name) fields

/-- A sample class with classes above it and a maker. -/
def info (name : String) (above : List ClassRef) (maker : Option Maker) : ClassInfo where
  ref := ref name
  ancestors := above ++ [.object]
  interfaces := Classes.plainInterfaces
  maker := maker

/-- A whole number. -/
def readInt (text : String) : Except Cause Datum :=
  (Number.readInteger 10 text).map .int |>.mapError .literal

/-- A floating-point number. -/
def readFloat (text : String) : Except Cause Datum :=
  (Number.readFloat text).map .float |>.mapError .literal

/-- A host and a port, with a colon between. -/
def readEndpoint (text : String) : Except Cause Datum := do
  let cs := text.toList
  let host := cs.takeWhile (· != ':')
  let port ← readInt (String.ofList (cs.drop (host.length + 1)))
  return record "Endpoint" [("host", .text (String.ofList host)), ("port", port)]

/-- Two numbers with a point between, as an object of a class of versions. -/
def readVersion (name text : String) : Except Cause Datum := do
  match text.toList.splitOn '.' with
  | [major, minor] =>
    let major ← readInt (String.ofList major)
    let minor ← readInt (String.ofList minor)
    return record name [("major", major), ("minor", minor)]
  | [_] => throw (.other .value "not enough values to unpack (expected 2, got 1)")
  | _ => throw (.other .value "too many values to unpack (expected 2)")

/-- What the class that fails on demand does for a text. -/
def readRaiser (text : String) : Except Fault Datum :=
  let fail (kind : ErrorKind) (message : String) : Except Fault Datum :=
    .error (.stray (.other kind message))
  match text with
  | "malformed" => .error (.malformed (some "inner") "already wrapped" none none none)
  | "attribute" => fail .noAttribute "no such attribute"
  | "runtime" => fail .runtime "boom"
  | "key" => fail .key "'k'"
  | "index" => fail .index "out of range"
  | "zero" => fail .zeroDivision "division by zero"
  | "type" => fail .type "bad type"
  | "value" => fail .value "bad value"
  | "os" => fail .os "bad file"
  | "empty" => fail .value ""
  | kind => .ok (record "Raiser" [("kind", .text kind)])

/-- A class that keeps the text it was given. -/
def keeper (name : String) : ClassInfo :=
  info name [] (some (.taking (ref name) fun text => record name [("text", .text text)]))

/-- A class that is like a class of numbers or texts. -/
def refinement (name : String) (above : List ClassRef) (read : String → Except Cause Datum) :
    ClassInfo :=
  info name above (some (.reading (ref name) fun text => (read text).map (.refined (ref name))))

/-- Classes that make objects from a text. -/
def makingClasses : List ClassInfo :=
  let float := ClassRef.builtin "float"
  let version (name : String) (above : List ClassRef) : ClassInfo :=
    info name above (some { label := "Version.parse", method := some "parse",
                            make := fun text => (readVersion name text).mapError .stray })
  [info "Endpoint" [] (some (.reading (ref "Endpoint") readEndpoint)),
    version "Version" [],
    version "SubVersion" [ref "Version"],
    info "Both" [] (some (.byMethod (ref "Both") "from_string" fun text =>
      .ok (record "Both" [("text", .text text), ("via", .text "from_string")]))),
    info "MyDate" [Datum.calendarClass "date"] (some (.byMethod (ref "MyDate") "fromisoformat"
      fun text => (Calendar.Date.read text).map (fun d => .refined (ref "MyDate") (.date d))
        |>.mapError fun fault => .stray (.iso fault))),
    { info "Pair" [.builtin "tuple"] (some (.taking (ref "Pair") fun text =>
        .named (ref "Pair") [("a", .text text), ("b", .text "b")])) with
      interfaces := Classes.abstractions ("Hashable" :: Classes.sequenceNames)
      parameters := .any },
    { refinement "Hostname" [.builtin "str"] (fun text => .ok (.text text)) with
      interfaces := Classes.abstractions ("Hashable" :: Classes.sequenceNames) },
    refinement "Ratio" [float] readFloat,
    refinement "Celsius" [float] readFloat,
    refinement "Kelvin" [ref "Celsius", float] readFloat,
    refinement "Calls" [.builtin "int"] readInt,
    info "Raiser" [] (some (.calling (ref "Raiser") readRaiser)),
    { keeper "Box" with ancestors := [⟨"typing", "Generic"⟩, .object], parameters := .exactly 1 },
    keeper "InstanceParse",
    { keeper "Concrete" with ancestors := [ref "Abstract", ⟨"abc", "ABC"⟩, .object] }]

/-- Classes that make nothing from a text. -/
def otherClasses : List ClassInfo :=
  [info "Opaque" [] none, info "KwOnly" [] none, info "NoArgs" [] none,
    info "Abstract" [⟨"abc", "ABC"⟩] none,
    { info "Proto" [⟨"typing", "Protocol"⟩, ⟨"typing", "Generic"⟩] none with untestable := true }]

def classes : List ClassInfo := enumerations ++ makingClasses ++ otherClasses

/-- The standard classes and the sample classes. -/
def world : Universe :=
  { Universe.standard with
    classes := Universe.standard.classes ++ classes
    modules := Universe.standard.modules ++ ["fixtures"] }

end SettingText.Sample
