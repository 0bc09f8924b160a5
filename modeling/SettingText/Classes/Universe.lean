import SettingText.Datum.Basic
import SettingText.Fault.Conversion

/-!
The classes a program knows, and how their names are resolved. A class knows the classes above it,
the interfaces it satisfies without being made from them, what arguments it takes between square
brackets, and how an object of it is made from one text.
-/

namespace SettingText

/-- What a class takes between square brackets. -/
inductive Parameters where
  /-- Nothing: the class is not generic. -/
  | none
  /-- Any arguments. -/
  | any
  /-- Exactly so many arguments. -/
  | exactly (count : Nat)
  /-- A list of argument types, or three points, and a result type. -/
  | callable
  /-- The name of a member: the class is an enumeration. -/
  | memberName
  deriving DecidableEq, Repr

/-- How an object of a class is made from one text. -/
structure Maker where
  /-- The name under which the way of making is shown. -/
  label : String
  /-- The method used, when it is not the class itself. -/
  method : Option String := .none
  /-- Make an object. -/
  make : String → Except Fault Datum

/-- What is known of a class. -/
structure ClassInfo where
  ref : ClassRef
  /-- The classes above it, the nearest first. -/
  ancestors : List ClassRef
  /-- The interfaces it satisfies though they are not above it, all of them. -/
  interfaces : List ClassRef := []
  parameters : Parameters := .none
  maker : Option Maker := .none
  /-- The class describes an interface that cannot be tested for. -/
  untestable : Bool := false
  /-- The class is not found under its name. -/
  unlisted : Bool := false

/-- The classes a program knows, and the names under which they and other things are found. -/
structure Universe where
  classes : List ClassInfo
  /-- The modules that can be imported. -/
  modules : List String
  /-- Further names of classes: module, name, class. -/
  aliases : List (String × String × ClassRef)
  /-- Names of things that are no classes: module and name. -/
  others : List (String × String)

namespace Universe

def info? (u : Universe) (c : ClassRef) : Option ClassInfo := u.classes.find? (·.ref == c)

/-- The class and the classes above it, the nearest first. -/
def lineage (u : Universe) (c : ClassRef) : List ClassRef :=
  match u.info? c with
  | some info => c :: info.ancestors
  | none => [c, .object]

/-- What a class takes between square brackets. -/
def parametersOf (u : Universe) (c : ClassRef) : Parameters :=
  match u.info? c with
  | some info => info.parameters
  | none => .none

/-- How an object of a class is made from one text. -/
def makerOf (u : Universe) (c : ClassRef) : Option Maker := (u.info? c).bind (·.maker)

def interfacesOf (u : Universe) (c : ClassRef) : List ClassRef :=
  ((u.info? c).map (·.interfaces)).getD []

/-- A class lies below another, or is the same, or satisfies it as an interface. -/
def isSubclass (u : Universe) (c bound : ClassRef) : Bool :=
  bound == .object || (u.lineage c).contains bound || (u.interfacesOf c).contains bound

def isTestable (u : Universe) (bound : ClassRef) : Bool :=
  match u.info? bound with
  | some info => !info.untestable
  | none => true

/-- What a name stands for. -/
inductive Found where
  | cls (c : ClassRef)
  | other
  deriving DecidableEq, Repr

def attribute? (u : Universe) (module name : String) : Option Found :=
  let listed := fun (info : ClassInfo) =>
    info.ref.module == module && info.ref.name == name && !info.unlisted
  match u.classes.find? listed with
  | some info => some (.cls info.ref)
  | none =>
    match u.aliases.find? (fun entry => entry.1 == module && entry.2.1 == name) with
    | some (_, _, c) => some (.cls c)
    | none =>
      if u.others.contains (module, name) || u.modules.contains s!"{module}.{name}" then some .other
      else none

def cutAtLastPoint (path : List Char) : Option (List Char × List Char) :=
  let behind := (path.reverse.takeWhile (· != '.')).reverse
  if behind.length = path.length then none
  else some (path.take (path.length - behind.length - 1), behind)

/-- What a name with a module stands for. The module is what stands before a colon, or before the
    last point when the whole path is no module. -/
def import? (u : Universe) (path : String) : Option Found :=
  match path.toList.splitOn ':' with
  | [whole] =>
    if u.modules.contains (String.ofList whole) then some .other
    else
      (cutAtLastPoint whole).bind fun (module, name) =>
        if u.modules.contains (String.ofList module) then
          u.attribute? (String.ofList module) (String.ofList name)
        else none
  | [module, name] =>
    if u.modules.contains (String.ofList module) then
      u.attribute? (String.ofList module) (String.ofList name)
    else none
  | _ => none

/-- A path that begins with a point would be relative to a package. -/
def isRelative (path : List Char) : Bool :=
  path.head? == some '.' && (path.filter (· == ':')).length ≤ 1

def modulePart (path : String) : String := String.ofList (path.toList.takeWhile (· != ':'))

/-- The class of a name: of a built-in class, or of a module and a class in it. -/
def resolve (u : Universe) (name : String) : Except ClassFault ClassRef :=
  let cs := name.toList
  if !cs.contains '.' && !cs.contains ':' then
    match u.attribute? "builtins" name with
    | some (.cls c) => .ok c
    | _ => .error (.notBuiltin name)
  else
    let path := Text.strip name
    if isRelative path.toList then .error (.relative (modulePart path))
    else
      match u.import? path with
      | some (.cls c) => .ok c
      | some .other => .error (.notClass name)
      | none => .error (.notImportable name)

end Universe

end SettingText
