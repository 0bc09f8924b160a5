import SettingText.Classes.Universe
import SettingText.Types.Form

/-!
Building type forms from others: arguments between square brackets, unions, and bars. Building
fails for forms that are not generic, for arguments of the wrong number, and for forms that may not
stand inside others.
-/

namespace SettingText

/-- Why a form cannot be built. -/
inductive FormFault where
  /-- The parts do not fit together. -/
  | refused
  /-- An enumeration has no member under what stands between the brackets. -/
  | noMember (shown : String)
  deriving DecidableEq, Repr

/-- The cause of a failed conversion or request that a fault in a form is. -/
def FormFault.kind : FormFault → ErrorKind
  | refused => .type
  | noMember _ => .key

namespace TypeForm

/-- Forms of their own that may stand inside others. -/
def standaloneNames : List String := ["NoReturn", "Never", "Self", "LiteralString", "TypeAlias"]

/-- Forms of their own that take one type. -/
def markNames : List String := ["ClassVar", "Final", "Required", "NotRequired", "TypeGuard"]

/-- Forms of their own with a type in them that may not stand inside others. -/
def outerMarkNames : List String := ["ClassVar", "Final"]

/-- Classes that may not stand inside others as they are. -/
def bareClasses : List ClassRef := [⟨"typing", "Generic"⟩, ⟨"typing", "Protocol"⟩]

/-- The form is the absent value itself. -/
def isNothing : TypeForm → Bool
  | nothing => true
  | _ => false

/-- The absent value as an argument stands for its class. -/
def converted : TypeForm → TypeForm
  | nothing => nothingClass
  | form => form

def asArgument (form : TypeForm) : Except FormFault TypeForm :=
  match form with
  | nothing => .ok nothingClass
  | special name => if standaloneNames.contains name then .ok form else .error .refused
  | marked name _ => if outerMarkNames.contains name then .error .refused else .ok form
  | cls c => if bareClasses.contains c then .error .refused else .ok form
  | generic _ c _ => if bareClasses.contains c then .error .refused else .ok form
  | _ => .ok form

/-- The members of a union, or the form itself. -/
def memberList : TypeForm → List TypeForm
  | union _ members => members
  | form => [form]

/-- Each form once, at its first place. -/
def distinct (forms : List TypeForm) : List TypeForm :=
  forms.foldl (fun kept form => if kept.any (same · form) then kept else kept ++ [form]) []

/-- One form stands for itself; several are joined. -/
def joined (bars : Bool) (members : List TypeForm) : TypeForm :=
  match distinct members with
  | [single] => single
  | several => union bars several

def unionOf (forms : List TypeForm) : Except FormFault TypeForm := do
  if forms.isEmpty then throw .refused
  return joined false ((← forms.mapM asArgument).flatMap memberList)

/-- A form that bars join on their own: a class, the absent value, or a generic class whose
    arguments were not checked. -/
def joinsByBars : TypeForm → Bool
  | nothing | cls _ | generic false _ _ | union true _ => true
  | _ => false

/-- A form that joins what stands beside it into a union. -/
def joinsOthers : TypeForm → Bool
  | unbound _ | bounded _ _ | renamed _ | literal _ | annotated _ _ | union false _ | generic true _ _
  | otherName _ | special _ | marked _ _ => true
  | _ => false

/-- Two forms with a bar between them. -/
def bar (a b : TypeForm) : Except FormFault TypeForm :=
  match a, b with
  | nothing, nothing => .error .refused
  | _, _ =>
    if a.joinsByBars && b.joinsByBars then
      .ok (joined true ((memberList a.converted) ++ memberList b.converted))
    else if a.joinsOthers || b.joinsOthers then unionOf [a, b]
    else .error .refused

/-- Forms with bars between them. -/
def barAll : List TypeForm → Except FormFault TypeForm
  | [] => .error .refused
  | first :: rest => rest.foldlM bar first

/-- How many type variables stand in a form. -/
def variableCount : TypeForm → Nat
  | unbound _ | bounded _ _ => 1
  | annotated base _ => base.variableCount
  | union _ members => variableCounts members
  | generic checked c args => variableArgs checked c args
  | _ => 0
where
  /-- How many type variables stand in forms. -/
  variableCounts : List TypeForm → Nat
    | [] => 0
    | form :: rest => form.variableCount + variableCounts rest
  /-- How many type variables stand in arguments; a function's own arguments stand in a list. -/
  variableArgs (checked : Bool) (c : ClassRef) : List TypeForm → Nat
    | [] => 0
    | listing items :: rest => variableCounts items + variableArgs checked c rest
    | form :: rest => form.variableCount + variableArgs checked c rest

/-- Put types for the type variables of a form, from the left; gives the types left over. -/
def fill (types : List TypeForm) : TypeForm → Except FormFault (TypeForm × List TypeForm)
  | unbound _ =>
    match types with
    | [] => .error .refused
    | t :: rest => do return (← asArgument t, rest)
  | bounded _ _ =>
    match types with
    | [] => .error .refused
    | t :: rest => do return (← asArgument t, rest)
  | annotated base notes => do
    let (base, rest) ← fill types base
    return (annotated base notes, rest)
  | union bars members => do
    let (members, rest) ← fillAll types members
    if bars then return (← barAll members, rest) else return (← unionOf members, rest)
  | generic checked c args => do
    let (args, rest) ← fillAll types args
    return (generic checked c args, rest)
  | listing items => do
    let (items, rest) ← fillAll types items
    return (listing items, rest)
  | form => .ok (form, types)
where
  /-- Put types for the type variables of several forms. -/
  fillAll (types : List TypeForm) : List TypeForm → Except FormFault (List TypeForm × List TypeForm)
    | [] => .ok ([], types)
    | form :: rest => do
      let (form, types) ← fill types form
      let (rest, types) ← fillAll types rest
      return (form :: rest, types)

/-- A form whose type variables are all put to use. -/
def substituted (form : TypeForm) (args : List TypeForm) : Except FormFault TypeForm := do
  if form.variableCount = 0 || form.variableCount ≠ args.length then throw .refused
  return (← fill args form).1

/-- The arguments of a function type: a list of types or three points, and a result. -/
def functionArgs (lax : Bool) (args : List TypeForm) : Except FormFault (List TypeForm) :=
  match args with
  | [listing [dots], result] | [dots, result] => .ok [dots, result]
  | [listing items, result] => .ok [listing items, result]
  | [single, result] => if lax then .ok [listing [single], result] else .error .refused
  | _ => .error .refused

/-- A second name with arguments. -/
def aliasSubscript (name : String) (args : List TypeForm) : Except FormFault TypeForm := do
  let origin := aliasOrigin name
  match (aliasTable.find? (·.1 == name)).bind (·.2.2) with
  | some count =>
    let args ← args.mapM asArgument
    if count = args.length && count ≠ 0 then return generic true origin args else throw .refused
  | none =>
    if name = "Callable" then
      match ← functionArgs true args with
      | [first, result] =>
        let first := match first with
          | listing items => listing (items.map converted)
          | other => other
        return generic true origin [first, ← asArgument result]
      | _ => throw .refused
    else return generic true origin (← args.mapM asArgument)

/-- A form of its own with arguments. -/
def specialSubscript (name : String) (args : List TypeForm) : Except FormFault TypeForm :=
  match name, args with
  | "Optional", [arg] => do unionOf [← asArgument arg, nothingClass]
  | "Union", args => unionOf args
  | "Literal", _ :: _ => .ok (marked name (listing args))
  | _, [arg] => do
    if markNames.contains name then return marked name (← asArgument arg) else throw .refused
  | _, _ => .error .refused

def toNote : TypeForm → Json
  | value v => v
  | forward text => .text text
  | nothing => .null
  | form => .text form.shown

/-- A type with notes; notes of notes are joined. -/
def annotate (base : TypeForm) (notes : List Json) : Except FormFault TypeForm := do
  if notes.isEmpty then throw .refused
  match ← asArgument base with
  | annotated inner first => return annotated inner (first ++ notes)
  | checked => return annotated checked notes

/-- The class above enumerations whose members can be joined. -/
def flagClass : ClassRef := ⟨"enum", "Flag"⟩

/-- A part of a key as a message shows it. Enumerations are called by their kind. -/
def keyPartShown (u : Universe) : TypeForm → String
  | cls c =>
    if u.parametersOf c ≠ .memberName then (cls c).shown
    else if (u.lineage c).contains flagClass then s!"<flag '{c.name}'>"
    else s!"<enum '{c.name}'>"
  | form => form.shown

/-- The key between the brackets of an enumeration, as a message shows it. -/
def keyShown (u : Universe) : List TypeForm → String
  | [single] => keyPartShown u single
  | several => "(" ++ ", ".intercalate (several.map (keyPartShown u)) ++ ")"

def isVariable : TypeForm → Bool
  | unbound _ | bounded _ _ => true
  | _ => false

def classSubscript (u : Universe) (c : ClassRef) (args : List TypeForm) :
    Except FormFault TypeForm :=
  if c = ⟨"typing", "Annotated"⟩ then
    match args with
    | base :: note :: notes => annotate base ((note :: notes).map toNote)
    | _ => .error .refused
  else if bareClasses.contains c then
    if args.all isVariable then .ok (generic true c args) else .error .refused
  else
    match u.parametersOf c with
    | .none => .error .refused
    | .any => .ok (generic false c args)
    | .exactly count =>
      if count = args.length then .ok (generic true c (args.map converted)) else .error .refused
    | .callable => do return generic false c (← functionArgs false args)
    | .memberName =>
      if args.all isHashable then .error (.noMember (keyShown u args)) else .error .refused

/-- A form with arguments between square brackets. -/
def subscript (u : Universe) (base : TypeForm) (args : List TypeForm) :
    Except FormFault TypeForm :=
  match base with
  | cls c => classSubscript u c args
  | otherName name => aliasSubscript name args
  | special name => specialSubscript name args
  | generic _ _ _ | union _ _ | annotated _ _ => base.substituted args
  | _ => .error .refused

/-- A type variable. A bound must be a type, and the absent value is none; one constraint alone is
    no choice. -/
def variableOf (name : String) (bound : Option TypeForm) (constraints : List TypeForm) :
    Except FormFault TypeForm := do
  let bound := bound.filter fun form => !form.isNothing
  if constraints.length = 1 || (bound.isSome && !constraints.isEmpty) then throw .refused
  let _ ← constraints.mapM asArgument
  match bound with
  | some form => return bounded name (← asArgument form)
  | none => return unbound name

/-- Classes of the module of types that are not known by more than their names. -/
def classNames : List String := [
  "Annotated", "TypeVar", "NewType", "SupportsInt", "SupportsFloat", "SupportsComplex",
  "SupportsBytes", "SupportsIndex"]

/-- The form of a name of the module of types: a second name of a class, a class, or a form of its
    own. -/
def ofTypingName (u : Universe) (name : String) : TypeForm :=
  if aliasTable.any (·.1 == name) then otherName name
  else if name = "Text" then cls (.builtin "str")
  else if name = "AnyStr" then unbound name
  else if classNames.contains name || (u.info? ⟨"typing", name⟩).isSome then cls ⟨"typing", name⟩
  else special name

end TypeForm

end SettingText
