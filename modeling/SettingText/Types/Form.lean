import SettingText.Classes.Ref
import SettingText.Json.Value
import SettingText.Types.Descriptor

/-!
Type forms: the types a program may ask for, as it states them. A form is reduced to a descriptor,
which keeps only what converters need to know. What is no type, and what cannot be told apart by its
texts, is reduced to the type of everything.
-/

namespace SettingText

/-- A type as a program states it. -/
inductive TypeForm where
  /-- Three points. -/
  | dots
  /-- The absent value, standing for its class. -/
  | nothing
  /-- A class. -/
  | cls (c : ClassRef)
  /-- A number or a truth value, which is no type. -/
  | value (v : Json)
  /-- A type that is known by its text only. -/
  | forward (text : String)
  /-- A list of types. -/
  | listing (items : List TypeForm)
  /-- A type variable without a bound. -/
  | unbound (name : String)
  /-- A type variable with a bound. -/
  | bounded (name : String) (bound : TypeForm)
  /-- A new name for a type. -/
  | renamed (base : TypeForm)
  /-- One of some values. -/
  | literal (values : List Json)
  /-- A type with notes. -/
  | annotated (base : TypeForm) (notes : List Json)
  /-- One of several types; `bars` tells that they were joined by bars. -/
  | union (bars : Bool) (members : List TypeForm)
  /-- A generic class with its arguments; `checked` tells that the arguments were checked. -/
  | generic (checked : Bool) (origin : ClassRef) (args : List TypeForm)
  /-- A second name of a generic class. -/
  | otherName (name : String)
  /-- A form of its own, by name. -/
  | special (name : String)
  /-- A form of its own with a type in it. -/
  | marked (name : String) (inner : TypeForm)
  /-- A descriptor. -/
  | descriptor (d : Descriptor)
  deriving Repr, Inhabited

namespace TypeForm

/-- The class of the absent value. -/
def nothingClass : TypeForm := cls .nothing

/-- The class that stands for every type. -/
def anyClass : ClassRef := ⟨"typing", "Any"⟩

/-- What a second name of a generic class stands for, and how many arguments it takes; no number
    tells that it has rules of its own. -/
def aliasTable : List (String × ClassRef × Option Nat) := [
  ("List", .builtin "list", some 1), ("Set", .builtin "set", some 1),
  ("FrozenSet", .builtin "frozenset", some 1), ("Dict", .builtin "dict", some 2),
  ("Tuple", .builtin "tuple", none), ("Type", .builtin "type", some 1),
  ("Callable", .abstraction "Callable", none),
  ("Iterable", .abstraction "Iterable", some 1), ("Iterator", .abstraction "Iterator", some 1),
  ("Container", .abstraction "Container", some 1),
  ("Collection", .abstraction "Collection", some 1),
  ("Reversible", .abstraction "Reversible", some 1),
  ("Sequence", .abstraction "Sequence", some 1),
  ("MutableSequence", .abstraction "MutableSequence", some 1),
  ("AbstractSet", .abstraction "Set", some 1), ("MutableSet", .abstraction "MutableSet", some 1),
  ("Mapping", .abstraction "Mapping", some 2),
  ("MutableMapping", .abstraction "MutableMapping", some 2),
  ("MappingView", .abstraction "MappingView", some 1),
  ("KeysView", .abstraction "KeysView", some 1), ("ItemsView", .abstraction "ItemsView", some 2),
  ("ValuesView", .abstraction "ValuesView", some 1),
  ("Awaitable", .abstraction "Awaitable", some 1),
  ("Coroutine", .abstraction "Coroutine", some 3),
  ("AsyncIterable", .abstraction "AsyncIterable", some 1),
  ("AsyncIterator", .abstraction "AsyncIterator", some 1),
  ("AsyncGenerator", .abstraction "AsyncGenerator", some 2),
  ("Generator", .abstraction "Generator", some 3),
  ("Hashable", .abstraction "Hashable", some 0), ("Sized", .abstraction "Sized", some 0),
  ("ByteString", .abstraction "ByteString", some 0),
  ("OrderedDict", ⟨"collections", "OrderedDict"⟩, some 2),
  ("DefaultDict", ⟨"collections", "defaultdict"⟩, some 2),
  ("Counter", ⟨"collections", "Counter"⟩, some 1),
  ("ChainMap", ⟨"collections", "ChainMap"⟩, some 2),
  ("Deque", ⟨"collections", "deque"⟩, some 1),
  ("ContextManager", ⟨"contextlib", "AbstractContextManager"⟩, some 1),
  ("AsyncContextManager", ⟨"contextlib", "AbstractAsyncContextManager"⟩, some 1),
  ("Pattern", ⟨"re", "Pattern"⟩, some 1), ("Match", ⟨"re", "Match"⟩, some 1)]

/-- The class behind a second name. -/
def aliasOrigin (name : String) : ClassRef :=
  ((aliasTable.find? (·.1 == name)).map (·.2.1)).getD .object

/-- An optional type: the descriptors of the members that are not the absent value, joined. -/
def optionalOf : List Descriptor → Descriptor
  | [d] => .optional d
  | _ => .optional .top

def ofArguments (origin : ClassRef) : List Descriptor → Descriptor
  | [] => .plain origin
  | args => .shape (.cls origin) args

/-- The form is the class of the absent value. -/
def isNothingClass : TypeForm → Bool
  | cls c => c == .nothing
  | _ => false

def synthesize : TypeForm → Descriptor
  | descriptor d => d
  | bounded _ bound => bound.synthesize
  | nothing => .plain .nothing
  | cls c => if c = anyClass then .top else .plain c
  | otherName name => .plain (aliasOrigin name)
  | annotated base _ => base.synthesize
  | union _ members =>
    if members.any isNothingClass then optionalOf (present members) else .top
  | generic _ origin args => ofArguments origin (arguments args)
  | _ => .top
where
  /-- The descriptors of the members that are not the absent value. -/
  present : List TypeForm → List Descriptor
    | [] => []
    | m :: rest => if m.isNothingClass then present rest else m.synthesize :: present rest
  /-- The descriptors of arguments, among which three points stand for themselves. -/
  arguments : List TypeForm → List Descriptor
    | [] => []
    | dots :: rest => .dots :: arguments rest
    | form :: rest => form.synthesize :: arguments rest

def classShown (c : ClassRef) : String := if c.module = "builtins" then c.name else c.fullName

/-- The name under which a generic class with checked arguments is shown. -/
def checkedName (origin : ClassRef) : String :=
  match aliasTable.find? (·.2.1 == origin) with
  | some (name, _) => "typing." ++ name
  | none => classShown origin

/-- A form as a message shows it; `inner` tells that it stands inside another one. -/
def shownAt (inner : Bool) : TypeForm → String
  | dots => if inner then "..." else "Ellipsis"
  | nothing => "None"
  | cls c =>
    if c = anyClass then c.fullName else if inner then classShown c else c.shown
  | value v => v.shown
  | forward text => if inner then s!"ForwardRef({Text.quoted text})" else Text.quoted text
  | listing items => "[" ++ ", ".intercalate (shownAll inner items) ++ "]"
  | unbound name | bounded name _ => "~" ++ name
  | renamed _ => "N"
  | literal values => "typing.Literal[" ++ ", ".intercalate (values.map Json.shown) ++ "]"
  | annotated base notes =>
    "typing.Annotated[" ++ ", ".intercalate (base.shownAt true :: notes.map Json.shown) ++ "]"
  | union true members => " | ".intercalate (shownRow members)
  | union false members => shownUnion members
  | generic false origin args =>
    classShown origin ++ "[" ++ ", ".intercalate (shownAll true args) ++ "]"
  | generic true origin args =>
    checkedName origin ++ "[" ++ ", ".intercalate (shownAll true args) ++ "]"
  | otherName name => "typing." ++ name
  | special name => "typing." ++ name
  | marked name form => s!"typing.{name}[" ++ form.shownAt true ++ "]"
  | descriptor d => d.text
where
  /-- The texts of several forms. -/
  shownAll (inner : Bool) : List TypeForm → List String
    | [] => []
    | form :: rest => form.shownAt inner :: shownAll inner rest
  /-- The texts of members with bars between them. -/
  shownRow : List TypeForm → List String
    | [] => []
    | form :: rest =>
      (if form.isNothingClass then "None" else form.shownAt true) :: shownRow rest
  /-- A union; with the absent value and one other member, it is an optional type. -/
  shownUnion : List TypeForm → String
    | [a, b] =>
      if a.isNothingClass then "typing.Optional[" ++ b.shownAt true ++ "]"
      else if b.isNothingClass then "typing.Optional[" ++ a.shownAt true ++ "]"
      else "typing.Union[" ++ a.shownAt true ++ ", " ++ b.shownAt true ++ "]"
    | members => "typing.Union[" ++ ", ".intercalate (shownAll true members) ++ "]"

/-- The name of a union: an optional type has a name of its own. -/
def unionName (members : List TypeForm) : String :=
  if members.length = 2 && members.any isNothingClass then "Optional" else "Union"

/-- The name of a second name's class, or the class's own. -/
def checkedShortName (origin : ClassRef) : String :=
  match aliasTable.find? (·.2.1 == origin) with
  | some (name, _) => name
  | none => origin.name

/-- The name of a form, by which a message calls what a text should become. -/
def name : TypeForm → String
  | cls c => c.name
  | generic false origin _ => origin.name
  | generic true origin _ => checkedShortName origin
  | unbound name | bounded name _ => name
  | renamed _ => "N"
  | literal _ => "Literal"
  | annotated _ _ => "Annotated"
  | union false members => unionName members
  | otherName name | special name | marked name _ => name
  | forward text => text
  | form => form.shownAt false

def shown (form : TypeForm) : String := form.shownAt false

/-- Two literal values are the same value of the same kind. -/
def sameLiteral : Json → Json → Bool
  | .null, .null => true
  | .bool a, .bool b => a == b
  | .int a, .int b => a == b
  | .float a, .float b => a.eq b
  | .text a, .text b => a == b
  | _, _ => false

/-- Every element of each list has its like in the other. -/
def sameElements {α : Type} (same : α → α → Bool) (first second : List α) : Bool :=
  first.all (fun a => second.any (same a)) && second.all fun b => first.any (same · b)

/-- How deep forms stand in one another. -/
def depth : TypeForm → Nat
  | listing items => depths items + 1
  | annotated base _ => base.depth + 1
  | union _ members => depths members + 1
  | generic _ _ args => depths args + 1
  | marked _ inner => inner.depth + 1
  | _ => 0
where
  /-- The depth of the deepest form. -/
  depths : List TypeForm → Nat
    | [] => 0
    | form :: rest => max form.depth (depths rest)

/-- Two forms are the same type, down to a depth. Type variables and new names are all different. -/
def sameWithin : Nat → TypeForm → TypeForm → Bool
  | 0, _, _ => false
  | depth + 1, a, b =>
    let sameAll (first second : List TypeForm) : Bool :=
      first.length == second.length && (first.zip second).all fun (x, y) => sameWithin depth x y
    match a, b with
    | dots, dots => true
    | nothing, nothing => true
    | cls c, cls d => c == d
    | value v, value w => v.shown == w.shown
    | forward s, forward t => s == t
    | listing xs, listing ys => sameAll xs ys
    | literal vs, literal ws => sameElements sameLiteral vs ws
    | annotated x vs, annotated y ws =>
      sameWithin depth x y && vs.length == ws.length &&
        (vs.zip ws).all fun (v, w) => sameLiteral v w
    | union _ xs, union _ ys => sameElements (sameWithin depth) xs ys
    | generic c o xs, generic d p ys => c == d && o == p && sameAll xs ys
    | otherName m, otherName n => m == n
    | special m, special n => m == n
    | marked m x, marked n y => m == n && sameWithin depth x y
    | descriptor d, descriptor e => d == e
    | _, _ => false

def same (a b : TypeForm) : Bool := sameWithin (a.depth + 1) a b

/-- A literal value that cannot be told apart from others by a table. -/
def isSimple : Json → Bool
  | .list _ | .object _ => false
  | _ => true

/-- The form can be kept in a table. The list of what a function takes is no list of its own. -/
def isHashable : TypeForm → Bool
  | listing _ => false
  | literal values => values.all isSimple
  | annotated base notes => base.isHashable && notes.all isSimple
  | union _ members => allHashable members
  | generic _ c (listing items :: rest) =>
    c == .abstraction "Callable" && allHashable items && allHashable rest
  | generic _ _ args => allHashable args
  | marked _ inner => inner.isHashable
  | _ => true
where
  /-- All forms can be kept in a table. -/
  allHashable : List TypeForm → Bool
    | [] => true
    | form :: rest => form.isHashable && allHashable rest

end TypeForm

end SettingText
