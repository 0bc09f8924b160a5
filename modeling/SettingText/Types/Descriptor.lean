import SettingText.Classes.Ref

/-!
Type descriptors: the form of a requested type under which converters are kept. A descriptor is a
class or a shape with arguments; three points stand where a shape takes any number of arguments.
-/

namespace SettingText

/-- What a shape is made of. -/
inductive Origin where
  /-- A type or nothing. -/
  | optional
  /-- A generic class. -/
  | cls (c : ClassRef)
  /-- Something that is no class, known by its text. -/
  | foreign (text : String)
  deriving DecidableEq, Repr

/-- A type descriptor. -/
inductive Descriptor where
  /-- Three points, as an argument. -/
  | dots
  /-- A class. -/
  | plain (c : ClassRef)
  /-- A shape with its arguments. -/
  | shape (origin : Origin) (args : List Descriptor)
  deriving Repr, Inhabited

namespace Descriptor

mutual

def decEq : (a b : Descriptor) → Decidable (a = b)
  | .dots, .dots => .isTrue rfl
  | .plain c, .plain d =>
    if h : c = d then .isTrue (h ▸ rfl) else .isFalse fun e => h (Descriptor.plain.inj e)
  | .shape o as, .shape p bs =>
    if h : o = p then
      match decEqs as bs with
      | .isTrue hs => .isTrue (h ▸ hs ▸ rfl)
      | .isFalse hs => .isFalse fun e => hs (Descriptor.shape.inj e).2
    else .isFalse fun e => h (Descriptor.shape.inj e).1
  | .dots, .plain _ => .isFalse nofun
  | .dots, .shape _ _ => .isFalse nofun
  | .plain _, .dots => .isFalse nofun
  | .plain _, .shape _ _ => .isFalse nofun
  | .shape _ _, .dots => .isFalse nofun
  | .shape _ _, .plain _ => .isFalse nofun

/-- Equality of argument lists is decidable. -/
def decEqs : (as bs : List Descriptor) → Decidable (as = bs)
  | [], [] => .isTrue rfl
  | a :: as, b :: bs =>
    match decEq a b with
    | .isTrue h =>
      match decEqs as bs with
      | .isTrue hs => .isTrue (h ▸ hs ▸ rfl)
      | .isFalse hs => .isFalse fun e => hs (List.cons.inj e).2
    | .isFalse h => .isFalse fun e => h (List.cons.inj e).1
  | [], _ :: _ => .isFalse nofun
  | _ :: _, [] => .isFalse nofun

end

instance : DecidableEq Descriptor := decEq

/-- The type of everything. -/
def top : Descriptor := plain .object

/-- A type or nothing. -/
def optional (d : Descriptor) : Descriptor := shape .optional [d]

end Descriptor

def Origin.text : Origin → String
  | optional => "Optional"
  | cls c => c.text
  | foreign text => text

namespace Descriptor

/-- The text of a descriptor. An optional shape needs an argument to have one. -/
def text? : Descriptor → Option String
  | dots => some "..."
  | plain c => some c.text
  | shape .optional args =>
    match argTexts args with
    | some (first :: _) => some s!"{first} | None"
    | _ => none
  | shape origin args => (argTexts args).map fun texts =>
      origin.text ++ "[" ++ ", ".intercalate texts ++ "]"
where
  /-- The texts of arguments. -/
  argTexts : List Descriptor → Option (List String)
    | [] => some []
    | d :: rest =>
      match d.text?, argTexts rest with
      | some text, some texts => some (text :: texts)
      | _, _ => none

/-- The text of a descriptor, empty if it has none. -/
def text (d : Descriptor) : String := d.text?.getD ""

/-- The class whose instances a type has; an optional type has any. -/
def rawClass : Descriptor → ClassRef
  | plain c => c
  | shape (.cls c) _ => c
  | _ => .object

def originName? : Descriptor → Option String
  | shape origin _ => some origin.text
  | _ => none

/-- How deep shapes stand in one another. The type of everything and three points weigh nothing,
    so they may stand for a missing argument of any shape. -/
def weight : Descriptor → Nat
  | dots => 0
  | plain c => if c = .object then 0 else 1
  | shape _ args => 1 + weights args
where
  /-- The weight of the deepest argument. -/
  weights : List Descriptor → Nat
    | [] => 0
    | d :: rest => max d.weight (weights rest)

end Descriptor

end SettingText
