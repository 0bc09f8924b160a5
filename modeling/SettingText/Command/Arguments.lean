import SettingText.Text.Similar

/-!
Taking the arguments of a command apart: options begin with dashes, everything else is positional.
An option takes a value or none; a value may be joined to it or follow it. Two dashes end the
options.
-/

namespace SettingText.Command

/-- An option. -/
structure OptionInfo where
  /-- Its name with two dashes. -/
  long : String
  /-- Its letter behind one dash. -/
  short : Option Char := none
  /-- The word for its value, if it takes one. -/
  value : Option String := none
  help : String
  deriving DecidableEq, Repr

/-- An option in use: its name with two dashes, and its value. -/
abbrev Use := String × Option String

/-- Arguments taken apart: the options in the order of their use, and everything else. -/
structure Arguments where
  uses : List Use := []
  positional : List String := []
  deriving DecidableEq, Repr

/-- Why arguments cannot be taken apart. -/
inductive ArgumentFault where
  /-- No option has this name; others have similar ones. -/
  | unknown (name : String) (similar : List String)
  | valueMissing (name : String)
  | valueUnexpected (name : String)
  deriving DecidableEq, Repr

/-- The letters behind one dash. The last may take the rest of the letters as its value; without
    any, it is returned as the option that wants one, under both its names. -/
def takeLetters (options : List OptionInfo) :
    List Char → Except ArgumentFault (List Use × Option (String × String))
  | [] => .ok ([], none)
  | c :: rest =>
    match options.find? (·.short == some c) with
    | none => .error (.unknown s!"-{c}" [])
    | some option =>
      if option.value.isSome then
        if rest.isEmpty then .ok ([], some (s!"-{c}", option.long))
        else .ok ([(option.long, some (String.ofList rest))], none)
      else (takeLetters options rest).map fun (uses, wanting) =>
        ((option.long, none) :: uses, wanting)

/-- Cut an argument at its first equals sign. -/
def cutValue (arg : List Char) : List Char × Option (List Char) :=
  let name := arg.takeWhile (· != '=')
  (name, (arg.drop name.length).tail?)

/-- An argument that begins with a dash. -/
def takeOption (options : List OptionInfo) (arg : List Char) :
    Except ArgumentFault (List Use × Option (String × String)) :=
  let (name, joined) := cutValue arg
  let name := String.ofList name
  match options.find? (·.long == name) with
  | some option =>
    match option.value, joined with
    | some _, some value => .ok ([(name, some (String.ofList value))], none)
    | some _, none => .ok ([], some (name, name))
    | none, some _ => .error (.valueUnexpected name)
    | none, none => .ok ([(name, none)], none)
  | none =>
    if arg.take 2 == ['-', '-'] then
      .error (.unknown name (Text.similarTo name (options.map (·.long))))
    else takeLetters options (arg.drop 1)

/-- Put options before those of further arguments. -/
def Arguments.after (uses : List Use) (a : Arguments) : Arguments := { a with uses := uses ++ a.uses }

/-- Take arguments apart. `mixed` tells that options may also follow positional arguments. -/
def Arguments.take (options : List OptionInfo) (mixed : Bool) :
    List String → Except ArgumentFault Arguments
  | [] => .ok {}
  | arg :: rest =>
    let cs := arg.toList
    if arg = "--" then .ok { positional := rest }
    else if cs.head? = some '-' && cs.length ≠ 1 then
      match takeOption options cs with
      | .error fault => .error fault
      | .ok (uses, none) => (Arguments.take options mixed rest).map (·.after uses)
      | .ok (uses, some (shown, long)) =>
        match rest with
        | [] => .error (.valueMissing shown)
        | value :: rest =>
          (Arguments.take options mixed rest).map (·.after (uses ++ [(long, some value)]))
    else if mixed then
      (Arguments.take options mixed rest).map fun a => { a with positional := arg :: a.positional }
    else .ok { positional := arg :: rest }

namespace Arguments

/-- The option is in use. -/
def has (a : Arguments) (long : String) : Bool := a.uses.any (·.1 == long)

/-- The value of an option; of several the last counts. -/
def value? (a : Arguments) (long : String) : Option String :=
  (a.uses.reverse.find? (·.1 == long)).bind (·.2)

/-- The first option in use among some. -/
def firstOf (a : Arguments) (names : List String) : Option String :=
  (a.uses.find? fun use => names.contains use.1).map (·.1)

end Arguments

end SettingText.Command
