import SettingText.Calendar.Date
import SettingText.Toml.Text
import SettingText.Toml.Value

/-!
The numbers, dates and times of a configuration text. Low lines may stand between two digits. A
word or number ends where it can; whatever follows must end the value.
-/

namespace SettingText.Toml

/-- Digits that follow a digit, with single low lines between them. -/
def moreDigits (isDigit : Char → Bool) : List Char → List Char × List Char
  | [] => ([], [])
  | c :: rest =>
    if isDigit c then
      let (digits, rest) := moreDigits isDigit rest
      (c :: digits, rest)
    else if c = '_' then
      match rest with
      | d :: tail =>
        if isDigit d then
          let (digits, rest) := moreDigits isDigit tail
          (d :: digits, rest)
        else ([], c :: rest)
      | [] => ([], [c])
    else ([], c :: rest)

/-- The digits at the start of a text. -/
def takeDigits (isDigit : Char → Bool) (cs : List Char) : List Char × List Char :=
  match cs with
  | '_' :: _ => ([], cs)
  | _ => moreDigits isDigit cs

/-- A whole number in a base that a letter tells. -/
def takeBased (base : Nat) (cs : List Char) : Option (Value × List Char) :=
  let (digits, rest) := takeDigits (fun c => (Number.digitIn? base c).isSome) cs
  if digits.isEmpty then none
  else (Json.digitsIn? base digits).map fun n => (.int n, rest)

/-- The point and the digits behind it, if a number goes on with them. -/
def takeFraction (cs : List Char) : Option (List Char) × List Char :=
  match cs with
  | '.' :: rest =>
    let (digits, rest) := takeDigits Char.isDigit rest
    if digits.isEmpty then (none, cs) else (some digits, rest)
  | _ => (none, cs)

/-- The exponent, if a number goes on with one. -/
def takeExponent (cs : List Char) : Option Int × List Char :=
  match cs with
  | c :: rest =>
    if c = 'e' || c = 'E' then
      let (negative, rest) := Number.takeSign rest
      let (digits, rest) := takeDigits Char.isDigit rest
      let n := Int.ofNat (Number.decimalValue digits)
      if digits.isEmpty then (none, cs) else (some (if negative then -n else n), rest)
    else (none, cs)
  | [] => (none, [])

/-- A decimal number, whole unless it has a point or an exponent. -/
def takeDecimal (cs : List Char) : Option (Value × List Char) :=
  let (negative, body) := Number.takeSign cs
  let (whole, rest) := match body with
    | '0' :: rest => (['0'], rest)
    | _ => takeDigits Char.isDigit body
  if whole.isEmpty then none
  else
    let (fraction, rest) := takeFraction rest
    let (exponent, rest) := takeExponent rest
    let behind := fraction.getD []
    let digits := Number.decimalValue (whole ++ behind)
    if fraction.isNone && exponent.isNone then
      some (.int (if negative then -Int.ofNat digits else Int.ofNat digits), rest)
    else
      let shift := exponent.getD 0 - Int.ofNat behind.length
      some (.float (.ofDecimal negative digits shift), rest)

def words : List (String × Value) :=
  [("true", .bool true), ("false", .bool false), ("inf", .float (.infinite false)),
    ("+inf", .float (.infinite false)), ("-inf", .float (.infinite true)), ("nan", .float .nan),
    ("+nan", .float .nan), ("-nan", .float .nan)]

def takeWord (cs : List Char) : Option (Value × List Char) :=
  (words.find? fun w => w.1.toList.isPrefixOf cs).map fun (word, value) =>
    (value, cs.drop word.length)

def takeNumber (cs : List Char) : Option (Value × List Char) :=
  let based := match cs with
    | '0' :: 'x' :: rest => takeBased 16 rest
    | '0' :: 'b' :: rest => takeBased 2 rest
    | '0' :: 'o' :: rest => takeBased 8 rest
    | _ => none
  based.orElse fun _ => takeDecimal cs

/-- Exactly two digits between two bounds. -/
def takePair (low high : Nat) (cs : List Char) : Option (Nat × List Char) :=
  match cs with
  | a :: b :: rest =>
    let n := Number.decimalValue [a, b]
    if a.isDigit && b.isDigit && low ≤ n && n ≤ high then some (n, rest) else none
  | _ => none

def takeMark (isMark : Char → Bool) (cs : List Char) : Option (List Char) :=
  match cs with
  | c :: rest => if isMark c then some rest else none
  | [] => none

/-- A time of day, with a fraction of a second perhaps; gives what follows it. -/
def skipClock (cs : List Char) : Option (List Char) := do
  let (_, rest) ← takePair 0 23 cs
  let (_, rest) ← takePair 0 59 (← takeMark (· == ':') rest)
  let (_, rest) ← takePair 0 59 (← takeMark (· == ':') rest)
  match rest with
  | '.' :: tail =>
    let digits := tail.takeWhile Char.isDigit
    return if digits.isEmpty then rest else tail.drop digits.length
  | _ => return rest

/-- An offset from universal time; gives what follows it. -/
def skipOffset (cs : List Char) : Option (List Char) := do
  match cs with
  | 'Z' :: rest | 'z' :: rest => return rest
  | _ => do
    let (_, rest) ← takePair 0 23 (← takeMark (fun c => c == '+' || c == '-') cs)
    let (_, rest) ← takePair 0 59 (← takeMark (· == ':') rest)
    return rest

/-- A date of the calendar; gives what follows it. -/
def skipDate (cs : List Char) : Option (List Char) := do
  let (century, rest) ← takePair 0 99 cs
  let (year, rest) ← takePair 0 99 rest
  let (month, rest) ← takePair 1 12 (← takeMark (· == '-') rest)
  let (day, rest) ← takePair 1 31 (← takeMark (· == '-') rest)
  match Calendar.Date.ofParts (100 * century + year) month day with
  | .ok _ => return rest
  | .error _ => none

/-- The time of day behind a date, with an offset perhaps; gives what follows it. -/
def skipTime (cs : List Char) : Option (List Char) := do
  let rest ← skipClock (← takeMark (fun c => c == 'T' || c == 't' || c == ' ') cs)
  return (skipOffset rest).getD rest

/-- A date, a time of day, or both. -/
def takeDated (cs : List Char) : Option (Value × List Char) := do
  let rest ← match skipDate cs with
    | some rest => some ((skipTime rest).getD rest)
    | none => skipClock cs
  return (.dated (String.ofList (cs.take (cs.length - rest.length))), rest)

/-- A value without parts that is no string. -/
def takeScalar (cs : List Char) : Option (Value × List Char) :=
  (takeDated cs).orElse fun _ => (takeWord cs).orElse fun _ => takeNumber cs

end SettingText.Toml
