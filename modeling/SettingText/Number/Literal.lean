import SettingText.Number.Shortest
import SettingText.Text.Blank
import SettingText.Text.Digit
import SettingText.Text.Quoted
import SettingText.Text.Case

/-!
Reading whole and floating-point numbers from text. Blanks may stand around a literal, digits may
come from any script, and a single low line may stand between two digits.
-/

namespace SettingText.Number

/-- Why a text is no number. -/
inductive LiteralFault where
  /-- The text is no whole number in the base. -/
  | notWhole (base : Nat) (text : String)
  /-- The text has more digits than a conversion may take. -/
  | tooLong (digits : Nat)
  /-- The text is no floating-point number. -/
  | notFloat (text : String)
  deriving DecidableEq, Repr

/-- The most digits a whole number in base ten may have. -/
def maxDigits : Nat := 4300

/-- The wording of a refused literal. A long text is shown by the first 200 characters of its
    quoted form. -/
def LiteralFault.message : LiteralFault → String
  | notWhole base text =>
    let shown := String.ofList ((Text.quoted text).toList.take 200)
    s!"invalid literal for int() with base {base}: {shown}"
  | tooLong digits =>
    s!"Exceeds the limit ({maxDigits} digits) for integer string conversion: value has {digits} " ++
      "digits; use sys.set_int_max_str_digits() to increase the limit"
  | notFloat text => s!"could not convert string to float: {Text.quoted text}"

/-- A character of a literal with the digits and blanks of every script made plain. Characters of
    ASCII stand for themselves, and any other character has no plain form. -/
def plainChar? (c : Char) : Option Char :=
  if c.toNat < 127 then some c
  else if Text.isBlank c then some ' '
  else (Text.digitValue? c).map Nat.digitChar

/-- A character made plain; a question mark, which no literal holds, stands for one without a plain
    form. -/
def plainChar (c : Char) : Char := (plainChar? c).getD '?'

/-- The characters of a literal made plain, up to the first one without a plain form. -/
def plainChars : List Char → List Char
  | [] => []
  | c :: rest =>
    match plainChar? c with
    | some plain => plain :: plainChars rest
    | none => ['?']

/-- The characters of a literal between its blanks. A text of ASCII characters is taken as it is,
    and in any other the digits and blanks of every script are made plain first. -/
def literalChars (text : String) : List Char :=
  let cs := text.toList
  let plain := if cs.all (·.toNat < 128) then cs else plainChars cs
  Text.trimBoth Text.isPlainBlank plain

/-- Split a sign off; the answer tells whether it is a minus. -/
def takeSign : List Char → Bool × List Char
  | '-' :: rest => (true, rest)
  | '+' :: rest => (false, rest)
  | rest => (false, rest)

/-- The value of a digit in a base up to sixteen. -/
def digitIn? (base : Nat) (c : Char) : Option Nat :=
  let value? :=
    if c.isDigit then some (c.toNat - 48)
    else if 'a' ≤ c && c ≤ 'f' then some (c.toNat - 87)
    else if 'A' ≤ c && c ≤ 'F' then some (c.toNat - 55)
    else none
  value?.filter (· < base)

/--
Digits with single low lines between them, and the rest of the text. `expecting` holds where a
digit has to come next: at the start and after a low line.
-/
def groupedDigits (base : Nat) (expecting : Bool) : List Char → Option (List Nat × List Char)
  | [] => if expecting then none else some ([], [])
  | c :: rest =>
    match digitIn? base c with
    | some d => (groupedDigits base false rest).map fun (ds, tail) => (d :: ds, tail)
    | none =>
      if expecting then none
      else if c = '_' then groupedDigits base true rest
      else some ([], c :: rest)

/-- The number that digits denote, the first the most significant. -/
def ofDigits (base : Nat) (digits : List Nat) : Nat :=
  digits.foldl (fun total d => total * base + d) 0

/-- Pass over the mark of base sixteen and one low line after it. -/
def skipBaseMark (base : Nat) (cs : List Char) : List Char :=
  match cs with
  | '0' :: x :: rest =>
    if base = 16 && (x = 'x' || x = 'X') then
      match rest with
      | '_' :: tail => tail
      | _ => rest
    else cs
  | _ => cs

/-- Read a whole number in base ten or sixteen. The limit on the digits comes before any
    objection to what follows them. -/
def readInteger (base : Nat) (text : String) : Except LiteralFault Int :=
  let (negative, body) := takeSign (literalChars text)
  match groupedDigits base true (skipBaseMark base body) with
  | none => .error (.notWhole base text)
  | some (digits, rest) =>
    if base = 10 && digits.length > maxDigits then .error (.tooLong digits.length)
    else if rest.isEmpty then
      let magnitude : Int := Int.ofNat (ofDigits base digits)
      .ok (if negative then -magnitude else magnitude)
    else .error (.notWhole base text)

/-- Take the low lines out; each must stand between two digits. `digitBefore` tells whether the
    character before the text is a digit. -/
def dropLowLines (digitBefore : Bool) : List Char → Option (List Char)
  | [] => some []
  | '_' :: c :: rest =>
    if digitBefore && c.isDigit then (dropLowLines true rest).map (c :: ·) else none
  | c :: rest => if c = '_' then none else (dropLowLines c.isDigit rest).map (c :: ·)

/-- The decimal digits at the start of a text, and the rest. -/
def takeDigits (cs : List Char) : List Char × List Char := cs.span Char.isDigit

def decimalValue (cs : List Char) : Nat := ofDigits 10 (cs.map fun c => c.toNat - 48)

/-- An exponent mark with its digits, or nothing; the answer is `none` for a broken exponent. -/
def takeExponent : List Char → Option (Int × List Char)
  | c :: rest =>
    if c = 'e' || c = 'E' then
      let (negative, body) := takeSign rest
      match takeDigits body with
      | ([], _) => none
      | (digits, tail) =>
        let magnitude : Int := Int.ofNat (decimalValue digits)
        some (if negative then -magnitude else magnitude, tail)
    else some (0, c :: rest)
  | [] => some (0, [])

/-- A number in scientific notation, unsigned: its digits as a whole number and the exponent of
    ten of the last. At least one digit must stand before the exponent. -/
structure Scientific where
  digits : List Char
  exponent : Int
  deriving DecidableEq, Repr

/-- Read the digits, the point and the exponent of an unsigned number, to the end of the text. -/
def readScientific (cs : List Char) : Option Scientific :=
  let (whole, afterWhole) := takeDigits cs
  let (behind, rest) := match afterWhole with
    | '.' :: tail => takeDigits tail
    | _ => ([], afterWhole)
  if whole.isEmpty && behind.isEmpty then none
  else
    match takeExponent rest with
    | some (exponent, []) => some ⟨whole ++ behind, exponent - Int.ofNat behind.length⟩
    | _ => none

def lowered (cs : List Char) : List Char := cs.map Char.toLower

/-- Read a floating-point number from characters without blanks. -/
def floatOfChars? (cs : List Char) : Option Binary64 :=
  let (negative, body) := takeSign cs
  match String.ofList (lowered body) with
  | "inf" | "infinity" => some (.infinite negative)
  | "nan" => some .nan
  | _ => (readScientific body).map fun s =>
      Binary64.ofDecimal negative (decimalValue s.digits) s.exponent

/-- Read a floating-point number. -/
def readFloat (text : String) : Except LiteralFault Binary64 :=
  match (dropLowLines false (literalChars text)).bind floatOfChars? with
  | some x => .ok x
  | none => .error (.notFloat text)

end SettingText.Number
