import SettingText.Number.Literal

/-!
Decimal numbers that keep their exponent: `1.50` and `1.5` are equal and are written differently.
Beside the finite numbers there are infinities and undefined numbers, quiet or signalling.
-/

namespace SettingText

/-- A decimal number. The value of a finite one is `coefficient * 10 ^ exponent`. -/
inductive Decimal where
  /-- A finite number, zero of either sign included. -/
  | finite (negative : Bool) (coefficient : Nat) (exponent : Int)
  /-- An infinity. -/
  | infinite (negative : Bool)
  /-- An undefined number with a diagnostic payload, zero when it has none. -/
  | nan (negative signalling : Bool) (payload : Nat)
  deriving DecidableEq, Repr

namespace Decimal

/-- Why a text is no decimal number. -/
inductive ReadFault where
  /-- The text is not of the form of a decimal number. -/
  | badSyntax
  /-- The number lies outside the range of exponents. -/
  | outOfRange
  deriving DecidableEq, Repr

/-- The wording of a refused decimal number. -/
def ReadFault.message : ReadFault → String
  | badSyntax => "[<class 'decimal.ConversionSyntax'>]"
  | outOfRange => "[<class 'decimal.InvalidOperation'>]"

/-- The wording of a comparison with a signalling number. -/
def signalMessage : String := "[<class 'decimal.InvalidOperation'>]"

/-- The greatest exponent of the first digit. -/
def maxExponent : Int := 999999999999999999

/-- The least exponent of the last digit. -/
def minExponent : Int := -1999999999999999997

/-- The characters of a literal: blanks at the ends and every low line are dropped, and the digits
    of every script are made plain. -/
def literal (text : String) : List Char :=
  ((Text.trimBoth Text.isBlank text.toList).filter (· != '_')).map fun c =>
    if c.toNat < 128 then c else Number.plainChar c

/-- A finite number, if its first and last digits are in range. -/
def checked (negative : Bool) (coefficient : Nat) (exponent : Int) : Except ReadFault Decimal :=
  let digits : Int := Int.ofNat (Binary64.digitCount coefficient)
  if exponent + digits - 1 ≤ maxExponent && minExponent ≤ exponent then
    .ok (.finite negative coefficient exponent)
  else .error .outOfRange

/-- The payload of an undefined number: digits to the end of the text. -/
def payload? (cs : List Char) : Option Nat :=
  if cs.all Char.isDigit then some (Number.decimalValue cs) else none

/-- Read the name of a number that is not finite. -/
def special? (negative : Bool) (cs : List Char) : Option (Option Decimal) :=
  match Number.lowered cs with
  | 'n' :: 'a' :: 'n' :: rest => some ((payload? rest).map (nan negative false))
  | 's' :: 'n' :: 'a' :: 'n' :: rest => some ((payload? rest).map (nan negative true))
  | ['i', 'n', 'f'] => some (some (infinite negative))
  | ['i', 'n', 'f', 'i', 'n', 'i', 't', 'y'] => some (some (infinite negative))
  | _ => none

def read (text : String) : Except ReadFault Decimal :=
  let (negative, body) := Number.takeSign (literal text)
  match special? negative body with
  | some (some number) => .ok number
  | some none => .error .badSyntax
  | none =>
    match Number.readScientific body with
    | some s => checked negative (Number.decimalValue s.digits) s.exponent
    | none => .error .badSyntax

/-- The text of a finite number: without an exponent when the last digit stands at or behind the
    point and at most five zeros follow the point, in scientific notation otherwise. -/
def finiteChars (coefficient : Nat) (exponent : Int) : List Char :=
  let digits := Nat.toDigits 10 coefficient
  let firstPlace := exponent + Int.ofNat digits.length - 1
  if exponent ≤ 0 && -6 ≤ firstPlace then
    let point := firstPlace + 1
    if exponent = 0 then digits
    else if point ≤ 0 then '0' :: '.' :: (List.replicate (-point).toNat '0' ++ digits)
    else digits.take point.toNat ++ '.' :: digits.drop point.toNat
  else
    let head := match digits with
      | [d] => [d]
      | d :: rest => d :: '.' :: rest
      | [] => []
    let sign := if firstPlace < 0 then '-' else '+'
    head ++ 'E' :: sign :: Nat.toDigits 10 firstPlace.natAbs

/-- The text of a decimal number, exponent and zeros at the end kept. -/
def text (d : Decimal) : String :=
  let signed (negative : Bool) (body : String) : String := if negative then "-" ++ body else body
  match d with
  | finite negative coefficient exponent =>
    signed negative (String.ofList (finiteChars coefficient exponent))
  | infinite negative => signed negative "Infinity"
  | nan negative signalling payload =>
    signed negative ((if signalling then "sNaN" else "NaN") ++
      (if payload = 0 then "" else toString payload))

/-- A signalling number refuses to be compared or looked up. -/
def isSignalling : Decimal → Bool
  | nan _ signalling _ => signalling
  | _ => false

/-- The form of a number without zeros at the end; equal numbers have equal forms. -/
def normal : Decimal → Decimal
  | finite negative coefficient exponent =>
    if coefficient = 0 then finite false 0 0
    else
      let (digits, place) := Binary64.dropZeros coefficient exponent
      finite negative digits place
  | other => other

/-- Numerically equal; an undefined number equals nothing. -/
def eq (x y : Decimal) : Bool :=
  match x, y with
  | nan .., _ | _, nan .. => false
  | _, _ => x.normal == y.normal

/-- A whole number as a decimal. -/
def ofInt (n : Int) : Decimal := finite (n < 0) n.natAbs 0

/-- A floating-point number as the decimal of exactly its value. -/
def ofBinary64 : Binary64 → Decimal
  | .nan => nan false false 0
  | .infinite negative => infinite negative
  | .finite negative significand exponent =>
    if 0 ≤ exponent then finite negative (significand * Nat.pow 2 exponent.toNat) 0
    else finite negative (significand * Nat.pow 5 (-exponent).toNat) exponent

end Decimal

end SettingText
