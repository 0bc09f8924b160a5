import SettingText.Number.Literal

/-!
Universally unique identifiers: numbers of 128 bits, written as 32 hexadecimal digits. Hyphens,
braces around the digits and the marks of a resource name are not part of the number.
-/

namespace SettingText

/-- A universally unique identifier. -/
structure Uuid where
  number : Nat
  deriving DecidableEq, Repr

namespace Uuid

/-- Why a text is no identifier. -/
inductive ReadFault where
  /-- There are not 32 digits. -/
  | badLength
  /-- The digits are no number in base sixteen. -/
  | badDigits (fault : Number.LiteralFault)
  /-- The number is negative. -/
  | outOfRange
  deriving DecidableEq, Repr

/-- The wording of a refused identifier. -/
def ReadFault.message : ReadFault → String
  | badLength => "badly formed hexadecimal UUID string"
  | badDigits fault => fault.message
  | outOfRange => "int is out of range (need a 128-bit value)"

/-- The digits of an identifier, everything else taken away. -/
def digitsOf (text : String) : String :=
  let plain := ((text.replace "urn:" "").replace "uuid:" "").toList
  String.ofList ((Text.trimBoth (fun c => c == '\x7b' || c == '\x7d') plain).filter (· != '-'))

def read (text : String) : Except ReadFault Uuid :=
  let digits := digitsOf text
  if digits.length ≠ 32 then .error .badLength
  else
    match Number.readInteger 16 digits with
    | .error fault => .error (.badDigits fault)
    | .ok n => if n < 0 then .error .outOfRange else .ok ⟨n.toNat⟩

/-- The text of an identifier: 32 digits with hyphens behind the 8th, 12th, 16th and 20th. -/
def text (u : Uuid) : String :=
  let digits := Text.Quoted.hex 32 u.number
  let part (start count : Nat) : String := String.ofList ((digits.drop start).take count)
  "-".intercalate [part 0 8, part 8 4, part 12 4, part 16 4, part 20 12]

end Uuid

end SettingText
