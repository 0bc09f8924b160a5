import SettingText.Number.Literal

/-!
Exact fractions in lowest terms, read from a quotient such as `3/4` or from a decimal number.
-/

namespace SettingText

/-- A fraction. `ofQuotient` brings it to lowest terms, with a positive denominator. -/
structure Fraction where
  numerator : Int
  denominator : Nat
  deriving DecidableEq, Repr

namespace Fraction

/-- Why a text is no fraction. -/
inductive ReadFault where
  /-- The text is not of the form of a fraction. -/
  | badSyntax (text : String)
  /-- The denominator is zero. -/
  | zeroDenominator (numerator : Int)
  /-- A part of the fraction is no whole number. -/
  | part (fault : Number.LiteralFault)
  deriving DecidableEq, Repr

/-- The wording of a refused fraction. -/
def ReadFault.message : ReadFault → String
  | badSyntax text => s!"Invalid literal for Fraction: {Text.quoted text}"
  | zeroDenominator numerator => s!"Fraction({numerator}, 0)"
  | part fault => fault.message

/-- The fraction in lowest terms. -/
def ofQuotient (num : Int) (den : Nat) : Fraction :=
  let common := num.natAbs.gcd den
  ⟨num / Int.ofNat common, den / common⟩

/-- The text of a fraction; a whole number is written without a denominator. -/
def text (q : Fraction) : String :=
  if q.denominator = 1 then toString q.numerator else s!"{q.numerator}/{q.denominator}"

/-- Digits of any script with single low lines between them, and the rest; the digits may be
    missing. -/
def takeDigits (expecting : Bool) : List Char → Option (List Nat × List Char)
  | [] => if expecting then none else some ([], [])
  | c :: rest =>
    match Text.digitValue? c with
    | some d => (takeDigits false rest).map fun (ds, tail) => (d :: ds, tail)
    | none =>
      if expecting then none
      else if c = '_' then takeDigits true rest
      else some ([], c :: rest)

/-- A digit of any script comes first. -/
def startsWithDigit : List Char → Bool
  | c :: _ => Text.isDecimalDigit c
  | [] => false

/-- Digits that may be missing. -/
def optionalDigits (cs : List Char) : Option (List Nat × List Char) :=
  if startsWithDigit cs then takeDigits true cs else some ([], cs)

/-- The parts of a fraction as they are written. -/
structure Parts where
  negative : Bool
  whole : List Nat
  /-- The digits of the denominator. -/
  below : Option (List Nat)
  /-- The digits behind the point. -/
  behind : List Nat
  /-- The sign and the digits of the exponent of ten. -/
  exponent : Option (Bool × List Nat)
  deriving DecidableEq, Repr

/-- The exponent and nothing after it. -/
def takeExponent (negative : Bool) (whole behind : List Nat) (cs : List Char) : Option Parts :=
  match cs with
  | [] => some ⟨negative, whole, none, behind, none⟩
  | c :: rest =>
    if c = 'e' || c = 'E' then
      let (minus, body) := Number.takeSign rest
      match takeDigits true body with
      | some (digits, []) => some ⟨negative, whole, none, behind, some (minus, digits)⟩
      | _ => none
    else none

/-- Take a text apart; blanks may stand at its ends. -/
def parts? (text : String) : Option Parts := do
  let (negative, body) := Number.takeSign (Text.trimBoth Text.isBlank text.toList)
  let opens := match body with
    | '.' :: rest => startsWithDigit rest
    | _ => startsWithDigit body
  if !opens then none
  else
    let (whole, rest) ← optionalDigits body
    match rest with
    | '/' :: tail =>
      match takeDigits true tail with
      | some (below, []) => some ⟨negative, whole, some below, [], none⟩
      | _ => none
    | '.' :: tail =>
      let (behind, rest) ← optionalDigits tail
      takeExponent negative whole behind rest
    | _ => takeExponent negative whole [] rest

/-- The number of a part, which may not have too many digits. -/
def number (digits : List Nat) : Except ReadFault Nat :=
  if digits.length > Number.maxDigits then .error (.part (.tooLong digits.length))
  else .ok (Number.ofDigits 10 digits)

def ofParts (p : Parts) : Except ReadFault Fraction := do
  let whole ← number p.whole
  let signed (n : Nat) : Int := if p.negative then -Int.ofNat n else Int.ofNat n
  match p.below with
  | some digits =>
    let below ← number digits
    if below = 0 then .error (.zeroDenominator (signed whole))
    else .ok (ofQuotient (signed whole) below)
  | none =>
    let behind ← number p.behind
    let scale := Nat.pow 10 p.behind.length
    let top := whole * scale + behind
    match p.exponent with
    | none => .ok (ofQuotient (signed top) scale)
    | some (minus, digits) =>
      let power ← number digits
      if minus then .ok (ofQuotient (signed top) (scale * Nat.pow 10 power))
      else .ok (ofQuotient (signed (top * Nat.pow 10 power)) scale)

def read (text : String) : Except ReadFault Fraction :=
  match parts? text with
  | some p => ofParts p
  | none => .error (.badSyntax text)

end Fraction

end SettingText
