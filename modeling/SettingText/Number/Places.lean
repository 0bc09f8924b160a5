import SettingText.Number.Shortest

/-!
Double-precision numbers written with a given number of digits: with so many places behind the
point, with so many places behind the point and an exponent, or with so many digits in all, in
whichever of the two forms suits. The exact value is rounded once, a tie to the even digit.
-/

namespace SettingText.Binary64

/-- A magnitude as digits: the number is its first digit, a point and the others, times ten to the
    power of `firstPlace`. -/
structure Digits where
  digits : List Char
  firstPlace : Int
  deriving DecidableEq, Repr

/-- How many places behind the point, and in which form. -/
inductive Places where
  /-- So many places behind the point, without an exponent. -/
  | fixed (places : Nat)
  /-- One digit before the point, so many behind it, and an exponent. -/
  | scientific (places : Nat)
  /-- So many digits, with an exponent where the number is far from one. -/
  | general (digits : Nat)
  deriving DecidableEq, Repr

/-- A positive number as numerator and denominator. -/
def ratio (significand : Nat) (exponent : Int) : Nat × Nat :=
  let (top, bottom) := power 2 exponent
  (significand * top, bottom)

/-- The place of the first digit of a positive quotient of a whole number and a power of two. -/
def firstPlace (num den : Nat) : Int :=
  if den ≤ num then Int.ofNat (digitCount (num / den)) - 1 else -Int.ofNat (digitCount (den / num))

/-- A positive quotient rounded to `count + 1` digits. When rounding fills the first place up, the
    number has a place more. -/
def Digits.ofRatio (num den count : Nat) : Digits :=
  let place := Binary64.firstPlace num den
  let (top, bottom) := power 10 (place - Int.ofNat count)
  let rounded := roundHalfEven (num * bottom) (den * top)
  if rounded = Nat.pow 10 (count + 1) then ⟨Nat.toDigits 10 (rounded / 10), place + 1⟩
  else ⟨Nat.toDigits 10 rounded, place⟩

def Digits.ofMagnitude (significand : Nat) (exponent : Int) (count : Nat) : Digits :=
  if significand = 0 then ⟨List.replicate (count + 1) '0', 0⟩
  else
    let (num, den) := ratio significand exponent
    Digits.ofRatio num den count

/-- Without the zeros at the end. The first digit stays. -/
def Digits.trimmed (d : Digits) : Digits :=
  match d.digits with
  | [] => d
  | first :: rest => ⟨first :: (rest.reverse.dropWhile (· == '0')).reverse, d.firstPlace⟩

/-- Digits before and behind a point. The point is kept with nothing behind it if asked for. -/
def pointed (keepPoint : Bool) (before behind : List Char) : List Char :=
  if behind.isEmpty && !keepPoint then before else before ++ '.' :: behind

/-- A magnitude with so many places behind the point. -/
def fixedText (keepPoint : Bool) (significand : Nat) (exponent : Int) (places : Nat) : List Char :=
  let (num, den) := ratio significand exponent
  let rounded := Nat.toDigits 10 (roundHalfEven (num * Nat.pow 10 places) den)
  let digits := padLeft (places + 1) rounded
  let whole := digits.length - places
  pointed keepPoint (digits.take whole) (digits.drop whole)

/-- The digits with an exponent of two digits at least. -/
def Digits.scientificText (keepPoint : Bool) (d : Digits) : List Char :=
  let sign := if d.firstPlace < 0 then '-' else '+'
  pointed keepPoint (d.digits.take 1) (d.digits.drop 1) ++
    'e' :: sign :: padLeft 2 (Nat.toDigits 10 d.firstPlace.natAbs)

/-- The digits without an exponent. -/
def Digits.positionalText (keepPoint : Bool) (d : Digits) : List Char :=
  if d.firstPlace < 0 then
    pointed keepPoint ['0'] (List.replicate (-d.firstPlace - 1).toNat '0' ++ d.digits)
  else
    let whole := d.firstPlace.toNat + 1
    pointed keepPoint (d.digits.take whole ++ List.replicate (whole - d.digits.length) '0')
      (d.digits.drop whole)

/-- A magnitude in a form. In the general form, zeros at the end go with a point that does not have
    to be kept. -/
def Places.magnitudeText (form : Places) (keepPoint : Bool) (significand : Nat) (exponent : Int) :
    List Char :=
  match form with
  | fixed places => fixedText keepPoint significand exponent places
  | scientific places =>
    (Digits.ofMagnitude significand exponent places).scientificText keepPoint
  | general count =>
    let count := max 1 count
    let all := Digits.ofMagnitude significand exponent (count - 1)
    let d := if keepPoint then all else all.trimmed
    if d.firstPlace < -4 || Int.ofNat count ≤ d.firstPlace then d.scientificText keepPoint
    else d.positionalText keepPoint

def placesText (form : Places) (keepPoint : Bool) : Binary64 → List Char
  | nan => plainLayout.nan.toList
  | infinite negative =>
    (if negative then plainLayout.negativeInfinity else plainLayout.infinity).toList
  | finite negative significand exponent =>
    (if negative then ['-'] else []) ++ form.magnitudeText keepPoint significand exponent

end SettingText.Binary64
