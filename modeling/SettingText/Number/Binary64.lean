/-!
Binary floating-point numbers of double precision, as exact data: a sign, a significand below
`2 ^ 53` and an exponent of two, beside the infinities and one undefined number. Every operation
computes its exact rational result and rounds it once, to the nearest number and on a tie to the
even significand.
-/

namespace SettingText

/-- A double-precision number. The value of a finite one is `significand * 2 ^ exponent`. -/
inductive Binary64 where
  /-- The undefined number. -/
  | nan
  /-- An infinity. -/
  | infinite (negative : Bool)
  /-- A finite number, zero of either sign included. -/
  | finite (negative : Bool) (significand : Nat) (exponent : Int)
  deriving DecidableEq, Repr, Inhabited

namespace Binary64

/-- The least exponent of two of a finite number. -/
def minExponent : Int := -1074

/-- The greatest exponent of two of a finite number. -/
def maxExponent : Int := 971

/-- Zero of either sign. -/
def zero (negative : Bool) : Binary64 := finite negative 0 minExponent

/-- A finite number is normal when its significand fills 53 bits or its exponent is the least. -/
def Canonical : Binary64 → Prop
  | finite _ significand exponent =>
    significand < Nat.pow 2 53 ∧ minExponent ≤ exponent ∧ exponent ≤ maxExponent ∧
      (Nat.pow 2 52 ≤ significand ∨ exponent = minExponent)
  | _ => True

/-- The quotient rounded to the nearest natural number, a tie to the even one. -/
def roundHalfEven (num den : Nat) : Nat :=
  let quotient := num / den
  let twice := 2 * (num % den)
  if twice < den || (twice == den && quotient % 2 == 0) then quotient else quotient + 1

/-- The quotient `num / den` in units of `2 ^ exponent`, as a fraction. -/
def inUnits (num den : Nat) (exponent : Int) : Nat × Nat :=
  if 0 ≤ exponent then (num, den * Nat.pow 2 exponent.toNat)
  else (num * Nat.pow 2 (-exponent).toNat, den)

/-- The exponent at which a positive quotient has a significand of 53 bits, or the least one. -/
def exponentOf (num den : Nat) : Int :=
  let guess : Int := Int.ofNat num.log2 - Int.ofNat den.log2 - 52
  let (top, bottom) := inUnits num den guess
  max minExponent (if top / bottom < Nat.pow 2 52 then guess - 1 else guess)

/-- The number nearest to a quotient. -/
def ofRatio (negative : Bool) (num den : Nat) : Binary64 :=
  if num = 0 then zero negative
  else
    let exponent := exponentOf num den
    let (top, bottom) := inUnits num den exponent
    let rounded := roundHalfEven top bottom
    let (significand, exponent) :=
      if rounded = Nat.pow 2 53 then (Nat.pow 2 52, exponent + 1) else (rounded, exponent)
    if exponent > maxExponent then infinite negative else finite negative significand exponent

/-- The number nearest to an integer. -/
def ofInt (n : Int) : Binary64 := ofRatio (n < 0) n.natAbs 1

/-- The number nearest to `digits * 10 ^ exponent`. Exponents far outside the range are settled
    by the count of the digits. -/
def ofDecimal (negative : Bool) (digits : Nat) (exponent : Int) : Binary64 :=
  let size : Int := Int.ofNat (digits.log2 / 3 + 1)
  if digits = 0 then zero negative
  else if exponent > 400 then infinite negative
  else if exponent + size < -400 then zero negative
  else if 0 ≤ exponent then ofRatio negative (digits * Nat.pow 10 exponent.toNat) 1
  else ofRatio negative digits (Nat.pow 10 (-exponent).toNat)

/-- A finite number as numerator and positive denominator. -/
def toRatio? : Binary64 → Option (Int × Nat)
  | finite negative significand exponent =>
    let magnitude : Int := Int.ofNat significand
    let signed := if negative then -magnitude else magnitude
    if 0 ≤ exponent then some (signed * Int.ofNat (Nat.pow 2 exponent.toNat), 1)
    else some (signed, Nat.pow 2 (-exponent).toNat)
  | _ => none

/-- The sign bit. -/
def isNegative : Binary64 → Bool
  | nan => false
  | infinite negative => negative
  | finite negative _ _ => negative

/-- The number with the other sign. -/
def neg : Binary64 → Binary64
  | nan => nan
  | infinite negative => infinite !negative
  | finite negative significand exponent => finite (!negative) significand exponent

def isZero : Binary64 → Bool
  | finite _ 0 _ => true
  | _ => false

/-- Round a signed quotient; a zero quotient takes the given sign. -/
def ofSigned (zeroSign : Bool) (num : Int) (den : Nat) : Binary64 :=
  if num = 0 then zero zeroSign else ofRatio (num < 0) num.natAbs den

def add (x y : Binary64) : Binary64 :=
  match x, y with
  | nan, _ | _, nan => nan
  | infinite a, infinite b => if a = b then infinite a else nan
  | infinite a, finite .. => infinite a
  | finite .., infinite b => infinite b
  | finite .., finite .. =>
    match x.toRatio?, y.toRatio? with
    | some (a, b), some (c, d) =>
      ofSigned (x.isNegative && y.isNegative) (a * Int.ofNat d + c * Int.ofNat b) (b * d)
    | _, _ => nan

def mul (x y : Binary64) : Binary64 :=
  let sign := x.isNegative != y.isNegative
  match x, y with
  | nan, _ | _, nan => nan
  | infinite _, other | other, infinite _ => if other.isZero then nan else infinite sign
  | finite .., finite .. =>
    match x.toRatio?, y.toRatio? with
    | some (a, b), some (c, d) => ofRatio sign (a * c).natAbs (b * d)
    | _, _ => nan

/-- The quotient; the caller keeps a zero divisor away. -/
def div (x y : Binary64) : Binary64 :=
  let sign := x.isNegative != y.isNegative
  match x, y with
  | nan, _ | _, nan => nan
  | infinite _, infinite _ => nan
  | infinite _, finite .. => infinite sign
  | finite .., infinite _ => zero sign
  | finite .., finite .. =>
    match x.toRatio?, y.toRatio? with
    | some (a, b), some (c, d) => ofRatio sign (a.natAbs * d) (b * c.natAbs)
    | _, _ => nan

/-- Numerically equal: the two zeros are, and the undefined number equals nothing. -/
def eq (x y : Binary64) : Bool :=
  match x, y with
  | nan, _ | _, nan => false
  | _, _ => x == y || (x.isZero && y.isZero)

/-- The whole part of a finite number, cut toward zero. -/
def truncate? (x : Binary64) : Option Int :=
  x.toRatio?.map fun (num, den) => Int.tdiv num (Int.ofNat den)

/-- What a finite number has behind its whole part, with the sign of the number. -/
def fraction? (x : Binary64) : Option Binary64 :=
  x.toRatio?.map fun (num, den) =>
    ofSigned x.isNegative (Int.tmod num (Int.ofNat den)) den

end Binary64

end SettingText
