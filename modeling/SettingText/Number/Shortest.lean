import SettingText.Number.Binary64

/-!
The shortest decimal digits that read back as a given double-precision number, and the layouts in
which they are written. Among the digit strings of the least length the nearest to the exact value
is taken, and of two equally near ones the layout says which.
-/

namespace SettingText.Binary64

/-- The number of decimal digits of a natural number; zero has one. -/
def digitCount (n : Nat) : Nat := (Nat.toDigits 10 n).length

/-- The real numbers that round to a finite number, in quarter units of its last place. -/
structure RoundingInterval where
  /-- The lower end. -/
  low : Nat
  /-- The number itself. -/
  value : Nat
  /-- The upper end. -/
  high : Nat
  /-- The ends round to the number too. -/
  closed : Bool
  /-- The exponent of two of a quarter unit. -/
  exponent : Int

/-- The interval of a positive number. Below a power of two the neighbour is half as far. -/
def roundingInterval (significand : Nat) (exponent : Int) : RoundingInterval where
  low := 4 * significand - (if significand = Nat.pow 2 52 ∧ exponent > minExponent then 1 else 2)
  value := 4 * significand
  high := 4 * significand + 2
  closed := significand % 2 == 0
  exponent := exponent - 2

/-- A power of ten or two as a fraction. -/
def power (base : Nat) (exponent : Int) : Nat × Nat :=
  if 0 ≤ exponent then (Nat.pow base exponent.toNat, 1) else (1, Nat.pow base (-exponent).toNat)

/-- A grid point `digit * 10 ^ place` lies in the interval. -/
def RoundingInterval.holds (i : RoundingInterval) (digit : Nat) (place : Int) : Bool :=
  let (twoTop, twoBottom) := power 2 i.exponent
  let (tenTop, tenBottom) := power 10 place
  let point := digit * tenTop * twoBottom
  let low := i.low * twoTop * tenBottom
  let high := i.high * twoTop * tenBottom
  if i.closed then low ≤ point && point ≤ high else low < point && point < high

/-- Which of two grid points is taken when the number lies halfway between them. -/
inductive Tie where
  /-- The even one. -/
  | even
  /-- The greater one. -/
  | up
  deriving DecidableEq, Repr

/-- The lower grid point is taken on a tie. -/
def Tie.takesBelow (tie : Tie) (below : Nat) : Bool :=
  match tie with
  | even => below % 2 == 0
  | up => false

/-- The best grid point of the interval on the grid of `10 ^ place`, if it has one. -/
def RoundingInterval.pick? (i : RoundingInterval) (tie : Tie) (place : Int) : Option Nat :=
  let (twoTop, twoBottom) := power 2 i.exponent
  let (tenTop, tenBottom) := power 10 place
  let top := i.value * twoTop * tenBottom
  let bottom := twoBottom * tenTop
  let below := top / bottom
  let twice := 2 * (top % bottom)
  let nearBelow := twice < bottom || (twice == bottom && tie.takesBelow below)
  match i.holds below place && below != 0, i.holds (below + 1) place with
  | true, true => some (if nearBelow then below else below + 1)
  | true, false => some below
  | false, true => some (below + 1)
  | false, false => none

/-- Search the grids from `place` down, `steps` of them. -/
def RoundingInterval.search (i : RoundingInterval) (tie : Tie) (place : Int) : Nat → Nat × Int
  | 0 => (0, 0)
  | steps + 1 =>
    match i.pick? tie place with
    | some digit => (digit, place)
    | none => i.search tie (place - 1) steps

/-- Move the zeros at the end of a positive number into its exponent. -/
def dropZeros (n : Nat) (place : Int) : Nat × Int :=
  if h : n ≠ 0 ∧ n % 10 = 0 then dropZeros (n / 10) (place + 1) else (n, place)
termination_by n
decreasing_by omega

/-- The shortest digits of a positive number, and the place of the last of them. -/
def shortestDigits (tie : Tie) (significand : Nat) (exponent : Int) : Nat × Int :=
  let interval := roundingInterval significand exponent
  let (top, bottom) := power 2 exponent
  let whole := significand * top / bottom
  let above : Int :=
    if whole ≠ 0 then Int.ofNat (digitCount whole)
    else 1 - Int.ofNat (digitCount (bottom / (significand * top + 1)))
  let (digits, place) := interval.search tie above 25
  dropZeros digits place

/-- How a number is laid out as text. -/
structure Layout where
  /-- The place of the first digit down to which the number is written without an exponent. -/
  leastPlace : Int
  /-- The place of the first digit up to which the number is written without an exponent. -/
  greatestPlace : Int
  /-- The least number of digits of an exponent. -/
  exponentDigits : Nat
  /-- Text of the undefined number. -/
  nan : String
  /-- Text of positive infinity. -/
  infinity : String
  /-- Text of negative infinity. -/
  negativeInfinity : String
  /-- Which of two equally near texts is taken. -/
  tie : Tie

/-- The layout of numbers in messages and encoded values. -/
def plainLayout : Layout := ⟨-4, 15, 2, "nan", "inf", "-inf", .even⟩

/-- The layout of numbers in indented JSON text. -/
def jsonLayout : Layout := ⟨-5, 15, 1, "null", "null", "null", .even⟩

/-- Fill up with zeros on the left. -/
def padLeft (width : Nat) (cs : List Char) : List Char :=
  List.replicate (width - cs.length) '0' ++ cs

/-- The digits with a point at its place, and a zero on either side of the point at least. -/
def positional (digits : List Char) (point : Int) : List Char :=
  if point ≤ 0 then '0' :: '.' :: (List.replicate (-point).toNat '0' ++ digits)
  else
    let count := point.toNat
    if digits.length ≤ count then
      digits ++ List.replicate (count - digits.length) '0' ++ ['.', '0']
    else digits.take count ++ '.' :: digits.drop count

def scientific (layout : Layout) (digits : List Char) (firstPlace : Int) : List Char :=
  let head := match digits with
    | [] => []
    | [d] => [d]
    | d :: rest => d :: '.' :: rest
  let sign := if firstPlace < 0 then '-' else '+'
  head ++ 'e' :: sign :: padLeft layout.exponentDigits (Nat.toDigits 10 firstPlace.natAbs)

/-- The text of a number in a layout. -/
def render (layout : Layout) (x : Binary64) : String :=
  match x with
  | nan => layout.nan
  | infinite negative => if negative then layout.negativeInfinity else layout.infinity
  | finite negative significand exponent =>
    let sign := if negative then ['-'] else []
    if significand = 0 then String.ofList (sign ++ ['0', '.', '0'])
    else
      let (number, place) := shortestDigits layout.tie significand exponent
      let digits := Nat.toDigits 10 number
      let firstPlace := place + Int.ofNat digits.length - 1
      let body :=
        if layout.leastPlace ≤ firstPlace && firstPlace ≤ layout.greatestPlace then
          positional digits (firstPlace + 1)
        else scientific layout digits firstPlace
      String.ofList (sign ++ body)

/-- The text of a number in messages and encoded values. -/
def text (x : Binary64) : String := render plainLayout x

end SettingText.Binary64
