import SettingText.Number.Literal

/-!
Complex numbers with double-precision parts. The imaginary part is marked by a `j`, and the whole
may stand between round brackets.
-/

namespace SettingText

/-- A complex number. -/
structure Complex where
  re : Binary64
  im : Binary64
  deriving DecidableEq, Repr

namespace Complex

/-- Why a text is no complex number. -/
inductive ReadFault where
  /-- The text is not of the form of a complex number. -/
  | malformed
  /-- A low line does not stand between two digits. -/
  | straySeparator (text : String)
  deriving DecidableEq, Repr

/-- The wording of a refused complex number. -/
def ReadFault.message : ReadFault → String
  | malformed => "complex() arg is a malformed string"
  | straySeparator text => s!"could not convert string to complex: {Text.quoted text}"

/-- An exponent mark with its digits at the start of a text. A mark without digits is left where it
    is. -/
def takeExponent (cs : List Char) : Int × List Char :=
  (Number.takeExponent cs).getD (0, cs)

/-- The longest unsigned number at the start of a text, with a given sign. -/
def takeUnsigned (negative : Bool) (cs : List Char) : Option (Binary64 × List Char) :=
  match Number.lowered (cs.take 8) with
  | ['i', 'n', 'f', 'i', 'n', 'i', 't', 'y'] => some (.infinite negative, cs.drop 8)
  | 'i' :: 'n' :: 'f' :: _ => some (.infinite negative, cs.drop 3)
  | 'n' :: 'a' :: 'n' :: _ => some (.nan, cs.drop 3)
  | _ =>
    let (whole, afterWhole) := Number.takeDigits cs
    let (behind, rest) := match afterWhole with
      | '.' :: tail => Number.takeDigits tail
      | _ => ([], afterWhole)
    if whole.isEmpty && behind.isEmpty then none
    else
      let (exponent, rest) := takeExponent rest
      some (.ofDecimal negative (Number.decimalValue (whole ++ behind))
        (exponent - Int.ofNat behind.length), rest)

/-- The longest number at the start of a text. -/
def takeFloat (cs : List Char) : Option (Binary64 × List Char) :=
  let (negative, body) := Number.takeSign cs
  takeUnsigned negative body

/-- The mark of the imaginary part. -/
def takeMark : List Char → Option (List Char)
  | c :: rest => if c = 'j' || c = 'J' then some rest else none
  | [] => none

def unit (negative : Bool) : Binary64 := .ofInt (if negative then -1 else 1)

/-- The two parts at the start of a text, and the rest. -/
def takeParts (cs : List Char) : Option (Complex × List Char) :=
  let zero := Binary64.zero false
  match takeFloat cs with
  | some (x, rest) =>
    match rest with
    | c :: tail =>
      if c = '+' || c = '-' then
        match takeFloat rest with
        | some (y, afterImaginary) => (takeMark afterImaginary).map ((⟨x, y⟩, ·))
        | none => (takeMark tail).map ((⟨x, unit (c = '-')⟩, ·))
      else
        match takeMark rest with
        | some tail => some (⟨zero, x⟩, tail)
        | none => some (⟨x, zero⟩, rest)
    | [] => some (⟨x, zero⟩, rest)
  | none =>
    let (negative, body) := Number.takeSign cs
    (takeMark body).map ((⟨zero, unit negative⟩, ·))

/-- A complex number with nothing but blanks around it. -/
def ofChars? (cs : List Char) : Option Complex :=
  let cs := cs.dropWhile Text.isPlainBlank
  let bracket := cs.head? == some '('
  let cs := if bracket then (cs.drop 1).dropWhile Text.isPlainBlank else cs
  match takeParts cs with
  | none => none
  | some (number, rest) =>
    match rest.dropWhile Text.isPlainBlank, bracket with
    | [], false => some number
    | ')' :: tail, true => if tail.all Text.isPlainBlank then some number else none
    | _, _ => none

/-- The character that ends the search for low lines. -/
def terminator : Char := '\x00'

/-- The characters without their low lines. Only a low line before the first terminator is seen; if
    there is one, no terminator may follow. -/
def withoutLowLines (cs : List Char) : Option (List Char) :=
  if (cs.takeWhile (· ≠ terminator)).contains '_' then
    if cs.contains terminator then none else Number.dropLowLines false cs
  else some cs

def read (text : String) : Except ReadFault Complex :=
  match withoutLowLines (Number.literalChars text) with
  | none => .error (.straySeparator text)
  | some cs =>
    match ofChars? cs with
    | some z => .ok z
    | none => .error .malformed

/-- The layout of the parts in result text: never an exponent, no zero behind the point, and of two
    equally near texts the greater one. -/
def partLayout : Binary64.Layout := ⟨-400, 400, 1, "NaN", "inf", "-inf", .up⟩

def partText (x : Binary64) : String :=
  let text := x.render partLayout
  if text.endsWith ".0" then (text.dropEnd 2).toString else text

/-- The text of a complex number in results. A zero real part is left out, and a plus joins an
    imaginary part without a sign of its own. -/
def text (z : Complex) : String :=
  let imaginary := partText z.im ++ "j"
  if z.re.isZero then imaginary
  else partText z.re ++ (if z.im.isNegative then "" else "+") ++ imaginary

end Complex

end SettingText
