import SettingText.Fault.Cause
import SettingText.Json.Value
import SettingText.Number.Places

/-!
Patterns of log messages. A percent sign begins a directive, which takes a value and says how it is
written; all other characters stand for themselves. A pattern is read as a list of pieces first,
whatever is wrong with it, because a fault counts only when everything before it could be filled in.
-/

namespace SettingText.Pattern

/-- A width or a precision. -/
inductive Amount where
  /-- None is given. -/
  | absent
  /-- It stands in the pattern. -/
  | given (n : Nat)
  /-- It is taken from the values. -/
  | taken
  deriving DecidableEq, Repr

/-- A width or a precision read up to a place, and the characters behind. -/
def Amount.read (cs : List Char) : Amount × List Char :=
  match cs with
  | [] => (.absent, [])
  | c :: rest =>
    if c = '*' then (.taken, rest)
    else if c.isDigit then
      (.given (((c :: rest).takeWhile Char.isDigit).foldl (fun n d => 10 * n + (d.toNat - 48)) 0),
        rest.dropWhile Char.isDigit)
    else (.absent, cs)

theorem Amount.length_read (cs : List Char) : (Amount.read cs).2.length ≤ cs.length := by
  unfold Amount.read
  split
  · simp
  · next c rest =>
    have h := (List.dropWhile_sublist (l := rest) Char.isDigit).length_le
    split
    · simp
    · split
      · simp only [List.length_cons]
        omega
      · simp

/-- The name of the value that a directive takes. -/
inductive Key where
  /-- The directive takes the next value. -/
  | next
  /-- The directive takes the value of a name. -/
  | named (name : List Char)
  /-- A bracket opens a name, and none closes it. -/
  | unclosed
  deriving DecidableEq, Repr

/-- The characters up to the bracket that closes, and those behind it. Inside, `depth` brackets are
    open. -/
def Key.upToClose : Nat → List Char → Option (List Char × List Char)
  | _, [] => none
  | depth, c :: rest =>
    if c = ')' && depth = 0 then some ([], rest)
    else
      let inner := if c = ')' then depth - 1 else if c = '(' then depth + 1 else depth
      (upToClose inner rest).map fun (name, behind) => (c :: name, behind)

/-- What stands behind the closing bracket is shorter. -/
theorem Key.length_upToClose {depth : Nat} {cs name behind : List Char}
    (h : Key.upToClose depth cs = some (name, behind)) : behind.length < cs.length := by
  induction cs generalizing depth name behind with
  | nil => cases h
  | cons c rest ih =>
    unfold Key.upToClose at h
    split at h
    · cases h
      simp
    · obtain ⟨⟨_, _⟩, ht, heq⟩ := Option.map_eq_some_iff.1 h
      cases heq
      have := ih ht
      simp only [List.length_cons]
      omega

/-- The key at the beginning of a directive. -/
def Key.read (cs : List Char) : Key × List Char :=
  match cs with
  | '(' :: rest =>
    match upToClose 0 rest with
    | some (name, behind) => (.named name, behind)
    | none => (.unclosed, [])
  | _ => (.next, cs)

theorem Key.length_read (cs : List Char) : (Key.read cs).2.length ≤ cs.length := by
  unfold Key.read
  split
  · next rest =>
    split
    · next h =>
      have := Key.length_upToClose h
      simp only [List.length_cons]
      omega
    · simp
  · simp

/-- The marks in front of a width. -/
def isMark (c : Char) : Bool := c == '-' || c == '+' || c == ' ' || c == '#' || c == '0'

/-- A letter for the size of a number, which says nothing here. -/
def isSize (c : Char) : Bool := c == 'h' || c == 'l' || c == 'L'

/-- A directive. -/
structure Directive where
  key : Key
  marks : List Char
  width : Amount
  precision : Amount
  /-- The letter that says how the value is written, unless the pattern ends before it. -/
  letter : Option Char
  /-- The number of characters behind the letter. -/
  behind : Nat
  deriving DecidableEq, Repr

/-- A precision, which a point introduces; a point alone asks for none of the digits. -/
def precisionOf (cs : List Char) : Amount × List Char :=
  match cs with
  | '.' :: rest =>
    match Amount.read rest with
    | (.absent, behind) => (.given 0, behind)
    | other => other
  | _ => (.absent, cs)

/-- Reading a precision lengthens nothing. -/
theorem length_precisionOf (cs : List Char) : (precisionOf cs).2.length ≤ cs.length := by
  unfold precisionOf
  split
  · next rest =>
    have h := Amount.length_read rest
    split
    · next heq =>
      rw [heq] at h
      simp only [List.length_cons] at h ⊢
      omega
    · simp only [List.length_cons]
      omega
  · simp

/-- A directive read from behind its percent sign, and the characters behind it. -/
def Directive.read (cs : List Char) : Directive × List Char :=
  let (key, cs) := Key.read cs
  let marks := cs.takeWhile isMark
  let (width, cs) := Amount.read (cs.dropWhile isMark)
  let (precision, cs) := precisionOf cs
  let cs := if cs.head?.any isSize then cs.tail else cs
  (⟨key, marks, width, precision, cs.head?, cs.tail.length⟩, cs.tail)

theorem Directive.length_read (cs : List Char) : (Directive.read cs).2.length ≤ cs.length := by
  unfold Directive.read
  have h₁ := Key.length_read cs
  have h₂ := (List.dropWhile_sublist (l := (Key.read cs).2) isMark).length_le
  have h₃ := Amount.length_read ((Key.read cs).2.dropWhile isMark)
  have h₄ := length_precisionOf (Amount.read ((Key.read cs).2.dropWhile isMark)).2
  dsimp only
  split <;> simp only [List.length_tail] <;> omega

/-- A piece of a pattern. -/
inductive Piece where
  /-- A character that stands for itself. -/
  | char (c : Char)
  | directive (d : Directive)
  deriving DecidableEq, Repr

/-- The pieces of a pattern. Two percent signs side by side stand for one. -/
def pieces : List Char → List Piece
  | [] => []
  | '%' :: '%' :: rest => .char '%' :: pieces rest
  | c :: rest =>
    if c = '%' then
      have := Directive.length_read rest
      .directive (Directive.read rest).1 :: pieces (Directive.read rest).2
    else .char c :: pieces rest
termination_by cs => cs.length
decreasing_by
  all_goals simp only [List.length_cons]
  all_goals omega

/-- The values that are still to be filled in. -/
inductive Supply where
  /-- Values that are taken one after the other. -/
  | row (values : List Json)
  /-- Values that are taken by their names. One of them, or all together at first, can be taken once
      without a name. -/
  | named (members : List (String × Json)) (current : Option Json)
  deriving Repr

/-- The supply of a list of values. A single object that is not empty gives its members. -/
def Supply.of : List Json → Supply
  | [.object (m :: members)] => .named (m :: members) (some (.object (m :: members)))
  | values => .row values

/-- What fills a pattern: steps that take from the supply and can fail. -/
abbrev Filling := StateT Supply (Except Cause)

/-- Fail with a kind and a wording. -/
def refuse {α : Type} (kind : ErrorKind) (message : String) : Filling α :=
  throw (.other kind message)

def takeValue : Filling Json := do
  match ← get with
  | .row (value :: rest) => set (Supply.row rest); return value
  | .named members (some value) => set (Supply.named members none); return value
  | _ => refuse .type "not enough arguments for format string"

def turnTo (key : Key) : Filling Unit := do
  match key, ← get with
  | .next, _ => return ()
  | _, .row _ => refuse .type "format requires a mapping"
  | .unclosed, _ => refuse .value "incomplete format key"
  | .named name, .named members _ =>
    let name := String.ofList name
    match Json.find? members name with
    | some value => set (Supply.named members (some value))
    | none => throw (.missingKey (Text.quoted name))

/-- The whole number that a value is. -/
def wholeOf? : Json → Option Int
  | .int n => some n
  | .bool b => some (if b then 1 else 0)
  | _ => none

def greatestWidth : Nat := Nat.pow 2 63 - 1

def greatestPrecision : Nat := Nat.pow 2 31 - 1

/-- A width or a precision taken from the values; `size` names the numbers up to `greatest`. -/
def takeAmount (greatest : Nat) (size : String) : Filling Int := do
  match wholeOf? (← takeValue) with
  | none => refuse .type "* wants int"
  | some n =>
    if n ≤ Int.ofNat greatest && -(Int.ofNat greatest) - 1 ≤ n then return n
    else refuse .overflow s!"Python int too large to convert to C {size}"

/-- The width of a directive, which is negative if the value stands at its left end. -/
def widthOf : Amount → Filling Int
  | .absent => return 0
  | .given n => if n ≤ greatestWidth then return Int.ofNat n else refuse .value "width too big"
  | .taken => takeAmount greatestWidth "ssize_t"

/-- The precision of a directive; a negative one counts as zero. -/
def precisionValue : Amount → Filling (Option Nat)
  | .absent => return none
  | .given n => if n ≤ greatestPrecision then return some n else refuse .value "precision too big"
  | .taken => do return some (← takeAmount greatestPrecision "int").toNat

/-- How a value is put into its field. -/
structure Field where
  marks : List Char
  leftEnd : Bool
  width : Nat
  precision : Option Nat
  deriving DecidableEq, Repr

def Field.has (f : Field) (mark : Char) : Bool := f.marks.contains mark

/-- Fill a text up to the width with blanks. -/
def Field.fillBlank (f : Field) (cs : List Char) : List Char :=
  let blanks := List.replicate (f.width - cs.length) ' '
  if f.leftEnd then cs ++ blanks else blanks ++ cs

/-- A number in its field. What stands before its digits, a sign and the mark of a base, comes
    before the zeros that fill the field up. -/
def Field.number (f : Field) (negative : Bool) (base digits : List Char) : List Char :=
  let sign :=
    if negative then ['-'] else if f.has '+' then ['+'] else if f.has ' ' then [' '] else []
  let front := sign ++ base
  if f.has '0' && !f.leftEnd then
    front ++ List.replicate (f.width - front.length - digits.length) '0' ++ digits
  else f.fillBlank (front ++ digits)

/-- The number in its field whose first character may be a minus sign. -/
def Field.signed (f : Field) : List Char → List Char
  | '-' :: rest => f.number true [] rest
  | cs => f.number false [] cs

/-- What a value is, in the words of messages. -/
def kindName : Json → String
  | .null => "NoneType"
  | .bool _ => "bool"
  | .int _ => "int"
  | .float _ => "float"
  | .text _ => "str"
  | .list _ => "list"
  | .object _ => "dict"

/-- Capital letters in place of small ones if asked for. -/
def capital (big : Bool) (cs : List Char) : List Char := if big then cs.map Char.toUpper else cs

/-- A whole number in a base. The precision is the least number of digits. -/
def Field.whole (f : Field) (letter : Char) (n : Int) : List Char :=
  let base := if letter = 'o' then 8 else if letter.toLower = 'x' then 16 else 10
  let digits := Nat.toDigits base n.natAbs
  let mark := if f.has '#' && base != 10 then ['0', letter] else []
  f.number (n < 0) mark
    (capital (letter = 'X') (Binary64.padLeft (f.precision.getD 0) digits))

/-- Characters beyond ASCII as escapes. -/
def escaped (text : String) : List Char :=
  text.toList.flatMap fun c => if c.toNat < 128 then [c] else Text.Quoted.escapeCode c

/-- The whole number that a directive of a letter writes for a value. The part behind a point goes,
    but not for the bases other than ten. -/
def wholeFor (letter : Char) (value : Json) : Except Cause Int :=
  let decimal := letter = 'd' || letter = 'i' || letter = 'u'
  match value with
  | .int n => .ok n
  | .bool b => .ok (if b then 1 else 0)
  | .float x =>
    if !decimal then
      .error (.other .type s!"%{letter} format: an integer is required, not float")
    else
      match x.truncate?, x with
      | some n, _ => .ok n
      | none, .infinite _ => .error (.other .overflow "cannot convert float infinity to integer")
      | none, _ => .error (.other .value "cannot convert float NaN to integer")
  | other =>
    let wanted := if decimal then "a real number" else "an integer"
    let kind := kindName other
    .error (.other .type s!"%{letter} format: {wanted} is required, not {kind}")

/-- The double-precision number that a value is. -/
def realFor (value : Json) : Except Cause Binary64 :=
  let ofWhole (n : Int) : Except Cause Binary64 :=
    match Binary64.ofInt n with
    | .infinite _ => .error (.other .overflow "int too large to convert to float")
    | x => .ok x
  match value with
  | .float x => .ok x
  | .int n => ofWhole n
  | .bool b => ofWhole (if b then 1 else 0)
  | other =>
    let kind := kindName other
    .error (.other .type s!"must be real number, not {kind}")

/-- The character that a value is: a text of one character or the number of a character. -/
def charFor (value : Json) : Except Cause Char :=
  let refused : Except Cause Char := .error (.other .type "%c requires int or char")
  match wholeOf? value with
  | some n =>
    if n < -(Int.ofNat greatestWidth) - 1 || Int.ofNat greatestWidth < n then refused
    else if n < 0 || 0x110000 ≤ n then
      .error (.other .overflow "%c arg not in range(0x110000)")
    else .ok (Char.ofNat n.toNat)
  | none =>
    match value with
    | .text s => match s.toList with
      | [c] => .ok c
      | _ => refused
    | _ => refused

/-- The form of a real number for a letter. Without a precision there are six places. -/
def formFor (letter : Char) (precision : Option Nat) : Binary64.Places :=
  let count := precision.getD 6
  match letter.toLower with
  | 'e' => .scientific count
  | 'f' => .fixed count
  | _ => .general count

/-- The wording for a letter that no directive has. -/
def unknownLetter (letter : Char) (index : Nat) : String :=
  let shown := if 31 ≤ letter.toNat && letter.toNat < 127 then letter else '?'
  let code := String.ofList (Nat.toDigits 16 letter.toNat)
  s!"unsupported format character '{shown}' (0x{code}) at index {index}"

/-- A value written by the directive of a letter, which stands at an index of the pattern. -/
def Field.write (f : Field) (letter : Char) (index : Nat) (value : Json) :
    Except Cause (List Char) :=
  let text (cs : List Char) : Except Cause (List Char) :=
    .ok (f.fillBlank (match f.precision with
      | some n => cs.take n
      | none => cs))
  if letter = 's' then text value.plainText.toList
  else if letter = 'r' then text value.shown.toList
  else if letter = 'a' then text (escaped value.shown)
  else if letter = 'c' then (charFor value).map fun c => f.fillBlank [c]
  else if "diuoxX".contains letter then (wholeFor letter value).map (f.whole letter)
  else if "eEfFgG".contains letter then
    (realFor value).map fun x =>
      f.signed (capital letter.isUpper
        (Binary64.placesText (formFor letter f.precision) (f.has '#') x))
  else .error (.other .value (unknownLetter letter index))

/-- The text of a directive in a pattern of so many characters. -/
def Directive.fill (d : Directive) (length : Nat) : Filling (List Char) := do
  turnTo d.key
  let width ← widthOf d.width
  let precision ← precisionValue d.precision
  match d.letter with
  | none => refuse .value "incomplete format"
  | some letter =>
    let field : Field := ⟨d.marks, d.marks.contains '-' || width < 0, width.natAbs, precision⟩
    field.write letter (length - d.behind - 1) (← takeValue)

def fillAll (length : Nat) : List Piece → Filling (List Char)
  | [] => return []
  | .char c :: rest => do return c :: (← fillAll length rest)
  | .directive d :: rest => do
    let front ← d.fill length
    return front ++ (← fillAll length rest)

/-- A pattern with values filled in. Values in a row all have to be taken. -/
def fill (pattern : String) (values : List Json) : Except Cause String := do
  let (cs, left) ← (fillAll pattern.length (pieces pattern.toList)).run (Supply.of values)
  match left with
  | .row (_ :: _) =>
    throw (.other .type "not all arguments converted during string formatting")
  | _ => return String.ofList cs

end SettingText.Pattern
