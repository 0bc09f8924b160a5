import SettingText.Json.Value
import SettingText.Number.Literal

/-!
The tokens of a JSON text: brackets, commas, colons and single values, with blanks between them. A
string may write characters by their codes; two codes that are the halves of one character are
joined.
-/

namespace SettingText.Json

/-- A token. -/
inductive Token where
  | openList
  | closeList
  | openObject
  | closeObject
  | comma
  | colon
  /-- A string, a number, a truth value or null. -/
  | single (value : Json)
  deriving Repr

/-- The characters that may stand between tokens. -/
def isBlank (c : Char) : Bool := c == ' ' || c == '\t' || c == '\n' || c == '\r'

/-- The character a letter stands for behind a backslash. -/
def escaped? (c : Char) : Option Char :=
  if c == Text.Quoted.double || c == Text.Quoted.backslash || c == '/' then some c
  else
    match c with
    | 'b' => some (Char.ofNat 8)
    | 'f' => some (Char.ofNat 12)
    | 'n' => some '\n'
    | 'r' => some '\r'
    | 't' => some '\t'
    | _ => none

def digitsIn? (base : Nat) (digits : List Char) : Option Nat :=
  (digits.mapM (Number.digitIn? base)).map (Number.ofDigits base)

/-- The number of hexadecimal digits. -/
def ofHex? (digits : List Char) : Option Nat := digitsIn? 16 digits

/-- The codes of a string up to the quote at its end, and what follows the quote. -/
def takeString : List Char → Option (List Nat × List Char)
  | [] => none
  | c :: rest =>
    if c = Text.Quoted.double then some ([], rest)
    else if c = Text.Quoted.backslash then
      match rest with
      | 'u' :: a :: b :: c :: d :: rest => do
        let code ← ofHex? [a, b, c, d]
        let (codes, rest) ← takeString rest
        return (code :: codes, rest)
      | letter :: rest => do
        let c ← escaped? letter
        let (codes, rest) ← takeString rest
        return (c.toNat :: codes, rest)
      | [] => none
    else if c.toNat < 32 then none
    else do
      let (codes, rest) ← takeString rest
      return (c.toNat :: codes, rest)

/-- The first half of a character beyond sixteen bits. -/
def isHighHalf (code : Nat) : Bool := 0xd800 ≤ code && code < 0xdc00

/-- The second half of a character beyond sixteen bits. -/
def isLowHalf (code : Nat) : Bool := 0xdc00 ≤ code && code < 0xe000

/-- The character of a code; a half on its own has none. -/
def charOf (code : Nat) : Char := if h : code.isValidChar then .ofNatAux code h else Char.ofNat 0xfffd

/-- The characters of codes, where two halves make one character. -/
def joinHalves : List Nat → List Char
  | high :: low :: rest =>
    if isHighHalf high && isLowHalf low then
      charOf (0x10000 + (high - 0xd800) * 0x400 + (low - 0xdc00)) :: joinHalves rest
    else charOf high :: joinHalves (low :: rest)
  | [code] => [charOf code]
  | [] => []

/-- A number at the start of a text: whole unless it has a point or an exponent. -/
def takeNumber (cs : List Char) : Option (Json × List Char) :=
  let (negative, body) := match cs with
    | '-' :: rest => (true, rest)
    | _ => (false, cs)
  let (whole, rest) := Number.takeDigits body
  if whole.isEmpty || (whole.head? == some '0' && whole.length ≠ 1) then none
  else
    let (behind, rest) := match rest with
      | '.' :: tail => let (digits, tail) := Number.takeDigits tail
        if digits.isEmpty then ([], rest) else (digits, tail)
      | _ => ([], rest)
    let (exponent, rest) := match Number.takeExponent rest with
      | some (exponent, tail) => (if tail.length = rest.length then none else some exponent, tail)
      | none => (none, rest)
    let digits := Number.decimalValue (whole ++ behind)
    if behind.isEmpty && exponent.isNone then
      if whole.length > Number.maxDigits then none
      else some (int (if negative then -Int.ofNat digits else Int.ofNat digits), rest)
    else
      some (float (.ofDecimal negative digits (exponent.getD 0 - Int.ofNat behind.length)), rest)

def words : List (String × Json) :=
  [("null", null), ("true", bool true), ("false", bool false), ("NaN", float .nan),
    ("Infinity", float (.infinite false)), ("-Infinity", float (.infinite true))]

/-- A word at the start of a text. -/
def takeWord (cs : List Char) : Option (Json × List Char) :=
  (words.find? fun w => w.1.toList.isPrefixOf cs).map fun (word, value) =>
    (value, cs.drop word.length)

/-- The token a single character makes. -/
def Token.ofChar? : Char → Option Token
  | '[' => some .openList
  | ']' => some .closeList
  | '\x7b' => some .openObject
  | '\x7d' => some .closeObject
  | ',' => some .comma
  | ':' => some .colon
  | _ => none

/-- The token a text begins with, and what follows it. -/
def nextToken : List Char → Option (Token × List Char)
  | [] => none
  | c :: rest =>
    if c = Text.Quoted.double then
      (takeString rest).map fun (codes, rest) =>
        (.single (text (String.ofList (joinHalves codes))), rest)
    else
      match Token.ofChar? c with
      | some token => some (token, rest)
      | none =>
        ((takeWord (c :: rest)).orElse fun _ => takeNumber (c :: rest)).map fun (value, rest) =>
          (.single value, rest)

/-- The tokens of a text, if it is made of tokens; `limit` is at least the length of the text. -/
def scan : (limit : Nat) → List Char → Option (List Token)
  | 0, _ => some []
  | limit + 1, cs =>
    match cs.dropWhile isBlank with
    | [] => some []
    | rest => do
      let (token, rest) ← nextToken rest
      let tokens ← scan limit rest
      return token :: tokens

def tokens? (text : String) : Option (List Token) :=
  let cs := text.toList
  scan (cs.length + 1) cs

end SettingText.Json
