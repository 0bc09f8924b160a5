import SettingText.Text.Printable

/-!
The quoted form of a text, as messages show it. Single quotes surround the text unless it holds a
single quote and no double quote; the backslash, the chosen quote and every character that is not
printable are written as escapes.
-/

namespace SettingText.Text.Quoted

def single : Char := Char.ofNat 39

def double : Char := Char.ofNat 34

def backslash : Char := Char.ofNat 92

/-- One hexadecimal digit, in lower case. -/
def hexDigit (n : Nat) : Char :=
  if n < 10 then Char.ofNat (48 + n) else Char.ofNat (87 + n)

/-- The last `width` hexadecimal digits of a number. -/
def hex (width : Nat) (n : Nat) : List Char :=
  match width with
  | 0 => []
  | k + 1 => hex k (n / 16) ++ [hexDigit (n % 16)]

/-- Escape by code point: two digits below 256, four below 65536, eight above. -/
def escapeCode (c : Char) : List Char :=
  if c.toNat < 0x100 then backslash :: 'x' :: hex 2 c.toNat
  else if c.toNat < 0x10000 then backslash :: 'u' :: hex 4 c.toNat
  else backslash :: 'U' :: hex 8 c.toNat

def escape (quote c : Char) : List Char :=
  if c == quote || c == backslash then [backslash, c]
  else if c == '\n' then [backslash, 'n']
  else if c == '\r' then [backslash, 'r']
  else if c == '\t' then [backslash, 't']
  else if isPrintable c then [c]
  else escapeCode c

/-- The quote that needs fewer escapes; the single quote when both need one. -/
def quoteFor (cs : List Char) : Char :=
  if cs.contains single && !cs.contains double then double else single

/-- The quoted form of a list of characters. -/
def encode (cs : List Char) : List Char :=
  let quote := quoteFor cs
  quote :: (cs.flatMap (escape quote) ++ [quote])

end SettingText.Text.Quoted

namespace SettingText.Text

def quoted (text : String) : String := String.ofList (Quoted.encode text.toList)

/-- Texts in their quoted forms, between brackets. -/
def quotedList (texts : List String) : String :=
  "[" ++ ", ".intercalate (texts.map quoted) ++ "]"

end SettingText.Text
