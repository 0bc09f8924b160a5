import SettingText.Json.Token

/-!
The names and strings of a configuration text. Each is taken from the start of a text and leaves the
rest; where the text is malformed, nothing is taken. A string stands between quotes that allow escapes or
between apostrophes that allow none; three of either make a long string, which may go on over
several lines.
-/

namespace SettingText.Toml

/-- Blanks within a line. -/
def isBlank (c : Char) : Bool := c == ' ' || c == '\t'

/-- The text without blanks at its start. -/
def dropBlanks (cs : List Char) : List Char := cs.dropWhile isBlank

/-- The controls that may not stand in strings and comments. -/
def isControl (c : Char) : Bool := (c.toNat < 32 && c != '\t') || c.toNat == 127

/-- The character may not stand in a string. -/
def isIllegal (long : Bool) (c : Char) : Bool := isControl c && !(long && c == '\n')

/-- The character a letter stands for behind a backslash. -/
def escaped? (c : Char) : Option Char := if c == '/' then none else Json.escaped? c

def ofCode? (digits : List Char) : Option Char := do
  let code ← Json.ofHex? digits
  if h : code.isValidChar then return .ofNatAux code h else none

/-- Up to two quotes behind the end of a long string still belong to it. -/
def takeQuotes (quote : Char) (cs : List Char) : List Char × List Char :=
  let quotes := (cs.take 2).takeWhile (· == quote)
  (quotes, cs.drop quotes.length)

/-- The text begins with two quotes. -/
def twoQuotes (quote : Char) (cs : List Char) : Bool := cs.take 2 == [quote, quote]

/-- Nothing but blanks stands before the end of the line. -/
def endsLine (cs : List Char) : Bool :=
  match dropBlanks cs with
  | [] => true
  | c :: _ => c == '\n'

/-- Put a character before what was read. -/
def cons (c : Char) (taken : Option (List Char × List Char)) : Option (List Char × List Char) :=
  taken.map fun (cs, rest) => (c :: cs, rest)

/-- A string between quotes, up to its end. `skipping` tells that a backslash stood at the end of
    the line, so that blanks and line ends are passed over. -/
def takeBasic (long skipping : Bool) : List Char → Option (List Char × List Char)
  | [] => none
  | c :: rest =>
    if skipping && (isBlank c || c == '\n') then takeBasic long true rest
    else if c = Text.Quoted.double then
      if !long then some ([], rest)
      else if twoQuotes c rest then some (takeQuotes c (rest.drop 2))
      else cons c (takeBasic long false rest)
    else if c = Text.Quoted.backslash then
      match rest with
      | 'u' :: a :: b :: c :: d :: rest => do
        cons (← ofCode? [a, b, c, d]) (takeBasic long false rest)
      | 'U' :: a :: b :: c :: d :: e :: f :: g :: h :: rest => do
        cons (← ofCode? [a, b, c, d, e, f, g, h]) (takeBasic long false rest)
      | c :: tail =>
        if long && (isBlank c || c == '\n') then
          if endsLine (c :: tail) then takeBasic long true tail else none
        else do cons (← escaped? c) (takeBasic long false tail)
      | [] => none
    else if isIllegal long c then none
    else cons c (takeBasic long false rest)

/-- A string between apostrophes, up to its end. -/
def takeLiteral (long : Bool) : List Char → Option (List Char × List Char)
  | [] => none
  | c :: rest =>
    if c = Text.Quoted.single then
      if !long then some ([], rest)
      else if twoQuotes c rest then some (takeQuotes c (rest.drop 2))
      else cons c (takeLiteral long rest)
    else if isIllegal long c then none
    else cons c (takeLiteral long rest)

/-- The text without a line end at its start. -/
def dropLineEnd (cs : List Char) : List Char :=
  match cs with
  | '\n' :: rest => rest
  | _ => cs

/-- A string of either kind; a name may not be a long one. -/
def takeString (longAllowed : Bool) (cs : List Char) : Option (String × List Char) :=
  match cs with
  | [] => none
  | quote :: rest =>
    let long := longAllowed && twoQuotes quote rest
    let body := if long then dropLineEnd (rest.drop 2) else rest
    let taken :=
      if quote = Text.Quoted.double then takeBasic long false body
      else if quote = Text.Quoted.single then takeLiteral long body
      else none
    taken.map fun (cs, rest) => (String.ofList cs, rest)

/-- The characters of a name without quotes. -/
def isBare (c : Char) : Bool := c.isAlphanum || c == '-' || c == '_'

/-- A name, in quotes or without. -/
def takeName (cs : List Char) : Option (String × List Char) :=
  let bare := cs.takeWhile isBare
  if bare.isEmpty then takeString false cs
  else some (String.ofList bare, cs.drop bare.length)

/-- Names with points between them, and the blanks behind; `limit` is at least the length of the
    text. -/
def takePath : (limit : Nat) → List Char → Option (List String × List Char)
  | 0, _ => none
  | limit + 1, cs => do
    let (name, rest) ← takeName cs
    match dropBlanks rest with
    | '.' :: rest => do
      let (path, rest) ← takePath limit (dropBlanks rest)
      return (name :: path, rest)
    | rest => return ([name], rest)

/-- Pass over blanks, line ends and comments. -/
def skipLines (inComment : Bool) : List Char → Option (List Char)
  | [] => some []
  | c :: rest =>
    if c = '\n' then skipLines false rest
    else if inComment then if isControl c then none else skipLines true rest
    else if isBlank c then skipLines false rest
    else if c = '#' then skipLines true rest
    else some (c :: rest)

/-- Pass over a comment, up to the end of the line. -/
def skipComment (cs : List Char) : Option (List Char) :=
  match cs with
  | '#' :: rest =>
    let comment := rest.takeWhile (· != '\n')
    if comment.any isControl then none else some (rest.drop comment.length)
  | _ => some cs

end SettingText.Toml
