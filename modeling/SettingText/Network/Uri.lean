import SettingText.Network.Address

/-!
References to resources: their characters, their five parts, and the checks on an authority. Nothing
is normalised: a reference is the text that was written.
-/

namespace SettingText.Network

/-- Why a text is no reference. -/
inductive UriFault where
  /-- A character is neither allowed nor part of an escape. -/
  | badCharacter
  /-- The first segment of a relative path looks like a scheme. -/
  | ambiguous (text : String)
  /-- The brackets around an address are unbalanced or misplaced. -/
  | badBrackets
  /-- What stands between brackets is no address. -/
  | notAddress (host : String)
  /-- An address of a future kind is malformed. -/
  | badFuture
  /-- An address of four octets stands between brackets. -/
  | bracketedQuad
  /-- A character of the authority stands for a delimiter in another form. -/
  | lookalike (authority : String)
  /-- The port is no number. -/
  | badPort (port : String)
  /-- The port number has too many digits to be read. -/
  | portTooLong (digits : Nat)
  /-- The port number is too large. -/
  | portRange
  deriving DecidableEq, Repr

/-- The wording of a refused reference. -/
def UriFault.message : UriFault → String
  | badCharacter => "<pydantic>"
  | ambiguous text => s!"ambiguous scheme in relative reference {Text.quoted text}"
  | badBrackets => "Invalid IPv6 URL"
  | notAddress host => s!"{Text.quoted host} does not appear to be an IPv4 or IPv6 address"
  | badFuture => "IPvFuture address is invalid"
  | bracketedQuad => "An IPv4 address cannot be in brackets"
  | lookalike authority =>
    s!"netloc '{authority}' contains invalid characters under NFKC normalization"
  | badPort port => s!"Port could not be cast to integer value as {Text.quoted port}"
  | portTooLong digits => (Number.LiteralFault.tooLong digits).message
  | portRange => "Port out of range 0-65535"

/-- The five parts of a reference. -/
structure UriParts where
  scheme : String
  authority : String
  path : String
  query : String
  fragment : String
  deriving DecidableEq, Repr

/-- A reference with a scheme is absolute. -/
def UriParts.isAbsolute (parts : UriParts) : Bool := !parts.scheme.isEmpty

namespace Uri

/-- The punctuation that may stand in a reference. -/
def marks : List Char := "-._~:/?#[]@!$&'()*+,;=".toList

/-- A character that may stand for itself in a reference. -/
def isPlain (c : Char) : Bool := c.isAlphanum || marks.contains c

def isHex (c : Char) : Bool := (Number.digitIn? 16 c).isSome

/-- Every character is allowed or belongs to an escape. -/
def wellFormed : List Char → Bool
  | [] => true
  | '%' :: a :: b :: rest => isHex a && isHex b && wellFormed rest
  | c :: rest => isPlain c && wellFormed rest

/-- A character that may stand in a scheme. -/
def isSchemeChar (c : Char) : Bool := c.isAlphanum || c == '+' || c == '-' || c == '.'

/-- The scheme before the first colon, if it is one, in lower case; and the rest. -/
def takeScheme (cs : List Char) : List Char × List Char :=
  let front := cs.takeWhile (· != ':')
  match front, cs.dropWhile (· != ':') with
  | letter :: more, _ :: rest =>
    if letter.isAlpha && more.all isSchemeChar then (Number.lowered front, rest) else ([], cs)
  | _, _ => ([], cs)

def endsAuthority (c : Char) : Bool := c == '/' || c == '?' || c == '#'

/-- The authority behind two slashes, and the rest. -/
def takeAuthority : List Char → List Char × List Char
  | '/' :: '/' :: rest => rest.span (!endsAuthority ·)
  | cs => ([], cs)

/-- Cut a text at the first occurrence of a character; the second part is missing without one. -/
def cutAt (mark : Char) (cs : List Char) : List Char × Option (List Char) :=
  match cs.span (· != mark) with
  | (front, _ :: rest) => (front, some rest)
  | (front, []) => (front, none)

/-- The text behind the last occurrence of a character, or the whole text without one. -/
def behindLast (mark : Char) (cs : List Char) : List Char :=
  (cs.reverse.takeWhile (· != mark)).reverse

/-- An address of a future kind: a version in hexadecimal digits, a point, and more. -/
def isFuture : List Char → Bool
  | 'v' :: rest =>
    let (version, tail) := rest.span isHex
    !version.isEmpty && tail.head? == some '.' && 1 < tail.length && !tail.contains '\n'
  | _ => false

/-- The host between brackets is an address that may stand there. -/
def checkHost (host : List Char) : Except UriFault Unit :=
  if host.head? == some 'v' then
    if isFuture host then .ok () else .error .badFuture
  else if isQuad host then .error .bracketedQuad
  else if isGrouped host then .ok ()
  else .error (.notAddress (String.ofList host))

/-- Brackets come in pairs, open the host, and only a port may follow them. -/
def checkBrackets (authority : List Char) : Except UriFault Unit :=
  match authority.contains '[', authority.contains ']' with
  | false, false => .ok ()
  | true, true =>
    let hostAndPort := behindLast '@' authority
    match cutAt '[' hostAndPort with
    | (before, some bracketed) =>
      if !before.isEmpty then .error .badBrackets
      else
        let (host, port) := cutAt ']' bracketed
        match port with
        | some (c :: _) => if c = ':' then checkHost host else .error .badBrackets
        | _ => checkHost host
    | (_, none) => checkHost (cutAt ':' hostAndPort).1
  | _, _ => .error .badBrackets

/-- The characters whose plain form holds a delimiter of references. -/
def lookalikes : List Nat := [
  0x2047, 0x2048, 0x2049, 0x2100, 0x2101, 0x2105, 0x2106, 0x2a74, 0xfe13, 0xfe16, 0xfe55, 0xfe56,
  0xfe5f, 0xfe6b, 0xff03, 0xff0f, 0xff1a, 0xff1f, 0xff20]

/-- No character of an authority stands for a delimiter. -/
def checkLookalikes (authority : List Char) : Except UriFault Unit :=
  if authority.any (lookalikes.contains ·.toNat) then
    .error (.lookalike (String.ofList authority))
  else .ok ()

/-- The characters that are left out of a reference, wherever they stand. -/
def isLayout (c : Char) : Bool := c == '\t' || c == '\r' || c == '\n'

/-- Take a text apart. Controls and blanks at its start are passed over, and line ends and
    tabulators are left out. -/
def split (text : String) : Except UriFault UriParts := do
  let cs := (text.toList.dropWhile (·.toNat ≤ 32)).filter (!isLayout ·)
  let (scheme, rest) := takeScheme cs
  let (authority, rest) := takeAuthority rest
  checkBrackets authority
  let (rest, fragment) := cutAt '#' rest
  let (path, query) := cutAt '?' rest
  checkLookalikes authority
  return {
    scheme := String.ofList scheme
    authority := String.ofList authority
    path := String.ofList path
    query := String.ofList (query.getD [])
    fragment := String.ofList (fragment.getD []) }

/-- The port of an authority, if it names one. -/
def portOf (authority : List Char) : List Char :=
  let hostAndPort := behindLast '@' authority
  let behindHost := match cutAt '[' hostAndPort with
    | (_, some bracketed) => ((cutAt ']' bracketed).2).getD []
    | (_, none) => hostAndPort
  ((cutAt ':' behindHost).2).getD []

/-- The port is missing or a number that fits. -/
def checkPort (authority : String) : Except UriFault Unit :=
  let port := portOf authority.toList
  if port.isEmpty then .ok ()
  else if !port.all Char.isDigit then .error (.badPort (String.ofList port))
  else if port.length > Number.maxDigits then .error (.portTooLong port.length)
  else if Number.decimalValue port ≤ 65535 then .ok ()
  else .error .portRange

/-- Without a scheme, the first segment of a relative path may not hold a colon. -/
def isAmbiguous (text : String) (parts : UriParts) : Bool :=
  parts.scheme.isEmpty && text.toList.head? != some '/' &&
    (cutAt '/' parts.path.toList).1.contains ':'

def check (text : String) : Except UriFault Unit := do
  if !wellFormed text.toList then .error .badCharacter
  else
    let parts ← split text
    if isAmbiguous text parts then .error (.ambiguous text)
    else checkPort parts.authority

end Uri

end SettingText.Network
