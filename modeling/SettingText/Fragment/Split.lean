/-!
Cutting a text into fragments at a delimiter. A backslash in front of a delimiter keeps it from
cutting, and is taken away from the fragment afterwards; a backslash anywhere else stands for
itself, so a fragment cannot end with one unless it is the last.
-/

namespace SettingText.Fragment

/-- The character that protects a delimiter. -/
def escapeChar : Char := Char.ofNat 92

/-- How many cuts a split may make. -/
inductive Limit where
  /-- Every delimiter cuts, and empty fragments at the end are dropped. -/
  | every
  /-- Only the first `count` delimiters cut, and every fragment is kept. -/
  | atMost (count : Nat)
  deriving DecidableEq, Repr

namespace Limit

/-- A count of zero lifts the limit; below zero, nothing is cut. -/
def ofInt (count : Int) : Limit :=
  if count = 0 then every else atMost count.toNat

/-- Another cut may be made. -/
def allows : Limit → Bool
  | every => true
  | atMost count => count != 0

/-- The limit after one more cut. -/
def spend : Limit → Limit
  | every => every
  | atMost count => atMost (count - 1)

end Limit

/-- Put a character in front of the first fragment. -/
def consFirst (c : Char) : List (List Char) → List (List Char)
  | [] => [[c]]
  | first :: others => (c :: first) :: others

/-- The text holds the delimiter here and the character before it is no backslash. -/
def cutsHere (delimiter : List Char) (previous : Option Char) (text : List Char) : Bool :=
  previous != some escapeChar && delimiter.isPrefixOf text

/--
The raw fragments of a text, still escaped. `skip` counts the characters of a delimiter that are
yet to be passed over, and `previous` is the character before the text, delimiters included.
-/
def cut (delimiter : List Char) (limit : Limit) (skip : Nat) (previous : Option Char) :
    List Char → List (List Char)
  | [] => [[]]
  | c :: rest =>
    match skip with
    | n + 1 => cut delimiter limit n (some c) rest
    | 0 =>
      if limit.allows && cutsHere delimiter previous (c :: rest) then
        [] :: cut delimiter limit.spend (delimiter.length - 1) (some c) rest
      else
        consFirst c (cut delimiter limit 0 (some c) rest)

/--
The raw fragments at an empty delimiter, which cuts before every character and at the end of the
text, wherever no backslash stands in front.
-/
def cutBetween (limit : Limit) (previous : Option Char) : List Char → List (List Char)
  | [] => if limit.allows && previous != some escapeChar then [[], []] else [[]]
  | c :: rest =>
    if limit.allows && previous != some escapeChar then
      [] :: consFirst c (cutBetween limit.spend (some c) rest)
    else
      consFirst c (cutBetween limit (some c) rest)

/-- The text without the empty fragments at its end. -/
def dropTrailingEmpty : List (List Char) → List (List Char)
  | [] => []
  | fragment :: others =>
    match dropTrailingEmpty others with
    | [] => if fragment.isEmpty then [] else [fragment]
    | kept => fragment :: kept

/--
Put the replacement for every occurrence of a pattern, from the left and without overlap. `skip`
counts the characters of an occurrence that are yet to be passed over.
-/
def replaceFrom (pattern replacement : List Char) (skip : Nat) : List Char → List Char
  | [] => []
  | c :: rest =>
    match skip with
    | n + 1 => replaceFrom pattern replacement n rest
    | 0 =>
      if pattern.isPrefixOf (c :: rest) then
        replacement ++ replaceFrom pattern replacement (pattern.length - 1) rest
      else
        c :: replaceFrom pattern replacement 0 rest

/-- Take the backslash away in front of every delimiter. -/
def unescape (delimiter text : List Char) : List Char :=
  replaceFrom (escapeChar :: delimiter) delimiter 0 text

/-- The raw fragments of a text, those at its end included. -/
def rawFragments (delimiter : List Char) (limit : Limit) (text : List Char) : List (List Char) :=
  match delimiter with
  | [] => cutBetween limit none text
  | _ => cut delimiter limit 0 none text

/-- The fragments of a text, cut at the delimiter and unescaped. -/
def fragments (delimiter : List Char) (limit : Limit) (text : List Char) : List (List Char) :=
  let raw := rawFragments delimiter limit text
  let kept := match limit with
    | .every => dropTrailingEmpty raw
    | .atMost _ => raw
  kept.map (unescape delimiter)

def split (delimiter : String) (limit : Limit) (text : String) : List String :=
  (fragments delimiter.toList limit text.toList).map String.ofList

/-- The text with every escaped delimiter standing for itself. -/
def unescapeText (delimiter text : String) : String :=
  String.ofList (unescape delimiter.toList text.toList)

/-- A limited split always has a first fragment. -/
theorem consFirst_ne_nil (c : Char) (parts : List (List Char)) : consFirst c parts ≠ [] := by
  cases parts <;> simp [consFirst]

end SettingText.Fragment
