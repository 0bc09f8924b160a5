import SettingText.Text.Blank
import SettingText.Text.Word

/-!
The tokens of a type expression: names, three points, brackets, commas and bars, with blanks before
each of them. A name goes on as long as words and points do.
-/

namespace SettingText.Types

/-- A token. -/
inductive Token where
  | dots
  | name (text : String)
  | opening
  | closing
  | comma
  | bar
  deriving DecidableEq, Repr

def Token.text : Token → String
  | dots => "..."
  | name text => text
  | opening => "["
  | closing => "]"
  | comma => ","
  | bar => "|"

/-- The token a single character makes on its own. -/
def Token.ofChar? : Char → Option Token
  | '[' => some .opening
  | ']' => some .closing
  | ',' => some .comma
  | '|' => some .bar
  | _ => none

/-- A name may begin with this character. -/
def isNameStart (c : Char) : Bool := c.isAlpha || c == '_'

/-- A name may go on with this character. -/
def isNamePart (c : Char) : Bool := Text.isWord c || c == '.'

/-- A text that no token begins: where it stands, and what is left of the text from there. -/
structure StrayText where
  position : Nat
  rest : List Char
  deriving DecidableEq, Repr

/-- The token a text begins with, and how many characters belong to it. -/
def nextToken (cs : List Char) : Option (Token × Nat) :=
  match cs with
  | [] => none
  | '.' :: '.' :: '.' :: _ => some (.dots, 3)
  | c :: rest =>
    if isNameStart c then
      let part := rest.takeWhile isNamePart
      some (.name (String.ofList (c :: part)), part.length + 1)
    else (Token.ofChar? c).map (·, 1)

/-- A token takes at least one character. -/
theorem nextToken_pos {cs : List Char} {token : Token} {size : Nat}
    (h : nextToken cs = some (token, size)) : 0 < size ∧ cs ≠ [] := by
  unfold nextToken at h
  split at h
  · cases h
  · obtain ⟨_, rfl⟩ := Prod.mk.inj (Option.some.inj h); simp
  · split at h
    · obtain ⟨_, rfl⟩ := Prod.mk.inj (Option.some.inj h); simp
    · obtain ⟨_, _, he⟩ := Option.map_eq_some_iff.1 h
      obtain ⟨_, rfl⟩ := Prod.mk.inj he; simp

/--
The tokens of a text that does not end in blanks. `position` counts the characters before the text.
-/
def scan (position : Nat) (cs : List Char) : Except StrayText (List Token) :=
  if cs.isEmpty then .ok []
  else
    let blanks := (cs.takeWhile Text.isBlank).length
    match _h : nextToken (cs.drop blanks) with
    | none => .error ⟨position, cs⟩
    | some (token, size) =>
      (scan (position + blanks + size) (cs.drop (blanks + size))).map (token :: ·)
termination_by cs.length
decreasing_by
  have hpos := nextToken_pos _h
  have hlen : 0 < (cs.drop blanks).length := List.length_pos_iff.2 hpos.2
  simp only [List.length_drop] at hlen ⊢
  omega

/-- The tokens of a text. Blanks at its end belong to no token. -/
def tokens (text : String) : Except StrayText (List Token) :=
  scan 0 (Text.stripEnd text).toList

end SettingText.Types
