import SettingText.Text.Quoted

/-!
Raw settings. A setting is a text, or nothing at all, with the name and the qualifiers it was found
under. A fragment cut out of a setting keeps both, and remembers what it was cut out of.
-/

namespace SettingText

/-- Texts in increasing order, each once. -/
def sortedTexts (texts : List String) : List String :=
  (texts.eraseDups).mergeSort fun a b => decide (a ≤ b)

/-- What is known of a text where it was found, or cut out of another. -/
structure Link where
  /-- The text; missing when the setting is absent. -/
  raw : Option String
  /-- The name of the setting it comes from. -/
  name : String := ""
  /-- The qualifiers of the setting, in order. -/
  qualifiers : List String := []
  deriving DecidableEq, Repr

/-- A raw setting, or a fragment of one. -/
structure Setting extends Link where
  /-- The settings it was cut out of, the nearest first. -/
  enclosing : List Link := []
  deriving DecidableEq, Repr

namespace Setting

def ofText (raw : Option String) : Setting := { raw }

/-- A setting with a name and qualifiers, each of which counts once. -/
def named (raw : Option String) (name : String) (qualifiers : List String) : Setting :=
  { raw, name, qualifiers := sortedTexts qualifiers }

/-- The setting carries no text. -/
def absent (s : Setting) : Bool := s.raw.isNone

/-- A fragment of the setting, with its name and qualifiers. -/
def child (s : Setting) (raw : Option String) : Setting :=
  { raw, name := s.name, qualifiers := s.qualifiers, enclosing := s.toLink :: s.enclosing }

/-- The setting a fragment was cut out of. -/
def parent? (s : Setting) : Option Setting :=
  match s.enclosing with
  | [] => none
  | link :: enclosing => some ⟨link, enclosing⟩

/-- The fragment and everything it was cut out of, the fragment first. -/
def links (s : Setting) : List Link := s.toLink :: s.enclosing

/-- The texts of the fragment and of everything it was cut out of, the fragment first. -/
def lineage (s : Setting) : List (Option String) := s.links.map (·.raw)

def root (s : Setting) : Setting := ⟨s.enclosing.getLast?.getD s.toLink, []⟩

/-- The text of the outermost setting. -/
def rootRaw (s : Setting) : Option String := s.root.raw

/-- The quoted text of a setting, or the word for none. -/
def shownRaw (raw : Option String) : String :=
  match raw with
  | some text => Text.quoted text
  | none => "None"

/-- Where a fragment comes from: name, qualifiers, the outermost text and the fragment. -/
def describe (s : Setting) : String :=
  let name := if s.root.name.isEmpty then "<unnamed>" else s.root.name
  let place := if s.qualifiers.isEmpty then name else name ++ Text.quotedList s.qualifiers
  let whole := s!"{place}={shownRaw s.rootRaw}"
  if s.enclosing.isEmpty then whole else s!"{whole} <- {shownRaw s.raw}"

/-- The text of a setting; an absent one has the empty text. -/
def text (s : Setting) : String := s.raw.getD ""

/-- Two settings are the same when their texts are; where they come from does not count. -/
def same (a b : Setting) : Bool := a.raw == b.raw

@[simp] theorem child_raw (s : Setting) (raw : Option String) : (s.child raw).raw = raw := rfl

theorem parent?_child (s : Setting) (raw : Option String) : (s.child raw).parent? = some s := rfl

theorem links_child (s : Setting) (raw : Option String) :
    (s.child raw).links = (s.child raw).toLink :: s.links := rfl

/-- A fragment has the root of what it was cut out of. -/
@[simp] theorem root_child (s : Setting) (raw : Option String) : (s.child raw).root = s.root := by
  obtain ⟨link, enclosing⟩ := s
  cases enclosing <;> simp [root, child, List.getLast?_cons]

end Setting

end SettingText
