import SettingText.Classes.Universe
import SettingText.Editor.Duration

/-!
Editors: readers that are given a text first and asked for the value afterwards. What an editor
answers may depend on every text it was ever given, so each editor in use has a sheet of its own,
and a conversion goes from one bench of sheets to the next.
-/

namespace SettingText

/-- A kind of editor. -/
structure EditorKind where
  name : String
  /-- What an editor answers that was given these texts, the latest first. -/
  answer : List (Option String) → Except Cause Datum

namespace EditorKind

/-- The answer depends on the latest text only. -/
def IsPure (kind : EditorKind) : Prop :=
  ∀ text earlier later, kind.answer (text :: earlier) = kind.answer (text :: later)

/-- An editor that reads the latest text; without one it answers nothing. -/
def reading (name : String) (read : String → Except Cause Datum) : EditorKind where
  name := name
  answer := fun
    | some text :: _ => read text
    | _ => .ok .nothing

theorem isPure_reading (name : String) (read : String → Except Cause Datum) :
    (reading name read).IsPure := by
  intro text earlier later
  cases text <;> rfl

/-- The editor of lengths of time. -/
def duration : EditorKind :=
  reading "DurationEditor" fun text => (Duration.read text).map .span

end EditorKind

/-- The sheets of the editors in use: for each number, the texts given so far, the latest first. -/
structure Bench where
  sheet : Nat → List (Option String)

namespace Bench

/-- No editor was given anything. -/
def empty : Bench := ⟨fun _ => []⟩

def give (b : Bench) (number : Nat) (text : Option String) : Bench :=
  ⟨fun n => if n = number then text :: b.sheet n else b.sheet n⟩

theorem sheet_give_same (b : Bench) (number : Nat) (text : Option String) :
    (b.give number text).sheet number = text :: b.sheet number := by simp [give]

/-- Other editors are not given the text. -/
theorem sheet_give_other (b : Bench) {number other : Nat} (h : other ≠ number)
    (text : Option String) : (b.give number text).sheet other = b.sheet other := by
  simp [give, h]

end Bench

/-- An editor in use: its kind and the number of its sheet. -/
structure EditorInUse where
  kind : EditorKind
  number : Nat

/-- Kinds of editors by the classes they were registered for. -/
structure EditorTable where
  entries : List (ClassRef × EditorKind) := []

namespace EditorTable

/-- The kind registered for exactly this class. -/
def at? (t : EditorTable) (c : ClassRef) : Option EditorKind :=
  (t.entries.find? (·.1 == c)).map (·.2)

/-- Register a kind for a class, in place of the one it had. -/
def register (t : EditorTable) (c : ClassRef) (kind : EditorKind) : EditorTable :=
  ⟨(c, kind) :: t.entries.filter (·.1 != c)⟩

/-- Take the registration for a class away. -/
def unregister (t : EditorTable) (c : ClassRef) : EditorTable :=
  ⟨t.entries.filter (·.1 != c)⟩

/-- The kind that serves a class: its own, or that of the nearest class above it that has one. -/
def find? (t : EditorTable) (u : Universe) (c : ClassRef) : Option EditorKind :=
  (u.lineage c).findSome? t.at?

/-- The editors every program starts with. -/
def standard : EditorTable := ⟨[(Datum.calendarClass "timedelta", .duration)]⟩

theorem at?_register_same (t : EditorTable) (c : ClassRef) (kind : EditorKind) :
    (t.register c kind).at? c = some kind := by simp [register, at?]

theorem at?_register_other (t : EditorTable) {c d : ClassRef} (h : d ≠ c) (kind : EditorKind) :
    (t.register c kind).at? d = t.at? d := by
  have hcd : (c == d) = false := by simpa using fun e => h e.symm
  have hp : ∀ e : ClassRef × EditorKind, (e.1 == d) = true → (e.1 != c) = true := by
    intro e he
    have he := eq_of_beq he
    simp [he, h]
  simp only [register, at?, List.find?_cons, hcd, List.find?_filter]
  congr 2
  funext e
  by_cases he : (e.1 == d) = true
  · simp [he, hp e he]
  · simp [he]

end EditorTable

end SettingText
