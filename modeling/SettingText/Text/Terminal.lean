/-!
Control sequences of terminals inside a text, such as those that choose a colour. They are left out
where a text is not shown on a terminal.
-/

namespace SettingText.Text

/-- The character that begins a control sequence, in front of an opening bracket. -/
def sequenceStart : Char := '\x1b'

/-- A parameter of a control sequence. -/
def isParameter (c : Char) : Bool := c.isDigit || c == ';' || c == '?'

/-- The text behind a control sequence, given from its first parameter on: parameters, and one
    letter of ASCII. -/
def behindSequence? (cs : List Char) : Option (List Char) :=
  match cs.dropWhile isParameter with
  | [] => none
  | c :: rest => if c.isAlpha then some rest else none

/-- A control sequence takes at least one character. -/
theorem length_behindSequence {cs rest : List Char} (h : behindSequence? cs = some rest) :
    rest.length < cs.length := by
  unfold behindSequence? at h
  have hle := (List.dropWhile_sublist (l := cs) isParameter).length_le
  split at h
  · cases h
  · next c tail heq =>
    split at h
    · cases h
      rw [heq, List.length_cons] at hle
      omega
    · cases h

/-- The characters without control sequences. -/
def dropSequences : List Char → List Char
  | [] => []
  | c :: rest =>
    if c = sequenceStart then
      match _h : (rest.head?.filter (· == '[')).bind fun _ => behindSequence? rest.tail with
      | some behind => dropSequences behind
      | none => c :: dropSequences rest
    else c :: dropSequences rest
termination_by cs => cs.length
decreasing_by
  all_goals simp only [List.length_cons]
  · obtain ⟨_, _, hb⟩ := Option.bind_eq_some_iff.1 _h
    have h₁ := length_behindSequence hb
    rw [List.length_tail] at h₁
    omega
  all_goals omega

def withoutSequences (text : String) : String := String.ofList (dropSequences text.toList)

end SettingText.Text
