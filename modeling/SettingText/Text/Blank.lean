import SettingText.Text.CodePoint

/-!
White space of every script, and trimming a text by it.
-/

namespace SettingText.Text

/-- The code points of the white space characters, in increasing ranges. -/
def blankRanges : Array (Nat × Nat) := #[
  (0x9, 0xd), (0x1c, 0x20), (0x85, 0x85), (0xa0, 0xa0), (0x1680, 0x1680), (0x2000, 0x200a),
  (0x2028, 0x2029), (0x202f, 0x202f), (0x205f, 0x205f), (0x3000, 0x3000)]

/-- White space of any script: blanks, line ends, tabulators and the four information separators. -/
def isBlank (c : Char) : Bool := CodePoint.within blankRanges c

/-- The characters that number literals may stand between: the blank and the ASCII layout
    characters, without the information separators. -/
def isPlainBlank (c : Char) : Bool := c == ' ' || (9 ≤ c.toNat && c.toNat ≤ 13)

/-- Drop the characters of a class from the end of a list. -/
def dropEndWhile (p : Char → Bool) (cs : List Char) : List Char :=
  (cs.reverse.dropWhile p).reverse

/-- Drop the characters of a class from both ends of a list. -/
def trimBoth (p : Char → Bool) (cs : List Char) : List Char :=
  dropEndWhile p (cs.dropWhile p)

/-- The text without white space at either end. -/
def strip (text : String) : String := String.ofList (trimBoth isBlank text.toList)

/-- The text without white space at its end. -/
def stripEnd (text : String) : String := String.ofList (dropEndWhile isBlank text.toList)

/-- Dropping at the end removes a run of the class and nothing else. -/
theorem dropEndWhile_append (p : Char → Bool) (cs : List Char) :
    ∃ tail, cs = dropEndWhile p cs ++ tail ∧ ∀ c ∈ tail, p c = true := by
  refine ⟨(cs.reverse.takeWhile p).reverse, ?_, ?_⟩
  · rw [dropEndWhile, ← List.reverse_append, List.takeWhile_append_dropWhile, List.reverse_reverse]
  · intro c hc
    rw [List.mem_reverse] at hc
    generalize cs.reverse = l at hc
    induction l with
    | nil => simp at hc
    | cons d rest ih =>
      rw [List.takeWhile_cons] at hc
      split at hc
      · next hd =>
        rcases List.mem_cons.1 hc with rfl | h
        · exact hd
        · exact ih h
      · simp at hc

end SettingText.Text
