/-!
Character classes given as tables of code point ranges.
-/

namespace SettingText.Text.CodePoint

/-- The character's code point lies in one of the ranges, both ends included. -/
def within (ranges : Array (Nat × Nat)) (c : Char) : Bool :=
  ranges.any fun range => range.1 ≤ c.toNat && c.toNat ≤ range.2

end SettingText.Text.CodePoint
