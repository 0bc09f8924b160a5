import SettingText.Text.Blank
import SettingText.Text.Cluster

/-!
Laying out text in lines of a fixed number of cells. Lines break before words; a word that is longer
than a line is cut. Blanks behind a word stay on its line as long as they fit.
-/

namespace SettingText.Wrap

/-- The cells of a tabulator stop. -/
def tabStop : Nat := 8

def isDropped (c : Char) : Bool := [7, 8, 11, 12, 13].contains c.toNat

/-- The parts of a line between its tabulators, with blanks in place of these; `column` counts the
    cells before the parts. -/
def expandTabs (column : Nat) : List (List Char) → List Char
  | [] => []
  | [last] => last
  | part :: rest =>
    let shown := part ++ [' ']
    let column := column + Text.cellCount shown
    let fill := (tabStop - column % tabStop) % tabStop
    shown ++ List.replicate fill ' ' ++ expandTabs (column + fill) rest

/-- The words of a line, each with the blanks behind it, and the first with those before it. -/
def words (cs : List Char) : List (List Char) :=
  match _h : cs.dropWhile Text.isBlank with
  | [] => []
  | c :: tail =>
    let behind := tail.dropWhile fun c => !Text.isBlank c
    (cs.takeWhile Text.isBlank ++ c :: tail.takeWhile (fun c => !Text.isBlank c) ++
      behind.takeWhile Text.isBlank) :: words (behind.dropWhile Text.isBlank)
termination_by cs.length
decreasing_by
  have h₁ : (cs.dropWhile Text.isBlank).length ≤ cs.length :=
    (List.dropWhile_sublist _).length_le
  have h₂ : (tail.dropWhile fun c => !Text.isBlank c).length ≤ tail.length :=
    (List.dropWhile_sublist _).length_le
  have h₃ := (List.dropWhile_sublist (l := tail.dropWhile fun c => !Text.isBlank c)
    Text.isBlank).length_le
  rw [_h] at h₁
  simp only [List.length_cons] at h₁
  omega

/-- Cut a word between its clusters into pieces of at most so many cells. -/
def chop (width : Nat) (cs : List Char) : List (List Char) :=
  let (done, piece, _) := (Text.clusters cs).foldl (fun (done, piece, cells) cluster =>
    if width < cells + cluster.cells then (done ++ [piece], cluster.chars, cluster.cells)
    else (done, piece ++ cluster.chars, cells + cluster.cells))
    (([] : List (List Char)), ([] : List Char), 0)
  done ++ [piece]

/-- Lines under way: the finished ones, the present one, and its cells. -/
structure Layout where
  done : List (List Char) := []
  line : List Char := []
  cells : Nat := 0

/-- Begin a new line, unless nothing was laid out yet. -/
def Layout.begin (l : Layout) (piece : List Char) : Layout :=
  if l.done.isEmpty && l.line.isEmpty then { l with line := piece, cells := Text.cellCount piece }
  else ⟨l.done ++ [l.line], piece, Text.cellCount piece⟩

/-- Lay out a word. -/
def Layout.add (width : Nat) (l : Layout) (word : List Char) : Layout :=
  let size := Text.cellCount (Text.dropEndWhile Text.isBlank word)
  if l.cells + size ≤ width then
    { l with line := l.line ++ word, cells := l.cells + Text.cellCount word }
  else if width < size then (chop width word).foldl Layout.begin l
  else l.begin word

/-- Take away blanks at the end of a line that is too long. -/
def trimEnd (width : Nat) (line : List Char) : List Char :=
  let blanks := line.length - (Text.dropEndWhile Text.isBlank line).length
  line.take (line.length - min blanks (line.length - width))

/-- The beginning of a line that fits; half a wide character is a blank. -/
def crop (width : Nat) : List Text.Cluster → List Char
  | [] => []
  | cluster :: rest =>
    if cluster.cells ≤ width then cluster.chars ++ crop (width - cluster.cells) rest
    else if width = 0 then [] else [' ']

def wrapLine (width : Nat) (line : List Char) : List (List Char) :=
  let line := expandTabs 0 (line.splitOn '\t')
  let layout := (words line).foldl (Layout.add width) {}
  let lines := if (words line).isEmpty then [line] else layout.done ++ [layout.line]
  lines.map fun l =>
    let l := trimEnd width l
    if width < Text.cellCount l then crop width (Text.clusters l) else l

def wrap (width : Nat) (text : String) : List String :=
  ((text.toList.filter (!isDropped ·)).splitOn '\n').flatMap fun line =>
    (wrapLine width line).map String.ofList

end SettingText.Wrap
