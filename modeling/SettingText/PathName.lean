/-!
Names of files and directories: a root and the segments below it. Empty segments and segments of
one point say nothing and are left out; two points are kept.
-/

namespace SettingText

/-- The name of a file or directory. -/
structure PathName where
  /-- How many slashes begin the name: none for a relative name, one, or exactly two. -/
  root : Nat
  segments : List String
  deriving DecidableEq, Repr, Inhabited

namespace PathName

/-- The segments of a text between its slashes that say something. -/
def segmentsOf (cs : List Char) : List String :=
  ((cs.splitOn '/').filter fun s => !s.isEmpty && s != ['.']).map String.ofList

/-- Read a name. Three slashes and more begin a name like one. -/
def read (text : String) : PathName :=
  let cs := text.toList
  let slashes := (cs.takeWhile (· == '/')).length
  ⟨if slashes ≤ 2 then slashes else 1, segmentsOf cs⟩

/-- The text of a name; a relative name without segments is one point. -/
def text (p : PathName) : String :=
  let body := "/".intercalate p.segments
  if p.root = 0 && body.isEmpty then "." else "".pushn '/' p.root ++ body

def isAbsolute (p : PathName) : Bool := p.root != 0

def under (p directory : PathName) : PathName :=
  if p.isAbsolute then p else ⟨directory.root, directory.segments ++ p.segments⟩

/-- One segment further down. -/
def child (p : PathName) (segment : String) : PathName := ⟨p.root, p.segments ++ [segment]⟩

/-- One segment further up; the root is above itself. -/
def parent (p : PathName) : PathName := ⟨p.root, p.segments.dropLast⟩

/-- Carry out the two-point segments, each of which takes the segment before it away. -/
def climb (done : List String) : List String → List String
  | [] => done.reverse
  | segment :: rest =>
    if segment = ".." then climb (done.drop 1) rest else climb (segment :: done) rest

/-- The absolute name without two-point segments. -/
def resolved (p directory : PathName) : PathName := ⟨1, climb [] (p.under directory).segments⟩

end PathName

end SettingText
