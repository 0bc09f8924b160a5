import SettingText.PathName

/-!
A tree of files: the texts of the files by their names, the directories, the links, and the directory
in which relative names begin. Names are followed segment by segment, so going up from a directory that
does not exist leads nowhere, and going up behind a link leads above the place to which it leads.
-/

namespace SettingText

/-- A tree of files. All names begin at the root and hold no two-point segments. -/
structure FileTree where
  files : List (PathName × String) := []
  directories : List PathName := []
  /-- The links, each with the place to which it leads in the end. -/
  links : List (PathName × PathName) := []
  /-- The directory in which relative names begin. -/
  current : PathName := ⟨1, []⟩

namespace FileTree

def above (p : PathName) : List PathName :=
  (List.range p.segments.length).map fun n => ⟨1, p.segments.take n⟩

/-- A directory: it is listed, or something lies in it; the root and the current one are always
    there. -/
def isDirectory (t : FileTree) (p : PathName) : Bool :=
  let known := t.current :: t.directories ++ t.files.map (·.1) ++ t.links.map (·.1)
  p.segments.isEmpty || t.current == p || t.directories.contains p ||
    known.any fun q => (above q).contains p

/-- The place itself, or the place to which the link there leads. The segments of a place are given
    from the last to the first. -/
def landing (t : FileTree) (place : List String) : List String :=
  ((t.links.find? (·.1 == ⟨1, place.reverse⟩)).map (·.2.segments.reverse)).getD place

/-- Go one segment on from a place. -/
def step (t : FileTree) (place : List String) (segment : String) : List String :=
  if segment = ".." then place.drop 1 else t.landing (segment :: place)

/-- Follow segments from a directory. -/
def follow (t : FileTree) (place : List String) : List String → Option PathName
  | [] => some ⟨1, place.reverse⟩
  | segment :: rest =>
    if t.isDirectory ⟨1, place.reverse⟩ then t.follow (t.step place segment) rest else none

/-- The place a name leads to, which need not hold anything. -/
def locate? (t : FileTree) (p : PathName) : Option PathName :=
  t.follow [] (p.under t.current).segments

def contents? (t : FileTree) (p : PathName) : Option String :=
  (t.locate? p).bind fun place => (t.files.find? (·.1 == place)).map (·.2)

/-- The place a name leads to if all the directories on its way are there. -/
def resolve (t : FileTree) (p : PathName) : PathName :=
  ⟨1, ((p.under t.current).segments.foldl t.step []).reverse⟩

/-- Add the file a name leads to, and the directories the name goes through. -/
def add (t : FileTree) (p : PathName) (text : String) : FileTree :=
  let whole := p.under t.current
  let through := (List.range whole.segments.length).map fun n =>
    t.resolve ⟨1, whole.segments.take n⟩
  { t with
    files := (t.resolve p, text) :: t.files
    directories := through ++ t.directories }

def isFile (t : FileTree) (p : PathName) : Bool := (t.contents? p).isSome

end FileTree

end SettingText
