import Mathlib.Logic.Function.Iterate
import SettingText.FileTree

/-!
Where names lead in a tree of files, and where going up from a directory ends.
-/

namespace SettingText

namespace FileTree

variable {t : FileTree} {p place : PathName}

theorem climb_eq_foldl_step (h : t.links = []) (done segments : List String) :
    PathName.climb done segments = (segments.foldl t.step done).reverse := by
  induction segments generalizing done with
  | nil => rfl
  | cons segment rest ih =>
    rw [PathName.climb, List.foldl_cons, step, landing, h]
    split <;> exact ih _

/-- Without links the text of a name tells where it leads. -/
theorem resolve_of_links_eq_nil (h : t.links = []) : t.resolve p = p.resolved t.current := by
  rw [resolve, PathName.resolved, climb_eq_foldl_step h]

theorem isDirectory_of_mem (h : p ∈ t.directories) : t.isDirectory p = true := by
  simp [isDirectory, h]

theorem follow_eq_some_iff {done segments : List String} :
    t.follow done segments = some place ↔
      place = ⟨1, (segments.foldl t.step done).reverse⟩ ∧ ∀ n < segments.length,
        t.isDirectory ⟨1, ((segments.take n).foldl t.step done).reverse⟩ = true := by
  induction segments generalizing done with
  | nil =>
    constructor
    · rintro ⟨⟩
      exact ⟨rfl, by simp⟩
    · rintro ⟨rfl, _⟩
      rfl
  | cons segment rest ih =>
    rw [follow, List.length_cons, Nat.forall_lt_succ_left']
    by_cases hdirectory : t.isDirectory ⟨1, done.reverse⟩ = true
    · rw [if_pos hdirectory, ih]
      simp [hdirectory]
    · rw [if_neg hdirectory]
      simp [hdirectory]

/-- A name leads to its place exactly when all directories on its way are there. -/
theorem locate?_eq_some_iff :
    t.locate? p = some place ↔ place = t.resolve p ∧ ∀ n < (p.under t.current).segments.length,
      t.isDirectory (t.resolve ⟨1, (p.under t.current).segments.take n⟩) = true :=
  follow_eq_some_iff

/-- A name is one of a file when it leads to the place of a file. -/
theorem isFile_iff : t.isFile p = true ↔ ∃ place ∈ t.files.map (·.1), t.locate? p = some place := by
  rw [isFile, contents?]
  cases t.locate? p with
  | none => simp
  | some place => simp [List.find?_isSome]

/-- A file that is added is found under the name it was added by. -/
theorem contents?_add (t : FileTree) (p : PathName) (text : String) :
    (t.add p text).contents? p = some text := by
  have hlocate : (t.add p text).locate? p = some (t.resolve p) := by
    refine locate?_eq_some_iff.mpr ⟨rfl, fun n hn => ?_⟩
    have hmem : t.resolve ⟨1, (p.under t.current).segments.take n⟩ ∈ (t.add p text).directories :=
      List.mem_append_left _ (List.mem_map.mpr ⟨n, List.mem_range.mpr hn, rfl⟩)
    exact isDirectory_of_mem hmem
  rw [contents?, hlocate, Option.bind_some, add, List.find?_cons_of_pos (by simp), Option.map_some]

end FileTree

namespace PathName

theorem parent_eq_self_iff {p : PathName} : p.parent = p ↔ p.segments = [] := by
  constructor
  · intro h
    have hlength : p.segments.dropLast.length = p.segments.length := congrArg (·.segments.length) h
    rw [List.length_dropLast] at hlength
    exact List.length_eq_zero_iff.mp (by omega)
  · intro h
    rw [parent, h]
    exact congrArg (PathName.mk p.root) h.symm

theorem parent_iterate (p : PathName) (n : Nat) :
    parent^[n] p = ⟨p.root, p.segments.take (p.segments.length - n)⟩ := by
  induction n with
  | zero => simp
  | succ n ih =>
    rw [Function.iterate_succ_apply', ih, parent, List.dropLast_eq_take, List.take_take,
      List.length_take]
    congr 2
    omega

/-- Going up ends at the root, whose parent it is itself. -/
theorem parent_iterate_of_length_le {p : PathName} {n : Nat} (h : p.segments.length ≤ n) :
    parent^[n] p = ⟨p.root, []⟩ := by
  rw [parent_iterate, Nat.sub_eq_zero_of_le h, List.take_zero]

end PathName

end SettingText
