import Mathlib
import SettingText.Proofs.Config.Loading
import SettingText.Proofs.FileTree

/-!
Which configuration file is used. A name that is given counts alone, first the one by hand and then the
one in the variable, and where it is no file none is used; without a name it is the closest file above
the start. Settings tell the file they come from, and no other file is read for them.
-/

namespace SettingText

namespace Config

open PathName

section Walk

variable {files : FileTree} {place : PathName} {file : Option PathName} {n : Nat}

/-- Where a configuration file may lie for the directory so many steps above a place. -/
def candidate (place : PathName) (n : Nat) : PathName := (parent^[n] place).child fileName

theorem candidate_of_parent_eq_self (h : place.parent = place) (n : Nat) :
    candidate place n = candidate place 0 :=
  congrArg (child · fileName) (Function.iterate_fixed h n)

/-- The directory so many steps above a place holds a configuration file, and none between them does. -/
structure IsClosest (files : FileTree) (place : PathName) (n : Nat) : Prop where
  isFile : files.isFile (candidate place n) = true
  none_closer : ∀ m < n, files.isFile (candidate place m) = false

theorem IsClosest.unique {n' : Nat} (h : IsClosest files place n) (h' : IsClosest files place n') :
    n = n' := by
  rcases Nat.lt_trichotomy n n' with hlt | heq | hlt
  · exact absurd h.isFile (by rw [h'.none_closer n hlt]; decide)
  · exact heq
  · exact absurd h'.isFile (by rw [h.none_closer n' hlt]; decide)

/-- What walking up from a place comes to: the closest file, or nothing where there is none. -/
inductive Discovers (files : FileTree) (place : PathName) : Option PathName → Prop
  | closest {n : Nat} (h : IsClosest files place n) : Discovers files place (some (candidate place n))
  | nowhere (h : ∀ n, files.isFile (candidate place n) = false) : Discovers files place none

theorem Discovers.unique {file' : Option PathName} (h : Discovers files place file)
    (h' : Discovers files place file') : file = file' := by
  cases h with
  | closest h =>
    cases h' with
    | closest h' => rw [h.unique h']
    | nowhere h' => exact absurd h.isFile (by rw [h' _]; decide)
  | nowhere h =>
    cases h' with
    | closest h' => exact absurd h'.isFile (by rw [h _]; decide)
    | nowhere h' => rfl

/-- Where the directory itself holds no file, it is the parent that tells which is the closest. -/
theorem Discovers.of_parent (hfile : files.isFile (candidate place 0) = false)
    (h : Discovers files place.parent file) : Discovers files place file := by
  have hshift {m : Nat} (h : ∀ k, m = k + 1 → files.isFile (candidate place.parent k) = false) :
      files.isFile (candidate place m) = false := by
    cases m with
    | zero => exact hfile
    | succ k => exact h k rfl
  cases h with
  | @closest n h =>
    -- The directory so many steps above the parent is one step further above the place.
    have habove : IsClosest files place (n + 1) :=
      ⟨h.isFile, fun m hm => hshift fun k hk => h.none_closer k (by omega)⟩
    exact .closest habove
  | nowhere h => exact .nowhere fun m => hshift fun k _ => h k

/-- One turn of the walk, which ends where there is nothing above. -/
theorem nearest_eq (hplace : place.root = 1) :
    Surroundings.nearest files place.segments.reverse =
      if files.isFile (candidate place 0) then some (candidate place 0)
      else if place.parent = place then none
      else Surroundings.nearest files place.parent.segments.reverse := by
  obtain ⟨root, segments⟩ := place
  cases hplace
  rcases List.eq_nil_or_concat' segments with rfl | ⟨above, last, rfl⟩
  · rfl
  · have hne : parent ⟨1, above ++ [last]⟩ ≠ ⟨1, above ++ [last]⟩ :=
      parent_eq_self_iff.not.mpr (by simp)
    rw [if_neg hne]
    simp [Surroundings.nearest, candidate, child, parent]

/-- Walking up from a place comes to the closest file. Each turn but the last goes to a shorter name. -/
theorem discovers_nearest (hplace : place.root = 1) :
    Discovers files place (Surroundings.nearest files place.segments.reverse) := by
  induction hdepth : place.segments.length using Nat.strongRecOn generalizing place with
  | ind depth ih =>
    rw [nearest_eq hplace]
    split
    · next hfile => exact .closest ⟨hfile, fun m hm => absurd hm m.not_lt_zero⟩
    · next hfile =>
      have hfile := Bool.eq_false_iff.mpr hfile
      split
      · next hself => exact .nowhere fun n => by rw [candidate_of_parent_eq_self hself, hfile]
      · next hself =>
        have hsegments : place.segments.length ≠ 0 :=
          fun h => hself (parent_eq_self_iff.mpr (List.length_eq_zero_iff.mp h))
        have hshorter : place.parent.segments.length < depth := by
          rw [parent, List.length_dropLast]
          omega
        have habove : Discovers files place.parent
            (Surroundings.nearest files place.parent.segments.reverse) :=
          ih _ hshorter hplace rfl
        exact habove.of_parent hfile

end Walk

section Choice

variable {files : FileTree} {given : Option String} {Otherwise : Option PathName → Prop}
  {file : Option PathName}

/-- What is used when a name may be given: the file of that name, if it is one, and nothing if it is
none. Only without a name, or with an empty one, something else decides. -/
inductive NamedOr (files : FileTree) (given : Option String) (Otherwise : Option PathName → Prop) :
    Option PathName → Prop
  | named {name : String} (hgiven : given = some name) (hname : name ≠ "")
      (hfile : files.isFile (.read name) = true) : NamedOr files given Otherwise (some (.read name))
  | missing {name : String} (hgiven : given = some name) (hname : name ≠ "")
      (hfile : files.isFile (.read name) = false) : NamedOr files given Otherwise none
  | unnamed {file : Option PathName} (hgiven : ∀ name, given = some name → name = "")
      (hfile : Otherwise file) : NamedOr files given Otherwise file

theorem filter_eq_some_iff {name : String} :
    given.filter (!·.isEmpty) = some name ↔ given = some name ∧ name ≠ "" := by
  simp [Option.filter_eq_some_iff]

theorem filter_eq_none_iff :
    given.filter (!·.isEmpty) = none ↔ ∀ name, given = some name → name = "" := by
  simp [Option.filter_eq_none_iff]

theorem namedOr_iff_of_some {name : String} (h : given.filter (!·.isEmpty) = some name) :
    NamedOr files given Otherwise file ↔ Option.guard files.isFile (.read name) = file := by
  obtain ⟨rfl, hname⟩ := filter_eq_some_iff.mp h
  constructor
  · rintro (⟨⟨⟩, _, hfile⟩ | ⟨⟨⟩, _, hfile⟩ | ⟨hgiven, _⟩)
    · exact Option.guard_eq_some_iff.mpr ⟨rfl, hfile⟩
    · exact Option.guard_eq_none_iff.mpr hfile
    · exact absurd (hgiven name rfl) hname
  · rintro rfl
    cases hfile : files.isFile (.read name) with
    | true =>
      rw [Option.guard_eq_some_iff.mpr ⟨rfl, hfile⟩]
      exact .named rfl hname hfile
    | false =>
      rw [Option.guard_eq_none_iff.mpr hfile]
      exact .missing rfl hname hfile

theorem namedOr_iff_of_none (h : given.filter (!·.isEmpty) = none) :
    NamedOr files given Otherwise file ↔ Otherwise file := by
  have hgiven := filter_eq_none_iff.mp h
  refine ⟨?_, .unnamed hgiven⟩
  rintro (⟨hsome, hname, _⟩ | ⟨hsome, hname, _⟩ | ⟨_, hfile⟩)
  · exact absurd (hgiven _ hsome) hname
  · exact absurd (hgiven _ hsome) hname
  · exact hfile

namespace Surroundings

variable (s : Surroundings) (byHand : Option String) (start : Option PathName)

/-- The directory where the walk begins. -/
def origin : PathName := s.files.resolve (start.getD s.files.current)

/-- What is found when no file is named by hand. -/
def Finds : Option PathName → Prop :=
  NamedOr s.files (s.value? fileVariable) (Discovers s.files (s.origin start))

/-- Which configuration file is used. -/
def Chooses : Option PathName → Prop :=
  NamedOr s.files byHand (s.Finds start)

variable {s byHand start}

theorem find?_eq_iff : s.find? start = file ↔ s.Finds start file := by
  unfold find?
  split
  · next name hname => exact (namedOr_iff_of_some hname).symm
  · next hname =>
    have hwalk : Discovers s.files (s.origin start)
        (nearest s.files (s.origin start).segments.reverse) := discovers_nearest rfl
    refine Iff.trans ?_ (namedOr_iff_of_none hname).symm
    exact ⟨fun h => h ▸ hwalk, hwalk.unique⟩

theorem choose_eq_iff : s.choose byHand start = file ↔ s.Chooses byHand start file := by
  unfold choose
  split
  · next name hname => exact (namedOr_iff_of_some hname).symm
  · next hname => exact find?_eq_iff.trans (namedOr_iff_of_none hname).symm

end Surroundings

end Choice

section Report

variable {s : Surroundings} {byHand : Option String} {start : Option PathName} {given : Source}

theorem made_congr {file : Option PathName} {files : FileTree}
    (h : ∀ name, file = some name → files.contents? name = s.files.contents? name) :
    made { s with files } file given = made s file given := by
  have hsource : sourceOf files file = sourceOf s.files file := by
    cases file with
    | none => rfl
    | some name => rw [sourceOf, sourceOf, ofFile, ofFile, Option.bind_some, Option.bind_some, h name rfl]
  rw [made, made, hsource]

/-- A file that is there makes no source where its text is malformed. -/
theorem sourceOf_eq_error_iff {file : Option PathName} {fault : LoadFault}
    (h : ∀ name, file = some name → s.files.isFile name = true) :
    sourceOf s.files file = .error fault ↔ ∃ name text, file = some name ∧
      s.files.contents? name = some text ∧ Toml.readJson text = none ∧
        .malformedFile name = fault := by
  cases file with
  | none => simp [sourceOf]
  | some name =>
    obtain ⟨text, htext⟩ := Option.isSome_iff_exists.mp (h name rfl)
    rw [sourceOf, ofFile_of_contents? htext]
    cases hread : Toml.readJson text with
    | none => simp [htext, hread]
    | some source => simp [htext, hread]

/-- Loading fails for a file where that is used and its text is malformed. -/
theorem load_eq_malformedFile_iff {name : PathName} :
    load s byHand start given = .error (.malformedFile name) ↔
      s.choose byHand start = some name ∧
        ∃ text, s.files.contents? name = some text ∧ Toml.readJson text = none := by
  have hfile : ∀ name, s.choose byHand start = some name → s.files.isFile name = true :=
    fun _ h => isFile_of_choose h
  rw [load_eq_made, made, bind_eq_error_iff, sourceOf_eq_error_iff hfile]
  constructor
  · rintro (⟨name, text, hchoice, htext, hread, ⟨⟩⟩ | ⟨lowest, -, h⟩)
    · exact ⟨hchoice, text, htext, hread⟩
    · obtain h | ⟨environment, -, h⟩ := bind_eq_error_iff.mp h
      · cases hvariables : ofVariables s.environment <;> rw [hvariables] at h <;> cases h
      · obtain ⟨issues, -, h⟩ := mapError_eq_error_iff.mp h
        cases h
  · rintro ⟨hchoice, text, htext, hread⟩
    exact .inl ⟨name, text, hchoice, htext, hread, rfl⟩

/-- Where another tree of files has the same file to use, with the same text, loading comes to the same. -/
theorem load_congr {files : FileTree}
    (hchoice : Surroundings.choose { s with files } byHand start = s.choose byHand start)
    (h : ∀ name, s.choose byHand start = some name → files.contents? name = s.files.contents? name) :
    load { s with files } byHand start given = load s byHand start given := by
  rw [load_eq_made, load_eq_made, hchoice, made_congr h]

end Report

/-- A file named by hand is used, or none if it is no file; without such a name a file that the variable
names, or none if it is no file; and without that name too the closest one at the start or above it, as
far as the root, or none when there is none. Settings that are loaded tell the file that is used and are
made of what is read there, loading fails for that file alone, and no other file makes a difference. -/
theorem chosen_file_is_read (s : Surroundings) (byHand : Option String) (start : Option PathName) :
    (∀ file, s.choose byHand start = file ↔ s.Chooses byHand start file) ∧
      (∀ file, s.find? start = file ↔ s.Finds start file) ∧
      (∀ n, (s.origin start).segments.length ≤ n → parent^[n] (s.origin start) = ⟨1, []⟩) ∧
      (∀ given settings, load s byHand start given = .ok settings →
        settings.configPath = s.choose byHand start ∧
          ∃ environment lowest, ofVariables s.environment = some environment ∧
            Reads s.files settings.configPath lowest ∧
              Settings.validate settings.configPath (mergedAll [given, environment, lowest]) =
                .ok settings) ∧
      (∀ given name, load s byHand start given = .error (.malformedFile name) ↔
        s.choose byHand start = some name ∧
          ∃ text, s.files.contents? name = some text ∧ Toml.readJson text = none) ∧
      (∀ given (files : FileTree),
        Surroundings.choose { s with files } byHand start = s.choose byHand start →
        (∀ name, s.choose byHand start = some name →
          files.contents? name = s.files.contents? name) →
        load { s with files } byHand start given = load s byHand start given) :=
  ⟨fun _ => Surroundings.choose_eq_iff, fun _ => Surroundings.find?_eq_iff,
    fun _ h => parent_iterate_of_length_le h, fun _ _ h => load_eq_ok_iff_validate.mp h,
    fun _ _ => load_eq_malformedFile_iff, fun _ _ hchoice h => load_congr hchoice h⟩

/-- A start behind a link: the walk goes up from the directory to which the link leads, and does not come
to the file beside the link. -/
theorem chosen_file_is_read_behind_link :
    let inner : PathName := ⟨1, ["a", "settingconv.toml"]⟩
    let outer : PathName := ⟨1, ["settingconv.toml"]⟩
    let files : FileTree :=
      { files := [(outer, "json_output = true"), (inner, "verbose = true")],
        directories := [⟨1, ["a", "b"]⟩], links := [(⟨1, ["l"]⟩, ⟨1, ["a", "b"]⟩)] }
    let wanted : Settings := { configPath := some inner, verbose := true }
    load { files } none (some ⟨0, ["l"]⟩) [] = .ok wanted ∧
      Surroundings.choose { files } none (some ⟨0, ["l"]⟩) = some inner ∧
      load { files := { files with files := [(inner, "verbose = true")] } } none
        (some ⟨0, ["l"]⟩) [] = .ok wanted := by
  intro inner outer files wanted
  have hchoice : Surroundings.choose { files } none (some ⟨0, ["l"]⟩) = some inner := by
    decide +kernel
  have hread : Toml.readJson "verbose = true" = some [("verbose", .bool true)] := by cbv
  have hload : load { files } none (some ⟨0, ["l"]⟩) [] = .ok wanted :=
    load_eq_ok_iff_validate.mpr ⟨hchoice.symm, [], _, rfl, .file rfl hread, by cbv⟩
  obtain ⟨_, _, _, hreport, _, hcongr⟩ := chosen_file_is_read { files } none (some ⟨0, ["l"]⟩)
  refine ⟨hload, (hreport [] wanted hload).1.symm, (hcongr [] _ ?_ ?_).trans hload⟩
  · decide +kernel
  · intro name hname
    obtain rfl := Option.some.inj (hchoice.symm.trans hname)
    rfl

end Config

end SettingText
