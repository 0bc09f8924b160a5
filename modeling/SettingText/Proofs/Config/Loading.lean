import SettingText.Proofs.Config.Variables
import SettingText.Proofs.Except

/-!
Loading settings: which settings come of which sources, and that loadings that follow one another know
nothing of each other, though all of them use one slot for the name of the file that is read.
-/

namespace SettingText

namespace Checked

variable {α β : Type}

theorem within_eq_ok_iff {step : String} {checked : Checked α} {a : α} :
    within step checked = .ok a ↔ checked = .ok a := by
  cases checked <;> simp [within]

theorem both_eq_ok_iff {first : Checked α} {second : Checked β} {a : α} {b : β} :
    both first second = .ok (a, b) ↔ first = .ok a ∧ second = .ok b := by
  cases first <;> cases second <;> simp [both]

end Checked

namespace Config

/-- What a setting is when something was found for it, or nothing. -/
def Decides {α : Type} (check : Json → Checked α) (otherwise : α) (found : Option Json) (value : α) :
    Prop :=
  found.elim (value = otherwise) fun j => check j = .ok value

section Checks

open Validation

variable {α : Type} {check : Json → Checked α} {otherwise value : α}

theorem bool_shallow (j : Json) : bool j.shallow = bool j := by
  cases j <;> rfl

theorem texts_shallow (j : Json) : texts j.shallow = texts j := by
  cases j <;> rfl

/-- A check that does not look into tables decides alike of values that differ in tables alone. -/
theorem Decides.congr (hcheck : ∀ j : Json, check j.shallow = check j) {found found' : Option Json}
    (h : found.map Json.shallow = found'.map Json.shallow) :
    Decides check otherwise found value ↔ Decides check otherwise found' value := by
  have hshallow : ∀ found : Option Json, Decides check otherwise (found.map Json.shallow) value ↔
      Decides check otherwise found value := by
    intro found
    cases found with
    | none => exact Iff.rfl
    | some j => exact (hcheck j).congr_left
  rw [← hshallow found, h, hshallow]

theorem optional_eq_ok_iff {members : Source} {name : String} :
    optional members name otherwise check = .ok value ↔
      Decides check otherwise (Json.find? members name) value := by
  unfold Validation.optional
  cases Json.find? members name with
  | none => exact ⟨fun h => (Except.ok.inj h).symm, fun h => congrArg Except.ok h.symm⟩
  | some j => exact Checked.within_eq_ok_iff

/-- A leaf is checked where its section is a table or missing. -/
theorem checkLeaf_eq_ok_iff {members : Source} {group leaf : String} :
    checkLeaf members group leaf otherwise check = .ok value ↔
      (∀ j, Json.find? members group = some j → j.isTable = true) ∧
        Decides check otherwise (leaf? members group leaf) value := by
  unfold checkLeaf leaf?
  rw [optional_eq_ok_iff]
  cases Json.find? members group with
  | none => simp [Decides]
  | some j =>
    by_cases htable : j.isTable = true
    · rw [Json.eq_object_of_isTable htable]
      refine optional_eq_ok_iff.trans (Iff.symm (and_iff_right fun j' hj' => ?_))
      cases hj'
      rfl
    · constructor
      · intro h
        cases j <;> first | exact absurd rfl htable | cases h
      · intro h
        exact absurd (h.1 j rfl) htable

theorem checkNames_eq_ok_iff {members : Source} :
    checkNames members = .ok () ↔ ∀ name ∈ members.map (·.1), name ∈ knownNames := by
  unfold checkNames
  split
  · next h => simpa using List.filter_eq_nil_iff.mp h
  · next h =>
    refine iff_of_false (by simp) fun hknown => h ?_
    exact List.filter_eq_nil_iff.mpr fun name hname => by simpa using hknown name hname

end Checks

/-- Settings follow sources, of which each counts before those behind it: there are only known names
in them, the first that has a section has a table there, and every setting is what the first source
makes of it that has anything for it, or the default. -/
structure Settings.Follows (s : Settings) (sources : List Source) : Prop where
  known : ∀ source ∈ sources, ∀ name ∈ source.map (·.1), name ∈ knownNames
  tables : ∀ group ∈ sections.map (·.1), ∀ value,
    sources.findSome? (Json.find? · group) = some value → value.isTable = true
  jsonOutput : Decides Validation.bool false (sources.findSome? (Json.find? · "json_output"))
    s.jsonOutput
  verbose : Decides Validation.bool false (sources.findSome? (Json.find? · "verbose")) s.verbose
  logJson : Decides Validation.bool false (sources.findSome? (Json.find? · "log_json")) s.logJson
  memoize : Decides Validation.bool true (sources.findSome? (leaf? · "registry" "memoize")) s.memoize
  allowedPrefixes : Decides Validation.texts []
    (sources.findSome? (leaf? · "classes" "allowed_prefixes")) s.allowedPrefixes
  pluginsEnabled : Decides Validation.bool true (sources.findSome? (leaf? · "plugins" "enabled"))
    s.pluginsEnabled

theorem Settings.validate_eq_ok_iff {file : Option PathName} {members : Source} {s : Settings} :
    Settings.validate file members = .ok s ↔ s.configPath = file ∧
      (∀ name ∈ members.map (·.1), name ∈ knownNames) ∧
      Decides Validation.bool false (Json.find? members "json_output") s.jsonOutput ∧
      Decides Validation.bool false (Json.find? members "verbose") s.verbose ∧
      Decides Validation.bool false (Json.find? members "log_json") s.logJson ∧
      checkLeaf members "registry" "memoize" true Validation.bool = .ok s.memoize ∧
      checkLeaf members "classes" "allowed_prefixes" [] Validation.texts = .ok s.allowedPrefixes ∧
      checkLeaf members "plugins" "enabled" true Validation.bool = .ok s.pluginsEnabled := by
  rw [Settings.validate, map_eq_ok_iff, ← checkNames_eq_ok_iff]
  simp only [← optional_eq_ok_iff]
  constructor
  · rintro ⟨⟨⟨⟩, a, b, c, d, e, f⟩, h, rfl⟩
    simp only [Checked.both_eq_ok_iff] at h
    exact ⟨rfl, h⟩
  · rintro ⟨rfl, h⟩
    refine ⟨((), s.jsonOutput, s.verbose, s.logJson, s.memoize, s.allowedPrefixes,
      s.pluginsEnabled), ?_, rfl⟩
    simp only [Checked.both_eq_ok_iff]
    exact h

section Follows

variable {sources : List Source} {s : Settings}

/-- The first source that has a section has a table there exactly when the section of all sources is
one. -/
theorem tables_mergedAll_iff (h : ∀ source ∈ sources.dropLast, Distinct source) {group : String} :
    (∀ value, Json.find? (mergedAll sources) group = some value → value.isTable = true) ↔
      ∀ value, sources.findSome? (Json.find? · group) = some value → value.isTable = true := by
  have hshallow := find?_mergedAll h group
  have hall : ∀ found : Option Json, (∀ value, found = some value → value.isTable = true) ↔
      ∀ value, found.map Json.shallow = some value → value.isTable = true := by
    intro found
    cases found <;> simp
  rw [hall, hshallow, ← hall]

theorem checkLeaf_mergedAll_iff {α : Type} {check : Json → Checked α} {otherwise value : α}
    (h : ∀ source ∈ sources.dropLast, Distinct source) (hcheck : ∀ j : Json, check j.shallow = check j)
    {group leaf : String} :
    checkLeaf (mergedAll sources) group leaf otherwise check = .ok value ↔
      (∀ value, sources.findSome? (Json.find? · group) = some value → value.isTable = true) ∧
        Decides check otherwise (sources.findSome? (leaf? · group leaf)) value := by
  rw [checkLeaf_eq_ok_iff, tables_mergedAll_iff h]
  exact and_congr_right fun htables => Decides.congr hcheck (leaf?_mergedAll h htables)

theorem forall_sections_iff {p : String → Prop} :
    (∀ group ∈ sections.map (·.1), p group) ↔ p "registry" ∧ p "classes" ∧ p "plugins" := by
  simp [sections]

/-- Merged sources make the settings that follow them, and no others. -/
theorem validate_mergedAll_iff (h : ∀ source ∈ sources.dropLast, Distinct source)
    {file : Option PathName} :
    Settings.validate file (mergedAll sources) = .ok s ↔ s.configPath = file ∧ s.Follows sources := by
  have hflag {name : String} {value : Bool} :
      Decides Validation.bool false (Json.find? (mergedAll sources) name) value ↔
        Decides Validation.bool false (sources.findSome? (Json.find? · name)) value :=
    Decides.congr bool_shallow (find?_mergedAll h name)
  have hnames : (∀ name ∈ (mergedAll sources).map (·.1), name ∈ knownNames) ↔
      ∀ source ∈ sources, ∀ name ∈ source.map (·.1), name ∈ knownNames := by
    simp only [mem_names_mergedAll h]
    exact ⟨fun h source hsource name hname => h name ⟨source, hsource, hname⟩,
      fun h name ⟨source, hsource, hname⟩ => h source hsource name hname⟩
  rw [Settings.validate_eq_ok_iff, hnames, hflag, hflag, hflag,
    checkLeaf_mergedAll_iff h bool_shallow, checkLeaf_mergedAll_iff h texts_shallow,
    checkLeaf_mergedAll_iff h bool_shallow]
  refine and_congr_right fun _ => ?_
  constructor
  · rintro ⟨known, jsonOutput, verbose, logJson, ⟨registry, memoize⟩, ⟨classes, allowedPrefixes⟩,
      plugins, pluginsEnabled⟩
    exact { known, jsonOutput, verbose, logJson, memoize, allowedPrefixes, pluginsEnabled,
            tables := forall_sections_iff.mpr ⟨registry, classes, plugins⟩ }
  · intro follows
    obtain ⟨registry, classes, plugins⟩ := forall_sections_iff.mp follows.tables
    exact ⟨follows.known, follows.jsonOutput, follows.verbose, follows.logJson,
      ⟨registry, follows.memoize⟩, ⟨classes, follows.allowedPrefixes⟩, plugins,
      follows.pluginsEnabled⟩

end Follows

section Files

/-- What a configuration file gives: nothing where there is none. -/
inductive Reads (files : FileTree) : Option PathName → Source → Prop
  | none : Reads files none []
  | file {name : PathName} {text : String} {source : Source}
      (hcontents : files.contents? name = some text) (hread : Toml.readJson text = some source) :
      Reads files (some name) source

variable {s : Surroundings} {file : PathName}

theorem isFile_of_guard {files : FileTree} {name : PathName}
    (h : Option.guard files.isFile name = some file) : files.isFile file = true := by
  obtain ⟨rfl, hfile⟩ := Option.guard_eq_some_iff.mp h
  exact hfile

theorem isFile_of_nearest {files : FileTree} {segments : List String}
    (h : Surroundings.nearest files segments = some file) : files.isFile file = true := by
  induction segments with
  | nil => exact isFile_of_guard h
  | cons segment above ih =>
    rw [Surroundings.nearest] at h
    split at h
    · next hfile =>
      cases h
      exact hfile
    · exact ih h

/-- A configuration file that is chosen is there. -/
theorem isFile_of_choose {byHand : Option String} {start : Option PathName}
    (h : s.choose byHand start = some file) : s.files.isFile file = true := by
  unfold Surroundings.choose at h
  split at h
  · exact isFile_of_guard h
  · unfold Surroundings.find? at h
    split at h
    · exact isFile_of_guard h
    · exact isFile_of_nearest h

end Files

section Runs

variable {α β : Type} {x : LoadM α} {slot slot' : Option PathName}

theorem run_bind_of_ok {f : α → LoadM β} {a : α} (h : x.run.run slot = (.ok a, slot')) :
    (x >>= f).run.run slot = (f a).run.run slot' := by
  rw [ExceptT.run_bind, StateT.run_bind, h]
  rfl

theorem run_bind_of_error {f : α → LoadM β} {fault : LoadFault}
    (h : x.run.run slot = (.error fault, slot')) : (x >>= f).run.run slot = (.error fault, slot') := by
  rw [ExceptT.run_bind, StateT.run_bind, h]
  rfl

/-- Work whose end sets the slot, however it ends. -/
theorem run_finally_set {result : Except LoadFault α} {last : Option PathName}
    (h : x.run.run slot = (result, slot')) :
    (tryFinally x (set last) : LoadM α).run.run slot = (result, last) := by
  have hx : x slot = (result, slot') := h
  simp only [tryFinally, tryFinally', ExceptT.run, StateT.run, ExceptT.mk, bind, StateT.bind,
    Functor.map, ExceptT.map, hx]
  cases result <;> rfl

/-- The source of a configuration file, or why there is none. -/
def sourceOf (files : FileTree) : Option PathName → Except LoadFault Source
  | none => .ok []
  | some name => (ofFile files (some name)).elim (.error (.malformedFile name)) .ok

/-- The settings that are made with a configuration file. -/
def made (s : Surroundings) (file : Option PathName) (given : Source) :
    Except LoadFault Settings := do
  let lowest ← sourceOf s.files file
  let environment ← (ofVariables s.environment).elim (.error .malformedVariable) .ok
  (Settings.validate file (mergedAll [given, environment, lowest])).mapError .refused

variable (s : Surroundings) (file : Option PathName) (given : Source)

theorem run_fileSource (files : FileTree) :
    (fileSource files).run.run file = (sourceOf files file, file) := by
  cases file with
  | none => rfl
  | some name =>
    unfold fileSource
    rw [run_bind_of_ok (show (get : LoadM (Option PathName)).run.run (some name) =
      (.ok (some name), some name) from rfl), sourceOf]
    dsimp only
    cases ofFile files (some name) <;> rfl

theorem run_variableSource (environment : List (String × String)) :
    (variableSource environment).run.run file =
      ((ofVariables environment).elim (.error .malformedVariable) .ok, file) := by
  unfold variableSource
  cases ofVariables environment <;> rfl

/-- Settings are made with the file in the slot, which stays there. -/
theorem run_construct : (construct s file given).run.run file = (made s file given, file) := by
  have hfile := run_fileSource file s.files
  have hvariables := run_variableSource file s.environment
  unfold construct made
  cases hlowest : sourceOf s.files file with
  | error fault => exact run_bind_of_error (hlowest ▸ hfile)
  | ok lowest =>
    rw [run_bind_of_ok (hlowest ▸ hfile)]
    generalize (ofVariables s.environment).elim (Except.error LoadFault.malformedVariable) Except.ok =
      given' at hvariables ⊢
    cases given' with
    | error fault => exact run_bind_of_error hvariables
    | ok environment =>
      rw [run_bind_of_ok hvariables]
      change _ = ((Settings.validate file (mergedAll [given, environment, lowest])).mapError
        LoadFault.refused, file)
      cases Settings.validate file (mergedAll [given, environment, lowest]) <;> rfl

/-- Loading makes the settings with the file that is chosen, whatever is in the slot before, and leaves
the slot empty. -/
theorem run_loadM (byHand : Option String) (start : Option PathName) (slot : Option PathName) :
    (loadM s byHand start given).run.run slot = (made s (s.choose byHand start) given, none) :=
  (run_bind_of_ok rfl).trans (run_finally_set (run_construct s (s.choose byHand start) given))

end Runs

section Outcome

variable {s : Surroundings} {byHand : Option String} {start : Option PathName} {given : Source}
  {settings : Settings}

theorem ofFile_of_contents? {files : FileTree} {name : PathName} {text : String}
    (h : files.contents? name = some text) : ofFile files (some name) = Toml.readJson text := by
  rw [ofFile, Option.bind_some, h]

theorem sourceOf_eq_ok_iff {file : Option PathName} {source : Source}
    (h : ∀ name, file = some name → s.files.isFile name = true) :
    sourceOf s.files file = .ok source ↔ Reads s.files file source := by
  cases file with
  | none =>
    constructor
    · intro h
      cases h
      exact .none
    · rintro ⟨⟩
      rfl
  | some name =>
    obtain ⟨text, htext⟩ := Option.isSome_iff_exists.mp (h name rfl)
    rw [sourceOf, ofFile_of_contents? htext]
    constructor
    · intro hsource
      cases hread : Toml.readJson text with
      | none =>
        rw [hread] at hsource
        cases hsource
      | some read =>
        rw [hread] at hsource
        cases hsource
        exact .file htext hread
    · intro hreads
      cases hreads with
      | file hcontents hread =>
        rw [htext] at hcontents
        cases hcontents
        rw [hread]
        rfl

theorem load_eq_made : load s byHand start given = made s (s.choose byHand start) given := by
  rw [load, run_loadM]

/-- Loading succeeds where the file and the variables can be read, with the settings that all sources
make together. -/
theorem load_eq_ok_iff_validate :
    load s byHand start given = .ok settings ↔
      settings.configPath = s.choose byHand start ∧
        ∃ environment lowest, ofVariables s.environment = some environment ∧
          Reads s.files settings.configPath lowest ∧
            Settings.validate settings.configPath (mergedAll [given, environment, lowest]) =
              .ok settings := by
  have hfile {lowest : Source} : sourceOf s.files (s.choose byHand start) = .ok lowest ↔
      Reads s.files (s.choose byHand start) lowest :=
    sourceOf_eq_ok_iff fun name h => isFile_of_choose h
  have hvariables {environment : Source} :
      (ofVariables s.environment).elim (Except.error LoadFault.malformedVariable) Except.ok =
        .ok environment ↔ ofVariables s.environment = some environment := by
    cases ofVariables s.environment <;> simp
  rw [load_eq_made, made]
  simp only [bind_eq_ok_iff, mapError_eq_ok_iff, hfile, hvariables]
  constructor
  · rintro ⟨lowest, hlowest, environment, henvironment, hvalid⟩
    have hpath : settings.configPath = s.choose byHand start :=
      (Settings.validate_eq_ok_iff.mp hvalid).1
    exact ⟨hpath, environment, lowest, henvironment, hpath ▸ hlowest, hpath ▸ hvalid⟩
  · rintro ⟨hpath, environment, lowest, henvironment, hlowest, hvalid⟩
    exact ⟨lowest, hpath ▸ hlowest, environment, henvironment, hpath ▸ hvalid⟩

/-- Loading succeeds where the file and the variables can be read, with the settings that follow what is
given by hand, then the variables, then the file. -/
theorem load_eq_ok_iff (hgiven : Distinct given) :
    load s byHand start given = .ok settings ↔
      settings.configPath = s.choose byHand start ∧
        ∃ environment lowest, ofVariables s.environment = some environment ∧
          Reads s.files settings.configPath lowest ∧
            settings.Follows [given, environment, lowest] := by
  have hfollows {environment lowest : Source} (h : ofVariables s.environment = some environment) :
      Settings.validate settings.configPath (mergedAll [given, environment, lowest]) =
        .ok settings ↔ settings.Follows [given, environment, lowest] := by
    have hdistinct : ∀ source ∈ [given, environment, lowest].dropLast, Distinct source := by
      simp only [List.dropLast, List.forall_mem_cons]
      exact ⟨hgiven, distinct_ofVariables h, by simp⟩
    exact (validate_mergedAll_iff hdistinct).trans (and_iff_right rfl)
  rw [load_eq_ok_iff_validate]
  refine and_congr_right fun _ => exists_congr fun environment => exists_congr fun lowest => ?_
  exact and_congr_right fun henvironment => and_congr_right fun _ => hfollows henvironment

end Outcome

/-- A call for settings: where the program runs, which file is named by hand, where one is looked for
otherwise, and what is given by hand. Each setting is given by its name, so no name occurs twice. -/
structure Call where
  surroundings : Surroundings
  byHand : Option String := none
  start : Option PathName := none
  given : Source := []
  distinct : Distinct given

namespace Call

def run (c : Call) : StateM (Option PathName) (Except LoadFault Settings) :=
  (loadM c.surroundings c.byHand c.start c.given).run

/-- What the call comes to on its own. -/
def outcome (c : Call) : Except LoadFault Settings :=
  load c.surroundings c.byHand c.start c.given

end Call

end Config

end SettingText
