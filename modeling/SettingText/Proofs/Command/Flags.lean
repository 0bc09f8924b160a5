import Mathlib
import SettingText.Command.Run
import SettingText.Proofs.Config.Loading

/-!
The flags of the settings and the options of the program for them. Every flag is given to the settings
by hand, also the one whose option is not in use, and then as false; so the variables and the file have
no say in flags. Settings loaded with the flags in use alone would heed them.
-/

namespace SettingText

/-- A setting that is a flag and has an option of the program. -/
inductive Flag where
  | jsonOutput | verbose | logJson
  deriving DecidableEq, Repr

namespace Flag

def all : List Flag := [jsonOutput, verbose, logJson]

def name : Flag → String
  | jsonOutput => "json_output"
  | verbose => "verbose"
  | logJson => "log_json"

/-- The option of the program for the flag. -/
def option : Flag → String
  | jsonOutput => "--json"
  | verbose => "--verbose"
  | logJson => "--log-json"

def value (s : Config.Settings) : Flag → Bool
  | jsonOutput => s.jsonOutput
  | verbose => s.verbose
  | logJson => s.logJson

theorem mem_all (flag : Flag) : flag ∈ all := by
  cases flag <;> decide

theorem name_mem_flags (flag : Flag) : flag.name ∈ Config.flags := by
  cases flag <;> decide

/-- The flags that have a value, as a source. -/
def source (given : Flag → Option Bool) : Config.Source :=
  Json.chosen name (fun flag => (given flag).map Json.bool) all

variable {given : Flag → Option Bool}

theorem find?_source (flag : Flag) : Json.find? (source given) flag.name = (given flag).map Json.bool :=
  Json.find?_chosen (by decide) flag.mem_all

theorem sublist_source : List.Sublist ((source given).map (·.1)) (all.map name) :=
  Json.sublist_chosen all

theorem distinct_source : Config.Distinct (source given) := by
  refine ⟨sublist_source.nodup (by decide), fun m hm => ?_⟩
  obtain ⟨flag, _, hm⟩ := List.mem_filterMap.mp hm
  obtain ⟨value, hvalue, rfl⟩ := Option.map_eq_some_iff.mp hm
  obtain ⟨b, _, rfl⟩ := Option.map_eq_some_iff.mp hvalue
  exact List.nodup_nil

end Flag

namespace Config

variable {given given' : Flag → Option Bool} {rest : List Source} {s s' : Settings}

theorem find?_source_section {group : String} (hgroup : group ∈ sections.map (·.1)) :
    Json.find? (Flag.source given) group = none := by
  have hapart : ∀ group ∈ sections.map (·.1), group ∉ Flag.all.map Flag.name := by decide
  exact Json.find?_eq_none_iff.mpr fun hmem =>
    hapart group hgroup (Flag.sublist_source.subset hmem)

theorem leaf?_source {group : String} (hgroup : group ∈ sections.map (·.1)) (leaf : String) :
    leaf? (Flag.source given) group leaf = none := by
  rw [leaf?, find?_source_section hgroup]
  rfl

/-- With other flags given by hand, the same sources behind them make the same settings up to flags. -/
theorem Settings.Follows.withFlags (h : s.Follows (Flag.source given :: rest))
    (hflags : ∀ flag : Flag, Decides Validation.bool false
      ((Flag.source given' :: rest).findSome? (Json.find? · flag.name)) (flag.value s'))
    (hsame : { s with jsonOutput := s'.jsonOutput, verbose := s'.verbose, logJson := s'.logJson } = s') :
    s'.Follows (Flag.source given' :: rest) := by
  have hbehind {α : Type} {f : Source → Option α} (hnone : ∀ given, f (Flag.source given) = none) :
      (Flag.source given' :: rest).findSome? f = (Flag.source given :: rest).findSome? f := by
    rw [List.findSome?_cons, List.findSome?_cons, hnone, hnone]
  have hleaf {group : String} (leaf : String) (hgroup : group ∈ sections.map (·.1)) :
      (Flag.source given' :: rest).findSome? (leaf? · group leaf) =
        (Flag.source given :: rest).findSome? (leaf? · group leaf) :=
    hbehind fun _ => leaf?_source hgroup leaf
  have hknown : ∀ name ∈ Flag.all.map Flag.name, name ∈ knownNames := by decide
  exact {
    known := List.forall_mem_cons.mpr
      ⟨fun name hname => hknown name (Flag.sublist_source.subset hname),
        (List.forall_mem_cons.mp h.known).2⟩
    tables := by
      intro group hgroup
      rw [hbehind fun _ => find?_source_section hgroup]
      exact h.tables group hgroup
    jsonOutput := hflags .jsonOutput
    verbose := hflags .verbose
    logJson := hflags .logJson
    memoize := by
      rw [hleaf "memoize" (by decide), ← hsame]
      exact h.memoize
    allowedPrefixes := by
      rw [hleaf "allowed_prefixes" (by decide), ← hsame]
      exact h.allowedPrefixes
    pluginsEnabled := by
      rw [hleaf "enabled" (by decide), ← hsame]
      exact h.pluginsEnabled }

end Config

namespace Command

open Config

variable {s : Surroundings} {a : Arguments} {wanted : Settings}

/-- The flags whose options are in use. -/
def statedSettings (a : Arguments) : Source :=
  Flag.source fun flag => if a.has flag.option then some true else none

/-- The settings with the flags as the options have them. -/
def withOptions (a : Arguments) (s : Settings) : Settings :=
  { s with jsonOutput := a.has "--json", verbose := a.has "--verbose", logJson := a.has "--log-json" }

theorem value_withOptions (flag : Flag) : flag.value (withOptions a wanted) = a.has flag.option := by
  cases flag <;> rfl

theorem eq_of_values {s s' : Settings}
    (hsame : { s with jsonOutput := s'.jsonOutput, verbose := s'.verbose, logJson := s'.logJson } = s')
    (h : ∀ flag : Flag, flag.value s = flag.value s') : s = s' := by
  rw [← hsame, ← show s.jsonOutput = s'.jsonOutput from h .jsonOutput,
    ← show s.verbose = s'.verbose from h .verbose, ← show s.logJson = s'.logJson from h .logJson]

theorem givenSettings_eq (a : Arguments) :
    givenSettings a = Flag.source fun flag => some (a.has flag.option) :=
  rfl

theorem findSome?_three {α β : Type} (f : α → Option β) (x y z : α) :
    [x, y, z].findSome? f = (f x).or ((f y).or (f z)) := by
  simp only [List.findSome?_cons, List.findSome?_nil]
  cases f x <;> cases f y <;> cases f z <;> rfl

/-- What there is for a flag: its option, or else the last variable of its name, or else what the
configuration file has for it. -/
def foundFlag (s : Surroundings) (a : Arguments) (lowest : Source) (flag : Flag) : Option Json :=
  (if a.has flag.option then some (.bool true) else none).or
    (((flagVariable? s.environment flag.name).map .text).or (Json.find? lowest flag.name))

theorem findSome?_stated {environment lowest : Source}
    (henvironment : ofVariables s.environment = some environment) (flag : Flag) :
    [statedSettings a, environment, lowest].findSome? (Json.find? · flag.name) =
      foundFlag s a lowest flag := by
  rw [findSome?_three, statedSettings, Flag.find?_source,
    find?_ofVariables henvironment flag.name_mem_flags, foundFlag]
  split <;> rfl

/-- Flags in settings that are loaded with the options in use alone. -/
theorem exists_decides_of_load
    (h : load s (a.value? "--config") none (statedSettings a) = .ok wanted) :
    ∃ lowest, Reads s.files wanted.configPath lowest ∧ ∀ flag : Flag,
      Decides Validation.bool false (foundFlag s a lowest flag) (flag.value wanted) := by
  obtain ⟨_, environment, lowest, henvironment, hreads, hfollows⟩ :=
    (load_eq_ok_iff Flag.distinct_source).mp h
  refine ⟨lowest, hreads, fun flag => ?_⟩
  rw [← findSome?_stated henvironment]
  cases flag with
  | jsonOutput => exact hfollows.jsonOutput
  | verbose => exact hfollows.verbose
  | logJson => exact hfollows.logJson

/-- The settings of the program are those that its options alone would make, with every flag as its
option has it. -/
theorem settle_of_load (h : load s (a.value? "--config") none (statedSettings a) = .ok wanted) :
    settle s a = .ok (withOptions a wanted) := by
  obtain ⟨hpath, environment, lowest, henvironment, hreads, hfollows⟩ :=
    (load_eq_ok_iff Flag.distinct_source).mp h
  have hwith : (withOptions a wanted).Follows
      [Flag.source fun flag => some (a.has flag.option), environment, lowest] := by
    refine Settings.Follows.withFlags hfollows (fun flag => ?_) rfl
    rw [List.findSome?_cons, Flag.find?_source]
    change Validation.bool (.bool (a.has flag.option)) = .ok (flag.value (withOptions a wanted))
    rw [value_withOptions]
    rfl
  rw [settle, mapError_eq_ok_iff, givenSettings_eq, load_eq_ok_iff Flag.distinct_source]
  exact ⟨hpath, environment, lowest, henvironment, hreads, hwith⟩

/-- The program heeds the variables and the configuration file in its flags exactly when they turn on
no flag whose option is not in use: every flag is as its option has it, whatever stands for it in a
variable or in the file, and all other settings are as they should be. -/
theorem settle_heeds_iff (h : load s (a.value? "--config") none (statedSettings a) = .ok wanted) :
    (∃ lowest, Reads s.files wanted.configPath lowest ∧ ∀ flag : Flag,
        Decides Validation.bool false (foundFlag s a lowest flag) (flag.value wanted)) ∧
      settle s a = .ok (withOptions a wanted) ∧
      (settle s a = .ok wanted ↔
        ∀ flag : Flag, flag.value wanted = true → a.has flag.option = true) := by
  have hsettle := settle_of_load h
  obtain ⟨lowest, hreads, hdecides⟩ := exists_decides_of_load h
  refine ⟨⟨lowest, hreads, hdecides⟩, hsettle, ?_⟩
  rw [hsettle, Except.ok.injEq]
  constructor
  · intro hsame flag hon
    rwa [← hsame, value_withOptions] at hon
  · intro hon
    refine eq_of_values rfl fun flag => ?_
    rw [value_withOptions]
    -- an option in use was loaded as true; only the flags of the others can differ
    by_cases hin : a.has flag.option = true
    · have htrue := hdecides flag
      rw [foundFlag, if_pos hin] at htrue
      exact hin.trans (Except.ok.inj htrue)
    · rw [Bool.not_eq_true] at hin
      cases hwanted : flag.value wanted with
      | false => exact hin
      | true => exact (hon flag hwanted)

/-- What a configuration file says about details is not heeded. -/
theorem settle_loses_file :
    let file : PathName := ⟨1, ["settingconv.toml"]⟩
    let wanted : Settings := { configPath := some file, verbose := true }
    load { files := { files := [(file, "verbose = true")] } } none none [] = .ok wanted ∧
      settle { files := { files := [(file, "verbose = true")] } } {} =
        .ok { configPath := some file } ∧
      settle { files := { files := [(file, "verbose = true")] } } {} ≠ .ok wanted := by
  intro file wanted
  have hload : load { files := { files := [(file, "verbose = true")] } }
      (Arguments.value? {} "--config") none (statedSettings {}) = .ok wanted := by
    cbv
  obtain ⟨_, hsettle, hheeds⟩ := settle_heeds_iff hload
  refine ⟨hload, hsettle, fun h => ?_⟩
  cases hheeds.mp h .verbose rfl

end Command

end SettingText
