import SettingText.Proofs.Plugin.Applied

/-!
Whether plugins that misbehave affect the others. What is malformed is skipped by itself, but a hook is
called for all plugins at once: where it fails in one of them, what the others contribute to it is lost.
-/

namespace SettingText

/-- A registry without what was noted down. -/
def Registry.unrecorded (r : Registry) : Registry := { r with journal := [] }

/-- What is left of what a hook gives when all that is of no use is taken out. -/
def HookResult.sound {α : Type} (usable : α → Bool) : HookResult α → Option (HookResult α)
  | table items => some (table (items.filter usable))
  | _ => none

namespace PluginManager

/-- A plugin with its well-behaved hooks alone, and in their tables only what is of use. -/
def soundOf (r : Registered) : Registered :=
  { r with plugin := { r.plugin with
      converters := (Plugin.resultAs r.form r.plugin.converters).bind (HookResult.sound countsConverter)
      editors := (Plugin.resultAs r.form r.plugin.editors).bind (HookResult.sound countsEditor) } }

/-- The plugins with their well-behaved hooks alone. -/
def sound (m : PluginManager) : PluginManager :=
  { m with registered := m.registered.map soundOf }

/-- A hook fails in some plugin. -/
def failsIn (m : PluginManager) : Plugin.Hook → Bool
  | .converters => (m.results (·.converters)).any isFailure
  | .editors => (m.results (·.editors)).any isFailure

/-- A plugin without the hooks that fail in any of the plugins. -/
def heardOf (m : PluginManager) (r : Registered) : Registered :=
  { r with plugin := { r.plugin with
      converters := if m.failsIn .converters then none else r.plugin.converters
      editors := if m.failsIn .editors then none else r.plugin.editors } }

/-- The plugins without the hooks that fail in any of them. -/
def heard (m : PluginManager) : PluginManager :=
  { m with registered := m.registered.map m.heardOf }

/-- The number of registrations that the plugins contribute to a hook. -/
def contributions (m : PluginManager) : Plugin.Hook → Nat
  | .converters => m.converterItems.countP countsConverter
  | .editors => m.editorItems.countP countsEditor

/-- Two managers make as many registrations in a registry, and leave it in the same state but for what
is noted down. -/
def AppliesAs (m m' : PluginManager) (r : Registry) : Prop :=
  (m.apply r).1 = (m'.apply r).1 ∧ (m.apply r).2.unrecorded = (m'.apply r).2.unrecorded

/-- What is noted down when a hook fails. -/
def failure (hook : Plugin.Hook) : LogRecord := warning s!"Plugin hook {hook.name} failed"

section Collected

variable {α : Type} (usable : α → Bool) (hook : Plugin.Hook) (results : List (HookResult α))

/-- The items of a hook are those of its tables, and none at all when it fails in one plugin. -/
theorem collect_fst : (collect hook results).1 =
    if results.any isFailure then [] else results.flatMap itemsOf := by
  unfold collect
  split <;> rfl

theorem collect_snd_of_failure (h : results.any isFailure = true) :
    (collect hook results).2 = [failure hook] := by
  rw [collect, if_pos h]
  rfl

theorem any_isFailure_sound : (results.filterMap (HookResult.sound usable)).any isFailure = false := by
  refine List.any_eq_false.mpr fun result hresult => ?_
  obtain ⟨given, _, hgiven⟩ := List.mem_filterMap.mp hresult
  cases given <;> cases hgiven
  simp [isFailure]

theorem itemsOf_sound : (results.filterMap (HookResult.sound usable)).flatMap itemsOf =
    (results.flatMap itemsOf).filter usable := by
  induction results with
  | nil => rfl
  | cons result rest ih =>
    rw [List.flatMap_cons, List.filter_append, ← ih]
    cases result <;> rfl

/-- Well-behaved hooks never fail, and all their items are of use. -/
theorem collect_sound : (collect hook (results.filterMap (HookResult.sound usable))).1 =
    (results.flatMap itemsOf).filter usable := by
  rw [collect_fst, any_isFailure_sound, itemsOf_sound]
  rfl

/-- The class of a plugin has no well-behaved hook, and any other form gives what the plugin gives. -/
theorem resultAs_sound (form : Plugin.Form) (result : Option (HookResult α)) :
    Plugin.resultAs form ((Plugin.resultAs form result).bind (HookResult.sound usable)) =
      (Plugin.resultAs form result).bind (HookResult.sound usable) := by
  cases form <;> cases result <;> rfl

end Collected

variable (m : PluginManager) (r : Registry)

section Hooks

variable {α : Type} {usable : α → Bool} {given : Plugin → Option (HookResult α)} (hook : Plugin.Hook)

theorem results_sound (hsound : ∀ r, given (soundOf r).plugin =
      (Plugin.resultAs r.form (given r.plugin)).bind (HookResult.sound usable)) :
    m.sound.results given = (m.results given).filterMap (HookResult.sound usable) := by
  unfold results sound
  rw [List.filterMap_map, List.filterMap_filterMap]
  refine List.filterMap_congr fun r _ => ?_
  change Plugin.resultAs r.form (given (soundOf r).plugin) = _
  rw [hsound, resultAs_sound]

/-- Of what a hook contributes, all that is of use counts, or nothing where it fails in one plugin. -/
theorem filter_collect (hsound : ∀ r, given (soundOf r).plugin =
      (Plugin.resultAs r.form (given r.plugin)).bind (HookResult.sound usable)) :
    (collect hook (m.results given)).1.filter usable =
      if (m.results given).any isFailure then [] else (collect hook (m.sound.results given)).1 := by
  rw [results_sound m hsound, collect_sound, collect_fst]
  split <;> rfl

/-- Well-behaved hooks contribute nothing but what is of use. -/
theorem filter_collect_sound (hsound : ∀ r, given (soundOf r).plugin =
      (Plugin.resultAs r.form (given r.plugin)).bind (HookResult.sound usable)) :
    (collect hook (m.sound.results given)).1.filter usable =
      (collect hook (m.sound.results given)).1 := by
  rw [results_sound m hsound, collect_sound, List.filter_filter]
  simp only [Bool.and_self]

theorem results_heard {fails : Bool}
    (hheard : ∀ r, given (m.heardOf r).plugin = if fails then none else given r.plugin) :
    m.heard.results given = if fails then [] else m.results given := by
  unfold results heard
  rw [List.filterMap_map]
  cases fails with
  | false => exact List.filterMap_congr fun r _ => congrArg (Plugin.resultAs r.form) (hheard r)
  | true =>
    refine List.filterMap_eq_nil_iff.mpr fun r _ => ?_
    change Plugin.resultAs r.form (given (m.heardOf r).plugin) = none
    rw [hheard]
    cases r.form <;> rfl

end Hooks

theorem filter_converterItems : m.converterItems.filter countsConverter =
    if m.failsIn .converters then [] else m.sound.converterItems :=
  filter_collect m .converters fun _ => rfl

theorem filter_editorItems : m.editorItems.filter countsEditor =
    if m.failsIn .editors then [] else m.sound.editorItems :=
  filter_collect m .editors fun _ => rfl

theorem filter_converterItems_sound :
    m.sound.converterItems.filter countsConverter = m.sound.converterItems :=
  filter_collect_sound m .converters fun _ => rfl

theorem filter_editorItems_sound :
    m.sound.editorItems.filter countsEditor = m.sound.editorItems :=
  filter_collect_sound m .editors fun _ => rfl

theorem converterItems_heard_sound : m.heard.sound.converterItems =
    if m.failsIn .converters then [] else m.sound.converterItems := by
  have hresults : m.heard.results (·.converters) =
      if m.failsIn .converters then [] else m.results (·.converters) :=
    results_heard m fun _ => rfl
  rw [converterItems, converterItems, results_sound m.heard fun _ => rfl, hresults,
    results_sound m fun _ => rfl]
  split <;> rfl

theorem editorItems_heard_sound : m.heard.sound.editorItems =
    if m.failsIn .editors then [] else m.sound.editorItems := by
  have hresults : m.heard.results (·.editors) =
      if m.failsIn .editors then [] else m.results (·.editors) :=
    results_heard m fun _ => rfl
  rw [editorItems, editorItems, results_sound m.heard fun _ => rfl, hresults,
    results_sound m fun _ => rfl]
  split <;> rfl

/-- A hook that fails in one plugin contributes nothing; of any other all that is of use counts. -/
theorem contributions_eq (hook : Plugin.Hook) :
    m.contributions hook = if m.failsIn hook then 0 else m.sound.contributions hook := by
  cases hook with
  | converters =>
    simp only [contributions, List.countP_eq_length_filter]
    rw [filter_converterItems_sound, filter_converterItems]
    split <;> rfl
  | editors =>
    simp only [contributions, List.countP_eq_length_filter]
    rw [filter_editorItems_sound, filter_editorItems]
    split <;> rfl

theorem apply_fst : (m.apply r).1 = m.contributions .converters + m.contributions .editors := rfl

section Installed

variable {α : Type} {install : Registry → α → Registry} {usable : α → Bool}

/-- Where installing neither goes by what was noted down nor does more than noting down what is of no
use, all that is of no use may be left out. -/
theorem unrecorded_foldl_filter
    (hjournal : ∀ r item, (install r item).unrecorded = (install r.unrecorded item).unrecorded)
    (hskip : ∀ r item, usable item = false → (install r item).unrecorded = r.unrecorded)
    (items : List α) {r r' : Registry} (h : r.unrecorded = r'.unrecorded) :
    (items.foldl install r).unrecorded = ((items.filter usable).foldl install r').unrecorded := by
  induction items generalizing r r' with
  | nil => exact h
  | cons item rest ih =>
    cases hu : usable item with
    | true =>
      rw [List.filter_cons_of_pos hu, List.foldl_cons, List.foldl_cons]
      refine ih ?_
      rw [hjournal, h, ← hjournal]
    | false =>
      rw [List.filter_cons_of_neg (by simp [hu]), List.foldl_cons]
      exact ih ((hskip r item hu).trans h)

/-- Where installing only adds to what was noted down, so does installing one item after the other. -/
theorem journal_prefix_foldl (h : ∀ r item, r.journal <+: (install r item).journal) (items : List α)
    (r : Registry) : r.journal <+: (items.foldl install r).journal := by
  induction items generalizing r with
  | nil => exact List.prefix_rfl
  | cons item rest ih => exact (h r item).trans (ih _)

end Installed

theorem unrecorded_foldl_installConverter (items : List ConverterItem) {r r' : Registry}
    (h : r.unrecorded = r'.unrecorded) : (items.foldl installConverter r).unrecorded =
      ((items.filter countsConverter).foldl installConverter r').unrecorded := by
  refine unrecorded_foldl_filter (fun r item => ?_) (fun r item hitem => ?_) items h
  all_goals obtain ⟨type, converter⟩ := item
  · cases converter <;> rfl
  · cases converter with
    | none => rfl
    | some c => cases hitem

theorem unrecorded_foldl_installEditor (items : List EditorItem) {r r' : Registry}
    (h : r.unrecorded = r'.unrecorded) : (items.foldl installEditor r).unrecorded =
      ((items.filter countsEditor).foldl installEditor r').unrecorded := by
  refine unrecorded_foldl_filter (fun r item => ?_) (fun r item hitem => ?_) items h
  all_goals obtain ⟨key, kind⟩ := item
  · cases key <;> cases kind <;> rfl
  · cases key <;> cases kind <;> first | rfl | cases hitem

/-- What applying leaves hangs on what is of use alone. -/
theorem unrecorded_apply : (m.apply r).2.unrecorded =
    ((m.editorItems.filter countsEditor).foldl installEditor
      ((m.converterItems.filter countsConverter).foldl installConverter r)).unrecorded := by
  obtain ⟨journal₁, journal₂, journal₃, happly⟩ := m.exists_apply_eq r
  rw [happly]
  exact unrecorded_foldl_installEditor _ (unrecorded_foldl_installConverter _ rfl)

variable {m r} in
/-- Managers whose plugins contribute the same that is of use apply alike. -/
theorem appliesAs_of_filter_eq {m' : PluginManager}
    (hconverters : m.converterItems.filter countsConverter = m'.converterItems.filter countsConverter)
    (heditors : m.editorItems.filter countsEditor = m'.editorItems.filter countsEditor) :
    m.AppliesAs m' r := by
  constructor
  · simp only [apply_fst, contributions, List.countP_eq_length_filter, hconverters, heditors]
  · rw [unrecorded_apply, unrecorded_apply, hconverters, heditors]

/-- Each hook counts as a whole: plugins apply as if none of them had the hooks that fail in any. -/
theorem appliesAs_heard_sound : m.AppliesAs m.heard.sound r := by
  refine appliesAs_of_filter_eq ?_ ?_
  · rw [filter_converterItems, filter_converterItems_sound, converterItems_heard_sound]
  · rw [filter_editorItems, filter_editorItems_sound, editorItems_heard_sound]

variable {m r}

theorem sound_converterItems_eq_nil (h : m.sound.contributions .converters = 0) :
    m.sound.converterItems = [] := by
  rw [contributions, List.countP_eq_length_filter, filter_converterItems_sound] at h
  exact List.length_eq_zero_iff.mp h

theorem sound_editorItems_eq_nil (h : m.sound.contributions .editors = 0) :
    m.sound.editorItems = [] := by
  rw [contributions, List.countP_eq_length_filter, filter_editorItems_sound] at h
  exact List.length_eq_zero_iff.mp h

theorem appliesAs_sound_of_lossless
    (h : ∀ hook, m.failsIn hook = true → m.sound.contributions hook = 0) : m.AppliesAs m.sound r := by
  refine appliesAs_of_filter_eq ?_ ?_
  · rw [filter_converterItems, filter_converterItems_sound]
    split
    · next hfails => exact (sound_converterItems_eq_nil (h _ hfails)).symm
    · rfl
  · rw [filter_editorItems, filter_editorItems_sound]
    split
    · next hfails => exact (sound_editorItems_eq_nil (h _ hfails)).symm
    · rfl

/-- Where as many registrations are made, no hook that fails would have made any. -/
theorem lossless_of_appliesAs_sound (h : m.AppliesAs m.sound r) (hook : Plugin.Hook)
    (hfails : m.failsIn hook = true) : m.sound.contributions hook = 0 := by
  have hcount := h.1
  have hconverters := m.contributions_eq .converters
  have heditors := m.contributions_eq .editors
  rw [apply_fst, apply_fst] at hcount
  -- the other hook contributes no more than its well-behaved part, so it cannot make up for this one
  cases hook with
  | converters =>
    rw [if_pos hfails] at hconverters
    split at heditors <;> omega
  | editors =>
    rw [if_pos hfails] at heditors
    split at hconverters <;> omega

theorem journal_prefix_installConverter (r : Registry) (item : ConverterItem) :
    r.journal <+: (installConverter r item).journal := by
  obtain ⟨type, converter⟩ := item
  cases converter <;> exact List.prefix_append _ _

theorem journal_prefix_installEditor (r : Registry) (item : EditorItem) :
    r.journal <+: (installEditor r item).journal := by
  obtain ⟨key, kind⟩ := item
  cases key <;> cases kind <;> exact List.prefix_append _ _

/-- A hook that fails is noted down as a warning, behind all that was noted down before. -/
theorem exists_journal_apply (m : PluginManager) (r : Registry) :
    ∃ notes, (m.apply r).2.journal = r.journal ++ notes ∧
      ∀ hook, m.failsIn hook = true → failure hook ∈ notes := by
  let notes₁ := (collect .converters (m.results (·.converters))).2
  let notes₂ := (collect .editors (m.results (·.editors))).2
  let r₁ : Registry := { r with journal := r.journal ++ notes₁ }
  let r₂ := m.converterItems.foldl installConverter r₁
  let r₃ : Registry := { r₂ with journal := r₂.journal ++ notes₂ }
  obtain ⟨more₁, h₁⟩ : r₁.journal <+: r₂.journal :=
    journal_prefix_foldl journal_prefix_installConverter m.converterItems r₁
  obtain ⟨more₂, h₂⟩ : r₃.journal <+: (m.editorItems.foldl installEditor r₃).journal :=
    journal_prefix_foldl journal_prefix_installEditor m.editorItems r₃
  have happly : (m.apply r).2.journal = (m.editorItems.foldl installEditor r₃).journal ++
      [remark s!"Applied {(m.apply r).1} plugin registrations"] := rfl
  have hr₃ : r₃.journal = r.journal ++ notes₁ ++ more₁ ++ notes₂ := by
    change r₂.journal ++ notes₂ = _
    rw [← h₁]
  refine ⟨notes₁ ++ more₁ ++ notes₂ ++ more₂ ++
    [remark s!"Applied {(m.apply r).1} plugin registrations"], ?_, fun hook hfails => ?_⟩
  · rw [happly, ← h₂, hr₃]
    simp only [List.append_assoc]
  · cases hook with
    | converters =>
      have hnotes : notes₁ = [failure .converters] := collect_snd_of_failure _ _ hfails
      simp [hnotes]
    | editors =>
      have hnotes : notes₂ = [failure .editors] := collect_snd_of_failure _ _ hfails
      simp [hnotes]

/-- Plugins that misbehave leave the others alone, with the registry and the number of registrations as
the well-behaved hooks alone make them, exactly when no hook that fails in one plugin would contribute
anything in another. In every case plugins apply as if none of them had the hooks that fail in any, and
such a hook is noted down as a warning. -/
theorem apply_as_sound_iff (m : PluginManager) (r : Registry) :
    (m.AppliesAs m.sound r ↔
        ∀ hook, m.failsIn hook = true → m.sound.contributions hook = 0) ∧
      m.AppliesAs m.heard.sound r ∧
      ∃ notes, (m.apply r).2.journal = r.journal ++ notes ∧
        ∀ hook, m.failsIn hook = true → failure hook ∈ notes :=
  ⟨⟨lossless_of_appliesAs_sound, appliesAs_sound_of_lossless⟩, m.appliesAs_heard_sound r,
    exists_journal_apply m r⟩

example :
    let failing : Registered := ⟨"failing", { name := "Failing", converters := some .fails }, .shared⟩
    let items : List ConverterItem := [⟨.cls (.builtin "int"), some .text⟩]
    let other : Registered := ⟨"other", { name := "Other", converters := some (.table items) }, .shared⟩
    let m : PluginManager := { registered := [failing, other] }
    m.contributions .converters = 0 ∧ m.sound.contributions .converters = 1 := by
  decide

end PluginManager

end SettingText
