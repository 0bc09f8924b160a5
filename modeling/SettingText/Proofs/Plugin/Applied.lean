import SettingText.Plugin.Manager
import SettingText.Proofs.Registry.Session

/-!
What applying plugins leaves in a registry: the contributions made last, over what was registered
before. Installing a converter forgets what is kept; installing an editor does not.
-/

namespace SettingText

namespace PluginManager

/-- The items of the hooks for converters, the plugin registered last first. -/
def converterItems (m : PluginManager) : List ConverterItem :=
  (collect .converters (m.results (·.converters))).1

/-- The items of the hooks for editors, the plugin registered last first. -/
def editorItems (m : PluginManager) : List EditorItem :=
  (collect .editors (m.results (·.editors))).1

def contributesConverter (m : PluginManager) : Bool := m.converterItems.any countsConverter

/-- The converter that an item is for a type. -/
def itemConverter? (d : Descriptor) (item : ConverterItem) : Option Converter :=
  if item.type.synthesize = d then item.converter else none

/-- The editor that an item is for a class. -/
def itemEditor? (c : ClassRef) (item : EditorItem) : Option EditorKind :=
  if item.key = .cls c then item.kind else none

/-- The converter that is contributed for a type; the last one counts. -/
def converterFor? (m : PluginManager) (d : Descriptor) : Option Converter :=
  m.converterItems.reverse.findSome? (itemConverter? d)

/-- The editor that is contributed for a class; the last one counts. -/
def editorFor? (m : PluginManager) (c : ClassRef) : Option EditorKind :=
  m.editorItems.reverse.findSome? (itemEditor? c)

/-- Plugins are applied by installing their converters and then their editors; the rest is noted
down. -/
theorem exists_apply_eq (m : PluginManager) (r : Registry) :
    ∃ journal₁ journal₂ journal₃, (m.apply r).2 =
      { m.editorItems.foldl installEditor
          { m.converterItems.foldl installConverter { r with journal := journal₁ } with
            journal := journal₂ } with
        journal := journal₃ } :=
  ⟨_, _, _, rfl⟩

theorem catalogue_installConverter (r : Registry) (item : ConverterItem) :
    (installConverter r item).catalogue = { r.catalogue with
      registered := fun d => (itemConverter? d item).or (r.catalogue.registered d) } := by
  obtain ⟨type, converter⟩ := item
  cases converter with
  | none => simp [installConverter, itemConverter?, Registry.note, Registry.catalogue]
  | some c =>
    rw [installConverter, Registry.catalogue_put]
    simp only [Catalogue.register, Catalogue.mk.injEq, true_and, and_true]
    funext d
    by_cases hd : type.synthesize = d
    · simp [itemConverter?, hd]
    · simp [itemConverter?, hd, Function.update_of_ne (Ne.symm hd)]

/-- Installing converters changes the registrations of a catalogue and nothing else in it. -/
theorem catalogue_foldl_installConverter (items : List ConverterItem) (r : Registry) :
    (items.foldl installConverter r).catalogue = { r.catalogue with
      registered := fun d =>
        (items.reverse.findSome? (itemConverter? d)).or (r.catalogue.registered d) } := by
  induction items generalizing r with
  | nil => rfl
  | cons item rest ih =>
    rw [List.foldl_cons, ih, catalogue_installConverter]
    simp only [List.reverse_cons, List.findSome?_append, List.findSome?_singleton, Option.or_assoc]

theorem memoize_foldl_installConverter (items : List ConverterItem) (r : Registry) :
    (items.foldl installConverter r).memoize = r.memoize := by
  induction items generalizing r with
  | nil => rfl
  | cons item rest ih =>
    rw [List.foldl_cons, ih]
    obtain ⟨type, converter⟩ := item
    cases converter <;> rfl

/-- What is kept is forgotten as soon as a converter is installed. -/
theorem cache_foldl_installConverter (items : List ConverterItem) (r : Registry) :
    (items.foldl installConverter r).cache = if items.any countsConverter then {} else r.cache := by
  induction items generalizing r with
  | nil => rfl
  | cons item rest ih =>
    rw [List.foldl_cons, ih]
    obtain ⟨type, converter⟩ := item
    cases converter with
    | none => rfl
    | some c => simp [installConverter, countsConverter, Registry.put, Registry.putHeld, Registry.note]

/-- Installing an editor changes nothing in a registry but the editors and the journal. -/
theorem exists_installEditor (r : Registry) (item : EditorItem) :
    ∃ editors journal, installEditor r item = { r with editors, journal } ∧
      ∀ c, editors.at? c = (itemEditor? c item).or (r.editors.at? c) := by
  obtain ⟨key, kind⟩ := item
  cases kind with
  | none => cases key <;> exact ⟨r.editors, _, rfl, fun c => by simp [itemEditor?]⟩
  | some kind =>
    cases key with
    | other shown => exact ⟨r.editors, _, rfl, fun c => by simp [itemEditor?]⟩
    | cls target =>
      refine ⟨r.editors.register target kind, _, rfl, fun c => ?_⟩
      by_cases hc : target = c
      · subst hc
        simp [itemEditor?, EditorTable.at?_register_same]
      · simp [itemEditor?, hc, EditorTable.at?_register_other _ (Ne.symm hc)]

theorem exists_foldl_installEditor (items : List EditorItem) (r : Registry) :
    ∃ editors journal, items.foldl installEditor r = { r with editors, journal } ∧
      ∀ c, editors.at? c = (items.reverse.findSome? (itemEditor? c)).or (r.editors.at? c) := by
  induction items generalizing r with
  | nil => exact ⟨r.editors, r.journal, rfl, fun c => by simp⟩
  | cons item rest ih =>
    obtain ⟨editors₁, journal₁, hitem, hat₁⟩ := exists_installEditor r item
    obtain ⟨editors, journal, hrest, hat⟩ := ih (installEditor r item)
    refine ⟨editors, journal, by rw [List.foldl_cons, hrest, hitem], fun c => ?_⟩
    rw [hat, hitem, hat₁, List.reverse_cons, List.findSome?_append, List.findSome?_singleton,
      Option.or_assoc]

/-- The registry behind applying plugins: the same classes and fallback, the registrations and the
editors with the contributions over them, and nothing kept if a converter is contributed. -/
structure Applied (m : PluginManager) (r r' : Registry) : Prop where
  classes : r'.classes = r.classes
  fallback : r'.fallback = r.fallback
  memoize : r'.memoize = r.memoize
  registered : ∀ d, r'.catalogue.registered d = (m.converterFor? d).or (r.catalogue.registered d)
  editors : ∀ c, r'.editors.at? c = (m.editorFor? c).or (r.editors.at? c)
  cache : r'.cache = if m.contributesConverter then {} else r.cache

theorem applied_apply (m : PluginManager) (r : Registry) : m.Applied r (m.apply r).2 := by
  obtain ⟨journal₁, journal₂, journal₃, happly⟩ := m.exists_apply_eq r
  rw [happly]
  generalize hr₁ : ({ r with journal := journal₁ } : Registry) = r₁
  have hcatalogue := catalogue_foldl_installConverter m.converterItems r₁
  have hcache := cache_foldl_installConverter m.converterItems r₁
  have hmemoize := memoize_foldl_installConverter m.converterItems r₁
  generalize hr₂ : m.converterItems.foldl installConverter r₁ = r₂ at *
  obtain ⟨editors, journal, hedit, hat⟩ :=
    exists_foldl_installEditor m.editorItems { r₂ with journal := journal₂ }
  rw [hedit]
  subst hr₁
  exact
    { classes := (congrArg Catalogue.classes hcatalogue :)
      fallback := (congrArg Catalogue.fallback hcatalogue :)
      memoize := hmemoize
      registered := fun d => (congrFun (congrArg Catalogue.registered hcatalogue) d :)
      editors := fun c => by
        have heditors : r₂.editors = r.editors := (congrArg Catalogue.editors hcatalogue :)
        change editors.at? c = _
        rw [hat, ← heditors]
        rfl
      cache := hcache }

end PluginManager

end SettingText
