import SettingText.Proofs.Plugin.Isolation

/-!
The exact effect of plugins whose hooks all return. Both stores of a registry, its converters and its
editors, are written over by the well-formed items of the plugins, in the order in which their hooks are
called, so that of several plugins with an item for one key the one registered first has the last word.
-/

namespace SettingText

section Overlaid

variable {α β γ : Type} [DecidableEq α] (table : α → Option β) (pairs : List (α × β)) (a : α)

/-- A table with pairs written over it, one after the other. -/
def overlaid : α → Option β :=
  pairs.foldl (fun table pair => Function.update table pair.1 (some pair.2)) table

/-- What pairs say of a key, where a later pair counts more than an earlier one. -/
def lastOf : Option β :=
  pairs.reverse.findSome? fun pair => if pair.1 = a then some pair.2 else none

theorem overlaid_eq_or : overlaid table pairs a = (lastOf pairs a).or (table a) := by
  induction pairs generalizing table with
  | nil => rfl
  | cons pair rest ih =>
    have hlast : lastOf (pair :: rest) a =
        (lastOf rest a).or (if pair.1 = a then some pair.2 else none) := by
      simp only [lastOf, List.reverse_cons, List.findSome?_append, List.findSome?_singleton]
    have hstep : overlaid table (pair :: rest) =
        overlaid (Function.update table pair.1 (some pair.2)) rest := rfl
    rw [hstep, ih, hlast, Option.or_assoc]
    congr 1
    by_cases ha : pair.1 = a
    · subst ha
      simp
    · simp [ha, Function.update_of_ne (Ne.symm ha)]

variable {pairs a} in
theorem lastOf_eq_none (h : a ∉ pairs.map Prod.fst) : lastOf pairs a = none := by
  refine List.findSome?_eq_none_iff.mpr fun pair hpair => if_neg ?_
  rintro rfl
  exact h (List.mem_map_of_mem (List.mem_reverse.mp hpair))

/-- Writing the same pairs once more changes nothing. -/
theorem overlaid_overlaid : overlaid (overlaid table pairs) pairs = overlaid table pairs := by
  funext a
  rw [overlaid_eq_or, overlaid_eq_or, ← Option.or_assoc, Option.or_self]

/-- Of pairs from several sources, those of the last source that has any for the key count. -/
theorem lastOf_flatMap (f : γ → List (α × β)) (sources : List γ) :
    lastOf (sources.flatMap f) a = sources.reverse.findSome? fun source => lastOf (f source) a := by
  induction sources with
  | nil => rfl
  | cons source rest ih =>
    have happend : lastOf (f source ++ rest.flatMap f) a =
        (lastOf (rest.flatMap f) a).or (lastOf (f source) a) := by
      simp only [lastOf, List.reverse_append, List.findSome?_append]
    rw [List.flatMap_cons, happend, ih, List.reverse_cons, List.findSome?_append,
      List.findSome?_singleton]

end Overlaid

/-- The type and the converter of an item, unless the item has no converter. -/
def ConverterItem.pair? (item : ConverterItem) : Option (Descriptor × Converter) :=
  item.converter.map (item.type.synthesize, ·)

/-- The class and the editor of an item, unless its key is no class or it has no editor. -/
def EditorItem.pair? (item : EditorItem) : Option (ClassRef × EditorKind) :=
  match item.key, item.kind with
  | .cls c, some kind => some (c, kind)
  | _, _ => none

namespace Registered

/-- The items that a hook of a plugin gives; none unless it gives a table. -/
def items {α : Type} (given : Plugin → Option (HookResult α)) (p : Registered) : List α :=
  ((Plugin.resultAs p.form (given p.plugin)).map PluginManager.itemsOf).getD []

/-- The well-formed items for types that a plugin gives, in the order of its table. -/
def converterPairs (p : Registered) : List (Descriptor × Converter) :=
  (p.items (·.converters)).filterMap ConverterItem.pair?

/-- The well-formed items for classes that a plugin gives, in the order of its table. -/
def editorPairs (p : Registered) : List (ClassRef × EditorKind) :=
  (p.items (·.editors)).filterMap EditorItem.pair?

end Registered

namespace PluginManager

/-- No hook fails in any plugin. -/
def Returns (m : PluginManager) : Prop := ∀ hook, m.failsIn hook = false

/-- The well-formed items for types, in the order in which the hooks are called. -/
def converterPairs (m : PluginManager) : List (Descriptor × Converter) :=
  m.registered.flatMap (·.converterPairs)

/-- The well-formed items for classes, in the order in which the hooks are called. -/
def editorPairs (m : PluginManager) : List (ClassRef × EditorKind) :=
  m.registered.flatMap (·.editorPairs)

variable {m : PluginManager} {r : Registry}

/-- Hooks that return give the items of all tables, one plugin after the other. -/
theorem collect_fst_of_returns {α : Type} {given : Plugin → Option (HookResult α)} (hook : Plugin.Hook)
    (h : (m.results given).any isFailure = false) :
    (collect hook (m.results given)).1 = m.registered.flatMap (·.items given) := by
  have hitems : (m.results given).flatMap itemsOf = m.registered.flatMap (·.items given) := by
    unfold results
    induction m.registered with
    | nil => rfl
    | cons p rest ih =>
      rw [List.flatMap_cons, ← ih, List.filterMap_cons]
      unfold Registered.items
      cases Plugin.resultAs p.form (given p.plugin) with
      | none => rfl
      | some result => rfl
  rw [collect_fst, h, hitems]
  rfl

theorem filterMap_converterItems (h : m.Returns) :
    m.converterItems.filterMap ConverterItem.pair? = m.converterPairs := by
  rw [converterItems, collect_fst_of_returns .converters (h .converters), List.filterMap_flatMap]
  rfl

theorem filterMap_editorItems (h : m.Returns) :
    m.editorItems.filterMap EditorItem.pair? = m.editorPairs := by
  rw [editorItems, collect_fst_of_returns .editors (h .editors), List.filterMap_flatMap]
  rfl

theorem countsConverter_eq (item : ConverterItem) : countsConverter item = item.pair?.isSome := by
  simp [countsConverter, ConverterItem.pair?]

theorem countsEditor_eq (item : EditorItem) : countsEditor item = item.pair?.isSome := by
  obtain ⟨key, kind⟩ := item
  cases key <;> cases kind <;> rfl

/-- Each well-formed item is one registration. -/
theorem apply_fst_of_returns (h : m.Returns) :
    (m.apply r).1 = m.converterPairs.length + m.editorPairs.length := by
  rw [apply_fst, contributions, contributions, ← filterMap_converterItems h, ← filterMap_editorItems h,
    List.length_filterMap_eq_countP, List.length_filterMap_eq_countP, funext countsConverter_eq,
    funext countsEditor_eq]

theorem converterFor?_eq_lastOf (h : m.Returns) (d : Descriptor) :
    m.converterFor? d = lastOf m.converterPairs d := by
  rw [converterFor?, ← filterMap_converterItems h, lastOf, ← List.filterMap_reverse,
    ← List.head?_filterMap, ← List.head?_filterMap, List.filterMap_filterMap]
  congr 2
  funext item
  obtain ⟨type, converter⟩ := item
  cases converter <;> simp [itemConverter?, ConverterItem.pair?]

theorem editorFor?_eq_lastOf (h : m.Returns) (c : ClassRef) :
    m.editorFor? c = lastOf m.editorPairs c := by
  rw [editorFor?, ← filterMap_editorItems h, lastOf, ← List.filterMap_reverse,
    ← List.head?_filterMap, ← List.head?_filterMap, List.filterMap_filterMap]
  congr 2
  funext item
  obtain ⟨key, kind⟩ := item
  cases key <;> cases kind <;> simp [itemEditor?, EditorItem.pair?]

theorem registered_apply (h : m.Returns) :
    (m.apply r).2.catalogue.registered = overlaid r.catalogue.registered m.converterPairs := by
  funext d
  rw [overlaid_eq_or, ← converterFor?_eq_lastOf h]
  exact (m.applied_apply r).registered d

theorem editors_apply (h : m.Returns) :
    (m.apply r).2.editors.at? = overlaid r.editors.at? m.editorPairs := by
  funext c
  rw [overlaid_eq_or, ← editorFor?_eq_lastOf h]
  exact (m.applied_apply r).editors c

/-- A converter that no item is for stays the very object that was registered. -/
theorem find?_foldl_installConverter {items : List ConverterItem} {d : Descriptor}
    (h : d ∉ (items.filterMap ConverterItem.pair?).map Prod.fst) (r : Registry) :
    (items.foldl installConverter r).scalars.find? d = r.scalars.find? d := by
  induction items generalizing r with
  | nil => rfl
  | cons item rest ih =>
    obtain ⟨type, converter⟩ := item
    cases converter with
    | none => exact ih h (installConverter r ⟨type, none⟩)
    | some c =>
      simp only [List.filterMap_cons, ConverterItem.pair?, Option.map_some, List.map_cons,
        List.mem_cons, not_or] at h
      obtain ⟨hne, hrest⟩ := h
      rw [List.foldl_cons, ih hrest]
      exact r.scalars.find?_put_other hne _

theorem find?_scalars_apply (h : m.Returns) {d : Descriptor}
    (hd : d ∉ m.converterPairs.map Prod.fst) :
    (m.apply r).2.scalars.find? d = r.scalars.find? d := by
  obtain ⟨journal₁, journal₂, journal₃, happly⟩ := m.exists_apply_eq r
  rw [← filterMap_converterItems h] at hd
  obtain ⟨editors, journal, hedit, -⟩ := exists_foldl_installEditor m.editorItems
    { m.converterItems.foldl installConverter { r with journal := journal₁ } with journal := journal₂ }
  rw [happly, hedit]
  exact find?_foldl_installConverter hd _

/-- Plugins whose hooks all return have exactly the effect that they contribute. Converters and editors
are those from before, written over by the well-formed items of the plugins in the order in which their
hooks are called, the plugin registered last first. So the first plugin registered of those with an item
for a key decides, by its last such item; what no item is for is left alone; every well-formed item
counts as one registration; and applying the same plugins again changes neither store. -/
theorem apply_overlays (m : PluginManager) (r : Registry) (h : m.Returns) :
    let after := (m.apply r).2
    after.catalogue.registered = overlaid r.catalogue.registered m.converterPairs ∧
      after.editors.at? = overlaid r.editors.at? m.editorPairs ∧
      (∀ d, after.catalogue.registered d =
        (m.registered.reverse.findSome? fun p => lastOf p.converterPairs d).or (r.catalogue.registered d)) ∧
      (∀ c, after.editors.at? c =
        (m.registered.reverse.findSome? fun p => lastOf p.editorPairs c).or (r.editors.at? c)) ∧
      (∀ d ∉ m.converterPairs.map Prod.fst, after.scalars.find? d = r.scalars.find? d) ∧
      (∀ c ∉ m.editorPairs.map Prod.fst, after.editors.at? c = r.editors.at? c) ∧
      (m.apply r).1 = m.converterPairs.length + m.editorPairs.length ∧
      (m.apply after).2.catalogue.registered = after.catalogue.registered ∧
      (m.apply after).2.editors.at? = after.editors.at? := by
  refine ⟨registered_apply h, editors_apply h, fun d => ?_, fun c => ?_,
    fun d hd => find?_scalars_apply h hd, fun c hc => ?_, apply_fst_of_returns h, ?_, ?_⟩
  · rw [registered_apply h, overlaid_eq_or, converterPairs, lastOf_flatMap]
  · rw [editors_apply h, overlaid_eq_or, editorPairs, lastOf_flatMap]
  · rw [editors_apply h, overlaid_eq_or, lastOf_eq_none hc, Option.none_or]
  · rw [registered_apply h, registered_apply h, overlaid_overlaid]
  · rw [editors_apply h, editors_apply h, overlaid_overlaid]

/-- Two plugins contribute to one type, the later of them by another form of it and beside an item that is
no converter; both contribute an editor for a class that had one. -/
theorem apply_overlays_of_two :
    let span : ClassRef := Datum.calendarClass "timedelta"
    let early : Plugin :=
      { name := "Early"
        converters := some (.table [⟨.cls .object, some .truth⟩])
        editors := some (.table [⟨.other "'timedelta'", some .duration⟩,
          ⟨.cls span, some (.reading "EarlyEditor" fun text => .ok (.text text))⟩]) }
    let late : Plugin :=
      { name := "Late"
        converters := some (.table [⟨.forward "Any", some .date⟩, ⟨.cls (.builtin "int"), none⟩])
        editors := some (.table [⟨.cls span, some (.reading "LateEditor" fun text => .ok (.text text))⟩]) }
    let quiet : Plugin := { name := "Quiet", converters := some (.noTable "list"), editors := some .nothing }
    let m : PluginManager :=
      { registered := [⟨"Quiet", quiet, .shared⟩, ⟨"Late", late, .shared⟩, ⟨"Early", early, .shared⟩] }
    let r : Registry := { classes := ⟨[], [], [], []⟩ }
    m.Returns ∧ (m.apply r).2.catalogue.registered .top = some .truth ∧
      ((m.apply r).2.editors.at? span).map (·.name) = some "EarlyEditor" ∧ (m.apply r).1 = 4 ∧
      (m.apply (m.apply r).2).2.catalogue.registered .top = some .truth := by
  intro span early late quiet m r
  have h : m.Returns := by
    intro hook
    cases hook <;> rfl
  obtain ⟨-, -, hconverters, heditors, -, -, hcount, hagain, -⟩ := apply_overlays m r h
  have htop : (m.apply r).2.catalogue.registered .top = some .truth := by
    rw [hconverters]
    rfl
  refine ⟨h, htop, ?_, ?_, ?_⟩
  · rw [heditors]
    rfl
  · rw [hcount]
    rfl
  · rw [hagain, htop]

end PluginManager

end SettingText
