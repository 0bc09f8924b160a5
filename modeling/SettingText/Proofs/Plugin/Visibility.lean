import SettingText.Proofs.Plugin.Applied
import SettingText.Proofs.Registry.Used

/-!
Whether the contributions of plugins can be seen. A registry that plugins were applied to answers as a
new one with the same registrations when a converter was among the contributions, since what it kept is
forgotten then. Editors alone leave what was kept in its place.
-/

namespace SettingText

namespace Converter

/-- The converters that a converter is put together from. -/
def parts : Converter → List Converter
  | collection _ inner _ => [inner]
  | entry key value => [key, value]
  | map (collection _ (entry key value) _) => [key, value]
  | optional base => [base]
  | array _ (collection _ inner _) => [inner]
  | _ => []

end Converter

namespace Catalogue

open Converter

variable {k : Catalogue} {d : Descriptor} {c : Converter}

/-- What is built for a type that is put together is built from the converters of its components, in
their order. -/
theorem parts_of_build (hnone : k.converter? d = none) (hne : (Recipe.of d).components ≠ [])
    (h : k.build d = .ok c) :
    List.Forall₂ (fun e part => k.build e = .ok part) (Recipe.of d).components c.parts := by
  cases hrecipe : Recipe.of d with
  | plain | none | className => simp [hrecipe, Recipe.components] at hne
  | optional base =>
    rw [build_of_optional hnone hrecipe] at h
    obtain ⟨inner, hinner, rfl⟩ := map_eq_ok_iff.mp h
    exact .cons hinner .nil
  | array element =>
    by_cases he : element = .dots
    · subst he
      rw [build_of_array_dots hnone hrecipe] at h
      obtain ⟨_, _, h⟩ := bind_eq_ok_iff.mp h
      cases h
    · rw [build_of_array hnone hrecipe he] at h
      obtain ⟨inner, hinner, rfl⟩ := map_eq_ok_iff.mp h
      rw [Recipe.components, orTop_of_ne_dots he]
      exact .cons hinner .nil
  | entry key value =>
    rw [build_of_entry hnone hrecipe] at h
    obtain ⟨ck, hk, h⟩ := bind_eq_ok_iff.mp h
    obtain ⟨cv, hv, h⟩ := bind_eq_ok_iff.mp h
    cases h
    exact .cons hk (.cons hv .nil)
  | map key value =>
    rw [build_of_map hnone hrecipe] at h
    obtain ⟨ck, hk, h⟩ := bind_eq_ok_iff.mp h
    obtain ⟨cv, hv, h⟩ := bind_eq_ok_iff.mp h
    cases h
    exact .cons hk (.cons hv .nil)
  | collection container element finish =>
    rw [build_of_collection hnone hrecipe] at h
    obtain ⟨inner, hinner, rfl⟩ := map_eq_ok_iff.mp h
    exact .cons hinner .nil

/-- The editor of a type that no registration and no shape serves. -/
theorem build_of_editor (hnone : k.converter? d = none) (hplain : Recipe.of d = .plain)
    (horigin : k.originConverter? d = none) {kind : EditorKind}
    (hkind : k.editors.find? k.classes d.rawClass = some kind) :
    k.build d = .ok (.editor d.rawClass (some ⟨kind, 0⟩)) := by
  rw [build_of_plain hnone hplain, serve, horigin]
  dsimp only
  rw [hkind]

end Catalogue

theorem Converter.parts_unnumbered (c : Converter) :
    c.unnumbered.parts = c.parts.map unnumbered := by
  cases c with
  | map entries =>
    cases entries with
    | collection container inner finish => cases inner <;> rfl
    | _ => rfl
  | array element sequence => cases sequence <;> rfl
  | _ => rfl

/-- Converters that are alike are put together from converters that are alike. -/
theorem Converter.Alike.parts {c c' : Converter} (h : c.Alike c') :
    List.Forall₂ Alike c.parts c'.parts := by
  have hmap : c.parts.map unnumbered = c'.parts.map unnumbered := by
    rw [← parts_unnumbered, ← parts_unnumbered, h]
  rwa [← List.forall₂_eq_eq_eq, List.forall₂_map_left_iff, List.forall₂_map_right_iff] at hmap

namespace Registry

variable {r : Registry} {d : Descriptor}

/-- A type that nothing is registered for and that is put together from others resolves to a converter
that is put together from what the components of the type resolve to. -/
def ResolvesByParts (r : Registry) : Prop :=
  ∀ d held, r.catalogue.converter? d = none → (Recipe.of d).components ≠ [] →
    answer (resolve d) r = .ok held →
      List.Forall₂ (fun e part => ∃ held', answer (resolve e) r = .ok held' ∧
        held'.converter.Alike part) (Recipe.of d).components held.converter.parts

theorem Coherent.resolvesByParts (hr : r.Coherent) : r.ResolvesByParts := by
  intro d held hnone hne h
  obtain ⟨c, hbuild, hlike⟩ := hr.build_of_resolves h
  have hparts := Catalogue.parts_of_build hnone hne hbuild
  have hlikes := Converter.Alike.parts hlike
  generalize (Recipe.of d).components = components, c.parts = parts, held.converter.parts = parts'
    at hparts hlikes ⊢
  induction hparts generalizing parts' with
  | nil =>
    cases hlikes
    exact .nil
  | cons hbuild _ ih =>
    cases hlikes with
    | cons hlike hlikes =>
      obtain ⟨held', hheld', hlike'⟩ := hr.resolves_of_build hbuild
      exact .cons ⟨held', hheld', Eq.trans hlike' (Eq.symm hlike)⟩ (ih _ hlikes)

end Registry

/-- The nearest class above one that has an editor serves it. -/
theorem EditorTable.find?_of_lineage {t : EditorTable} {u : Universe} {c above : ClassRef}
    {before after : List ClassRef} {kind : EditorKind}
    (hlineage : u.lineage c = before ++ above :: after) (hbefore : ∀ b ∈ before, t.at? b = none)
    (hat : t.at? above = some kind) : t.find? u c = some kind := by
  rw [find?, hlineage, List.findSome?_append, List.findSome?_eq_none_iff.mpr hbefore]
  simp [hat]

namespace PluginManager

open Registry

variable {r r' : Registry} {m : PluginManager}

/-- Behind applying plugins, a registry keeps only what would be built anew exactly when a converter is
contributed, or all that it kept before is what would be built now. -/
theorem Applied.coherent_iff (h : m.Applied r r') :
    r'.Coherent ↔ m.contributesConverter = true ∨ ∀ d held, r.cache.find? d = some held →
      ∃ c, r'.catalogue.build d = .ok c ∧ held.converter.Alike c := by
  have hcache := h.cache
  cases hm : m.contributesConverter with
  | true =>
    rw [if_pos hm] at hcache
    exact iff_of_true (coherent_of_cache_empty hcache) (.inl rfl)
  | false =>
    rw [if_neg (by simp [hm])] at hcache
    rw [Coherent, hcache]
    simp

theorem Applied.keepsByMemoizing (h : m.Applied r r') (hr : r.KeepsByMemoizing) :
    r'.KeepsByMemoizing := by
  intro hmemoize
  rw [h.cache, hr (h.memoize ▸ hmemoize)]
  simp

/-- A converter that is contributed for a type is registered for it. -/
theorem Applied.converter?_of_contributed (h : m.Applied r r') {d : Descriptor} {c : Converter}
    (hc : m.converterFor? d = some c) (hpresent : c.isPresent = true) :
    r'.catalogue.converter? d = some c := by
  rw [Catalogue.converter?, h.registered, hc]
  simp [Option.filter, hpresent]

theorem contributesConverter_of_converterFor? {d : Descriptor} {c : Converter}
    (h : m.converterFor? d = some c) : m.contributesConverter = true := by
  obtain ⟨item, hitem, hc⟩ := List.exists_of_findSome?_eq_some h
  refine List.any_eq_true.mpr ⟨item, List.mem_reverse.mp hitem, ?_⟩
  unfold itemConverter? at hc
  split at hc
  · simp [countsConverter, hc]
  · cases hc

/-- A contributed editor serves the classes below its own that have no nearer one. -/
theorem Applied.editors_find? (h : m.Applied r r') {c above : ClassRef} {before after : List ClassRef}
    {kind : EditorKind} (hlineage : r.classes.lineage c = before ++ above :: after)
    (hbefore : ∀ b ∈ before, r'.editors.at? b = none) (hkind : m.editorFor? above = some kind) :
    r'.catalogue.editors.find? r'.catalogue.classes c = some kind := by
  change r'.editors.find? r'.classes c = some kind
  rw [h.classes]
  exact EditorTable.find?_of_lineage hlineage hbefore (by rw [h.editors, hkind]; rfl)

/-- An editor that is contributed for a class serves the types of that class and of the classes below it
that no registration, no shape and no nearer editor serves. -/
def EditorsServe (m : PluginManager) (r : Registry) : Prop :=
  ∀ d before c after kind, r.catalogue.converter? d = none → Recipe.of d = .plain →
    r.catalogue.originConverter? d = none → r.classes.lineage d.rawClass = before ++ c :: after →
    (∀ b ∈ before, r.editors.at? b = none) → m.editorFor? c = some kind →
      ∃ held, answer (resolve d) r = .ok held ∧
        held.converter.Alike (.editor d.rawClass (some ⟨kind, 0⟩))

/-- What plugins contribute can be seen exactly when a converter is among it, or nothing that is kept
would be built otherwise now. A contributed converter is always used for its type; where contributions
can be seen, it is used within the types put together from that type as well, and a contributed editor
is used for its class and the classes below it. -/
theorem apply_answersAsNew_iff (hr : r.Used) (m : PluginManager) :
    ((m.apply r).2.AnswersAsNew ↔ m.contributesConverter = true ∨
        ∀ d held, r.cache.find? d = some held → ∃ c, (m.apply r).2.catalogue.build d = .ok c ∧
          held.converter.Alike c) ∧
      (∀ d c, m.converterFor? d = some c → c.isPresent = true →
        ∃ held, answer (resolve d) (m.apply r).2 = .ok held ∧ held.converter.Alike c) ∧
      ((m.apply r).2.AnswersAsNew →
        (m.apply r).2.ResolvesByParts ∧ m.EditorsServe (m.apply r).2) := by
  have happlied := m.applied_apply r
  generalize (m.apply r).2 = r' at happlied ⊢
  have hiff : r'.AnswersAsNew ↔ r'.Coherent :=
    answersAsNew_iff_coherent (happlied.keepsByMemoizing hr.keepsByMemoizing)
  refine ⟨hiff.trans happlied.coherent_iff, fun d c hc hpresent => ?_, fun hnew => ⟨?_, ?_⟩⟩
  · have hcoherent : r'.Coherent :=
      happlied.coherent_iff.mpr (.inl (contributesConverter_of_converterFor? hc))
    exact hcoherent.resolves_of_build
      (Catalogue.build_of_registered (happlied.converter?_of_contributed hc hpresent))
  · exact (hiff.mp hnew).resolvesByParts
  · intro d before c after kind hnone hplain horigin hlineage hbefore hkind
    rw [happlied.classes] at hlineage
    exact (hiff.mp hnew).resolves_of_build (Catalogue.build_of_editor hnone hplain horigin
      (happlied.editors_find? hlineage hbefore hkind))

/-- An editor is seen by a registry that keeps nothing, and not by one that has resolved its class to
what the class itself offers. -/
theorem apply_answersAsNew_of_editor :
    let ratio : ClassRef := ⟨"fixtures", "Ratio"⟩
    let maker : Maker := { label := "Ratio", make := fun text => .ok (.worded ratio text) }
    let u : Universe := ⟨[{ ref := ratio, ancestors := [.object], maker := some maker }], [], [], []⟩
    let kind : EditorKind := .reading "RatioEditor" fun text => .ok (.worded ratio text)
    let plugin : Plugin :=
      { name := "RatioPlugin", editors := some (.table [⟨.cls ratio, some kind⟩]) }
    let m : PluginManager := { registered := [⟨"RatioPlugin", plugin, .shared⟩] }
    (m.apply (standard u)).2.AnswersAsNew ∧
      ¬(m.apply (after (resolve (.plain ratio)) (standard u))).2.AnswersAsNew := by
  intro ratio maker u kind plugin m
  have hnew : (standard u).Used := .of_new (cache_standard u)
  have hused : (after (resolve (.plain ratio)) (standard u)).Used :=
    ⟨standard u, [.resolve (.plain ratio)], cache_standard u, rfl⟩
  constructor
  · refine (apply_answersAsNew_iff hnew m).1.mpr (.inr fun d held h => ?_)
    rw [cache_standard] at h
    cases h
  · intro h
    obtain hm | hkept := (apply_answersAsNew_iff hused m).1.mp h
    · cases hm
    · -- The factory of the class is kept, while the editor would be built now.
      have hcache : (after (resolve (.plain ratio)) (standard u)).cache.find? (.plain ratio) =
          some ⟨8, .ofMaker (some "Ratio") maker⟩ := by
        rw [after, resolve]
        rfl
      obtain ⟨c, hbuild, hlike⟩ := hkept _ _ hcache
      have happlied := m.applied_apply (after (resolve (.plain ratio)) (standard u))
      generalize (m.apply (after (resolve (.plain ratio)) (standard u))).2 = r' at happlied hbuild
      have hregistered : r'.catalogue.registered (.plain ratio) = none := by
        rw [happlied.registered, catalogue_after_resolve]
        rfl
      have hnone : r'.catalogue.converter? (.plain ratio) = none := by
        rw [Catalogue.converter?, hregistered]
        rfl
      have heditor : r'.catalogue.editors.find? r'.catalogue.classes ratio = some kind := by
        have hclasses : (after (resolve (.plain ratio)) (standard u)).classes = u :=
          congrArg Catalogue.classes (catalogue_after_resolve (standard u) _)
        have hlineage : (after (resolve (.plain ratio)) (standard u)).classes.lineage ratio =
            [] ++ ratio :: [.object] := by
          rw [hclasses]
          rfl
        exact happlied.editors_find? hlineage (by simp) rfl
      rw [Catalogue.build_of_editor hnone rfl rfl heditor] at hbuild
      cases hbuild
      cases hlike

end PluginManager

end SettingText
