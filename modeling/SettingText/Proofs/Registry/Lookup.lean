import SettingText.Classes.Builtin
import SettingText.Proofs.Datum.Lookup
import SettingText.Proofs.Registry.Reached
import SettingText.Proofs.Registry.Shapes

/-!
The keys of converted maps. The entries of a map that a registry converts to differ from each other, so
the only key that is not found again is one that does not equal itself.
-/

namespace SettingText.Registry

variable {r : Registry} {d key val : Descriptor} {value : Option Setting}
  {entries : List (Datum × Datum)}

/-- The converter of a map is put together from those of its keys and its values. -/
theorem Accounted.component_of_map (hr : r.Accounted) (hfree : r.scalar? d = none)
    (hd : Recipe.of d = .map key val) {c : Converter} (h : answer (component d) r = .ok c) :
    ∃ k v, answer (component key) r = .ok k ∧
      c = .map (.collection (.sequence fun _ => []) (.entry k v) .entries) := by
  have hrecipe := hr.answer_component_of_recipe hfree (by rw [hd]; exact Recipe.noConfusion)
  rw [h, hd, Recipe.components, answer_mapM_cons] at hrecipe
  obtain ⟨parts, hparts, hcomplete⟩ := bind_eq_ok_iff.mp hrecipe.symm
  obtain ⟨k, hk, hrest⟩ := bind_eq_ok_iff.mp hparts
  obtain ⟨rest, hvalue, rfl⟩ := map_eq_ok_iff.mp hrest
  obtain ⟨v, rfl⟩ := List.length_eq_one_iff.mp (length_of_answer_mapM hvalue)
  rw [complete, hd] at hcomplete
  cases hcomplete
  exact ⟨k, v, hk, rfl⟩

/-- Converting to a map is converting to the list of its entries, of which those that differ are kept. -/
theorem list_of_convert_map (hr : r.Accounted) (hfree : r.scalar? d = none)
    (hd : Recipe.of d = .map key val) {x : Datum} (h : answer (convert value d) r = .ok x) :
    ∃ k v all, answer (component key) r = .ok k ∧
      ((Converter.listOf (.entry k v)).convert r.classes value).on r.bench = .ok all ∧
        all.entryMap = .ok x := by
  rw [answer_convert_component] at h
  obtain ⟨c, hc, h⟩ := bind_eq_ok_iff.mp h
  obtain ⟨k, v, hk, rfl⟩ := hr.component_of_map hfree hd hc
  rw [Converter.on_map] at h
  obtain ⟨all, hall, h⟩ := bind_eq_ok_iff.mp h
  exact ⟨k, v, all, hk, hall, h⟩

/-- No two entries of a converted map are equal. -/
theorem distinct_of_convert_map (hr : r.Accounted) (hfree : r.scalar? d = none)
    (hd : Recipe.of d = .map key val) (h : answer (convert value d) r = .ok (.map entries)) :
    entries.Pairwise fun a b => Datum.equalEntries a b = .ok false := by
  obtain ⟨k, v, all, -, hall, hmap⟩ := list_of_convert_map hr hfree hd h
  -- entries are left out of a list of entries, so what is kept of it differs pairwise
  obtain rfl | rfl := Converter.eq_of_on_listOf hall
  · cases hmap
  · obtain ⟨pairs, hpairs⟩ := Converter.exists_pairs_of_on_listOf hall
    rw [hpairs, Datum.entryMap] at hmap
    obtain ⟨kept, hkept, hmap⟩ := map_eq_ok_iff.mp (mapError_eq_ok_iff.mp hmap)
    cases hmap
    exact Datum.distinct_of_canonicalEntries hkept

/-- A key that a converted map is gone through with is found in it exactly when it equals itself, which
all do that are no maps and no undefined numbers. What is found is the value of the first entry whose key
equals it. So the map can be gone through with its values, and its plain form made of those of its keys
and values, exactly when all its keys equal themselves. -/
theorem convert_map_finds_iff (hr : r.Handled) (hfree : r.scalar? d = none)
    (hd : Recipe.of d = .map key val) (h : answer (convert value d) r = .ok (.map entries)) :
    (∀ i k v, entries[i]? = some (k, v) →
      ((∃ found, Entries.findAt Datum.equalObjects i k 0 entries = .ok (some found)) ↔
        k.EqualsItself) ∧
      (∀ found, Entries.findAt Datum.equalObjects i k 0 entries = .ok (some found) ↔
        Datum.AnswersAt entries i k found) ∧
      ((∀ inner, k ≠ .map inner) → (k.EqualsItself ↔ ¬k.IsUndefined))) ∧
    ((∃ items, Datum.mapItems entries = .ok items) ↔ ∀ e ∈ entries, e.1.EqualsItself) ∧
    ((∀ e ∈ entries, ¬e.1.Unplain ∧ ¬e.2.Unplain) →
      ((∃ form, (Datum.map entries).plain = .ok form) ↔ ∀ e ∈ entries, e.1.EqualsItself)) := by
  have hdistinct := distinct_of_convert_map hr.accounted hfree hd h
  refine ⟨fun i k v hentry => ?_, Datum.exists_mapItems_iff hdistinct,
    Datum.exists_plain_map_iff hdistinct⟩
  exact ⟨Datum.exists_findAt_iff hdistinct hentry, fun found => Datum.findAt_eq_some_iff,
    Datum.equalsItself_iff⟩

/-- A map from an undefined number cannot be gone through with its values. -/
theorem convert_map_loses_undefined :
    let r : Registry := standard ⟨Classes.builtinClasses, [], [], []⟩
    let d : Descriptor := .shape (.cls (.builtin "dict")) [.plain (.builtin "float"), .plain (.builtin "str")]
    let entries : List (Datum × Datum) := [(.float .nan, .text "1")]
    answer (convert (some (.ofText (some "nan=1"))) d) r = .ok (.map entries) ∧
      ¬∃ items, Datum.mapItems entries = .ok items := by
  intro r d entries
  have hnew : r.cache = {} := cache_standard _
  have hd : Recipe.of d = .map (.plain (.builtin "float")) (.plain (.builtin "str")) := rfl
  have hanswer : answer (convert (some (.ofText (some "nan=1"))) d) r = .ok (.map entries) := by
    have hfloat : r.catalogue.build (.plain (.builtin "float")) =
        .ok (.ofMaker (some "float") (.reading (.builtin "float") fun text =>
          (Number.readFloat text).map .float |>.mapError .literal)) :=
      Catalogue.build_of_plain rfl rfl
    have hstr : r.catalogue.build (.plain (.builtin "str")) = .ok .text :=
      Catalogue.build_of_registered rfl
    have hreached : r.Reached := .of_new hnew (isPure_standard _)
    rw [hreached.answer_convert, Catalogue.outcome, Catalogue.build_of_map rfl hd, hfloat, hstr]
    rfl
  refine ⟨hanswer, fun h => ?_⟩
  have hself := (convert_map_finds_iff (.new hnew) rfl hd hanswer).2.1.mp h (.float .nan, .text "1")
    (List.mem_singleton.mpr rfl)
  exact (Datum.equalsItself_iff (by simp)).mp hself (.inl ⟨_, _, _, rfl⟩)

end SettingText.Registry
