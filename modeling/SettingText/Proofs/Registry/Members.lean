import SettingText.Proofs.Datum.Agreement
import SettingText.Proofs.Datum.Members
import SettingText.Proofs.Registry.Lookup

/-!
Maps and what is found in them. Equality of maps and their plain forms both go by what is found under the
keys, where the first entry of a key counts; so does the plain form of every map from texts that a registry
converts to.
-/

namespace SettingText

namespace Converter

variable {u : Universe} {value : Converter} {s : Setting} {raw : String}

theorem ensures_text (h : s.raw = some raw) :
    (Converter.text.convert u (some s)).Ensures fun d => ∃ t, d = .text t := by
  have hconvert : Converter.text.convert u (some s) = pure (.text raw) := by
    change pure ((s.raw.map Datum.text).getD .nothing) = _
    rw [h]
    rfl
  rw [hconvert]
  exact Work.ensures_pure ⟨raw, rfl⟩

/-- An entry whose key is converted to itself has a text for its key. -/
theorem ensures_text_entry (h : s.raw = some raw) :
    ((entry .text value).convert u (some s)).Ensures fun d =>
      ∃ p : String × Datum, entryItem (.text p.1, p.2) = d := by
  rw [convert_entry, present?_of_raw h]
  refine (ensures_text (Setting.child_raw s _)).bind fun k hk => (Work.ensures_true _).bind fun v _ => ?_
  obtain ⟨t, rfl⟩ := hk
  exact Work.ensures_pure ⟨(t, v), rfl⟩

end Converter

namespace Datum

theorem exists_keyed {entries : List (Datum × Datum)} (h : ∀ e ∈ entries, ∃ t, e.1 = .text t) :
    ∃ pairs, entries = keyed pairs := by
  have hentries : entries ∈ Set.range (List.map fun p : String × Datum => (Datum.text p.1, p.2)) := by
    rw [Set.range_list_map]
    intro e he
    obtain ⟨t, ht⟩ := h e he
    exact ⟨(t, e.2), Prod.ext ht.symm rfl⟩
  obtain ⟨pairs, hpairs⟩ := hentries
  exact ⟨pairs, hpairs.symm⟩

end Datum

namespace Registry

variable {r : Registry} {d val : Descriptor} {s : Setting} {raw : String} {held : Held} {x : Datum}

/-- What a text becomes at a map from texts is a map whose keys are texts. -/
theorem keyed_of_convert_map (hr : r.Accounted) (hfree : r.scalar? d = none)
    (hstr : r.scalar? (.plain (.builtin "str")) = some held) (htext : held.converter = .text)
    (hd : Recipe.of d = .map (.plain (.builtin "str")) val) (hs : s.raw = some raw)
    (h : answer (convert (some s) d) r = .ok x) : ∃ pairs, x = .map (Datum.keyed pairs) := by
  obtain ⟨k, v, all, hk, hall, hmap⟩ := list_of_convert_map hr hfree hd h
  rw [hr.answer_component_of_scalar hstr, htext] at hk
  cases hk
  have hlist := hall
  rw [Converter.on_listOf_present (Converter.present?_of_raw hs)] at hlist
  obtain ⟨items, -, rfl⟩ := map_eq_ok_iff.mp hlist
  have hitems : items ∈ Set.range (List.map fun p : String × Datum => entryItem (.text p.1, p.2)) := by
    rw [Set.range_list_map]
    exact Converter.forall_of_on_listOf (fun _ _ hraw => Converter.ensures_text_entry hraw) hall
  obtain ⟨pairs, rfl⟩ := hitems
  obtain ⟨kept, hkept, hmap⟩ := map_eq_ok_iff.mp (mapError_eq_ok_iff.mp hmap)
  have hsub : kept ⊆ Datum.keyed pairs := Datum.subset_of_canonicalEntries (by
    rw [Datum.keyed, List.map_map]
    exact hkept)
  obtain ⟨rest, rfl⟩ := Datum.exists_keyed fun e he => by
    obtain ⟨p, _, rfl⟩ := List.mem_map.mp (hsub he)
    exact ⟨p.1, rfl⟩
  exact ⟨rest, hmap.symm⟩

/-- Maps are what is found in them. If their keys can be told apart, a map equals itself, and it equals
another one exactly when the same keys are found in both and have equal values; so it makes no difference
in what order the entries are, or which come later for a key that is there already. The plain form of what
a text becomes at a map from texts has the distinct keys for its members, in the order in which they first
occur, each with the plain form of what is found under it, which is the value of its first entry. -/
theorem maps_follow_lookup :
    (∀ first second : List (Datum × Datum), Datum.Orderly ((first ++ second).map (·.1)) →
      (Datum.map first).EqualsItself ∧
      (Datum.equal (.map first) (.map second) = .ok true ↔ Datum.AgreeOnKeys first second) ∧
      ∀ first', Datum.Rearranged first first' →
        (Datum.equal (.map first') (.map second) = .ok true ↔
          Datum.equal (.map first) (.map second) = .ok true) ∧
        (Datum.equal (.map second) (.map first') = .ok true ↔
          Datum.equal (.map second) (.map first) = .ok true)) ∧
    ∀ (r : Registry) (d val : Descriptor) (s : Setting) (raw : String) (held : Held) (x : Datum),
      r.Handled → r.scalar? d = none → r.scalar? (.plain (.builtin "str")) = some held →
      held.converter = .text → Recipe.of d = .map (.plain (.builtin "str")) val → s.raw = some raw →
      answer (convert (some s) d) r = .ok x →
      ∃ pairs : List (String × Datum), x = .map (Datum.keyed pairs) ∧
        (∀ t v, Datum.lookup (Datum.keyed pairs) (.text t) = .ok v ↔ pairs.lookup t = some v) ∧
        x.plain = ((pairs.map (·.1)).eraseDups.mapM fun t =>
          (Datum.lookup (Datum.keyed pairs) (.text t) >>= Datum.plain).map (t, ·)).map .object := by
  constructor
  · intro first second h
    have hfirst : ∀ e ∈ first, e.1 ∈ (first ++ second).map (·.1) := fun e he =>
      List.mem_map_of_mem (List.mem_append_left _ he)
    have hsecond : ∀ e ∈ second, e.1 ∈ (first ++ second).map (·.1) := fun e he =>
      List.mem_map_of_mem (List.mem_append_right _ he)
    exact ⟨h.equalsItself_map hfirst, h.equal_map_iff hfirst hsecond, fun first' hrearranged =>
      h.equal_map_of_rearranged hfirst hsecond hrearranged⟩
  · intro r d val s raw held x hr hfree hstr htext hd hs h
    obtain ⟨pairs, rfl⟩ := keyed_of_convert_map hr.accounted hfree hstr htext hd hs h
    exact ⟨pairs, rfl, fun t v => Datum.lookup_keyed_eq_ok_iff, Datum.plain_keyed pairs⟩

/-- A map equals itself though its value does not, so it is found where it is a key. -/
theorem map_of_undefined_equals_itself :
    let m : List (Datum × Datum) := [(.text "a", .float .nan)]
    Datum.Orderly (m.map (·.1)) ∧
      ¬((Datum.map m).EqualsItself ↔ ∀ v, Datum.lookup m (.text "a") = .ok v → v.EqualsItself) ∧
      (Datum.map [(.map m, .text "1")]).plain = .ok (.object [("\x7b'a': nan\x7d", .text "1")]) := by
  refine ⟨Datum.orderly_of_texts (by simp), fun h => ?_, rfl⟩
  have hvalue := h.mp rfl (.float .nan) rfl
  exact (Datum.equalsItself_iff (by simp)).mp hvalue (.inl ⟨_, _, _, rfl⟩)

/-- Two maps with the same texts for keys, one of which says the same key twice. -/
theorem maps_follow_lookup_of_texts :
    let r : Registry := standard ⟨Classes.builtinClasses, [], [], []⟩
    let d : Descriptor := .shape (.cls (.builtin "dict")) [.plain (.builtin "str"), .plain (.builtin "str")]
    let first : List (Datum × Datum) :=
      [(.text "a", .text "1"), (.text "b", .text "2"), (.text "a", .text "3")]
    let second : List (Datum × Datum) := [(.text "b", .text "2"), (.text "a", .text "1")]
    Datum.Orderly ((first ++ second).map (·.1)) ∧ Datum.AgreeOnKeys first second ∧
      answer (convert (some (.ofText (some "a=1,b=2,a=3"))) d) r = .ok (.map first) ∧
      ∃ pairs : List (String × Datum), first = Datum.keyed pairs ∧
        (Datum.map first).plain = ((pairs.map (·.1)).eraseDups.mapM fun t =>
          (Datum.lookup (Datum.keyed pairs) (.text t) >>= Datum.plain).map (t, ·)).map .object := by
  intro r d first second
  have horderly : Datum.Orderly ((first ++ second).map (·.1)) := Datum.orderly_of_texts (by simp [first, second])
  have hnew : r.cache = {} := cache_standard _
  have hd : Recipe.of d = .map (.plain (.builtin "str")) (.plain (.builtin "str")) := rfl
  have hanswer : answer (convert (some (.ofText (some "a=1,b=2,a=3"))) d) r = .ok (.map first) := by
    have hstr : r.catalogue.build (.plain (.builtin "str")) = .ok .text :=
      Catalogue.build_of_registered rfl
    have hreached : r.Reached := .of_new hnew (isPure_standard _)
    rw [hreached.answer_convert, Catalogue.outcome, Catalogue.build_of_map rfl hd, hstr]
    rfl
  refine ⟨horderly, ((maps_follow_lookup.1 first second horderly).2.1).mp rfl, hanswer, ?_⟩
  obtain ⟨pairs, hpairs, -, hplain⟩ := maps_follow_lookup.2 r d _ _ _ _ _ (.new hnew) rfl rfl rfl hd rfl hanswer
  exact ⟨pairs, Datum.map.inj hpairs, hplain⟩

end Registry

end SettingText
