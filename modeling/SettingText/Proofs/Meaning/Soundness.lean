import SettingText.Proofs.Meaning.Assembly
import SettingText.Proofs.Registry.Used

/-!
Deep soundness: whatever a registry in use converts a text to at a type lies in the meaning of the
type, at every depth, as long as the converters of leaf types give objects of their classes.
-/

namespace SettingText

namespace Catalogue

/-- Nothing is registered for types that are put together, and the converters of leaf types give
objects of their classes. Those that every program starts with do; of the others it is asked, as it is
of editors that they answer a text by more than nothing. -/
structure LeafTyped (k : Catalogue) : Prop where
  isLeaf : ∀ d c, k.converter? d = some c → d.IsLeaf
  truth : ∃ c, k.converter? (.plain (.builtin "bool")) = some c
  registered : ∀ d c, k.converter? d = some c →
    (∃ resolver prefixes, ∃ entry ∈ Registry.builtinScalars resolver prefixes,
      d ∈ entry.1 ∧ entry.2 = c) ∨ c.Yields k.classes d
  edited : ∀ c kind, k.editors.at? c = some kind → ∀ text earlier,
    kind.answer (some text :: earlier) ≠ .ok .nothing
  offered : ∀ c offer, c ≠ .builtin "bool" → k.fallback c = some offer →
    offer.converter.Yields k.classes (.plain c)

variable {k : Catalogue} {d : Descriptor} {c : Converter}

theorem LeafTyped.yields (hk : k.LeafTyped) (h : k.converter? d = some c) : c.Yields k.classes d := by
  obtain ⟨resolver, prefixes, entry, hentry, hd, rfl⟩ | hyields := hk.registered d c h
  · exact Registry.yields_builtinScalars k.classes resolver prefixes entry hentry d hd
  · exact hyields

/-- An editor gives what it is asked for, or for no text nothing. -/
theorem LeafTyped.yields_editor (hk : k.LeafTyped) (hblank : d.blank = .nothing) {kind : EditorKind}
    (hkind : k.editors.find? k.classes d.rawClass = some kind) (number : Nat) :
    (Converter.editor d.rawClass (some ⟨kind, number⟩)).Yields k.classes d := by
  intro c' hlike s
  obtain ⟨number', rfl⟩ := Converter.exists_of_alike_editor hlike
  obtain ⟨cls, _, hat⟩ := List.exists_of_findSome?_eq_some hkind
  rw [Converter.convert_editor]
  cases hraw : s.raw with
  | none =>
    rw [Converter.present?_of_absent hraw]
    exact Work.ensures_pure (.inr ⟨hraw, hblank.symm⟩)
  | some raw =>
    rw [Converter.present?_of_raw hraw]
    intro b x hx
    dsimp only at hx
    rw [Converter.on_edited] at hx
    unfold judged at hx
    split at hx
    · cases hx
    · next hnothing => exact absurd hnothing (hk.edited cls kind hat raw _)
    · split at hx
      · next hsub =>
        cases hx
        exact .inl hsub
      · cases hx

/-- What serves a type that has no recipe gives objects of its class. -/
theorem LeafTyped.yields_served (hk : k.LeafTyped) (hnone : k.converter? d = none)
    (h : k.serve d = .ok c) : c.Yields k.classes d := by
  have hblank := blank_of_not_registered hk.truth hnone
  unfold serve at h
  split at h
  · next found =>
    cases h
    cases d with
    | shape origin args => exact hk.yields (d := .plain (Descriptor.shape origin args).rawClass) found
    | dots | plain => cases found
  · next horigin =>
    split at h
    · next hkind =>
      cases h
      exact hk.yields_editor (hblank horigin) hkind 0
    · split at h
      · next hoffer =>
        cases h
        -- The class of truth values is served by what is registered for it, never by an offer.
        have hbool : d.rawClass ≠ .builtin "bool" := by
          intro hbool
          have hnothing := hblank horigin
          rw [Descriptor.blank, if_pos hbool] at hnothing
          cases hnothing
        exact hk.offered d.rawClass _ hbool hoffer
      · cases h

/-- Every converter that such a catalogue builds is sound for its type. -/
theorem LeafTyped.sound (hk : k.LeafTyped) : k.Assembles fun d c => c.Sound k.classes d where
  registered h := (hk.yields h).sound (hk.isLeaf _ _ h)
  served {d c} hnone hrecipe h := by
    have hkind := Recipe.kind_of d
    rw [hrecipe] at hkind
    cases hkind with
    | leaf hd => exact (hk.yields_served hnone h).sound hd
  className hrecipe := Converter.sound_className hrecipe _ _
  optional := Converter.sound_optional
  array := Converter.sound_array
  entry := Converter.sound_entry
  map := Converter.sound_map
  collection := Converter.sound_collection

end Catalogue

namespace Registry

variable {r : Registry}

/-- Whatever a registry in use converts a text to lies in the meaning of the type, at every depth: the
parts of a value are read from parts of the text, each at its own type, and absence enters nowhere but
as the value of an entry. -/
theorem convert_in_meaning (hr : r.Used) (hk : r.catalogue.LeafTyped) {d : Descriptor} {s : Setting}
    {raw : String} (hraw : s.raw = some raw) {x : Datum}
    (h : answer (convert (some s) d) r = .ok x) : Means r.classes d (some raw) x := by
  cases hresolve : answer (resolve d) r with
  | error fault =>
    rw [(convert_of_not_resolves hresolve (some s)).1] at h
    cases h
  | ok held =>
    obtain ⟨c, hbuild, hlike⟩ := hr.coherent.build_of_resolves hresolve
    rw [(convert_of_resolves hresolve (some s)).1] at h
    have hmeans := hk.sound.build hbuild held.converter hlike s r.bench x h
    rwa [hraw] at hmeans

/-- The editor of lengths of time reads every text, or fails. -/
theorem duration_ne_nothing (text : String) (earlier : List (Option String)) :
    EditorKind.duration.answer (some text :: earlier) ≠ .ok .nothing := by
  intro h
  unfold EditorKind.duration EditorKind.reading at h
  dsimp only at h
  cases hread : Duration.read text with
  | ok span =>
    rw [hread] at h
    cases h
  | error cause =>
    rw [hread] at h
    cases h

/-- In the standard registry it is enough that the classes make objects of their own. -/
theorem leafTyped_standard {u : Universe}
    (hmakers : ∀ c maker, u.makerOf c = some maker → ∀ raw x, maker.make raw = .ok x →
      u.IsInstance x c) : (standard u).catalogue.LeafTyped where
  isLeaf d c h := by
    obtain ⟨entry, hentry, hd, _⟩ := registered_standard (Option.filter_eq_some_iff.mp h).1
    exact isLeaf_builtinScalars _ _ entry hentry d hd
  truth := ⟨.truth, rfl⟩
  registered d c h := by
    obtain ⟨entry, hentry⟩ := registered_standard (Option.filter_eq_some_iff.mp h).1
    exact .inl ⟨_, _, entry, hentry⟩
  edited c kind hkind text earlier h := by
    have hstandard : EditorTable.standard.at? c = some kind := hkind
    simp only [EditorTable.at?, EditorTable.standard, List.find?_singleton] at hstandard
    split at hstandard
    · cases hstandard
      exact duration_ne_nothing text earlier h
    · cases hstandard
  offered c offer hbool h := by
    have hclass : Offer.ofClass u c = some offer := h
    obtain ⟨maker, hmaker, rfl⟩ := Option.map_eq_some_iff.mp hclass
    exact Converter.yields_factory (if_neg hbool) (hmakers c maker hmaker)

/-- In a map of truth values an entry without a value is false. -/
theorem convert_in_meaning_of_map :
    let d : Descriptor :=
      .shape (.cls (.builtin "dict")) [.plain (.builtin "str"), .plain (.builtin "bool")]
    let x : Datum := .map [(.text "a", .bool true), (.text "b", .bool false)]
    answer (convert (some (.ofText (some "a=yes,b"))) d) (standard ⟨[], [], [], []⟩) = .ok x ∧
      Means ⟨[], [], [], []⟩ d (some "a=yes,b") x := by
  intro d x
  have hr : (standard ⟨[], [], [], []⟩).Used := .of_new (cache_standard _)
  have hbuild : (standard ⟨[], [], [], []⟩).catalogue.build d =
      .ok (.map (.collection (.sequence fun _ => []) (.entry .text .truth) .entries)) := by
    have hstr : (standard ⟨[], [], [], []⟩).catalogue.build (.plain (.builtin "str")) =
      .ok .text := Catalogue.build_of_registered rfl
    have hbool : (standard ⟨[], [], [], []⟩).catalogue.build (.plain (.builtin "bool")) =
      .ok .truth := Catalogue.build_of_registered rfl
    have hrecipe : Recipe.of d = .map (.plain (.builtin "str")) (.plain (.builtin "bool")) := rfl
    rw [Catalogue.build_of_map rfl hrecipe, hstr, hbool]
    rfl
  have hanswer : answer (convert (some (.ofText (some "a=yes,b"))) d) (standard ⟨[], [], [], []⟩) =
      .ok x := by
    rw [hr.coherent.answer_convert hbuild ⟨trivial, trivial⟩]
    rfl
  have hk : (standard ⟨[], [], [], []⟩).catalogue.LeafTyped :=
    leafTyped_standard fun c maker h => by cases h
  exact ⟨hanswer, convert_in_meaning hr hk rfl hanswer⟩

end Registry

end SettingText
