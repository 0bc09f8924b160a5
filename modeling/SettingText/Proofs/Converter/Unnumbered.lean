import SettingText.Proofs.Converter.Outcome

/-!
Converters that differ only in the sheets their editors write on. Two of them have the same outcomes
when the answers of the editors depend on the latest text only.
-/

namespace SettingText.Converter

/-- The converter with every editor in it on the first sheet. -/
def unnumbered : Converter → Converter
  | editor target inUse => editor target (inUse.map fun e => ⟨e.kind, 0⟩)
  | collection container inner finish => collection container inner.unnumbered finish
  | entry key value => entry key.unnumbered value.unnumbered
  | map entries => map entries.unnumbered
  | optional base => optional base.unnumbered
  | array element sequence => array element sequence.unnumbered
  | c => c

theorem isPure_unnumbered (c : Converter) : c.unnumbered.IsPure ↔ c.IsPure := by
  induction c with
  | editor target inUse => cases inUse <;> simp [unnumbered, IsPure]
  | collection container inner finish ih => simpa [unnumbered, IsPure] using ih
  | entry key value ihk ihv => simp [unnumbered, IsPure, ihk, ihv]
  | map entries ih => simpa [unnumbered, IsPure] using ih
  | optional base ih => simpa [unnumbered, IsPure] using ih
  | array element sequence ih => simpa [unnumbered, IsPure] using ih
  | _ => simp [unnumbered, IsPure]

/-- Presence is a matter of the outermost form. -/
@[simp] theorem isPresent_unnumbered (c : Converter) : c.unnumbered.isPresent = c.isPresent := by
  cases c <;> rfl

variable {u : Universe} {value : Option Setting}

private theorem outcome_collection_unnumbered {inner : Converter} (h : inner.IsPure)
    (ih : ∀ value, inner.unnumbered.outcome u value = inner.outcome u value)
    (container : Container) (finish : Finish) :
    outcome u (.collection container inner.unnumbered finish) value =
      outcome u (.collection container inner finish) value := by
  have hn := inner.isPure_unnumbered.mpr h
  cases hv : present? value with
  | none => rw [outcome_collection_absent _ _ _ hv, outcome_collection_absent _ _ _ hv]
  | some found =>
    obtain ⟨rfl, hraw⟩ := present?_eq_some.mp hv
    cases container with
    | sequence first => rw [outcome_sequence hn _ _ hraw, outcome_sequence h _ _ hraw]; simp only [ih]
    | set => rw [outcome_set hn _ hraw, outcome_set h _ hraw]; simp only [ih]
    | unfit typeName => rw [outcome, outcome, convert_collection, convert_collection, hv]; rfl

/-- Which sheets the editors write on has no bearing on the outcome. -/
theorem IsPure.outcome_unnumbered {c : Converter} (h : c.IsPure) (value : Option Setting) :
    c.unnumbered.outcome u value = c.outcome u value := by
  induction c generalizing value with
  | editor target inUse =>
    cases inUse with
    | none => rfl
    | some e =>
      change outcome u (.editor target (some ⟨e.kind, 0⟩)) value = _
      cases hv : present? value with
      | none => rw [outcome_editor_absent _ _ hv, outcome_editor_absent _ _ hv]
      | some found =>
        obtain ⟨rfl, hraw⟩ := present?_eq_some.mp hv
        rw [outcome_editor _ _ hraw, outcome_editor _ _ hraw]
  | collection container inner finish ih =>
    exact outcome_collection_unnumbered (isPure_collection.mp h) (ih h) container finish
  | entry key item ihk ihv =>
    have hkn := key.isPure_unnumbered.mpr h.1
    have hvn := item.isPure_unnumbered.mpr h.2
    change outcome u (.entry key.unnumbered item.unnumbered) value = _
    cases hv : present? value with
    | none => rw [outcome_entry_absent _ _ hv, outcome_entry_absent _ _ hv]
    | some found =>
      obtain ⟨rfl, hraw⟩ := present?_eq_some.mp hv
      rw [outcome_entry hkn hvn hraw, outcome_entry h.1 h.2 hraw, ihk h.1]
      simp only [ihv h.2]
  | map entries ih =>
    change outcome u (.map entries.unnumbered) value = _
    rw [outcome_map (entries.isPure_unnumbered.mpr h), outcome_map (isPure_map.mp h), ih h]
  | optional base ih =>
    change outcome u (.optional base.unnumbered) value = _
    cases hv : present? value with
    | none => rw [outcome_optional_absent _ hv, outcome_optional_absent _ hv]
    | some found =>
      obtain ⟨rfl, hraw⟩ := present?_eq_some.mp hv
      rw [outcome_optional _ hraw, outcome_optional _ hraw, ih h]
  | array element sequence ih =>
    change outcome u (.array element sequence.unnumbered) value = _
    rw [outcome_array (sequence.isPure_unnumbered.mpr h), outcome_array (isPure_array.mp h), ih h]
  | _ => rfl

/-- Two converters differ in the sheets of their editors at most. -/
def Alike (c c' : Converter) : Prop := c.unnumbered = c'.unnumbered

theorem Alike.symm {c c' : Converter} (h : Alike c c') : Alike c' c := Eq.symm h

/-- What does not depend on the sheets holds of converters that are alike. -/
theorem Alike.transfer {P : Converter → Prop} (hP : ∀ c, P c.unnumbered ↔ P c) {c c' : Converter}
    (h : Alike c c') (hc : P c) : P c' := by
  rw [← hP, ← h, hP]
  exact hc

theorem Alike.isPure {c c' : Converter} (h : Alike c c') (hp : c.IsPure) : c'.IsPure :=
  h.transfer isPure_unnumbered hp

/-- Converters that differ in their sheets alone have the same outcomes. -/
theorem Alike.outcome_eq {c c' : Converter} (h : Alike c c') (hp : c.IsPure)
    (value : Option Setting) : c.outcome u value = c'.outcome u value := by
  rw [← hp.outcome_unnumbered, ← (h.isPure hp).outcome_unnumbered, h]

/-- What is like a collection is a collection of the same kind. -/
theorem exists_of_alike_collection {c inner : Converter} {container : Container} {finish : Finish}
    (h : Alike c (.collection container inner finish)) :
    ∃ inner', c = .collection container inner' finish ∧ Alike inner' inner := by
  cases c with
  | collection =>
    obtain ⟨rfl, hinner, rfl⟩ := Converter.collection.inj h
    exact ⟨_, rfl, hinner⟩
  | _ => cases h

theorem exists_of_alike_entry {c key value : Converter} (h : Alike c (.entry key value)) :
    ∃ key' value', c = .entry key' value' ∧ Alike key' key ∧ Alike value' value := by
  cases c with
  | entry =>
    obtain ⟨hkey, hvalue⟩ := Converter.entry.inj h
    exact ⟨_, _, rfl, hkey, hvalue⟩
  | _ => cases h

theorem exists_of_alike_map {c entries : Converter} (h : Alike c (.map entries)) :
    ∃ entries', c = .map entries' ∧ Alike entries' entries := by
  cases c with
  | map => exact ⟨_, rfl, Converter.map.inj h⟩
  | _ => cases h

theorem exists_of_alike_optional {c base : Converter} (h : Alike c (.optional base)) :
    ∃ base', c = .optional base' ∧ Alike base' base := by
  cases c with
  | optional => exact ⟨_, rfl, Converter.optional.inj h⟩
  | _ => cases h

theorem exists_of_alike_array {c sequence : Converter} {element : Descriptor}
    (h : Alike c (.array element sequence)) :
    ∃ sequence', c = .array element sequence' ∧ Alike sequence' sequence := by
  cases c with
  | array =>
    obtain ⟨rfl, hsequence⟩ := Converter.array.inj h
    exact ⟨_, rfl, hsequence⟩
  | _ => cases h

theorem eq_className_of_alike {c : Converter} {resolver : NameResolver} {bound : ClassBound}
    {prefixes : List String} (h : Alike c (.className resolver bound prefixes)) :
    c = .className resolver bound prefixes := by
  cases c with
  | className => exact h
  | _ => cases h

/-- What is like an editor in use is one of the same kind for the same class. -/
theorem exists_of_alike_editor {c : Converter} {target : ClassRef} {e : EditorInUse}
    (h : Alike c (.editor target (some e))) :
    ∃ number, c = .editor target (some ⟨e.kind, number⟩) := by
  cases c with
  | editor target' inUse =>
    obtain ⟨rfl, hinUse⟩ := Converter.editor.inj h
    cases inUse with
    | none => cases hinUse
    | some e' =>
      obtain ⟨kind, number⟩ := e'
      have hkind : kind = e.kind := (EditorInUse.mk.inj (Option.some.inj hinUse)).1
      exact ⟨number, by rw [hkind]⟩
  | _ => cases h

end SettingText.Converter
