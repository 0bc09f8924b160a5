import SettingText.Proofs.Fragment.Image
import SettingText.Proofs.Nesting.Basic
import SettingText.Proofs.Registry.Used

/-!
What can come of converting a text to a list of entries of texts: exactly the entries that can be
joined.
-/

namespace SettingText

open Fragment

/-- The type of lists of entries of texts. -/
def Nesting.textEntries : Nesting := .sequence .list (.entry (.leaf .str) (.leaf .str))

/-- An entry of texts, with nothing for a value that is not there. -/
def textEntry (e : String × Option String) : Datum :=
  .entry (.text e.1) ((e.2.map .text).getD .nothing)

theorem textEntry_injective : Function.Injective textEntry := by
  rintro ⟨key, value⟩ ⟨key', value'⟩ h
  obtain ⟨hkey, hvalue⟩ := Datum.entry.inj h
  cases hkey
  cases value <;> cases value' <;> cases hvalue <;> rfl

namespace Converter

variable {u : Universe} {s : Setting} {raw : String}

/-- An entry of texts is what the setting is cut into. -/
theorem outcome_entry_text (h : s.raw = some raw) :
    outcome u (.entry .text .text) (some s) = .ok (textEntry (entryTexts raw)) := by
  have htext : Converter.text.IsPure := trivial
  rw [outcome_entry htext htext h, outcome_text, outcome_text]
  rfl

/-- A list of entries of texts is what the setting is cut into twice. -/
theorem outcome_list_entry_text (h : s.raw = some raw) :
    outcome u (.collection (.sequence fun _ => []) (.entry .text .text) .asIs) (some s) =
      .ok (.list (((itemTexts raw).map entryTexts).map textEntry)) := by
  have hitems : ((itemTexts raw).mapM fun text =>
      outcome u (.entry .text .text) (some (s.child (some text)))) =
        .ok (((itemTexts raw).map entryTexts).map textEntry) := by
    rw [mapM_eq_ok_iff, List.map_map, List.forall₂_map_right_iff, List.forall₂_same]
    exact fun text _ => outcome_entry_text (Setting.child_raw s _)
  have hentry : (Converter.entry .text .text).IsPure := ⟨trivial, trivial⟩
  rw [outcome_sequence hentry _ _ h, hitems]
  rfl

end Converter

namespace Registry

variable {r : Registry}

/-- A coherent registry that reads texts as they are cuts a setting into a list of entries of texts. -/
theorem Coherent.answer_convert_textEntries (hr : r.Coherent) (hn : r.NothingNested)
    (hstr : r.catalogue.converter? LeafType.str.descriptor = some .text) {s : Setting} {raw : String}
    (h : s.raw = some raw) :
    answer (convert (some s) Nesting.textEntries.descriptor) r =
      .ok (.list (((itemTexts raw).map entryTexts).map textEntry)) := by
  have hbuild : r.catalogue.build Nesting.textEntries.descriptor =
      .ok (Nesting.textEntries.converter fun _ => .text) := by
    refine Nesting.build_descriptor hn _ fun d hd => ?_
    have hd : d = .str := by simpa [Nesting.textEntries, Nesting.leaves] using hd
    rw [hd]
    exact Catalogue.build_of_registered hstr
  rw [hr.answer_convert hbuild ⟨trivial, trivial⟩]
  exact Converter.outcome_list_entry_text h

/-- Texts are what some text is cut into exactly when none but the last ends with a backslash and the
last is not empty. Entries of texts are what some setting is converted to exactly when no key in front
of a value and no entry but the last ends with a backslash, and the last is not empty. -/
theorem exists_text_of_iff (hr : r.Used) (hn : r.NothingNested)
    (hstr : r.catalogue.converter? LeafType.str.descriptor = some .text) :
    (∀ texts : List String, (∃ text, Fragment.split "," .every text = texts) ↔
        (∀ text ∈ texts.dropLast, ¬EndsEscaping text) ∧ texts.getLast? ≠ some "") ∧
      ∀ entries : List (String × Option String),
        (∃ raw, answer (convert (some (.ofText (some raw))) Nesting.textEntries.descriptor) r =
            .ok (.list (entries.map textEntry))) ↔
          EntriesJoinable entries := by
  refine ⟨fun texts => exists_split_eq_iff (d := ',') (by decide), fun entries => ?_⟩
  rw [← exists_entryTexts_eq_iff]
  refine exists_congr fun raw => ?_
  rw [hr.coherent.answer_convert_textEntries hn hstr rfl, Except.ok.injEq, Datum.list.injEq,
    (List.map_injective_iff.mpr textEntry_injective).eq_iff]

/-- In a new registry, a key before a value cannot end with a backslash, and one without a value can. -/
theorem exists_text_of_standard :
    (¬∃ raw, answer (convert (some (.ofText (some raw))) Nesting.textEntries.descriptor)
        (standard ⟨[], [], [], []⟩) = .ok (.list ([("a\\", some "b")].map textEntry))) ∧
      ∃ raw, answer (convert (some (.ofText (some raw))) Nesting.textEntries.descriptor)
        (standard ⟨[], [], [], []⟩) = .ok (.list ([("a\\", none)].map textEntry)) := by
  have himage := (exists_text_of_iff (r := standard ⟨[], [], [], []⟩) (.of_new (cache_standard _))
    (nothingNested_standard _) rfl).2
  rw [himage, himage]
  constructor
  · simp [EntriesJoinable, EndsEscaping, escapeChar]
  · simp [EntriesJoinable]

end Registry

end SettingText
