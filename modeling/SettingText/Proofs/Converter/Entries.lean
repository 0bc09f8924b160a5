import SettingText.Proofs.Converter.Outcome
import SettingText.Proofs.Entries.Canonical

/-!
Which entries are kept when equal ones are kept once: all of them when no two are equal, and always
some of those there are, as long as they can be compared.
-/

namespace SettingText

def entryItem (pair : Datum × Datum) : Datum := .entry pair.1 pair.2

namespace Datum

variable {pairs result : List (Datum × Datum)}

/-- Items that make entries are kept as these entries are. -/
theorem canonicalEntries_of_entries {items : List Datum} (h : items.mapM toEntry = .ok pairs) :
    canonicalEntries items = Entries.canonical equalEntries pairs := by
  have hrun : ∀ kept, items.foldlM keepEntry kept = pairs.foldlM (Entries.keep equalEntries) kept := by
    have hall := mapM_eq_ok_iff.mp h
    clear h
    induction hall with
    | nil => exact fun kept => rfl
    | @cons item pair _ _ hitem _ ih =>
      intro kept
      have hstep : keepEntry kept item = Entries.keep equalEntries kept pair := by
        rw [keepEntry, hitem]
        rfl
      rw [List.foldlM_cons, List.foldlM_cons, hstep]
      exact bind_congr ih
  exact hrun []

theorem mapM_toEntry (pairs : List (Datum × Datum)) : (pairs.map entryItem).mapM toEntry = .ok pairs := by
  rw [mapM_eq_ok_iff, List.forall₂_map_left_iff]
  exact List.forall₂_same.mpr fun _ _ => rfl

theorem canonicalEntries_entryItem (pairs : List (Datum × Datum)) :
    canonicalEntries (pairs.map entryItem) = Entries.canonical equalEntries pairs :=
  canonicalEntries_of_entries (mapM_toEntry pairs)

/-- Entries of which no two are equal are all kept. -/
theorem canonicalEntries_of_distinct (h : pairs.Pairwise fun a b => equalEntries a b = .ok false) :
    canonicalEntries (pairs.map entryItem) = .ok pairs :=
  (canonicalEntries_entryItem pairs).trans (Entries.canonical_of_distinct h)

/-- No two of the entries that are kept are equal. -/
theorem distinct_of_canonicalEntries (h : canonicalEntries (pairs.map entryItem) = .ok result) :
    result.Pairwise fun a b => equalEntries a b = .ok false :=
  Entries.distinct_of_canonical ((canonicalEntries_entryItem pairs).symm.trans h)

/-- The entries that are kept are among those there are. -/
theorem subset_of_canonicalEntries (h : canonicalEntries (pairs.map entryItem) = .ok result) :
    result ⊆ pairs :=
  (Entries.sublist_of_canonical ((canonicalEntries_entryItem pairs).symm.trans h)).subset

/-- Entries that are kept are all kept once more. -/
theorem canonicalEntries_of_canonicalEntries (h : canonicalEntries (pairs.map entryItem) = .ok result) :
    canonicalEntries (result.map entryItem) = .ok result :=
  canonicalEntries_of_distinct (distinct_of_canonicalEntries h)

/-- Entries that can be compared with one another do not fail. -/
theorem canonicalEntries_of_comparable (h : ∀ a ∈ pairs, ∀ b ∈ pairs, ∃ t, equalEntries a b = .ok t) :
    ∃ result, canonicalEntries (pairs.map entryItem) = .ok result := by
  rw [canonicalEntries_entryItem]
  exact Entries.exists_canonical h

end Datum

/-- The entries a collection of entries is finished with. -/
theorem Finish.apply_entries {pairs result : List (Datum × Datum)}
    (h : Datum.canonicalEntries (pairs.map entryItem) = .ok result) :
    Finish.apply .entries false (pairs.map entryItem) = .ok (.tuple (result.map entryItem)) := by
  rw [Finish.apply, h]
  rfl

/-- The map that a tuple of entries becomes. -/
theorem result_mapOfItems_tuple {pairs result : List (Datum × Datum)}
    (h : Datum.canonicalEntries (pairs.map entryItem) = .ok result) :
    (mapOfItems (.tuple (pairs.map entryItem))).result = .ok (.map result) := by
  have hitems : (Datum.tuple (pairs.map entryItem)).items >>= Datum.canonicalEntries = .ok result := h
  rw [mapOfItems, hitems]
  · rfl
  · exact Datum.noConfusion

namespace Entries

/-- Whatever it means that two entries are equal, as long as no comparison fails: the entries that are kept
stand in their order, none of them equals one before it, and every entry is kept or equals a kept one that
stands before it. Keeping once more changes nothing, nor does keeping the first part alone before the second
is looked at, nor, where equality chains, keeping the second part alone. So it is for the entries that items
make, and a map may keep once more what the collection of its entries has kept. -/
theorem canonical_keeps_first {ε α : Type} {same : α → α → Except ε Bool} {entries : List α}
    (hcomparable : Comparable same entries) :
    (∃ kept, canonical same entries = .ok kept ∧ kept.Sublist entries ∧ Distinct same kept ∧
        (∀ before entry after, entries = before ++ entry :: after →
          ∃ earlier, canonical same before = .ok earlier ∧
            (earlier ++ [entry] <+: kept ∨
              earlier <+: kept ∧ ∃ a ∈ earlier, same a entry = .ok true)) ∧
        canonical same kept = .ok kept) ∧
      (∀ xs ys, entries = xs ++ ys →
        canonical same entries = canonical same xs >>= fun kept => canonical same (kept ++ ys)) ∧
      (Chains same entries → ∀ xs ys, entries = xs ++ ys →
        canonical same entries = canonical same ys >>= fun kept => canonical same (xs ++ kept)) ∧
      (∀ items pairs, items.mapM Datum.toEntry = .ok pairs →
        Datum.canonicalEntries items = canonical Datum.equalEntries pairs) ∧
      ∀ pairs kept, canonical Datum.equalEntries pairs = .ok kept →
        Finish.apply .entries false (pairs.map entryItem) = .ok (.tuple (kept.map entryItem)) ∧
          (mapOfItems (.tuple (kept.map entryItem))).result = .ok (.map kept) := by
  obtain ⟨kept, hkept⟩ := exists_canonical hcomparable
  have hdistinct := distinct_of_canonical hkept
  refine ⟨⟨kept, hkept, sublist_of_canonical hkept, hdistinct, ?_, canonical_of_distinct hdistinct⟩,
    ?_, ?_, fun items pairs => Datum.canonicalEntries_of_entries, ?_⟩
  · rintro before entry after rfl
    exact prefix_of_canonical hkept
  · rintro xs ys rfl
    exact canonical_append_left xs ys
  · rintro hchains xs ys rfl
    exact canonical_append_right hcomparable hchains
  · intro pairs kept h
    have hpairs := (Datum.canonicalEntries_entryItem pairs).trans h
    exact ⟨Finish.apply_entries hpairs,
      result_mapOfItems_tuple (Datum.canonicalEntries_of_canonicalEntries hpairs)⟩

/-- An entry of an undefined number, which does not equal itself, is kept twice, and one of a text once. -/
theorem canonical_keeps_first_of_undefined :
    let undefined : Datum × Datum := (.float .nan, .text "1")
    let word : Datum × Datum := (.text "a", .text "1")
    let entries := [word, undefined] ++ [word, undefined, word]
    let same := Datum.equalEntries
    Comparable same entries ∧ Chains same entries ∧
      canonical same entries = .ok [word, undefined, undefined] ∧
      (∃ kept, canonical same entries = .ok kept ∧ canonical same kept = .ok kept) ∧
      (canonical same entries = canonical same [word, undefined] >>= fun kept =>
        canonical same (kept ++ [word, undefined, word])) ∧
      canonical same entries = canonical same [word, undefined, word] >>= fun kept =>
        canonical same ([word, undefined] ++ kept) := by
  intro undefined word entries same
  have hmem {e : Datum × Datum} (he : e ∈ entries) : e = word ∨ e = undefined := by
    simpa [entries, or_comm, or_left_comm] using he
  have hcomparable : Comparable same entries := by
    intro a ha b hb
    obtain rfl | rfl := hmem ha <;> obtain rfl | rfl := hmem hb <;> exact ⟨_, rfl⟩
  have hchains : Chains same entries := by
    intro a ha b hb c hc hab hbc
    obtain rfl | rfl := hmem ha <;> obtain rfl | rfl := hmem hb
    · exact hbc
    · cases hab
    · cases hab
    · exact hbc
  obtain ⟨⟨kept, hkept, _, _, _, hagain⟩, hleft, hright, _⟩ := canonical_keeps_first hcomparable
  exact ⟨hcomparable, hchains, rfl, ⟨kept, hkept, hagain⟩, hleft _ _ rfl, hright hchains _ _ rfl⟩

end Entries

namespace Converter

variable {u : Universe} {key value : Converter} {s : Setting} {raw : String}

/-- What an entry converter makes of fragments are entries. -/
theorem exists_pairs (hk : key.IsPure) (hv : value.IsPure) {texts : List String} {items : List Datum}
    (h : texts.mapM (fun text => outcome u (.entry key value) (some (s.child (some text)))) =
      .ok items) : ∃ pairs : List (Datum × Datum), items = pairs.map entryItem := by
  have hall := mapM_eq_ok_iff.mp h
  clear h
  induction hall with
  | nil => exact ⟨[], rfl⟩
  | cons hentry _ ih =>
    obtain ⟨pairs, rfl⟩ := ih
    rw [outcome_entry hk hv (Setting.child_raw s _)] at hentry
    obtain ⟨a, _, hentry⟩ := bind_eq_ok_iff.mp hentry
    obtain ⟨b, _, hentry⟩ := bind_eq_ok_iff.mp hentry
    cases hentry
    exact ⟨(a, b) :: pairs, rfl⟩

/-- A map keeps each of its entries once. -/
theorem outcome_map_of_ok (hk : key.IsPure) (hv : value.IsPure) (h : s.raw = some raw)
    {pairs result : List (Datum × Datum)}
    (hpairs : ((itemTexts raw).mapM fun text =>
      outcome u (.entry key value) (some (s.child (some text)))) = .ok (pairs.map entryItem))
    (hresult : Datum.canonicalEntries (pairs.map entryItem) = .ok result) :
    outcome u (.map (.collection (.sequence fun _ => []) (.entry key value) .entries)) (some s) =
      .ok (.map result) := by
  have hp : (Converter.entry key value).IsPure := ⟨hk, hv⟩
  rw [outcome_map (isPure_collection.mpr hp), outcome_sequence hp _ _ h, hpairs]
  change (Finish.apply .entries false (pairs.map entryItem)).mapError Fault.stray >>= _ = _
  rw [Finish.apply_entries hresult]
  exact result_mapOfItems_tuple (Datum.canonicalEntries_of_canonicalEntries hresult)

/-- A map fails as its first failing entry does. -/
theorem outcome_map_of_error (hk : key.IsPure) (hv : value.IsPure) (h : s.raw = some raw)
    {fault : Fault}
    (hfault : ((itemTexts raw).mapM fun text =>
      outcome u (.entry key value) (some (s.child (some text)))) = .error fault) :
    outcome u (.map (.collection (.sequence fun _ => []) (.entry key value) .entries)) (some s) =
      .error fault := by
  have hp : (Converter.entry key value).IsPure := ⟨hk, hv⟩
  rw [outcome_map (isPure_collection.mpr hp), outcome_sequence hp _ _ h, hfault]
  rfl

end Converter

end SettingText
