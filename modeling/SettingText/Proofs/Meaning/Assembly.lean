import SettingText.Proofs.Converter.Entries
import SettingText.Proofs.Meaning.Leaf

/-!
Putting converters together, one way after the other: when the converters of the components give only
what is in the meaning of their types, so does the converter of the type.
-/

namespace SettingText

namespace Converter

/-- Whatever sheets its editors write on, the converter gives what is in the meaning of the type. -/
def Sound (u : Universe) (d : Descriptor) (c : Converter) : Prop :=
  ∀ c' : Converter, c'.Alike c → ∀ s : Setting, (c'.convert u (some s)).Ensures (Means u d s.raw)

variable {u : Universe} {d : Descriptor} {c : Converter}

/-- A converter of objects of a class is sound for a leaf type of that class. -/
theorem Yields.sound (h : c.Yields u d) (hd : d.IsLeaf) : c.Sound u d :=
  fun c' hlike s => (h c' hlike s).mono fun _ hx => hx.means hd

/-- A reference that is read lies below its bound. -/
theorem isSubclass_of_readClass {resolver : NameResolver} {bound found : ClassRef}
    {prefixes : List String} {raw : String}
    (h : readClass u resolver (.cls bound) prefixes raw = .ok found) :
    u.isSubclass found bound = true := by
  unfold readClass at h
  dsimp only at h
  split at h
  · cases h
  · obtain ⟨named, _, h⟩ := bind_eq_ok_iff.mp h
    unfold checkBound at h
    cases named with
    | other => cases h
    | cls c =>
      dsimp only at h
      split at h
      · cases h
      · split at h
        · next hsub =>
          cases h
          exact hsub
        · cases h

theorem sound_className {bound : ClassRef} (hrecipe : Recipe.of d = .className bound)
    (resolver : NameResolver) (prefixes : List String) :
    Sound u d (.className resolver (.cls bound) prefixes) := by
  intro c' hlike s
  obtain rfl : c' = .className resolver (.cls bound) prefixes := by
    cases c' <;> cases hlike; rfl
  refine Work.ensures_ofExcept fun x hx => ?_
  have hkind := Recipe.kind_of d
  rw [hrecipe] at hkind
  obtain ⟨hraw, rfl⟩ | ⟨raw, hraw, hx⟩ := eq_of_parsed hx
  · rw [hraw]
    exact .nothing_of_recipe (by simp [hrecipe])
  · obtain ⟨found, hfound, rfl⟩ := map_eq_ok_iff.mp
      (mapError_eq_ok_iff.mp (mapError_eq_ok_iff.mp hx))
    rw [hraw]
    cases hkind with
    | className bound rest hd hargs => exact .reference hd hargs (isSubclass_of_readClass hfound)

theorem sound_optional {base : Descriptor} {inner : Converter}
    (hrecipe : Recipe.of d = .optional base) (h : inner.Sound u base) :
    Sound u d (.optional inner) := by
  intro c' hlike s
  obtain ⟨inner', rfl, hinner⟩ := exists_of_alike_optional hlike
  have hkind := Recipe.kind_of d
  rw [hrecipe] at hkind
  rw [convert_optional]
  cases hraw : s.raw with
  | none =>
    rw [present?_of_absent hraw]
    exact Work.ensures_pure (.nothing_of_recipe (by simp [hrecipe]))
  | some raw =>
    rw [present?_of_raw hraw]
    cases hkind with
    | optional base rest =>
      refine (h inner' hinner s).mono fun x hx => ?_
      rw [hraw] at hx
      exact .optional hx

/-- What a converter that is sound for the element type makes of a fragment. -/
theorem Sound.ensures_child {inner : Converter} (h : c.Sound u d) (hlike : inner.Alike c)
    (s : Setting) (text : String) :
    (inner.convert u (some (s.child (some text)))).Ensures (Means u d (some text)) :=
  h inner hlike (s.child (some text))

section

variable {inner : Converter} {finish : Finish} {R : String → Datum → Prop} {s : Setting}

/-- A sequence gives nothing for no text, and else is finished with what its fragments give. -/
theorem ensures_sequence
    (h : ∀ text, (inner.convert u (some (s.child (some text)))).Ensures (R text)) :
    (convert u (.collection (.sequence fun _ => []) inner finish) (some s)).Ensures fun x =>
      (s.raw = none ∧ x = .nothing) ∨ ∃ (raw : String) (parts : List (String × Datum)),
        s.raw = some raw ∧ parts.map (·.1) = itemTexts raw ∧ (∀ p ∈ parts, R p.1 p.2) ∧
          finish.apply false (parts.map (·.2)) = .ok x := by
  rw [convert_collection]
  cases hraw : s.raw with
  | none =>
    rw [present?_of_absent hraw]
    exact Work.ensures_pure (.inl ⟨rfl, rfl⟩)
  | some raw =>
    rw [present?_of_raw hraw]
    refine (ensures_gather_sequence h).mono fun x hx => ?_
    obtain ⟨parts, hparts⟩ := hx
    exact .inr ⟨raw, parts, rfl, hparts⟩

/-- A set gives nothing for no text, and else is finished with some of what its fragments give. -/
theorem ensures_set
    (h : ∀ text, (inner.convert u (some (s.child (some text)))).Ensures (R text)) :
    (convert u (.collection .set inner finish) (some s)).Ensures fun x =>
      (s.raw = none ∧ x = .nothing) ∨ ∃ (raw : String) (items : List Datum),
        s.raw = some raw ∧ GatheredFrom R (itemTexts raw) items ∧
          finish.apply true items = .ok x := by
  rw [convert_collection]
  cases hraw : s.raw with
  | none =>
    rw [present?_of_absent hraw]
    exact Work.ensures_pure (.inl ⟨rfl, rfl⟩)
  | some raw =>
    rw [present?_of_raw hraw]
    refine (ensures_gather_set h).mono fun x hx => ?_
    obtain ⟨items, hitems⟩ := hx
    exact .inr ⟨raw, items, rfl, hitems⟩

end

theorem sound_collection {container : Container} {element : Descriptor} {inner : Converter}
    {finish : Finish} (hrecipe : Recipe.of d = .collection container element finish)
    (h : inner.Sound u element) : Sound u d (.collection container inner finish) := by
  intro c' hlike s
  obtain ⟨inner', rfl, hinner⟩ := exists_of_alike_collection hlike
  have hnothing : Means u d none .nothing := .nothing_of_recipe (by simp [hrecipe])
  have hkind := Recipe.kind_of d
  rw [hrecipe] at hkind
  cases hkind with
  | collection hd hc =>
    obtain ⟨rfl, hfinish⟩ | ⟨rfl, hfinish⟩ := Recipe.containers_cases hc
    · refine (ensures_sequence (h.ensures_child hinner s)).mono fun x hx => ?_
      obtain ⟨hraw, rfl⟩ | ⟨raw, parts, hraw, htexts, hparts, hx⟩ := hx
      · rwa [hraw]
      · rw [hraw]
        obtain ⟨hcls, rfl⟩ | ⟨hcls, rfl⟩ := hfinish <;> cases hx
        · exact .list hd hcls htexts hparts
        · exact .tuple hd hcls htexts hparts
    · refine (ensures_set (h.ensures_child hinner s)).mono fun x hx => ?_
      obtain ⟨hraw, rfl⟩ | ⟨raw, items, hraw, ⟨parts, htexts, hparts, hitems⟩, hx⟩ := hx
      · rwa [hraw]
      · rw [hraw]
        obtain ⟨hcls, rfl⟩ | ⟨hcls, rfl⟩ := hfinish <;> cases hx
        · exact .set hd hcls htexts hparts hitems
        · exact .frozenset hd hcls htexts hparts hitems

theorem sound_array {element : Descriptor} {inner : Converter}
    (hrecipe : Recipe.of d = .array element) (h : inner.Sound u element) :
    Sound u d (.array element (.collection (.sequence fun _ => []) inner .asIs)) := by
  intro c' hlike s
  obtain ⟨sequence, rfl, hsequence⟩ := exists_of_alike_array hlike
  obtain ⟨inner', rfl, hinner⟩ := exists_of_alike_collection hsequence
  have hkind := Recipe.kind_of d
  rw [hrecipe] at hkind
  refine (ensures_sequence (h.ensures_child hinner s)).bind fun x hx => ?_
  obtain ⟨hraw, rfl⟩ | ⟨raw, parts, hraw, htexts, hparts, hx⟩ := hx
  · rw [hraw]
    exact Work.ensures_pure (.nothing_of_recipe (by simp [hrecipe]))
  · cases hx
    rw [hraw]
    cases hkind with
    | array element hd hargs => exact Work.ensures_pure (.array hd hargs htexts hparts)

/-- An entry gives nothing for no text, and else an entry of what its halves give. -/
theorem ensures_entry {dk dv : Descriptor} {key value key' value' : Converter}
    (hk : key.Sound u dk) (hv : value.Sound u dv) (hkey : key'.Alike key)
    (hvalue : value'.Alike value) (s : Setting) :
    (convert u (.entry key' value') (some s)).Ensures fun x =>
      (s.raw = none ∧ x = .nothing) ∨ ∃ (raw : String) (k v : Datum), s.raw = some raw ∧
        x = .entry k v ∧ Means u dk (some (entryTexts raw).1) k ∧
          Means u dv (entryTexts raw).2 v := by
  rw [convert_entry]
  cases hraw : s.raw with
  | none =>
    rw [present?_of_absent hraw]
    exact Work.ensures_pure (.inl ⟨rfl, rfl⟩)
  | some raw =>
    rw [present?_of_raw hraw]
    refine (hk.ensures_child hkey s _).bind fun k hk => ?_
    refine (hv value' hvalue (s.child _)).bind fun v hv => Work.ensures_pure ?_
    exact .inr ⟨raw, k, v, rfl, rfl, hk, hv⟩

theorem sound_entry {dk dv : Descriptor} {key value : Converter}
    (hrecipe : Recipe.of d = .entry dk dv) (hk : key.Sound u dk) (hv : value.Sound u dv) :
    Sound u d (.entry key value) := by
  intro c' hlike s
  obtain ⟨key', value', rfl, hkey, hvalue⟩ := exists_of_alike_entry hlike
  have hkind := Recipe.kind_of d
  rw [hrecipe] at hkind
  refine (ensures_entry hk hv hkey hvalue s).mono fun x hx => ?_
  obtain ⟨hraw, rfl⟩ | ⟨raw, k, v, hraw, rfl, hk, hv⟩ := hx
  · rw [hraw]
    exact .nothing_of_recipe (by simp [hrecipe])
  · rw [hraw]
    cases hkind with
    | entry hd => exact .entry hd hk hv

/-- Items that are all entries, apart. -/
theorem exists_pairs_of_items {S : String → Datum × Datum → Prop} {parts : List (String × Datum)}
    (h : ∀ p ∈ parts, ∃ pair, p.2 = entryItem pair ∧ S p.1 pair) :
    ∃ pairs : List (String × Datum × Datum), pairs.map (·.1) = parts.map (·.1) ∧
      (pairs.map (·.2)).map entryItem = parts.map (·.2) ∧ ∀ p ∈ pairs, S p.1 p.2 := by
  induction parts with
  | nil => exact ⟨[], rfl, rfl, by simp⟩
  | cons part rest ih =>
    obtain ⟨⟨pair, hpair, hS⟩, hrest⟩ := List.forall_mem_cons.mp h
    obtain ⟨pairs, htexts, hitems, hpairs⟩ := ih hrest
    refine ⟨(part.1, pair) :: pairs, ?_, ?_, List.forall_mem_cons.mpr ⟨hS, hpairs⟩⟩
    · simp [htexts]
    · rw [List.map_cons, List.map_cons, hitems, ← hpair, List.map_cons]

/-- A map of entries that are kept keeps each of them. -/
theorem ensures_mapOfItems {pairs result : List (Datum × Datum)}
    (h : Datum.canonicalEntries (pairs.map entryItem) = .ok result) :
    (mapOfItems (.tuple (result.map entryItem))).Ensures (· = .map result) := by
  rw [mapOfItems]
  · refine (Work.ensures_ofCause fun kept hkept => ?_).bind fun kept hkept =>
      Work.ensures_pure (congrArg Datum.map hkept)
    have hagain : Datum.canonicalEntries (result.map entryItem) = .ok kept := hkept
    rw [Datum.canonicalEntries_of_canonicalEntries h] at hagain
    exact (Except.ok.inj hagain).symm
  · exact Datum.noConfusion

/-- The two halves of an entry are in the meanings of the types of keys and values. -/
def EntryMeans (u : Universe) (dk dv : Descriptor) (text : String) (pair : Datum × Datum) : Prop :=
  Means u dk (some (entryTexts text).1) pair.1 ∧ Means u dv (entryTexts text).2 pair.2

theorem sound_map {dk dv : Descriptor} {key value : Converter}
    (hrecipe : Recipe.of d = .map dk dv) (hk : key.Sound u dk) (hv : value.Sound u dv) :
    Sound u d (.map (.collection (.sequence fun _ => []) (.entry key value) .entries)) := by
  intro c' hlike s
  obtain ⟨entries, rfl, hentries⟩ := exists_of_alike_map hlike
  obtain ⟨inner, rfl, hinner⟩ := exists_of_alike_collection hentries
  obtain ⟨key', value', rfl, hkey, hvalue⟩ := exists_of_alike_entry hinner
  have hitem : ∀ text, (convert u (.entry key' value') (some (s.child (some text)))).Ensures
      fun x => ∃ pair, x = entryItem pair ∧ EntryMeans u dk dv text pair := by
    intro text
    refine (ensures_entry hk hv hkey hvalue (s.child (some text))).mono fun x hx => ?_
    obtain ⟨hraw, _⟩ | ⟨raw, k, v, hraw, rfl, hk, hv⟩ := hx
    · cases hraw
    · cases hraw
      exact ⟨(k, v), rfl, hk, hv⟩
  have hkind := Recipe.kind_of d
  rw [hrecipe] at hkind
  refine (ensures_sequence hitem).bind fun x hx => ?_
  obtain ⟨hraw, rfl⟩ | ⟨raw, parts, hraw, htexts, hparts, hx⟩ := hx
  · rw [hraw]
    exact Work.ensures_pure (.nothing_of_recipe (by simp [hrecipe]))
  · -- The entries are kept once as they are gathered and once again for the map; the second time
    -- changes nothing.
    obtain ⟨pairs, hpairTexts, hitems, hpairs⟩ := exists_pairs_of_items hparts
    rw [← hitems] at hx
    obtain ⟨result, hresult, hx⟩ := bind_eq_ok_iff.mp hx
    cases hx
    refine (ensures_mapOfItems hresult).mono fun y hy => ?_
    rw [hy, hraw]
    cases hkind with
    | map hd hc =>
      exact .map hd hc (hpairTexts.trans htexts) (fun p hp => (hpairs p hp).1)
        (fun p hp => (hpairs p hp).2) (Datum.subset_of_canonicalEntries hresult)
        (Datum.distinct_of_canonicalEntries hresult)

end Converter

end SettingText
