import Mathlib.Data.Set.List
import SettingText.Proofs.Converter.Ensures
import SettingText.Proofs.Datum.Hashable

/-!
Containers told by the list. What a sequence, a set or a map makes of a setting is what a list makes of it,
with the items told in another form: whatever the editors go by, the items are converted in the same order
and with the same texts given before.
-/

namespace SettingText

namespace Work

variable {α β : Type} {b : Bench}

/-- Work that is followed by work that nothing given before has a bearing on. -/
theorem on_bind_steady {w : Work α} {f : α → Work β} (hf : ∀ a, (f a).Steady) (b : Bench) :
    (w >>= f).on b = w.on b >>= fun a => (f a).result := by
  rw [on_bind, on]
  rcases w.run.run b with ⟨outcome, after⟩
  cases outcome with
  | error fault => rfl
  | ok a => exact hf a after

/-- What comes of going through a list before the first step that fails. -/
def results (f : α → Work β) : List α → Bench → List β
  | [], _ => []
  | a :: rest, b =>
    match (f a).run.run b with
    | (.ok x, after) => x :: results f rest after
    | (.error _, _) => []

theorem on_mapM_cons (f : α → Work β) (a : α) (rest : List α) (b : Bench) :
    ((a :: rest).mapM f).on b =
      match (f a).run.run b with
      | (.ok x, after) => ((rest.mapM f).on after).map (x :: ·)
      | (.error fault, _) => .error fault := by
  rw [List.mapM_cons, on_bind]
  rcases (f a).run.run b with ⟨outcome, after⟩
  cases outcome with
  | error fault => rfl
  | ok x =>
    dsimp only
    rw [on_bind_steady fun _ => steady_pure _]
    cases (rest.mapM f).on after <;> rfl

theorem results_of_mapM {f : α → Work β} {items : List α} {found : List β}
    (h : (items.mapM f).on b = .ok found) : results f items b = found := by
  induction items generalizing b found with
  | nil =>
    cases h
    rfl
  | cons a rest ih =>
    rw [on_mapM_cons] at h
    rw [results]
    rcases hrun : (f a).run.run b with ⟨outcome, after⟩
    rw [hrun] at h
    cases outcome with
    | error fault => cases h
    | ok x =>
      obtain ⟨xs, hxs, rfl⟩ := map_eq_ok_iff.mp h
      dsimp only
      rw [ih hxs]

/-- Putting each result away before the next step is done comes to the same as putting the results away
that there are, and doing all the steps if that does not fail. By induction on the list, with what was put
away before. -/
theorem on_foldlM_results {γ : Type} (f : α → Work β) (put : γ → β → Except Cause γ) (items : List α)
    (kept : γ) (b : Bench) :
    (items.foldlM (fun kept a => do ofCause (put kept (← f a))) kept).on b =
      ((results f items b).foldlM put kept).mapError .stray >>= fun all =>
        ((items.mapM f).on b).map fun _ => all := by
  induction items generalizing kept b with
  | nil => rfl
  | cons a rest ih =>
    rw [List.foldlM_cons, on_mapM_cons, results, bind_assoc, on_bind]
    rcases (f a).run.run b with ⟨outcome, after⟩
    cases outcome with
    | error fault => rfl
    | ok x =>
      dsimp only
      rw [List.foldlM_cons]
      cases put kept x with
      | error cause => rfl
      | ok kept' =>
        refine (ih kept' after).trans ?_
        congr 1
        funext all
        cases (rest.mapM f).on after <;> rfl

end Work

namespace Datum

/-- A list with its items told in another form; anything else stays as it is. -/
def retold (form : List Datum → Datum) : Datum → Datum
  | list items => form items
  | d => d

/-- The map of the entries in a list; anything else stays as it is. -/
def entryMap : Datum → Except Fault Datum
  | list items => ((canonicalEntries items).map map).mapError .stray
  | d => .ok d

end Datum

namespace Converter

variable {u : Universe} {inner : Converter} {value : Option Setting} {b : Bench} {finish : Finish}
  {form : List Datum → Datum} {s : Setting} {raw : String}

/-- The converter of a list of what another converter makes. -/
def listOf (inner : Converter) : Converter := .collection (.sequence fun _ => []) inner .asIs

/-- What becomes of the fragments of a setting before the first one that fails. -/
def elements (u : Universe) (inner : Converter) (value : Option Setting) (b : Bench) : List Datum :=
  match present? value with
  | none => []
  | some (s, raw) =>
    Work.results (fun text => inner.convert u (some (s.child (some text)))) (itemTexts raw) b

theorem on_collection_absent (container : Container) (h : present? value = none) :
    ((collection container inner finish).convert u value).on b = .ok .nothing := by
  rw [convert_collection, h]
  rfl

theorem on_sequence_present (h : present? value = some (s, raw)) (finish : Finish) :
    ((collection (.sequence fun _ => []) inner finish).convert u value).on b =
      ((itemTexts raw).mapM fun text => inner.convert u (some (s.child (some text)))).on b >>=
        fun items => (finish.apply false items).mapError .stray := by
  rw [convert_collection, h]
  exact Work.on_bind_steady (fun _ => Work.steady_ofCause _) b

theorem on_listOf_present (h : present? value = some (s, raw)) :
    ((listOf inner).convert u value).on b =
      (((itemTexts raw).mapM fun text => inner.convert u (some (s.child (some text)))).on b).map
        .list := by
  rw [listOf, on_sequence_present h]
  cases ((itemTexts raw).mapM fun text => inner.convert u (some (s.child (some text)))).on b <;> rfl

theorem on_sequence (h : ∀ items, finish.apply false items = .ok (form items)) :
    ((collection (.sequence fun _ => []) inner finish).convert u value).on b =
      (((listOf inner).convert u value).on b).map (Datum.retold form) := by
  cases hv : present? value with
  | none => rw [listOf, on_collection_absent _ hv, on_collection_absent _ hv]; rfl
  | some found =>
    obtain ⟨s, raw⟩ := found
    rw [on_sequence_present hv, on_listOf_present hv]
    cases ((itemTexts raw).mapM fun text => inner.convert u (some (s.child (some text)))).on b with
    | error fault => rfl
    | ok items =>
      change (finish.apply false items).mapError _ = _
      rw [h]
      rfl

theorem on_array (element : Descriptor) :
    ((array element (listOf inner)).convert u value).on b =
      (((listOf inner).convert u value).on b).map (Datum.retold .tuple) := by
  change ((listOf inner).convert u value >>= tupleOfItems).on b = _
  rw [Work.on_bind_steady steady_tupleOfItems]
  cases hv : present? value with
  | none => rw [listOf, on_collection_absent _ hv]; rfl
  | some found =>
    obtain ⟨s, raw⟩ := found
    rw [on_listOf_present hv]
    cases ((itemTexts raw).mapM fun text => inner.convert u (some (s.child (some text)))).on b <;> rfl

theorem eq_of_on_listOf {d : Datum} (h : ((listOf inner).convert u value).on b = .ok d) :
    d = .nothing ∨ d = .list (elements u inner value b) := by
  cases hv : present? value with
  | none =>
    rw [listOf, on_collection_absent _ hv] at h
    cases h
    exact .inl rfl
  | some found =>
    obtain ⟨s, raw⟩ := found
    rw [on_listOf_present hv] at h
    obtain ⟨items, hitems, rfl⟩ := map_eq_ok_iff.mp h
    rw [elements, hv]
    exact .inr (congrArg _ (Work.results_of_mapM hitems).symm)

/-- A set of either kind is the list, told as the set of the elements; when no set can be made of the
elements, that is the fault, even if a later fragment would fail. -/
theorem on_set (h : ∀ items, finish.apply true items = .ok (form items)) :
    ((collection .set inner finish).convert u value).on b =
      (Datum.setOf (elements u inner value b)).mapError .stray >>= fun distinct =>
        (((listOf inner).convert u value).on b).map (Datum.retold fun _ => form distinct) := by
  rw [elements]
  cases hv : present? value with
  | none => rw [listOf, on_collection_absent _ hv, on_collection_absent _ hv]; rfl
  | some found =>
    obtain ⟨s, raw⟩ := found
    rw [convert_collection, hv, on_listOf_present hv]
    refine (Work.on_bind_steady (fun _ => Work.steady_ofCause _) b).trans ?_
    rw [Work.on_foldlM_results, Datum.setOf, bind_assoc]
    congr 1
    funext distinct
    cases ((itemTexts raw).mapM fun text => inner.convert u (some (s.child (some text)))).on b with
    | error fault => rfl
    | ok items =>
      change (finish.apply true distinct).mapError _ = _
      rw [h]
      rfl

theorem ensures_pair {key item : Converter} (h : s.raw = some raw) :
    ((entry key item).convert u (some s)).Ensures fun d => ∃ pair, entryItem pair = d := by
  rw [convert_entry, present?_of_raw h]
  exact (Work.ensures_true _).bind fun k _ => (Work.ensures_true _).bind fun v _ =>
    Work.ensures_pure ⟨(k, v), rfl⟩

/-- What a list holds is what its converter makes of settings with texts, whatever the editors go by. -/
theorem forall_of_on_listOf {P : Datum → Prop}
    (hinner : ∀ s raw, s.raw = some raw → (inner.convert u (some s)).Ensures P) {items : List Datum}
    (h : ((listOf inner).convert u value).on b = .ok (.list items)) : ∀ d ∈ items, P d := by
  cases hv : present? value with
  | none =>
    rw [listOf, on_collection_absent _ hv] at h
    cases h
  | some found =>
    obtain ⟨s, raw⟩ := found
    rw [listOf, convert_collection, hv] at h
    obtain ⟨parts, -, hparts, happly⟩ :=
      ensures_gather_sequence (R := fun _ d => P d)
        (fun text => hinner _ text (Setting.child_raw s (some text))) b _ h
    cases happly
    exact List.forall_mem_map.mpr hparts

/-- What a list of entries holds are entries. -/
theorem exists_pairs_of_on_listOf {key item : Converter} {items : List Datum}
    (h : ((listOf (.entry key item)).convert u value).on b = .ok (.list items)) :
    ∃ pairs : List (Datum × Datum), items = pairs.map entryItem := by
  have hitems : items ∈ Set.range (List.map entryItem) := by
    rw [Set.range_list_map]
    exact forall_of_on_listOf (fun _ _ hraw => ensures_pair hraw) h
  obtain ⟨pairs, hpairs⟩ := hitems
  exact ⟨pairs, hpairs.symm⟩

/-- A map is the list of the entries, told as the map of the entries that differ. Equal entries are left out
twice, and the second time there are none. -/
theorem on_map {key item : Converter} :
    ((map (.collection (.sequence fun _ => []) (.entry key item) .entries)).convert u value).on b =
      ((listOf (.entry key item)).convert u value).on b >>= Datum.entryMap := by
  change (convert u (.collection (.sequence fun _ => []) (.entry key item) .entries) value >>= mapOfItems).on b
    = _
  rw [Work.on_bind_steady steady_mapOfItems]
  cases hv : present? value with
  | none => rw [listOf, on_collection_absent _ hv, on_collection_absent _ hv]; rfl
  | some found =>
    obtain ⟨s, raw⟩ := found
    have hpairs : ∀ items, ((listOf (.entry key item)).convert u value).on b = .ok (.list items) →
        ∃ pairs : List (Datum × Datum), items = pairs.map entryItem :=
      fun items => exists_pairs_of_on_listOf
    rw [on_listOf_present hv] at hpairs ⊢
    rw [on_sequence_present hv]
    cases hitems : ((itemTexts raw).mapM fun text =>
      (entry key item).convert u (some (s.child (some text)))).on b with
    | error fault => rfl
    | ok items =>
      rw [hitems] at hpairs
      obtain ⟨pairs, rfl⟩ := hpairs items rfl
      change (Finish.apply .entries false (pairs.map entryItem)).mapError .stray >>= _ =
        Datum.entryMap (.list (pairs.map entryItem))
      rw [Datum.entryMap]
      cases hresult : Datum.canonicalEntries (pairs.map entryItem) with
      | error cause =>
        rw [Finish.apply, hresult]
        rfl
      | ok result =>
        rw [Finish.apply_entries hresult]
        exact result_mapOfItems_tuple (Datum.canonicalEntries_of_canonicalEntries hresult)

end Converter

end SettingText
