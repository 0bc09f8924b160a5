import SettingText.Proofs.Registry.Session

/-!
The registry every program starts with, as a catalogue: the converters every program starts with are
registered for their types, and nothing else is.
-/

namespace SettingText

namespace Catalogue

variable {k : Catalogue}

/-- The catalogue with one converter registered for several types. -/
def registerAmong (k : Catalogue) (types : List Descriptor) (c : Converter) : Catalogue :=
  types.foldl (fun k d => k.register d c) k

def registerAll (k : Catalogue) (table : List (List Descriptor × Converter)) : Catalogue :=
  table.foldl (fun k (types, c) => k.registerAmong types c) k

theorem IsPure.registerAmong (h : k.IsPure) (types : List Descriptor) {c : Converter}
    (hc : c.IsPure) : (k.registerAmong types c).IsPure := by
  induction types generalizing k with
  | nil => exact h
  | cons d rest ih => exact ih (h.register d hc)

theorem IsPure.registerAll (h : k.IsPure) {table : List (List Descriptor × Converter)}
    (ht : ∀ entry ∈ table, entry.2.IsPure) : (k.registerAll table).IsPure := by
  induction table generalizing k with
  | nil => exact h
  | cons entry rest ih =>
    exact ih (h.registerAmong entry.1 (ht entry (by simp))) fun e he => ht e (by simp [he])

/-- Registering for several types leaves everything but the registrations as it is. -/
theorem registerAmong_eq (k : Catalogue) (types : List Descriptor) (c : Converter) :
    k.registerAmong types c =
      { k with registered := fun d => if d ∈ types then some c else k.registered d } := by
  induction types generalizing k with
  | nil => simp [registerAmong]
  | cons d rest ih =>
    have hstep : k.registerAmong (d :: rest) c = (k.register d c).registerAmong rest c := rfl
    rw [hstep, ih]
    simp only [register, Catalogue.mk.injEq, true_and, and_true]
    funext e
    by_cases hrest : e ∈ rest
    · simp [hrest]
    · by_cases hed : e = d
      · simp [hed, Function.update_self]
      · simp [hrest, hed]

/-- What is registered behind a table is in the table, or was registered before. -/
theorem registered_registerAll {table : List (List Descriptor × Converter)} {d : Descriptor}
    {c : Converter} (h : (k.registerAll table).registered d = some c) :
    (∃ entry ∈ table, d ∈ entry.1 ∧ entry.2 = c) ∨ k.registered d = some c := by
  induction table generalizing k with
  | nil => exact .inr h
  | cons entry rest ih =>
    obtain ⟨e, he, hd⟩ | hk := ih h
    · exact .inl ⟨e, by simp [he], hd⟩
    · dsimp only at hk
      rw [registerAmong_eq] at hk
      dsimp only at hk
      split at hk
      · next hmem => exact .inl ⟨entry, by simp, hmem, Option.some.inj hk⟩
      · exact .inr hk

end Catalogue

namespace Registry

theorem catalogue_shareAmong (r : Registry) (types : List Descriptor) (c : Converter) :
    (r.shareAmong types c).catalogue = r.catalogue.registerAmong types c := by
  rw [Catalogue.registerAmong_eq]
  simp only [shareAmong, hold, catalogue, Catalogue.mk.injEq, true_and, and_true]
  funext d
  generalize r.scalars = shelf
  induction types generalizing shelf with
  | nil => simp
  | cons e rest ih =>
    rw [List.foldl_cons, ih]
    by_cases hde : d = e
    · subst hde
      simp [Shelf.find?_put_same]
    · simp [hde, Shelf.find?_put_other _ hde]

theorem catalogue_withBuiltins (r : Registry) :
    r.withBuiltins.catalogue = r.catalogue.registerAll (builtinScalars r.resolver r.prefixes) := by
  rw [withBuiltins]
  generalize builtinScalars r.resolver r.prefixes = table
  induction table generalizing r with
  | nil => rfl
  | cons entry rest ih =>
    rw [List.foldl_cons, ih, catalogue_shareAmong]
    rfl

/-- No converter that every program starts with uses an editor. -/
theorem isPure_builtinScalars (resolver : NameResolver) (prefixes : List String) :
    ∀ entry ∈ builtinScalars resolver prefixes, entry.2.IsPure := by
  simp [builtinScalars, Converter.IsPure]

/-- What is offered for a class makes objects from texts and uses no editor. -/
theorem isPure_ofClass {u : Universe} {c : ClassRef} {offer : Offer}
    (h : Offer.ofClass u c = some offer) : offer.converter.IsPure := by
  obtain ⟨maker, _, rfl⟩ := Option.map_eq_some_iff.mp h
  trivial

theorem isPure_standardEditors {c : ClassRef} {kind : EditorKind}
    (h : EditorTable.standard.at? c = some kind) : kind.IsPure := by
  simp only [EditorTable.at?, EditorTable.standard, List.find?_singleton] at h
  split at h
  · cases h
    exact EditorKind.isPure_reading _ _
  · cases h

theorem catalogue_standard (u : Universe) :
    (standard u).catalogue =
      Catalogue.registerAll (catalogue { classes := u })
        (builtinScalars (fun name => (u.resolve name).map .cls) []) :=
  catalogue_withBuiltins _

/-- The editors that the standard registry may come to use answer by the latest text. -/
theorem isPure_standard (u : Universe) : (standard u).catalogue.IsPure := by
  rw [catalogue_standard]
  refine Catalogue.IsPure.registerAll ⟨?_, fun _ _ => isPure_standardEditors, fun _ _ =>
    isPure_ofClass⟩ (isPure_builtinScalars _ _)
  intro d c h
  cases h

theorem cache_withBuiltins (r : Registry) : r.withBuiltins.cache = r.cache := by
  rw [withBuiltins]
  generalize builtinScalars r.resolver r.prefixes = table
  induction table generalizing r with
  | nil => rfl
  | cons entry rest ih =>
    rw [List.foldl_cons, ih]
    rfl

/-- The standard registry is new. -/
theorem cache_standard (u : Universe) : (standard u).cache = {} := cache_withBuiltins _

/-- What the standard registry has registered is among the converters every program starts with. -/
theorem registered_standard {u : Universe} {d : Descriptor} {c : Converter}
    (h : (standard u).catalogue.registered d = some c) :
    ∃ entry ∈ builtinScalars (fun name => (u.resolve name).map .cls) [],
      d ∈ entry.1 ∧ entry.2 = c := by
  rw [catalogue_standard] at h
  obtain h | h := Catalogue.registered_registerAll h
  · exact h
  · cases h

end Registry

end SettingText
