import SettingText.Proofs.Converter.Ensures
import SettingText.Proofs.Converter.Unnumbered
import SettingText.Proofs.Meaning.Basic
import SettingText.Registry.Basic

/-!
Converters of leaf types: what it takes for one to give objects of its class, and that those every
program starts with do.
-/

namespace SettingText

variable {u : Universe} {d : Descriptor} {s : Setting} {x : Datum}

theorem Universe.isSubclass_self (u : Universe) (c : ClassRef) : u.isSubclass c c = true := by
  have hmem : c ∈ u.lineage c := by
    unfold lineage
    split <;> simp
  simp [isSubclass, hmem]

/-- A value belongs to its own class. -/
theorem Universe.isInstance_of_classOf (u : Universe) {c : ClassRef} (h : x.classOf = c) :
    u.IsInstance x c := by
  rw [IsInstance, h]
  exact u.isSubclass_self c

theorem Universe.isInstance_object (u : Universe) (x : Datum) : u.IsInstance x .object := by
  simp [IsInstance, isSubclass]

/-- A value of the class of the type, or, for an absent setting, the blank of the type. -/
def LeafValue (u : Universe) (d : Descriptor) (s : Setting) (x : Datum) : Prop :=
  u.IsInstance x d.rawClass ∨ s.raw = none ∧ x = d.blank

theorem LeafValue.means (hd : d.IsLeaf) (h : LeafValue u d s x) : Means u d s.raw x := by
  obtain h | ⟨hraw, rfl⟩ := h
  · exact .leaf hd h
  · rw [hraw]
    exact .absent d

/-- Whatever sheets its editors write on, the converter gives an object of the class of the type, or
for an absent setting the blank of the type. -/
def Converter.Yields (u : Universe) (d : Descriptor) (c : Converter) : Prop :=
  ∀ c' : Converter, c'.Alike c → ∀ s : Setting, (c'.convert u (some s)).Ensures (LeafValue u d s)

namespace Converter

/-- A parser gives nothing for an absent setting, and else what it makes of the text. -/
theorem eq_of_parsed {target : Option String} {parse : String → Except Fault Datum}
    (h : parsed target parse (some s) = .ok x) :
    (s.raw = none ∧ x = .nothing) ∨ ∃ raw, s.raw = some raw ∧ parse raw = .ok x := by
  unfold parsed at h
  split at h
  · next habsent =>
    cases h
    exact .inl ⟨by simpa [present?] using habsent, rfl⟩
  · next setting raw hpresent =>
    obtain ⟨hs, hraw⟩ := present?_eq_some.mp hpresent
    cases hs
    unfold attributed at h
    split at h
    · cases h
    · exact .inr ⟨raw, hraw, h⟩

theorem ensures_parsed {target : Option String} {parse : String → Except Fault Datum}
    (hblank : d.blank = .nothing)
    (hparse : ∀ raw x, parse raw = .ok x → u.IsInstance x d.rawClass) (s : Setting) :
    (Work.ofExcept (parsed target parse (some s))).Ensures (LeafValue u d s) := by
  refine Work.ensures_ofExcept fun x hx => ?_
  obtain ⟨hraw, rfl⟩ | ⟨raw, _, hx⟩ := eq_of_parsed hx
  · exact .inr ⟨hraw, hblank.symm⟩
  · exact .inl (hparse raw x hx)

/-- A reader whose results all belong to the class of the type. -/
theorem ensures_parsedBy {target : String} {read : String → Except Cause Datum}
    (hblank : d.blank = .nothing) (hread : ∀ raw x, read raw = .ok x → x.classOf = d.rawClass)
    (s : Setting) : (Work.ofExcept (parsedBy target read (some s))).Ensures (LeafValue u d s) :=
  ensures_parsed hblank
    (fun raw x hx => u.isInstance_of_classOf (hread raw x (mapError_eq_ok_iff.mp hx))) s

/-- A converter that nothing else is like. -/
theorem yields_of_ensures {c : Converter} (hlike : ∀ c' : Converter, c'.Alike c → c' = c)
    (h : ∀ s : Setting, (c.convert u (some s)).Ensures (LeafValue u d s)) : c.Yields u d := by
  intro c' hc' s
  rw [hlike c' hc']
  exact h s

theorem yields_text (h : ∀ text, u.IsInstance (.text text) d.rawClass) (hblank : d.blank = .nothing) :
    Converter.text.Yields u d := by
  refine yields_of_ensures (fun c' h => ?_) fun s => ?_
  · cases c' <;> cases h; rfl
  · refine Work.ensures_pure ?_
    cases hraw : s.raw with
    | none => exact .inr ⟨hraw, by simp [rawOf, hraw, hblank]⟩
    | some raw => exact .inl (by simpa [rawOf, hraw] using h raw)

theorem yields_truth (h : d.rawClass = .builtin "bool") : Converter.truth.Yields u d := by
  refine yields_of_ensures (fun c' h => ?_) fun s => Work.ensures_pure (.inl ?_)
  · cases c' <;> cases h; rfl
  · exact u.isInstance_of_classOf h.symm

/-- A factory that makes objects of a class. -/
theorem yields_factory {label : String} {target : Option String} {make : String → Except Fault Datum}
    (hblank : d.blank = .nothing) (hmake : ∀ raw x, make raw = .ok x → u.IsInstance x d.rawClass) :
    (Converter.factory label target make).Yields u d := by
  refine yields_of_ensures (fun c' h => ?_) (ensures_parsed hblank hmake)
  cases c' <;> cases h; rfl

end Converter

open Converter

/-- The converters every program starts with give objects of the classes of their types. -/
theorem Registry.yields_builtinScalars (u : Universe) (resolver : NameResolver)
    (prefixes : List String) :
    ∀ entry ∈ builtinScalars resolver prefixes, ∀ d ∈ entry.1, entry.2.Yields u d := by
  simp only [builtinScalars, List.forall_mem_cons, List.not_mem_nil, false_implies, implies_true,
    and_true]
  refine ⟨⟨yields_text (fun _ => u.isInstance_of_classOf rfl) rfl,
    yields_text (fun _ => u.isInstance_object _) rfl⟩, yields_truth rfl, ?_, ?_, ?_, ?_, ?_, ?_⟩
  all_goals
    refine yields_of_ensures (fun c' h => by cases c' <;> cases h; rfl) fun s =>
      ensures_parsedBy rfl (fun raw x hx => ?_) s
  · obtain ⟨c, _, rfl⟩ := map_eq_ok_iff.mp (mapError_eq_ok_iff.mp hx)
    rfl
  · obtain ⟨level, _, rfl⟩ := map_eq_ok_iff.mp (mapError_eq_ok_iff.mp hx)
    rfl
  · obtain ⟨moment, _, rfl⟩ := map_eq_ok_iff.mp hx
    rfl
  · obtain ⟨date, _, rfl⟩ := map_eq_ok_iff.mp (mapError_eq_ok_iff.mp hx)
    rfl
  · obtain ⟨clock, _, rfl⟩ := map_eq_ok_iff.mp (mapError_eq_ok_iff.mp hx)
    rfl
  · obtain ⟨_, _, hx⟩ := bind_eq_ok_iff.mp hx
    cases hx
    rfl

end SettingText
