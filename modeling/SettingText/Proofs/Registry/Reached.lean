import SettingText.Proofs.Registry.Memoization

/-!
Registries in use. However a registry has been used, it converts as its catalogue says.
-/

namespace SettingText.Registry

/-- A registry that was new, and has been used in any way since. -/
def Reached (r : Registry) : Prop :=
  ∃ (new : Registry) (uses : List Use), new.cache = {} ∧ new.catalogue.IsPure ∧
    (∀ use ∈ uses, use.IsPure) ∧ (new.session uses).2 = r

variable {r : Registry}

/-- A new registry has been used in no way yet. -/
theorem Reached.of_new (hnew : r.cache = {}) (hp : r.catalogue.IsPure) : r.Reached :=
  ⟨r, [], hnew, hp, by simp, rfl⟩

theorem Reached.coherent (h : r.Reached) : r.Coherent := by
  obtain ⟨new, uses, hnew, hp, huses, rfl⟩ := h
  have hco := coherent_of_cache_empty hnew
  exact (session_agrees hco hco rfl hp uses huses).2.1

theorem Reached.isPure (h : r.Reached) : r.catalogue.IsPure := by
  obtain ⟨new, uses, hnew, hp, huses, rfl⟩ := h
  have hco := coherent_of_cache_empty hnew
  exact (session_agrees hco hco rfl hp uses huses).2.2

/-- What a registry in use answers when it is to convert a setting. -/
theorem Reached.answer_convert (h : r.Reached) (value : Option Setting) (d : Descriptor) :
    answer (convert value d) r = r.catalogue.outcome value d :=
  Registry.answer_convert h.coherent h.isPure value d

/-- What a type resolves to is like the converter that the catalogue builds for it. -/
theorem Reached.build_of_resolves (h : r.Reached) {d : Descriptor} {held : Held}
    (hheld : answer (resolve d) r = .ok held) :
    ∃ c, r.catalogue.build d = .ok c ∧ held.converter.Alike c :=
  h.coherent.build_of_resolves hheld

/-- A type that the catalogue builds a converter for resolves to one like it. -/
theorem Reached.resolves_of_build (h : r.Reached) {d : Descriptor} {c : Converter}
    (hbuild : r.catalogue.build d = .ok c) :
    ∃ held, answer (resolve d) r = .ok held ∧ held.converter.Alike c :=
  h.coherent.resolves_of_build hbuild

end SettingText.Registry
