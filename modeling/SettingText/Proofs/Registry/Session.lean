import SettingText.Proofs.Registry.Coherence

/-!
Sessions: uses of one registry, one after the other. A coherent registry replies to every use as its
catalogue says, and stays coherent, so what a session replies hangs on the registrations alone.
-/

namespace SettingText

/-- Every editor that a converter may come to use answers by the latest text only. -/
structure Catalogue.IsPure (k : Catalogue) : Prop where
  registered : ∀ d c, k.registered d = some c → c.IsPure
  editors : ∀ c kind, k.editors.at? c = some kind → kind.IsPure
  offered : ∀ c offer, k.fallback c = some offer → offer.converter.IsPure

namespace Catalogue

variable {k : Catalogue}

theorem IsPure.keeps (h : k.IsPure) : k.Keeps Converter.IsPure where
  registered hc := h.registered _ _ (Option.filter_eq_some_iff.mp hc).1
  edited hkind := by
    obtain ⟨c, _, hc⟩ := List.exists_of_findSome?_eq_some hkind
    rintro e he
    cases he
    exact h.editors c _ hc
  offered hoffer := h.offered _ _ hoffer
  className _ := trivial
  optional hbase := hbase
  array hinner := hinner
  entry hkey hvalue := ⟨hkey, hvalue⟩
  map hkey hvalue := ⟨hkey, hvalue⟩
  collection _ hinner := hinner

/-- The catalogue with a converter registered for a type. -/
def register (k : Catalogue) (d : Descriptor) (c : Converter) : Catalogue :=
  { k with registered := Function.update k.registered d (some c) }

/-- The catalogue with nothing registered for a type. -/
def unregister (k : Catalogue) (d : Descriptor) : Catalogue :=
  { k with registered := Function.update k.registered d none }

theorem IsPure.register (h : k.IsPure) (d : Descriptor) {c : Converter} (hc : c.IsPure) :
    (k.register d c).IsPure where
  registered e c' he := by
    by_cases hed : e = d
    · subst hed
      simp only [Catalogue.register, Function.update_self, Option.some.injEq] at he
      exact he ▸ hc
    · simp only [Catalogue.register, Function.update_of_ne hed] at he
      exact h.registered e c' he
  editors := h.editors
  offered := h.offered

theorem IsPure.unregister (h : k.IsPure) (d : Descriptor) : (k.unregister d).IsPure where
  registered e c' he := by
    by_cases hed : e = d
    · subst hed
      simp [Catalogue.unregister] at he
    · simp only [Catalogue.unregister, Function.update_of_ne hed] at he
      exact h.registered e c' he
  editors := h.editors
  offered := h.offered

end Catalogue

namespace Registry

variable {r : Registry}

theorem catalogue_put (r : Registry) (d : Descriptor) (c : Converter) :
    (r.put d c).2.catalogue = r.catalogue.register d c := by
  simp only [put, hold, putHeld, note, catalogue, Catalogue.register, Catalogue.mk.injEq, true_and,
    and_true]
  funext e
  by_cases hed : e = d
  · subst hed
    simp [Shelf.find?_put_same]
  · simp [Shelf.find?_put_other _ hed, Function.update_of_ne hed]

theorem catalogue_remove (r : Registry) (d : Descriptor) :
    (r.remove d).2.catalogue = r.catalogue.unregister d := by
  simp only [remove, catalogue, Catalogue.unregister, Catalogue.mk.injEq, true_and, and_true]
  funext e
  by_cases hed : e = d
  · subst hed
    simp [Shelf.find?_erase_same]
  · simp [Shelf.find?_erase_other _ hed, Function.update_of_ne hed]

/-- A registry that keeps nothing is coherent. -/
theorem coherent_of_cache_empty (h : r.cache = {}) : r.Coherent := by
  intro d held hfound
  rw [h] at hfound
  cases hfound

/-- A converter at work changes nothing in a registry but the sheets of the editors. -/
theorem run_apply (c : Converter) (value : Option Setting) (r : Registry) :
    (apply c value).run.run r =
      ((c.convert r.classes value).on r.bench,
        { r with bench := ((c.convert r.classes value).run.run r.bench).2 }) := by
  rw [apply, run_bind, run_get, Work.on]
  dsimp only
  rcases (c.convert r.classes value).run.run r.bench with ⟨outcome, bench⟩
  dsimp only
  rw [run_bind, run_set]
  cases outcome <;> rfl

/-- Letting a converter work gives its outcome. -/
theorem follows_apply (hr : r.Coherent) {c : Converter} (hc : c.IsPure) (value : Option Setting) :
    Follows Eq r (apply c value) (c.outcome r.classes value) := by
  rw [← hc.on_eq_outcome value r.bench]
  have hrun := run_apply c value r
  refine ⟨by rw [after, hrun]; rfl, by rw [after, hrun]; exact hr, ?_⟩
  rw [answer, hrun]
  cases (c.convert r.classes value).on r.bench with
  | error fault => exact .error fault
  | ok d => exact .ok rfl

/-- Converting a setting to a type gives what the catalogue makes of it. -/
theorem follows_convert (hr : r.Coherent) (hp : r.catalogue.IsPure) (value : Option Setting)
    (d : Descriptor) : Follows Eq r (convert value d) (r.catalogue.outcome value d) := by
  refine (follows_resolve hr d).bind fun held c r' hc hco hlike hbuild => ?_
  have hpure : c.IsPure := hp.keeps.build hbuild
  have hlike : held.converter.Alike c := hlike
  have hheld : held.converter.IsPure := hlike.symm.isPure hpure
  have happly := follows_apply hco hheld value
  rw [hlike.outcome_eq hheld] at happly
  rwa [show r'.classes = r.catalogue.classes from congrArg Catalogue.classes hc] at happly

/-- What a coherent registry answers when it is to convert a setting. -/
theorem answer_convert (hr : r.Coherent) (hp : r.catalogue.IsPure) (value : Option Setting)
    (d : Descriptor) : answer (convert value d) r = r.catalogue.outcome value d := by
  have hagree := (follows_convert hr hp value d).agree
  generalize answer (convert value d) r = x, r.catalogue.outcome value d = y at hagree ⊢
  cases hagree with
  | error fault => rfl
  | ok h => rw [h]

end Registry

/-- A use of a registry. -/
inductive Use where
  | put (d : Descriptor) (c : Converter)
  | remove (d : Descriptor)
  | contains (d : Descriptor)
  | resolve (d : Descriptor)
  | convert (value : Option Setting) (d : Descriptor)

/-- What a registry replies to a use. -/
inductive Reply where
  /-- The converter that was registered before. -/
  | previous (c : Option Converter)
  | contained (b : Bool)
  | resolved (outcome : Except Fault Converter)
  | converted (outcome : Except Fault Datum)

/-- A converter that is put into a registry answers by the latest text. -/
def Use.IsPure : Use → Prop
  | put _ c => c.IsPure
  | _ => True

namespace Registry

/-- The reply to a use, and the registry behind it. -/
def reply (r : Registry) : Use → Reply × Registry
  | .put d c => (.previous ((r.put d c).1.map (·.converter)), (r.put d c).2)
  | .remove d => (.previous ((r.remove d).1.map (·.converter)), (r.remove d).2)
  | .contains d => (.contained (r.contains d), r)
  | .resolve d => (.resolved ((answer (resolve d) r).map (·.converter)), after (resolve d) r)
  | .convert value d => (.converted (answer (convert value d) r), after (convert value d) r)

/-- The replies to uses one after the other, and the registry behind them. -/
def session (r : Registry) : List Use → List Reply × Registry
  | [] => ([], r)
  | use :: rest =>
    let (first, r) := r.reply use
    let (others, r) := r.session rest
    (first :: others, r)

end Registry

end SettingText
