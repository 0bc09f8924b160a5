import SettingText.Proofs.Converter.Single
import SettingText.Proofs.Registry.Reached

/-!
Types put together to any depth from sequences, arrays, entries, maps and optional values over types
that are not put together from others. Where nothing is registered for a type that is put together,
its converter is put together in the same way.
-/

namespace SettingText

/-- The classes of sequences. -/
inductive SequenceClass where
  | list | mutableSequence | sequence | collection | iterable
  deriving DecidableEq

namespace SequenceClass

def ref : SequenceClass → ClassRef
  | list => .builtin "list"
  | mutableSequence => .abstraction "MutableSequence"
  | sequence => .abstraction "Sequence"
  | collection => .abstraction "Collection"
  | iterable => .abstraction "Iterable"

/-- What becomes of the items. -/
def finish : SequenceClass → Finish
  | list | mutableSequence => .asIs
  | sequence | collection | iterable => .tuple

/-- The sequence of some items. -/
def of : SequenceClass → List Datum → Datum
  | list | mutableSequence => .list
  | sequence | collection | iterable => .tuple

theorem finish_apply (c : SequenceClass) (items : List Datum) :
    c.finish.apply false items = .ok (c.of items) := by
  cases c <;> rfl

end SequenceClass

/-- The classes of maps. -/
inductive MapClass where
  | dict | mapping | mutableMapping
  deriving DecidableEq

def MapClass.ref : MapClass → ClassRef
  | dict => .builtin "dict"
  | mapping => .abstraction "Mapping"
  | mutableMapping => .abstraction "MutableMapping"

/-- A type whose converter is not put together from others. -/
structure LeafType where
  descriptor : Descriptor
  simple : (Recipe.of descriptor).components = []
  isType : descriptor ≠ .dots

/-- The type of texts. -/
def LeafType.str : LeafType := ⟨.plain (.builtin "str"), rfl, by simp⟩

/-- The type of truth values. -/
def LeafType.bool : LeafType := ⟨.plain (.builtin "bool"), rfl, by simp⟩

/-- A type put together from leaf types. -/
inductive Nesting where
  | leaf (d : LeafType)
  | sequence (c : SequenceClass) (element : Nesting)
  | array (element : Nesting)
  | entry (key value : Nesting)
  | map (c : MapClass) (key value : Nesting)
  | optional (base : Nesting)

namespace Nesting

def descriptor : Nesting → Descriptor
  | leaf d => d.descriptor
  | sequence c element => .shape (.cls c.ref) [element.descriptor]
  | array element => .shape (.cls (.builtin "tuple")) [element.descriptor, .dots]
  | entry key value => .shape (.cls Datum.entryClass) [key.descriptor, value.descriptor]
  | map c key value => .shape (.cls c.ref) [key.descriptor, value.descriptor]
  | optional base => .optional base.descriptor

/-- The leaf types of a type, from left to right. -/
def leaves : Nesting → List LeafType
  | leaf d => [d]
  | sequence _ element | array element => element.leaves
  | entry key value | map _ key value => key.leaves ++ value.leaves
  | optional base => base.leaves

/-- The converter of a type, with the given converters at its leaves. -/
def converter (served : LeafType → Converter) : Nesting → Converter
  | leaf d => served d
  | sequence c element => .collection (.sequence fun _ => []) (element.converter served) c.finish
  | array element =>
    .array element.descriptor (.collection (.sequence fun _ => []) (element.converter served) .asIs)
  | entry key value => .entry (key.converter served) (value.converter served)
  | map _ key value =>
    .map (.collection (.sequence fun _ => []) (.entry (key.converter served) (value.converter served))
      .entries)
  | optional base => .optional (base.converter served)

theorem descriptor_ne_dots (t : Nesting) : t.descriptor ≠ .dots := by
  cases t with
  | leaf d => exact d.isType
  | _ => exact Descriptor.noConfusion

/-- An argument that is a type stands for itself. -/
theorem orTop_descriptor (t : Nesting) : Recipe.orTop (some t.descriptor) = t.descriptor :=
  Catalogue.orTop_of_ne_dots t.descriptor_ne_dots

theorem recipe_sequence (c : SequenceClass) (element : Nesting) :
    Recipe.of (sequence c element).descriptor =
      .collection (.sequence fun _ => []) element.descriptor c.finish := by
  rw [← element.orTop_descriptor]
  cases c <;> rfl

theorem recipe_array (element : Nesting) :
    Recipe.of (array element).descriptor = .array element.descriptor := rfl

theorem recipe_entry (key value : Nesting) :
    Recipe.of (entry key value).descriptor = .entry key.descriptor value.descriptor := by
  rw [← key.orTop_descriptor, ← value.orTop_descriptor]
  rfl

theorem recipe_map (c : MapClass) (key value : Nesting) :
    Recipe.of (map c key value).descriptor = .map key.descriptor value.descriptor := by
  rw [← key.orTop_descriptor, ← value.orTop_descriptor]
  cases c <;> rfl

theorem recipe_optional (base : Nesting) :
    Recipe.of (optional base).descriptor = .optional base.descriptor := by
  rw [← base.orTop_descriptor]
  rfl

end Nesting

/-- Nothing is registered for a type that is put together from others. -/
def Registry.NothingNested (r : Registry) : Prop :=
  ∀ d, (Recipe.of d).components ≠ [] → r.contains d = false

/-- In the standard registry nothing is registered for a type that is put together from others. -/
theorem Registry.nothingNested_standard (u : Universe) : (standard u).NothingNested := by
  intro d hd
  cases h : (standard u).catalogue.registered d with
  | none => simpa [contains, catalogue] using h
  | some c =>
    obtain ⟨entry, hentry, hmem, _⟩ := registered_standard h
    refine absurd ?_ hd
    simp only [builtinScalars, List.mem_cons, List.not_mem_nil, or_false] at hentry
    rcases hentry with rfl | rfl | rfl | rfl | rfl | rfl | rfl | rfl <;>
      simp only [List.mem_cons, List.not_mem_nil, or_false] at hmem
    · rcases hmem with rfl | rfl <;> rfl
    all_goals
      subst hmem
      rfl

/-- The catalogue of such a registry has nothing for such a type either. -/
theorem Registry.NothingNested.converter? {r : Registry} (h : r.NothingNested) {d : Descriptor}
    {recipe : Recipe} (hrecipe : Recipe.of d = recipe) (hne : recipe.components ≠ []) :
    r.catalogue.converter? d = none := by
  have hcontains := h d (hrecipe ▸ hne)
  rw [Registry.contains, Option.isSome_eq_false_iff, Option.isNone_iff_eq_none] at hcontains
  simp [Catalogue.converter?, Registry.catalogue, hcontains]

namespace Nesting

variable {r : Registry} {served : LeafType → Converter}

/-- The converter that a catalogue builds for a type is put together from those of its leaves. -/
theorem build_descriptor (hr : r.NothingNested) (t : Nesting)
    (h : ∀ d ∈ t.leaves, r.catalogue.build d.descriptor = .ok (served d)) :
    r.catalogue.build t.descriptor = .ok (t.converter served) := by
  induction t with
  | leaf d => exact h d (by simp [leaves])
  | sequence c element ih =>
    have hrecipe := recipe_sequence c element
    have hnone := hr.converter? hrecipe (by simp [Recipe.components])
    rw [Catalogue.build_of_collection hnone hrecipe, ih h]
    rfl
  | array element ih =>
    have hrecipe := recipe_array element
    have hnone := hr.converter? hrecipe (by simp [Recipe.components])
    rw [Catalogue.build_of_array hnone hrecipe element.descriptor_ne_dots, ih h]
    rfl
  | entry key value ihk ihv =>
    have hrecipe := recipe_entry key value
    have hnone := hr.converter? hrecipe (by simp [Recipe.components])
    rw [Catalogue.build_of_entry hnone hrecipe, ihk fun d hd => h d (by simp [leaves, hd]),
      ihv fun d hd => h d (by simp [leaves, hd])]
    rfl
  | map c key value ihk ihv =>
    have hrecipe := recipe_map c key value
    have hnone := hr.converter? hrecipe (by simp [Recipe.components])
    rw [Catalogue.build_of_map hnone hrecipe, ihk fun d hd => h d (by simp [leaves, hd]),
      ihv fun d hd => h d (by simp [leaves, hd])]
    rfl
  | optional base ih =>
    have hrecipe := recipe_optional base
    have hnone := hr.converter? hrecipe (by simp [Recipe.components])
    rw [Catalogue.build_of_optional hnone hrecipe, ih h]
    rfl

/-- Each leaf is built, and what is put together from pure converters is pure. -/
theorem isPure_converter {served : LeafType → Converter} (t : Nesting)
    (h : ∀ d ∈ t.leaves, (served d).IsPure) : (t.converter served).IsPure := by
  induction t with
  | leaf d => exact h d (by simp [leaves])
  | sequence c element ih => exact ih h
  | array element ih => exact ih h
  | entry key value ihk ihv =>
    exact ⟨ihk fun d hd => h d (by simp [leaves, hd]), ihv fun d hd => h d (by simp [leaves, hd])⟩
  | map c key value ihk ihv =>
    exact ⟨ihk fun d hd => h d (by simp [leaves, hd]), ihv fun d hd => h d (by simp [leaves, hd])⟩
  | optional base ih => exact ih h

end Nesting

namespace Registry

variable {r : Registry} {d : LeafType}

/-- A leaf type resolves to a converter of single values. -/
def Serves (r : Registry) (d : LeafType) : Prop :=
  ∃ held, answer (resolve d.descriptor) r = .ok held ∧ held.converter.IsSingle

/-- What a leaf type answers to absence. -/
def blank (r : Registry) (d : LeafType) : Datum :=
  match answer (resolve d.descriptor) r with
  | .ok held => held.converter.blank
  | .error _ => .nothing

/-- The converter that the catalogue builds for a leaf type. -/
def served (r : Registry) (d : LeafType) : Converter :=
  match r.catalogue.build d.descriptor with
  | .ok c => c
  | .error _ => .missing

theorem Reached.alike_served (hr : r.Reached) {held : Held}
    (hheld : answer (resolve d.descriptor) r = .ok held) :
    r.catalogue.build d.descriptor = .ok (r.served d) ∧ held.converter.Alike (r.served d) := by
  obtain ⟨c, hbuild, hlike⟩ := hr.build_of_resolves hheld
  have hserved : r.served d = c := by rw [served, hbuild]
  rw [hserved]
  exact ⟨hbuild, hlike⟩

theorem Reached.build_leaf (hr : r.Reached) (hd : r.Serves d) :
    r.catalogue.build d.descriptor = .ok (r.served d) := by
  obtain ⟨held, hheld, _⟩ := hd
  exact (hr.alike_served hheld).1

theorem Reached.isSingle_served (hr : r.Reached) (hd : r.Serves d) : (r.served d).IsSingle := by
  obtain ⟨held, hheld, hsingle⟩ := hd
  exact (hr.alike_served hheld).2.isSingle hsingle

theorem Reached.blank_served (hr : r.Reached) (hd : r.Serves d) :
    (r.served d).blank = r.blank d := by
  obtain ⟨held, hheld, _⟩ := hd
  rw [blank, hheld]
  exact (hr.alike_served hheld).2.blank_eq.symm

/-- Converting to a leaf type is the work of its converter. -/
theorem Reached.answer_convert_leaf (hr : r.Reached) (hd : r.Serves d) (value : Option Setting) :
    answer (convert value d.descriptor) r = (r.served d).outcome r.classes value := by
  rw [hr.answer_convert, Catalogue.outcome, hr.build_leaf hd]
  rfl

/-- Converting to a type is the work of the converter put together for it. -/
theorem Reached.answer_convert_nesting (hr : r.Reached) (hn : r.NothingNested) {t : Nesting}
    (ht : ∀ d ∈ t.leaves, r.Serves d) (value : Option Setting) :
    answer (convert value t.descriptor) r = (t.converter r.served).outcome r.classes value := by
  rw [hr.answer_convert, Catalogue.outcome,
    t.build_descriptor hn fun d hd => hr.build_leaf (ht d hd)]
  rfl

/-- A type that a converter of single values is built for is served by that converter. -/
theorem Reached.serves_of_build (hr : r.Reached) {c : Converter}
    (h : r.catalogue.build d.descriptor = .ok c) (hc : c.IsSingle) : r.Serves d ∧ r.served d = c := by
  have hserved : r.served d = c := by rw [served, h]
  obtain ⟨held, hheld, hlike⟩ := hr.resolves_of_build h
  exact ⟨⟨held, hheld, hlike.symm.isSingle hc⟩, hserved⟩

/-- A type with a registered converter of single values is served by that converter. -/
theorem Reached.serves_of_registered (hr : r.Reached) {c : Converter}
    (h : r.catalogue.converter? d.descriptor = some c) (hc : c.IsSingle) :
    r.Serves d ∧ r.served d = c :=
  hr.serves_of_build (Catalogue.build_of_registered h) hc

end Registry

end SettingText
