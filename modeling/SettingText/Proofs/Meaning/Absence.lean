import SettingText.Proofs.Converter.Ensures
import SettingText.Proofs.Converter.Single
import SettingText.Proofs.Meaning.Kind
import SettingText.Proofs.Registry.Used

/-!
Absence is no error, and is not emptiness. The standard registry, with any editors, answers an absent
setting by nothing, or by false for truth values, and looks nothing up for it; what it puts together
for a text is never nothing.
-/

namespace SettingText

namespace Converter

/-- Ways to put other class resolvers, factories and editors in the place of those in a converter. -/
structure Parsers where
  resolver : NameResolver → NameResolver
  make : (String → Except Fault Datum) → String → Except Fault Datum
  editor : EditorKind → EditorKind

/-- The converter with other parsers in it. -/
def replaced (p : Parsers) : Converter → Converter
  | className resolver bound prefixes => className (p.resolver resolver) bound prefixes
  | factory label target make => factory label target (p.make make)
  | editor target inUse => editor target (inUse.map fun e => ⟨p.editor e.kind, e.number⟩)
  | collection container inner finish => collection container (inner.replaced p) finish
  | entry key value => entry (key.replaced p) (value.replaced p)
  | map entries => map (entries.replaced p)
  | optional base => optional (base.replaced p)
  | array element sequence => array element (sequence.replaced p)
  | c => c

/-- The parsers that are there. -/
def Parsers.same : Parsers := ⟨id, id, id⟩

theorem replaced_same (c : Converter) : c.replaced .same = c := by
  induction c with
  | editor target inUse => cases inUse <;> rfl
  | collection container inner finish ih => rw [replaced, ih]
  | entry key value ihk ihv => rw [replaced, ihk, ihv]
  | map entries ih => rw [replaced, ih]
  | optional base ih => rw [replaced, ih]
  | array element sequence ih => rw [replaced, ih]
  | _ => rfl

def Gathers : Converter → Prop
  | collection .. => True
  | _ => False

/-- A converter that tells an absent setting from a text by itself. -/
def KnowsAbsence : Converter → Prop
  | missing | function .. => False
  | map entries => entries.Gathers
  | array _ sequence => sequence.Gathers
  | _ => True

/-- A converter that puts a value together from the pieces of a text. -/
def IsCompound : Converter → Prop
  | collection .. | entry .. => True
  | map entries => entries.Gathers
  | array _ sequence => sequence.Gathers
  | _ => False

@[simp] theorem gathers_unnumbered (c : Converter) : c.unnumbered.Gathers ↔ c.Gathers := by
  cases c <;> rfl

@[simp] theorem knowsAbsence_unnumbered (c : Converter) :
    c.unnumbered.KnowsAbsence ↔ c.KnowsAbsence := by
  cases c <;> simp [unnumbered, KnowsAbsence]

@[simp] theorem isCompound_unnumbered (c : Converter) : c.unnumbered.IsCompound ↔ c.IsCompound := by
  cases c <;> simp [unnumbered, IsCompound]

variable {u : Universe} {c : Converter} {value : Option Setting}

theorem Gathers.convert_of_absent (h : c.Gathers) (p : Parsers) (hv : present? value = none) :
    (c.replaced p).convert u value = pure .nothing := by
  cases c with
  | collection container inner finish =>
    rw [replaced, convert_collection, hv]
  | _ => exact h.elim

/-- Whatever parsers are in it, such a converter answers an absent setting at once: a truth value that
is a setting at all is false, and anything else is nothing. -/
theorem KnowsAbsence.convert_of_absent (h : c.KnowsAbsence) (p : Parsers)
    (hv : present? value = none) :
    (c.replaced p).convert u value = pure (value.elim .nothing fun _ => c.blank) := by
  have hraw : rawOf value = none := by
    cases value with
    | none => rfl
    | some s => simpa [present?, rawOf] using hv
  have hblank : c.blank = .nothing → (value.elim Datum.nothing fun _ => c.blank) = .nothing := by
    intro hc
    cases value <;> simp [hc]
  cases c with
  | text =>
    rw [hblank rfl]
    change (pure (((rawOf value).map Datum.text).getD .nothing) : Work Datum) = _
    rw [hraw]
    rfl
  | truth =>
    cases value with
    | none => rfl
    | some s =>
      have hs : s.raw = none := hraw
      change (pure (Datum.bool ((s.raw.map isTrue).getD false)) : Work Datum) = _
      rw [hs]
      rfl
  | level | moment | date | clock | uri | unparsed | className | factory =>
    rw [hblank rfl]
    exact congrArg Work.ofExcept (parsed_of_absent hv)
  | editor target inUse =>
    rw [hblank rfl, replaced, convert_editor, hv]
  | collection container inner finish =>
    rw [hblank rfl]
    exact Gathers.convert_of_absent (c := .collection container inner finish) trivial p hv
  | entry key item =>
    rw [hblank rfl, replaced, convert_entry, hv]
  | map entries =>
    rw [hblank rfl]
    change (entries.replaced p).convert u value >>= mapOfItems = _
    rw [Gathers.convert_of_absent h p hv]
    rfl
  | optional base =>
    rw [hblank rfl, replaced, convert_optional, hv]
  | array element sequence =>
    rw [hblank rfl]
    change (sequence.replaced p).convert u value >>= tupleOfItems = _
    rw [Gathers.convert_of_absent h p hv]
    rfl
  | missing | function => exact h.elim

/-- What a container is finished with is never nothing. -/
theorem ne_nothing_of_finish {finish : Finish} {isSet : Bool} {items : List Datum} {x : Datum}
    (h : finish.apply isSet items = .ok x) : x ≠ .nothing := by
  cases finish with
  | asIs => cases isSet <;> cases h <;> simp
  | tuple | count => cases h; simp
  | frozenset =>
    cases isSet with
    | true => cases h; simp
    | false =>
      obtain ⟨_, _, h⟩ := bind_eq_ok_iff.mp h
      cases h
      simp
  | entries =>
    obtain ⟨_, _, h⟩ := bind_eq_ok_iff.mp h
    cases h
    simp

theorem Gathers.ensures_ne_nothing (h : c.Gathers) {s : Setting} {raw : String}
    (hraw : s.raw = some raw) : (c.convert u (some s)).Ensures (· ≠ .nothing) := by
  cases c with
  | collection container inner finish =>
    rw [convert_collection, present?_of_raw hraw]
    have hfinish : ∀ isSet items,
        (Work.ofCause (finish.apply isSet items)).Ensures (· ≠ .nothing) := fun _ _ =>
      Work.ensures_ofCause fun _ => ne_nothing_of_finish
    cases container with
    | sequence first => exact (Work.ensures_true _).bind fun items _ => hfinish false _
    | set => exact (Work.ensures_true _).bind fun items _ => hfinish true items
    | unfit typeName => exact Work.ensures_throw _
  | _ => exact h.elim

/-- What is put together for a text is never nothing. -/
theorem IsCompound.ensures_ne_nothing (h : c.IsCompound) {s : Setting} {raw : String}
    (hraw : s.raw = some raw) : (c.convert u (some s)).Ensures (· ≠ .nothing) := by
  cases c with
  | collection container inner finish =>
    exact Gathers.ensures_ne_nothing (c := .collection container inner finish) trivial hraw
  | entry key item =>
    rw [convert_entry, present?_of_raw hraw]
    refine (Work.ensures_true _).bind fun k _ => (Work.ensures_true _).bind fun v _ => ?_
    exact Work.ensures_pure Datum.noConfusion
  | map entries =>
    refine (Gathers.ensures_ne_nothing h hraw).bind fun d hd => ?_
    rw [mapOfItems]
    · exact (Work.ensures_true _).bind fun _ _ => Work.ensures_pure Datum.noConfusion
    · exact hd
  | array element sequence =>
    refine (Gathers.ensures_ne_nothing h hraw).bind fun d hd => ?_
    rw [tupleOfItems]
    · exact (Work.ensures_true _).bind fun _ _ => Work.ensures_pure Datum.noConfusion
    · exact hd
  | _ => exact h.elim

/-- A converter that answers absence as its type does, and puts a value together where its type is one
of sequences, arrays, sets, maps or entries. -/
structure Answers (d : Descriptor) (c : Converter) : Prop where
  knowsAbsence : c.KnowsAbsence
  blank : c.blank = d.blank
  isCompound : ∀ cls, d.headClass? = some cls → cls ∈ Descriptor.gatheringClasses → c.IsCompound

theorem Answers.of_alike {d : Descriptor} {c c' : Converter} (h : c.Answers d) (hlike : c.Alike c') :
    c'.Answers d where
  knowsAbsence := hlike.transfer knowsAbsence_unnumbered h.knowsAbsence
  blank := hlike.blank_eq.symm.trans h.blank
  isCompound cls hcls hmem := hlike.transfer isCompound_unnumbered (h.isCompound cls hcls hmem)

end Converter

namespace Registry

open Converter

variable {u : Universe} {t : EditorTable}

/-- The converters every program starts with answer absence as their types do. -/
theorem answers_builtinScalars (resolver : NameResolver) (prefixes : List String) :
    ∀ entry ∈ builtinScalars resolver prefixes, ∀ d ∈ entry.1, entry.2.Answers d := by
  have hanswers : ∀ entry ∈ builtinScalars resolver prefixes, ∀ d ∈ entry.1,
      entry.2.KnowsAbsence ∧ entry.2.blank = d.blank := by
    simp only [builtinScalars, List.forall_mem_cons, List.not_mem_nil, false_implies, implies_true,
      and_true]
    exact ⟨⟨⟨trivial, rfl⟩, ⟨trivial, rfl⟩⟩, ⟨trivial, rfl⟩, ⟨trivial, rfl⟩, ⟨trivial, rfl⟩,
      ⟨trivial, rfl⟩, ⟨trivial, rfl⟩, ⟨trivial, rfl⟩, ⟨trivial, rfl⟩⟩
  intro entry hentry d hd
  obtain ⟨hknows, hblank⟩ := hanswers entry hentry d hd
  have hleaf := isLeaf_builtinScalars resolver prefixes entry hentry d hd
  exact ⟨hknows, hblank, fun cls hcls hmem => absurd hmem (hleaf.1 cls hcls).1⟩

/-- The standard registry with other editors, as a catalogue. -/
def editing (u : Universe) (t : EditorTable) : Catalogue :=
  { (standard u).catalogue with editors := t }

theorem catalogue_standard_eq_editing (u : Universe) :
    (standard u).catalogue = editing u .standard := rfl

theorem converter?_editing (d : Descriptor) :
    (editing u t).converter? d = (standard u).catalogue.converter? d := rfl

theorem answers_registered {d : Descriptor} {c : Converter} (h : (editing u t).converter? d = some c) :
    c.Answers d := by
  rw [converter?_editing] at h
  obtain ⟨entry, hentry, hd, rfl⟩ := registered_standard (Option.filter_eq_some_iff.mp h).1
  exact answers_builtinScalars _ _ entry hentry d hd

/-- What serves a type answers absence as the type does. For the class of truth values nothing else
serves than the converter that is registered for it. -/
theorem answers_served {d : Descriptor} {c : Converter} (hnone : (editing u t).converter? d = none)
    (hrecipe : Recipe.of d = .plain) (h : (editing u t).serve d = .ok c) : c.Answers d := by
  have hleaf : ∀ cls, d.headClass? = some cls → cls ∈ Descriptor.gatheringClasses → c.IsCompound :=
    fun _ hcls hmem => absurd hrecipe ((Recipe.kind_of d).of_gathering hcls hmem).1
  have hblank : (editing u t).originConverter? d = none → d.blank = .nothing :=
    Catalogue.blank_of_not_registered ⟨.truth, rfl⟩ hnone
  unfold Catalogue.serve at h
  split at h
  · next found =>
    cases h
    -- What is registered for the class of a type with arguments answers as the class does.
    cases d with
    | shape origin args =>
      have hclass : c.Answers (.plain (Descriptor.shape origin args).rawClass) :=
        answers_registered found
      exact ⟨hclass.knowsAbsence, hclass.blank, hleaf⟩
    | dots | plain => cases found
  · next horigin =>
    split at h
    · cases h
      exact ⟨trivial, (hblank horigin).symm, hleaf⟩
    · split at h
      · next found =>
        cases h
        have hclass : Offer.ofClass u d.rawClass = some _ := found
        obtain ⟨maker, _, rfl⟩ := Option.map_eq_some_iff.mp hclass
        exact ⟨trivial, (hblank horigin).symm, hleaf⟩
      · cases h

/-- Every converter that the standard registry builds, with any editors, answers absence as its type
does. -/
theorem answers_editing (u : Universe) (t : EditorTable) :
    (editing u t).Assembles fun d c => c.Answers d := by
  have hblank {d : Descriptor} {recipe : Recipe} (h : Recipe.of d = recipe) (hne : recipe ≠ .plain) :
      .nothing = d.blank := (Descriptor.blank_of_recipe (h ▸ hne)).symm
  exact
    { registered := answers_registered
      served := answers_served
      className := fun {d bound} h => ⟨trivial, hblank h (by simp), fun cls hcls hmem =>
        absurd h (((Recipe.kind_of d).of_gathering hcls hmem).2.2 bound)⟩
      optional := fun {d base _} h _ => ⟨trivial, hblank h (by simp), fun cls hcls hmem =>
        absurd h (((Recipe.kind_of d).of_gathering hcls hmem).2.1 base)⟩
      array := fun h _ => ⟨trivial, hblank h (by simp), fun _ _ _ => trivial⟩
      entry := fun h _ _ => ⟨trivial, hblank h (by simp), fun _ _ _ => trivial⟩
      map := fun h _ _ => ⟨trivial, hblank h (by simp), fun _ _ _ => trivial⟩
      collection := fun h _ => ⟨trivial, hblank h (by simp), fun _ _ _ => trivial⟩ }

variable {r : Registry} {d : Descriptor}

/-- Absence is answered and not looked into. A type that resolves in the standard registry, with any
editors and in any use, answers no setting by nothing and an absent one by its blank; it would do so
whatever class resolvers, factories and editors were in the place of those in its converter, and leaves
the registry as resolving the type does. Sequences, arrays, sets, maps and entries are never nothing
for a text, not even for the empty one. -/
theorem convert_absent_of_resolves (hr : r.Used) (hk : r.catalogue = editing u t) {held : Held}
    (hd : answer (resolve d) r = .ok held) :
    (answer (convert none d) r = .ok .nothing ∧
      ∀ s : Setting, s.raw = none → answer (convert (some s) d) r = .ok d.blank) ∧
    (∀ value, present? value = none →
      (∀ (p : Parsers) (v : Universe), (held.converter.replaced p).convert v value =
        pure (value.elim .nothing fun _ => d.blank)) ∧
      after (convert value d) r = after (resolve d) r) ∧
    ∀ c, d.headClass? = some c → c ∈ Descriptor.gatheringClasses → ∀ s : Setting, s.raw.isSome →
      answer (convert (some s) d) r ≠ .ok .nothing := by
  obtain ⟨c, hbuild, hlike⟩ := hr.coherent.build_of_resolves hd
  rw [hk] at hbuild
  have hanswers : held.converter.Answers d := ((answers_editing u t).build hbuild).of_alike hlike.symm
  have hconvert : ∀ value, present? value = none → ∀ (p : Parsers) (v : Universe),
      (held.converter.replaced p).convert v value = pure (value.elim .nothing fun _ => d.blank) := by
    intro value hv p v
    rw [hanswers.knowsAbsence.convert_of_absent p hv, hanswers.blank]
  -- The parsers of the converter itself are one way among all.
  have hwork : ∀ value, present? value = none → held.converter.convert r.classes value =
      pure (value.elim .nothing fun _ => d.blank) := by
    intro value hv
    have h := hconvert value hv .same r.classes
    rwa [replaced_same] at h
  refine ⟨⟨?_, fun s hs => ?_⟩, fun value hv => ⟨hconvert value hv, ?_⟩, fun cls hcls hmem s hs => ?_⟩
  · rw [(convert_of_resolves hd none).1, hwork none rfl]
    rfl
  · rw [(convert_of_resolves hd (some s)).1, hwork _ (present?_of_absent hs)]
    rfl
  · rw [(convert_of_resolves hd value).2, hwork value hv]
    change { after (resolve d) r with bench := r.bench } = _
    rw [← bench_after_resolve r d]
  · obtain ⟨raw, hraw⟩ := Option.isSome_iff_exists.mp hs
    rw [(convert_of_resolves hd (some s)).1]
    intro h
    exact (hanswers.isCompound cls hcls hmem).ensures_ne_nothing hraw _ _ h rfl

/-- An optional truth value that is absent is nothing. -/
theorem convert_absent_optional_bool :
    let r := standard ⟨[], [], [], []⟩
    let d : Descriptor := .optional (.plain (.builtin "bool"))
    (∃ held, answer (resolve d) r = .ok held) ∧
      answer (convert (some (.ofText none)) d) r = .ok .nothing := by
  intro r d
  have hr : r.Used := .of_new (cache_standard _)
  have hbuild : r.catalogue.build d = .ok (.optional .truth) := by
    have hrecipe : Recipe.of d = .optional (.plain (.builtin "bool")) := rfl
    have htruth : r.catalogue.build (.plain (.builtin "bool")) = .ok .truth :=
      Catalogue.build_of_registered rfl
    rw [Catalogue.build_of_optional rfl hrecipe, htruth]
    rfl
  obtain ⟨held, hheld, _⟩ := hr.coherent.resolves_of_build hbuild
  have hk := catalogue_standard_eq_editing ⟨[], [], [], []⟩
  exact ⟨⟨held, hheld⟩, (convert_absent_of_resolves hr hk hheld).1.2 _ rfl⟩

/-- A class of truth values with an argument is another type than that of truth values, and answers
absence by false as well. -/
theorem convert_absent_generic_bool :
    ¬∀ (d : Descriptor) (held : Held), answer (resolve d) (standard ⟨[], [], [], []⟩) = .ok held →
      d ≠ .plain (.builtin "bool") →
        answer (convert (some (.ofText none)) d) (standard ⟨[], [], [], []⟩) = .ok .nothing := by
  intro hall
  let r := standard ⟨[], [], [], []⟩
  let d : Descriptor := .shape (.cls (.builtin "bool")) [.plain (.builtin "int")]
  have hr : r.Used := .of_new (cache_standard _)
  have hbuild : r.catalogue.build d = .ok .truth := by
    rw [Catalogue.build_of_plain rfl rfl]
    rfl
  obtain ⟨held, hheld, _⟩ := hr.coherent.resolves_of_build hbuild
  have hfalse : answer (convert (some (.ofText none)) d) r = .ok (.bool false) :=
    hr.coherent.answer_convert hbuild trivial _
  have hnothing := hall d held hheld (by simp [d])
  cases hfalse.symm.trans hnothing

end Registry

end SettingText
