import SettingText.Proofs.Registry.Used

/-!
Which registrations a type hangs on. Resolving a type looks for the converter registered for it, and
when there is none, for those of its components, or of its class alone when it has no recipe. To
register a converter for any other type, or to take one away, changes nothing for it but that the
editors in its converter are new ones.
-/

namespace SettingText

namespace Catalogue

/-- Resolving the first type may come to the registration for the second. -/
inductive DependsOn (k : Catalogue) : Descriptor → Descriptor → Prop
  | self (d) : DependsOn k d d
  | component {d e found} (h : k.converter? d = none) (he : e ∈ (Recipe.of d).components)
      (hdepends : DependsOn k e found) : DependsOn k d found
  | origin {origin args} (h : k.converter? (.shape origin args) = none)
      (hplain : Recipe.of (.shape origin args) = .plain) :
      DependsOn k (.shape origin args) (.plain (Descriptor.shape origin args).rawClass)

variable {k k' : Catalogue} {d e : Descriptor}

theorem dependsOn_iff : k.DependsOn d e ↔ e = d ∨ k.converter? d = none ∧
    ((∃ part ∈ (Recipe.of d).components, k.DependsOn part e) ∨
      ∃ origin args, d = .shape origin args ∧ Recipe.of d = .plain ∧ e = .plain d.rawClass) := by
  constructor
  · intro h
    cases h with
    | self => exact .inl rfl
    | component h he hdepends => exact .inr ⟨h, .inl ⟨_, he, hdepends⟩⟩
    | origin h hplain => exact .inr ⟨h, .inr ⟨_, _, rfl, hplain, rfl⟩⟩
  · rintro (rfl | ⟨h, ⟨part, hpart, hdepends⟩ | ⟨origin, args, rfl, hplain, rfl⟩⟩)
    · exact .self _
    · exact .component h hpart hdepends
    · exact .origin h hplain

/-- Two catalogues that differ at most in what is registered for one type. -/
structure AgreeExcept (d : Descriptor) (k k' : Catalogue) : Prop where
  registered : ∀ e, e ≠ d → k'.registered e = k.registered e
  classes : k'.classes = k.classes
  editors : k'.editors = k.editors
  fallback : k'.fallback = k.fallback
  resolver : k'.resolver = k.resolver
  prefixes : k'.prefixes = k.prefixes

theorem agreeExcept_register (k : Catalogue) (d : Descriptor) (c : Converter) :
    AgreeExcept d k (k.register d c) :=
  ⟨fun _ h => Function.update_of_ne h _ _, rfl, rfl, rfl, rfl, rfl⟩

theorem agreeExcept_unregister (k : Catalogue) (d : Descriptor) :
    AgreeExcept d k (k.unregister d) :=
  ⟨fun _ h => Function.update_of_ne h _ _, rfl, rfl, rfl, rfl, rfl⟩

theorem AgreeExcept.converter? (h : AgreeExcept d k k') (he : e ≠ d) :
    k'.converter? e = k.converter? e := by
  rw [Catalogue.converter?, Catalogue.converter?, h.registered e he]

/-- A type without a recipe is served alike when the class alone is not the type in question. -/
theorem AgreeExcept.serve (h : AgreeExcept d k k') (hnone : k.converter? e = none)
    (hplain : Recipe.of e = .plain) (hindependent : ¬k.DependsOn e d) : k'.serve e = k.serve e := by
  have horigin : k'.originConverter? e = k.originConverter? e := by
    cases e with
    | shape origin args =>
      have hne : .plain (Descriptor.shape origin args).rawClass ≠ d := by
        rintro rfl
        exact hindependent (.origin hnone hplain)
      exact h.converter? hne
    | _ => rfl
  rw [Catalogue.serve, Catalogue.serve, horigin, h.editors, h.classes, h.fallback]

theorem isSome_of_assemble {resolver : NameResolver} {prefixes : List String} {recipe : Recipe}
    {part : (e : Descriptor) → e ∈ recipe.components → Except Fault Converter}
    {assembled : Option Converter} (hplain : recipe ≠ .plain)
    (h : Registry.assemble resolver prefixes recipe part = .ok assembled) :
    assembled.isSome = true := by
  cases recipe with
  | plain => contradiction
  | none fault => cases h
  | className bound =>
    cases h
    rfl
  | optional | collection =>
    obtain ⟨inner, _, h⟩ := bind_eq_ok_iff.mp h
    cases h
    rfl
  | array element =>
    obtain ⟨inner, _, h⟩ := bind_eq_ok_iff.mp h
    split at h
    · cases h
      rfl
    · cases h
  | entry | map =>
    obtain ⟨ck, _, h⟩ := bind_eq_ok_iff.mp h
    obtain ⟨cv, _, h⟩ := bind_eq_ok_iff.mp h
    cases h
    rfl

/-- A type that does not depend on the registration for another is built alike with and without it.
    The induction is on the weight of the type. -/
theorem AgreeExcept.build (h : AgreeExcept d k k') (e : Descriptor)
    (hindependent : ¬k.DependsOn e d) : k'.build e = k.build e := by
  have hne : e ≠ d := by
    rintro rfl
    exact hindependent (.self e)
  have hsame := h.converter? hne
  cases hconverter : k.converter? e with
  | some c =>
    rw [hconverter] at hsame
    rw [build_of_registered hconverter, build_of_registered hsame]
  | none =>
    rw [hconverter] at hsame
    have hparts : (fun e' (_ : e' ∈ (Recipe.of e).components) => k'.build e') =
        fun e' _ => k.build e' := by
      funext e' he'
      have hlt := Recipe.weight_components_lt e e' he'
      exact h.build e' fun hdepends => hindependent (.component hconverter he' hdepends)
    rw [build_of_unregistered hconverter, build_of_unregistered hsame, h.resolver, h.prefixes, hparts]
    -- the class alone counts where nothing is put together
    by_cases hplain : Recipe.of e = .plain
    · rw [h.serve hconverter hplain hindependent]
    · cases hassembled : Registry.assemble k.resolver k.prefixes (Recipe.of e)
          fun e' _ => k.build e' with
      | error fault => rfl
      | ok assembled =>
        obtain ⟨c, rfl⟩ := Option.isSome_iff_exists.mp (isSome_of_assemble hplain hassembled)
        rfl
termination_by e.weight

end Catalogue

namespace Registry

variable {r : Registry} {d e : Descriptor}

/-- A type resolves at once to the converter that has just been registered for it. -/
theorem answer_resolve_put (r : Registry) (d : Descriptor) {c : Converter}
    (hc : c.isPresent = true) : answer (resolve d) (r.put d c).2 = .ok ⟨r.nextSerial, c⟩ := by
  -- a registration empties the cache, so the look-up comes to what was registered
  have hcached : (r.put d c).2.cached? d = none := by
    rw [cached?]
    split <;> rfl
  have hscalar : (r.put d c).2.scalar? d = some ⟨r.nextSerial, c⟩ := by
    change Option.filter _ ((r.scalars.put d ⟨r.nextSerial, c⟩).find? d) = _
    rw [Shelf.find?_put_same]
    simp [Option.filter, hc]
  rw [answer, resolve, run_bind, run_get]
  dsimp only
  rw [hcached]
  dsimp only
  rw [hscalar]
  rfl

/-- What a change to the registrations leaves alone: the type fails to resolve as before, or its
    converter is the same but for new editors, and so works the same if its editors go by the latest
    text only. -/
def LeavesAlone (e : Descriptor) (r r' : Registry) : Prop :=
  Agree (fun held held' => held.converter.Alike held'.converter ∧
      (held.converter.IsPure → held.converter.SameOutcomes r.classes held'.converter))
    (answer (resolve e) r) (answer (resolve e) r')

theorem Coherent.leavesAlone {r r' : Registry} (hr : r.Coherent) (hr' : r'.Coherent)
    (hagree : Catalogue.AgreeExcept d r.catalogue r'.catalogue)
    (hindependent : ¬r.catalogue.DependsOn e d) : LeavesAlone e r r' := by
  have hbuild := hagree.build e hindependent
  have hresolve := hr.resolve_agrees_of_build hr' hbuild
  rw [LeavesAlone]
  generalize answer (resolve e) r = x, answer (resolve e) r' = y at hresolve
  cases hresolve with
  | error fault => exact .error fault
  | @ok held held' halike =>
    have halike : held.converter.Alike held'.converter := halike
    exact .ok ⟨halike, halike.sameOutcomes⟩

/-- Registration is local. In a registry in use, registering a converter for a type or taking the
    registration away leaves every type alone that does not depend on it, and the type itself resolves
    to the very converter that was registered last. -/
theorem registration_is_local (hr : r.Used) (d : Descriptor) :
    (∀ e, ¬r.catalogue.DependsOn e d →
      (∀ c, LeavesAlone e r (r.put d c).2) ∧ LeavesAlone e r (r.remove d).2) ∧
    ∀ c : Converter, c.isPresent = true →
      answer (resolve d) (r.put d c).2 = .ok ⟨r.nextSerial, c⟩ := by
  refine ⟨fun e hindependent => ⟨fun c => ?_, ?_⟩, fun c hc => answer_resolve_put r d hc⟩
  · have hput : Catalogue.AgreeExcept d r.catalogue (r.put d c).2.catalogue := by
      rw [catalogue_put]
      exact Catalogue.agreeExcept_register _ d c
    exact hr.coherent.leavesAlone (coherent_of_cache_empty rfl) hput hindependent
  · have hremove : Catalogue.AgreeExcept d r.catalogue (r.remove d).2.catalogue := by
      rw [catalogue_remove]
      exact Catalogue.agreeExcept_unregister _ d
    exact hr.coherent.leavesAlone (coherent_of_cache_empty rfl) hremove hindependent

/-- Lists of texts have nothing to do with whole numbers. -/
theorem registration_is_local_of_list :
    let r := standard ⟨[], [], [], []⟩
    let d : Descriptor := .plain (.builtin "int")
    let e : Descriptor := .shape (.cls (.builtin "list")) [.plain (.builtin "str")]
    ¬r.catalogue.DependsOn e d ∧ LeavesAlone e r (r.put d .truth).2 ∧ LeavesAlone e r (r.remove d).2 ∧
      answer (resolve d) (r.put d .truth).2 = .ok ⟨r.nextSerial, .truth⟩ := by
  intro r d e
  have htext : ¬r.catalogue.DependsOn (.plain (.builtin "str")) d := by
    rw [Catalogue.dependsOn_iff]
    rintro (h | ⟨h, _⟩)
    · simp [d, ClassRef.builtin] at h
    · cases h
  have hlist : ¬r.catalogue.DependsOn e d := by
    rw [Catalogue.dependsOn_iff]
    rintro (h | ⟨_, ⟨part, hpart, hdepends⟩ | ⟨_, _, _, h, _⟩⟩)
    · simp [d, e] at h
    · obtain rfl := List.mem_singleton.mp hpart
      exact htext hdepends
    · cases h
  obtain ⟨hother, hself⟩ := registration_is_local (.of_new (cache_standard ⟨[], [], [], []⟩)) d
  exact ⟨hlist, (hother e hlist).1 .truth, (hother e hlist).2, hself .truth rfl⟩

/-- An editor that answers how many texts it was given. -/
def countingTexts : EditorKind := ⟨"Counting", fun texts => .ok (.int texts.length)⟩

/-- An editor that counts its texts begins anew behind a registration for a class of no concern to it,
    since every converter that is put together has an editor of its own. -/
theorem registration_not_local_of_counting :
    ¬∀ (r : Registry) (d e : Descriptor) (c : Converter), r.Used → ¬r.catalogue.DependsOn e d →
      ∀ held held', answer (resolve e) r = .ok held → answer (resolve e) (r.put d c).2 = .ok held' →
        ∀ value, (held.converter.convert r.classes value).on r.bench =
          (held'.converter.convert r.classes value).on r.bench := by
  intro hall
  let new : Registry :=
    { classes := ⟨[], [], [], []⟩, editors := ⟨[(.builtin "int", countingTexts)]⟩ }
  let text : Option Setting := some (.ofText (some "x"))
  let d : Descriptor := .plain (.builtin "bytes")
  let e : Descriptor := .plain (.builtin "int")
  let r := (new.session [.convert text e]).2
  have hused : r.Used := ⟨new, [.convert text e], rfl, rfl⟩
  have hindependent : ¬r.catalogue.DependsOn e d := by
    rw [Catalogue.dependsOn_iff]
    rintro (h | ⟨_, ⟨part, hpart, _⟩ | ⟨_, _, h, _⟩⟩)
    · simp [d, e, ClassRef.builtin] at h
    · cases hpart
    · simp [e] at h
  -- the editor in use has been given one text, the one that replaces it none
  have hbefore : answer (resolve e) r = .ok ⟨0, .editor (.builtin "int") (some ⟨countingTexts, 0⟩)⟩ := by
    change answer (resolve e) (after (convert text e) new) = _
    rw [convert, resolve]
    rfl
  have hbehind : answer (resolve e) (r.put d .text).2 =
      .ok ⟨2, .editor (.builtin "int") (some ⟨countingTexts, 1⟩)⟩ := by
    change answer (resolve e) ((after (convert text e) new).put d .text).2 = _
    rw [convert, resolve]
    rfl
  have hbench : r.bench.sheet 0 = [some "x"] ∧ r.bench.sheet 1 = [] ∧ r.classes = new.classes := by
    change (after (convert text e) new).bench.sheet 0 = _ ∧
      (after (convert text e) new).bench.sheet 1 = _ ∧ (after (convert text e) new).classes = _
    rw [convert, resolve]
    exact ⟨rfl, rfl, rfl⟩
  obtain ⟨hfirst, hsecond, hclasses⟩ := hbench
  have hcounts : (edited r.classes (.builtin "int") (some ⟨countingTexts, 0⟩)
        (.ofText (some "x")) "x").on r.bench =
      (edited r.classes (.builtin "int") (some ⟨countingTexts, 1⟩)
        (.ofText (some "x")) "x").on r.bench :=
    hall r d e .text hused hindependent _ _ hbefore hbehind text
  rw [Converter.on_edited, Converter.on_edited, hfirst, hsecond, hclasses] at hcounts
  cases hcounts

end Registry

end SettingText
