import SettingText.Classes.Own
import SettingText.Proofs.Converter.Provenance
import SettingText.Proofs.Registry.Handled
import SettingText.Proofs.Registry.Reached

/-!
Where a setting comes from has no bearing on what a registry makes of it, in whatever state the registry is,
as long as none of its converters is a function of the whole setting.
-/

namespace SettingText.Registry

variable {r : Registry} {d : Descriptor}

/-- No converter that is registered or offered is a function of the whole setting. -/
structure ReadsTexts (r : Registry) : Prop where
  registered : ∀ d held, r.scalar? d = some held → held.converter.ReadsText
  offered : ∀ c offer, r.fallback c = some offer → offer.converter.ReadsText

theorem ReadsTexts.of_frame {r' : Registry} (hr : r.ReadsTexts) (h : r'.frame = r.frame) :
    r'.ReadsTexts where
  registered d held hd := hr.registered d held ((scalar?_of_frame h d).symm.trans hd)
  offered c offer hc := by
    have hfallback : r'.fallback = r.fallback := (congrArg fallback h :)
    exact hr.offered c offer (hfallback ▸ hc)

/-- No converter of the standard registry is a function of the whole setting. -/
theorem readsTexts_standard (u : Universe) : (standard u).ReadsTexts where
  registered d held hd := by
    have hfound : (standard u).catalogue.registered d = some held.converter :=
      congrArg (Option.map Held.converter) (Option.filter_eq_some_iff.mp hd).1
    obtain ⟨entry, hentry, -, hc⟩ := registered_standard hfound
    rw [← hc]
    simp only [builtinScalars, List.mem_cons, List.not_mem_nil, or_false] at hentry
    rcases hentry with rfl | rfl | rfl | rfl | rfl | rfl | rfl | rfl <;> trivial
  offered c offer hc := by
    have hclass : Offer.ofClass u c = some offer := hc
    obtain ⟨maker, -, rfl⟩ := Option.map_eq_some_iff.mp hclass
    trivial

theorem ServedBy.readsText (hr : r.ReadsTexts) {c : Converter} (h : r.ServedBy d c) : c.ReadsText := by
  cases h with
  | origin horigin =>
    cases d with
    | shape => exact hr.registered _ _ horigin
    | _ => cases horigin
  | editor e => trivial
  | offer hoffer => exact hr.offered _ _ hoffer

theorem readsText_of_complete {parts : List Converter} (hparts : ∀ c ∈ parts, c.ReadsText)
    {c : Converter} (h : r.complete d parts = .ok (some c)) : c.ReadsText := by
  unfold complete Recipe.complete at h
  split at h
  · cases h
  · cases h
    trivial
  · next base _ =>
    cases h
    exact hparts base (by simp)
  · next inner _ =>
    obtain ⟨array, harray, hc⟩ := map_eq_ok_iff.mp h
    cases hc
    unfold Converter.arrayOf at harray
    split at harray <;> cases harray
    exact hparts inner (by simp)
  · next key value _ =>
    cases h
    exact ⟨hparts key (by simp), hparts value (by simp)⟩
  · next key value _ =>
    cases h
    exact ⟨hparts key (by simp), hparts value (by simp)⟩
  · next inner _ =>
    cases h
    exact hparts inner (by simp)
  · cases h

theorem readsText_of_mapM (hr : r.Accounted) (hown : r.ReadsTexts) {es : List Descriptor}
    (h : ∀ e ∈ es, ∀ r : Registry, r.Accounted → r.ReadsTexts →
      ∀ c, answer (component e) r = .ok c → c.ReadsText)
    {parts : List Converter} (hparts : answer (es.mapM component) r = .ok parts) :
    ∀ c ∈ parts, c.ReadsText := by
  induction es generalizing r parts with
  | nil =>
    cases hparts
    simp
  | cons e rest ih =>
    rw [List.mapM_cons, answer_bind] at hparts
    obtain ⟨c, hc, hparts⟩ := bind_eq_ok_iff.mp hparts
    rw [answer_bind] at hparts
    obtain ⟨cs, hcs, hparts⟩ := bind_eq_ok_iff.mp hparts
    cases hparts
    have hframe : (after (component e) r).frame = r.frame :=
      (frames_resolve r e).bind fun _ _ _ => .pure _
    have hafter : after (component e) r = after (resolve e) r := after_component r e
    have hrest := ih (hafter ▸ (settles_resolve hr e).1.accounted) (hown.of_frame hframe)
      (fun e he => h e (by simp [he])) hcs
    exact List.forall_mem_cons.mpr ⟨h e (by simp) r hr hown c hc, hrest⟩

/-- Every converter that is handed out reads texts. By induction on the weight of the type. -/
theorem Accounted.readsText {r : Registry} (hr : r.Accounted) (hown : r.ReadsTexts) {d : Descriptor}
    {c : Converter} (h : answer (component d) r = .ok c) : c.ReadsText := by
  cases hscalar : r.scalar? d with
  | some held =>
    rw [hr.answer_component_of_scalar hscalar] at h
    cases h
    exact hown.registered d held hscalar
  | none =>
    by_cases hplain : Recipe.of d = .plain
    · exact (hr.servedBy_of_plain hscalar hplain h).readsText hown
    · have hrecipe := hr.answer_component_of_recipe hscalar hplain
      rw [h] at hrecipe
      obtain ⟨parts, hparts, hcomplete⟩ := bind_eq_ok_iff.mp hrecipe.symm
      refine readsText_of_complete (readsText_of_mapM hr hown (fun e he r hr hown c hc => ?_) hparts)
        hcomplete
      have hlt := Recipe.weight_components_lt d e he
      exact hr.readsText hown hc
termination_by d.weight

/-- Provenance never counts: a registry makes the same of two settings with one text, whatever their names
and qualifiers are and whatever they were cut out of. Both are converted to one value, or both fail with one
fault but for the setting that it names; and the registry is left in the same state. -/
theorem provenance_never_counts (hr : r.Handled) (hown : r.ReadsTexts) {s t : Setting}
    (h : s.raw = t.raw) (d : Descriptor) :
    ((∃ x, answer (convert (some s) d) r = .ok x ∧ answer (convert (some t) d) r = .ok x) ∨
        ∃ f g, answer (convert (some s) d) r = .error f ∧ answer (convert (some t) d) r = .error g ∧
          f.unattached = g.unattached ∧ f.code = g.code ∧ f.message = g.message ∧
          f.ownDetail = g.ownDetail) ∧
      after (convert (some s) d) r = after (convert (some t) d) r := by
  cases hresolve : answer (resolve d) r with
  | error fault =>
    obtain ⟨hs, hsafter⟩ := convert_of_not_resolves hresolve (some s)
    obtain ⟨ht, htafter⟩ := convert_of_not_resolves hresolve (some t)
    exact ⟨.inr ⟨fault, fault, hs, ht, rfl, rfl, rfl, rfl⟩, hsafter.trans htafter.symm⟩
  | ok held =>
    have hreads : held.converter.ReadsText :=
      hr.accounted.readsText hown (by rw [answer_component, hresolve]; rfl)
    obtain ⟨hs, hsafter⟩ := convert_of_resolves hresolve (some s)
    obtain ⟨ht, htafter⟩ := convert_of_resolves hresolve (some t)
    obtain ⟨hsame, hbench⟩ := Prod.mk.inj (hreads.sameUnattached (u := r.classes) h r.bench)
    refine ⟨?_, by rw [hsafter, htafter, hbench]⟩
    rw [hs, ht]
    obtain hvalue | ⟨f, g, hf, hg, hfault⟩ := eq_or_error_of_unattachedOutcome hsame
    · exact .inl hvalue
    · refine .inr ⟨f, g, hf, hg, hfault, ?_, ?_, ?_⟩
      · rw [← f.code_unattached, hfault, g.code_unattached]
      · rw [← f.message_unattached, hfault, g.message_unattached]
      · rw [← f.ownDetail_unattached, hfault, g.ownDetail_unattached]

/-- Whole numbers in a list, the second of which is none: the faults name different settings, and tell the
same of the text. -/
theorem provenance_never_counts_of_ports :
    let r := standard .standard
    let ports := Descriptor.shape (.cls (.builtin "list")) [.plain (.builtin "int")]
    let s := Setting.named (some "1,x") "ports" ["prod"]
    let t := (Setting.ofText (some "1,x;2")).child (some "1,x")
    r.Handled ∧ r.ReadsTexts ∧ s.raw = t.raw ∧
      ∃ f g, answer (convert (some s) ports) r = .error f ∧ answer (convert (some t) ports) r = .error g ∧
        f ≠ g ∧ f.unattached = g.unattached := by
  intro r ports s t
  have hr : r.Reached := .of_new (cache_standard _) (isPure_standard _)
  let read : Converter := .factory "int" (some "int") (Maker.reading (.builtin "int") fun text =>
    ((Number.readInteger 10 text).map Datum.int).mapError .literal).make
  have hint : r.catalogue.build (.plain (.builtin "int")) = .ok read := by
    rw [Catalogue.build_of_plain rfl rfl]
    rfl
  have hbuild : r.catalogue.build ports = .ok (.collection (.sequence fun _ => []) read .asIs) := by
    rw [Catalogue.build_of_collection (d := ports) rfl rfl]
    exact congrArg _ hint
  let fault (setting : Setting) : Fault :=
    .malformed (some "x") "invalid literal for int() with base 10: 'x'"
      (some (setting.child (some "x"))) (some "int") (some .value)
  have hs : answer (convert (some s) ports) r = .error (fault s) := by
    rw [hr.answer_convert, Catalogue.outcome, hbuild]
    rfl
  have ht : answer (convert (some t) ports) r = .error (fault t) := by
    rw [hr.answer_convert, Catalogue.outcome, hbuild]
    rfl
  have hhandled : r.Handled := .new (cache_standard _)
  refine ⟨hhandled, readsTexts_standard _, rfl, ?_⟩
  obtain ⟨⟨x, hx, -⟩ | ⟨f, g, hf, hg, hsame, -⟩, -⟩ :=
    provenance_never_counts hhandled (readsTexts_standard _) (s := s) (t := t) rfl ports
  · rw [hs] at hx
    cases hx
  · refine ⟨f, g, hf, hg, ?_, hsame⟩
    rw [hs] at hf
    rw [ht] at hg
    cases hf
    cases hg
    decide

end SettingText.Registry
