import SettingText.Proofs.Converter.Independent
import SettingText.Proofs.Registry.Stumbling

/-!
Which type lacks a converter. Where resolving a type fails for want of a converter, it does so for the
type itself or for a component that it comes to, and that component fails alone in the same way. What is
kept for the components that were resolved before makes no difference.
-/

namespace SettingText

namespace Recipe

variable {d e : Descriptor} {resolver : NameResolver} {prefixes : List String} {recipe : Recipe}

theorem eq_of_none_noConverter (h : of d = none (.noConverter e)) : e = d := by
  unfold of at h
  split at h
  · cases h
  · exact absurd rfl (ofClass_eq_none h).2
  · cases h
  · cases h
  · exact Fault.noConverter.inj (ofClass_eq_none h).1
  · cases h

/-- Whether a recipe puts a converter together, and how it fails, does not hang on the converters of its
components. -/
theorem isSome_complete {parts parts' : List Converter} (h : parts.length = recipe.components.length)
    (h' : parts'.length = recipe.components.length) :
    (recipe.complete resolver prefixes parts).map Option.isSome =
      (recipe.complete resolver prefixes parts').map Option.isSome := by
  cases recipe with
  | plain | none | className => rfl
  | optional | collection =>
    obtain ⟨c, rfl⟩ := List.length_eq_one_iff.mp h
    obtain ⟨c', rfl⟩ := List.length_eq_one_iff.mp h'
    rfl
  | array element =>
    obtain ⟨c, rfl⟩ := List.length_eq_one_iff.mp h
    obtain ⟨c', rfl⟩ := List.length_eq_one_iff.mp h'
    cases element <;> rfl
  | entry | map =>
    obtain ⟨key, value, rfl⟩ := List.length_eq_two.mp h
    obtain ⟨key', value', rfl⟩ := List.length_eq_two.mp h'
    rfl

end Recipe

namespace Registry

variable {r r₁ r₂ : Registry} {d e : Descriptor} {fault : Fault}

/-- Resolving the first type comes to the second: nothing is registered or kept for a type, and its recipe
needs a component. -/
inductive AsksFor (r : Registry) : Descriptor → Descriptor → Prop
  | self (d : Descriptor) : AsksFor r d d
  | component {d e f : Descriptor} (hcached : r.cached? d = none) (hscalar : r.scalar? d = none)
      (he : e ∈ (Recipe.of d).components) (h : AsksFor r e f) : AsksFor r d f

/-- What is asked for stands in the type, or is the type of everything in place of a missing argument. -/
theorem AsksFor.holds (h : r.AsksFor d e) : d.Holds e ∨ e = .top := by
  induction h with
  | self d => exact .inl (.self d)
  | component _ _ he h ih =>
    obtain rfl | ⟨origin, args, rfl, hmem, _⟩ := Recipe.mem_components he
    · cases h with
      | self => exact .inr rfl
      | component _ _ hnone => cases hnone
    · exact ih.imp_left (.argument hmem)

theorem wellFounded_components :
    WellFounded fun e d : Descriptor => e ∈ (Recipe.of d).components :=
  Subrelation.wf (fun {e d} he => Recipe.weight_components_lt d e he) (measure Descriptor.weight).wf

theorem verdict_serve (r : Registry) (d : Descriptor) :
    verdict (answer (serve d) r) = verdict (r.catalogue.serve d) := by
  rw [answer, serve, run_bind, run_get, Catalogue.serve, catalogue_originConverter?]
  dsimp only
  cases r.originScalar? d with
  | some held => rfl
  | none =>
    dsimp only [Registry.catalogue, Option.map_none]
    cases r.editors.find? r.classes d.rawClass with
    | some kind => rfl
    | none =>
      dsimp only
      cases r.fallback d.rawClass with
      | none => rfl
      | some offer =>
        obtain ⟨c, method⟩ := offer
        cases method <;> rfl

theorem verdict_settle {first second : Except Fault (Option Converter)}
    (hframe : r₁.frame = r₂.frame) (h : first.map Option.isSome = second.map Option.isSome) :
    verdict (answer (settle d first) r₁) = verdict (answer (settle d second) r₂) := by
  have hcatalogue : r₁.catalogue = r₂.catalogue := (congrArg catalogue hframe :)
  have hnone (r : Registry) :
      verdict (answer (settle d (.ok none)) r) = verdict (r.catalogue.serve d) := by
    change verdict (answer (serve d >>= fun held => do modify (·.remember d held); return held) r) = _
    rw [answer_bind]
    exact (verdict_bind_of_ok fun held _ => ⟨held, rfl⟩).trans (verdict_serve r d)
  cases first with
  | error fault =>
    cases second with
    | error => cases h; rfl
    | ok => cases h
  | ok found =>
    cases second with
    | error => cases h
    | ok found' =>
      cases found <;> cases found' <;> cases h
      · rw [hnone, hnone, hcatalogue]
      · rfl

/-- The second registry is the first with more converters kept, all of them for types that resolve in the
first. -/
structure Extends (r r' : Registry) : Prop where
  frame : r'.frame = r.frame
  kept : ∀ d held, r.cached? d = some held → r'.cached? d = some held
  resolves : ∀ d held, r'.cached? d = some held → verdict (answer (resolve d) r) = .ok ()

theorem Extends.refl (r : Registry) : r.Extends r where
  frame := rfl
  kept _ _ h := h
  resolves d held h := by
    rw [answer, run_resolve_of_cached h]
    rfl

theorem Extends.sameStock (h : r.Extends r₁) (hsame : r₁.SameStock r₂) : r.Extends r₂ where
  frame := hsame.frame.trans h.frame
  kept d held hd := (hsame.cached? d).trans (h.kept d held hd)
  resolves d held hd := h.resolves d held ((hsame.cached? d).symm.trans hd)

theorem Extends.remember (h : r.Extends r₁) (hcached : r.cached? d = none)
    (hd : verdict (answer (resolve d) r) = .ok ()) (held : Held) : r.Extends (r₁.remember d held) where
  frame := (frame_remember r₁ d held).trans h.frame
  kept e found he := by
    have hne : e ≠ d := by
      rintro rfl
      rw [hcached] at he
      cases he
    exact (cached?_remember_other r₁ hne held).trans (h.kept e found he)
  resolves e found he := by
    by_cases hed : e = d
    · rwa [hed]
    · exact h.resolves e found ((cached?_remember_other r₁ hed held).symm.trans he)

/-- Resolving components one after the other succeeds where each of them resolves alone, and fails as the
first that does not. -/
theorem verdict_mapM {es : List Descriptor} (h : ∀ e ∈ es, ∀ r₁, r.Extends r₁ →
      verdict (answer (resolve e) r₁) = verdict (answer (resolve e) r) ∧
        r.Extends (after (resolve e) r₁)) (hr : r.Extends r₁) :
    verdict (answer (es.mapM component) r₁) =
        forM es (fun e => verdict (answer (resolve e) r)) ∧
      r.Extends (after (es.mapM component) r₁) := by
  induction es generalizing r₁ with
  | nil => exact ⟨rfl, hr⟩
  | cons e rest ih =>
    obtain ⟨hverdict, hfirst⟩ := h e (by simp) r₁ hr
    rw [answer_mapM_cons, after_mapM_cons, List.forM_cons, answer_component, after_component, ← hverdict]
    cases answer (resolve e) r₁ with
    | error fault => exact ⟨rfl, hfirst⟩
    | ok held =>
      obtain ⟨hrest, hextends⟩ := ih (fun e he => h e (by simp [he])) hfirst
      exact ⟨(verdict_map _ _).trans hrest, hextends⟩

/-- A type resolves, or fails to, as it does without all that was kept since for types that resolve. By
induction on the weight of the type, for all that may have been kept at once, since a component is resolved
where those before it were kept. -/
theorem verdict_resolve {r r₁ : Registry} (d : Descriptor) (hr : r.Extends r₁) :
    verdict (answer (resolve d) r₁) = verdict (answer (resolve d) r) ∧
      r.Extends (after (resolve d) r₁) := by
  cases hcached₁ : r₁.cached? d with
  | some held =>
    rw [answer, after, run_resolve_of_cached hcached₁]
    exact ⟨(hr.resolves d held hcached₁).symm, hr⟩
  | none =>
    have hcached : r.cached? d = none := by
      cases h : r.cached? d with
      | none => rfl
      | some held => rw [hr.kept d held h] at hcached₁; cases hcached₁
    have hsame := scalar?_of_frame hr.frame d
    cases hscalar : r.scalar? d with
    | some held =>
      have hok : verdict (answer (resolve d) r) = .ok () := by
        rw [answer, run_resolve_of_scalar hcached hscalar]
        rfl
      rw [hok, answer, after, run_resolve_of_scalar hcached₁ (hsame.trans hscalar)]
      exact ⟨rfl, hr.remember hcached hok held⟩
    | none =>
      have hcomponents : ∀ e ∈ (Recipe.of d).components, ∀ r₁, r.Extends r₁ →
          verdict (answer (resolve e) r₁) = verdict (answer (resolve e) r) ∧
            r.Extends (after (resolve e) r₁) := by
        intro e he r₁ hr₁
        have := Recipe.weight_components_lt d e he
        exact verdict_resolve e hr₁
      obtain ⟨hmap₁, hafter₁⟩ := verdict_mapM hcomponents hr
      obtain ⟨hmap, hafter⟩ := verdict_mapM hcomponents (.refl r)
      have hanswer := answer_resolve_of_unregistered hcached₁ (hsame.trans hscalar)
      have hverdict : verdict (answer (resolve d) r₁) = verdict (answer (resolve d) r) := by
        rw [hanswer, answer_resolve_of_unregistered hcached hscalar]
        rw [← hmap] at hmap₁
        cases hparts₁ : answer ((Recipe.of d).components.mapM component) r₁ with
        | error fault =>
          rw [hparts₁] at hmap₁
          rw [verdict_eq_error_iff.mp hmap₁.symm]
          rfl
        | ok parts₁ =>
          rw [hparts₁] at hmap₁
          obtain ⟨parts, hparts⟩ := verdict_eq_ok_iff.mp hmap₁.symm
          rw [hparts]
          have hframe := hafter₁.frame.trans hafter.frame.symm
          refine verdict_settle hframe ?_
          rw [complete_of_frame hr.frame]
          exact Recipe.isSome_complete (length_of_answer_mapM hparts₁) (length_of_answer_mapM hparts)
      refine ⟨hverdict, ?_⟩
      rw [after_resolve_of_unregistered hcached₁ (hsame.trans hscalar)]
      cases hparts : answer ((Recipe.of d).components.mapM component) r₁ with
      | error fault => exact hafter₁
      | ok parts =>
        dsimp only
        obtain ⟨r₂, hstock, ⟨fault, hrun, _⟩ | ⟨held, hrun, _⟩⟩ :=
          run_settle (after ((Recipe.of d).components.mapM component) r₁) d (r₁.complete d parts)
        · rw [after, hrun]
          exact hafter₁.sameStock hstock
        · have hok : verdict (answer (resolve d) r) = .ok () := by
            rw [← hverdict, hanswer, hparts]
            exact congrArg (fun run => verdict run.1) hrun
          rw [after, hrun]
          exact (hafter₁.sameStock hstock).remember hcached hok held
termination_by d.weight

theorem answer_resolve_eq_error_iff (h : r.Extends r₁) :
    answer (resolve d) r₁ = .error fault ↔ answer (resolve d) r = .error fault := by
  rw [← verdict_eq_error_iff, (verdict_resolve d h).1, verdict_eq_error_iff]

theorem extends_mapM (es : List Descriptor) (h : r.Extends r₁) :
    r.Extends (after (es.mapM component) r₁) :=
  (verdict_mapM (fun e _ _ hr => verdict_resolve e hr) h).2

/-- Where a type fails for want of a converter for another, it comes to that other one, which fails alone
in the same way. By induction on the weight of the type. -/
theorem asksFor_of_noConverter {r : Registry} {d e : Descriptor}
    (h : answer (resolve d) r = .error (.noConverter e)) :
    r.AsksFor d e ∧ answer (resolve e) r = .error (.noConverter e) := by
  cases hcached : r.cached? d with
  | some held =>
    rw [answer, run_resolve_of_cached hcached] at h
    cases h
  | none =>
    cases hscalar : r.scalar? d with
    | some held =>
      rw [answer, run_resolve_of_scalar hcached hscalar] at h
      cases h
    | none =>
      have hfault := h
      rw [answer_resolve_of_unregistered hcached hscalar] at hfault
      obtain hfault | ⟨parts, _, hfault⟩ := bind_eq_error_iff.mp hfault
      · obtain ⟨before, c, rest, _, hcomponents, _, hc⟩ := answer_mapM_eq_error_iff.mp hfault
        have hmem : c ∈ (Recipe.of d).components := by simp [hcomponents]
        have := Recipe.weight_components_lt d c hmem
        obtain ⟨hasks, hself⟩ := asksFor_of_noConverter
          ((answer_resolve_eq_error_iff (extends_mapM before (.refl r))).mp hc)
        exact ⟨.component hcached hscalar hmem hasks, hself⟩
      -- the components are there, so the type itself has no converter
      · have hed : e = d := by
          obtain hcomplete | hnone := eq_of_answer_settle hfault
          · obtain hrecipe | ⟨_, hpoints⟩ := Recipe.complete_eq_error hcomplete
            · exact Recipe.eq_of_none_noConverter hrecipe
            · cases hpoints
          · exact Fault.noConverter.inj hnone
        subst hed
        exact ⟨.self e, h⟩
termination_by d.weight

/-- Resolving a type asks for components only, which cannot go on for ever. Where it fails for want of a
converter, it is for a type that it comes to, which fails in the same way alone, before and behind this
attempt, and nothing that is registered has changed. Where it gives a converter, no conversion with it
fails so, unless what was plugged into the converter does. -/
theorem missing_converter (r : Registry) (d : Descriptor) :
    (WellFounded fun e d : Descriptor => e ∈ (Recipe.of d).components) ∧
      (∀ e, answer (resolve d) r = .error (.noConverter e) →
        r.AsksFor d e ∧ (d.Holds e ∨ e = .top) ∧
          answer (resolve e) r = .error (.noConverter e) ∧
          answer (resolve e) (after (resolve d) r) = .error (.noConverter e) ∧
          (after (resolve d) r).scalars = r.scalars ∧
          (after (resolve d) r).catalogue = r.catalogue) ∧
      ∀ held, answer (resolve d) r = .ok held → held.converter.Independent →
        ∀ u value b e, (held.converter.convert u value).on b ≠ .error (.noConverter e) := by
  refine ⟨wellFounded_components, fun e h => ?_, fun held _ hindependent u value b e hfault => ?_⟩
  · obtain ⟨hasks, hself⟩ := asksFor_of_noConverter h
    have hextends := (verdict_resolve d (.refl r)).2
    exact ⟨hasks, hasks.holds, hself, (answer_resolve_eq_error_iff hextends).mpr hself,
      (congrArg scalars (frames_resolve r d) :), catalogue_after_resolve r d⟩
  · exact hindependent.failsOnly u value b _ hfault e rfl

/-- In the standard registry a map of texts to lists of an abstract class lacks a converter for that class.
A list of whole numbers resolves, and its conversions fail in other ways only. -/
theorem missing_converter_of_hashable :
    let r := standard .standard
    let missing : Descriptor := .plain (.abstraction "Hashable")
    let lists : Descriptor := .shape (.cls (.builtin "list")) [missing]
    let maps : Descriptor := .shape (.cls (.builtin "dict")) [.plain (.builtin "str"), lists]
    let integers : Descriptor := .shape (.cls (.builtin "list")) [.plain (.builtin "int")]
    (answer (resolve maps) r = .error (.noConverter missing) ∧ maps.Holds missing ∧
        answer (resolve missing) r = .error (.noConverter missing)) ∧
      ∃ held, answer (resolve integers) r = .ok held ∧ held.converter.Independent ∧
        ∀ u value b e, (held.converter.convert u value).on b ≠ .error (.noConverter e) := by
  intro r missing lists maps integers
  have hmissing : answer (resolve missing) r = .error (.noConverter missing) := by
    rw [answer_resolve_of_unregistered rfl rfl]
    rfl
  have hlists : answer (resolve lists) r = .error (.noConverter missing) := by
    rw [answer_resolve_of_unregistered rfl rfl]
    exact bind_eq_error_iff.mpr (.inl (answer_mapM_eq_error_iff.mpr ⟨[], missing, [], [], rfl, rfl, hmissing⟩))
  have hstr : answer ([.plain (.builtin "str")].mapM component) r = .ok [.text] := by
    rw [answer_mapM_cons, answer_component, answer, run_resolve_of_scalar rfl rfl]
    rfl
  have hmaps : answer (resolve maps) r = .error (.noConverter missing) := by
    rw [answer_resolve_of_unregistered rfl rfl]
    have hlater := (answer_resolve_eq_error_iff (extends_mapM [.plain (.builtin "str")] (.refl r))).mpr hlists
    exact bind_eq_error_iff.mpr (.inl (answer_mapM_eq_error_iff.mpr ⟨_, lists, [], _, rfl, hstr, hlater⟩))
  obtain ⟨_, hfails, _⟩ := missing_converter r maps
  obtain ⟨_, hholds, hself, _⟩ := hfails missing hmaps
  obtain ⟨held, hheld, hindependent⟩ : ∃ held, answer (resolve integers) r = .ok held ∧
      held.converter.Independent := by
    have hint : ∃ c, answer ([.plain (.builtin "int")].mapM component) r = .ok [c] ∧ c.Independent := by
      rw [answer_mapM_cons, answer_component, answer_resolve_of_unregistered rfl rfl]
      refine ⟨_, rfl, fun text fault hfault => ?_⟩
      obtain ⟨cause, _, rfl⟩ := mapError_eq_error_iff.mp hfault
      exact Fault.findsAll_stray cause
    obtain ⟨c, hc, hindependent⟩ := hint
    rw [answer_resolve_of_unregistered rfl rfl]
    exact ⟨_, bind_eq_ok_iff.mpr ⟨_, hc, rfl⟩, hindependent⟩
  exact ⟨⟨hmaps, hholds.resolve_right (by decide), hself⟩, held, hheld, hindependent,
    (missing_converter r integers).2.2 held hheld hindependent⟩

end Registry

end SettingText
