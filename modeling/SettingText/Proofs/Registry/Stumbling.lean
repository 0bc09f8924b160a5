import SettingText.Proofs.Expression.Grammar
import SettingText.Proofs.Registry.Handled
import SettingText.Proofs.Registry.Hierarchy
import SettingText.Proofs.Types.Made

/-!
How resolving a type that an expression states fails. Where no converter is found, that is the failure. One
shape is put together wrongly instead: a tuple of any number of three points. Its fault comes through
from any depth, and neither a description nor a conversion reports it.
-/

namespace SettingText

/-- A tuple with three points for its element type. -/
def Descriptor.pointsTuple : Descriptor := .shape (.cls (.builtin "tuple")) [.dots, .dots]

/-- Three points are no element type. -/
def Fault.points : Fault :=
  .misconfigured "ArrayConverter needs exactly one element type, got Ellipsis"

/-- The second type is the first, or stands in it. -/
inductive Descriptor.Holds : Descriptor → Descriptor → Prop
  | self (d) : Holds d d
  | argument {origin args a d} (ha : a ∈ args) (h : Holds a d) : Holds (.shape origin args) d

theorem Descriptor.Holds.eq_or_exists {origin : Origin} {args : List Descriptor} {d : Descriptor}
    (h : (Descriptor.shape origin args).Holds d) : .shape origin args = d ∨ ∃ a ∈ args, a.Holds d := by
  cases h with
  | self => exact .inl rfl
  | argument ha h => exact .inr ⟨_, ha, h⟩

namespace Recipe

variable {d e : Descriptor} {fault : Fault}

theorem orTop_eq (args : List Descriptor) (i : Nat) :
    orTop args[i]? = .top ∨ orTop args[i]? ∈ args ∧ orTop args[i]? ≠ .dots := by
  cases hi : args[i]? with
  | none => exact .inl rfl
  | some a =>
    by_cases ha : a = .dots
    · subst ha
      exact .inl rfl
    · rw [Catalogue.orTop_of_ne_dots ha]
      exact .inr ⟨List.mem_of_getElem? hi, ha⟩

theorem ofClass_cases (c : ClassRef) (args : List Descriptor) :
    (c = .builtin "tuple" ∧ ofClass c args = ofTuple args) ∨
      ofClass c args = entry (orTop args[0]?) (orTop args[1]?) ∨
      ofClass c args = map (orTop args[0]?) (orTop args[1]?) ∨
      (∃ container finish, ofClass c args = collection container (orTop args[0]?) finish) ∨
      (∃ bound, ofClass c args = className bound) ∨ ofClass c args = plain := by
  unfold ofClass
  split
  · exact .inl ⟨‹_›, rfl⟩
  split
  · exact .inr (.inl rfl)
  split
  · exact .inr (.inr (.inl rfl))
  split
  · exact .inr (.inr (.inr (.inl ⟨_, _, rfl⟩)))
  split
  · split
    · exact .inr (.inr (.inr (.inr (.inl ⟨_, rfl⟩))))
    · exact .inr (.inr (.inr (.inr (.inr rfl))))
  · exact .inr (.inr (.inr (.inr (.inr rfl))))

theorem ofTuple_cases (args : List Descriptor) :
    (args = [] ∧ ofTuple args = array .top) ∨
      (∃ element, args = [element, .dots] ∧ ofTuple args = array element) ∨
      ofTuple args = none (.noConverter (.shape (.cls (.builtin "tuple")) args)) := by
  unfold ofTuple
  split
  · exact .inl ⟨rfl, rfl⟩
  · exact .inr (.inl ⟨_, rfl, rfl⟩)
  · exact .inr (.inr rfl)

theorem mem_components_ofClass {c : ClassRef} {args : List Descriptor}
    (h : e ∈ (ofClass c args).components) : e = .top ∨ e ∈ args ∧ e ≠ .dots := by
  have h₀ := orTop_eq args 0
  have h₁ := orTop_eq args 1
  obtain ⟨_, hc⟩ | hc | hc | ⟨container, finish, hc⟩ | ⟨bound, hc⟩ | hc := ofClass_cases c args
  · rw [hc] at h
    obtain ⟨rfl, htuple⟩ | ⟨element, rfl, htuple⟩ | htuple := ofTuple_cases args
    · rw [htuple] at h
      exact .inl (List.mem_singleton.mp h)
    · rw [htuple] at h
      obtain rfl := List.mem_singleton.mp h
      exact h₀
    · rw [htuple] at h
      cases h
  · rw [hc] at h
    obtain rfl | rfl := List.mem_pair.mp h
    · exact h₀
    · exact h₁
  · rw [hc] at h
    obtain rfl | rfl := List.mem_pair.mp h
    · exact h₀
    · exact h₁
  · rw [hc] at h
    obtain rfl := List.mem_singleton.mp h
    exact h₀
  · rw [hc] at h
    cases h
  · rw [hc] at h
    cases h

/-- What a recipe needs is an argument of its shape, or stands for one that is missing. -/
theorem mem_components (h : e ∈ (of d).components) :
    e = .top ∨ ∃ origin args, d = .shape origin args ∧ e ∈ args ∧ e ≠ .dots := by
  unfold of at h
  split at h
  · cases h
  · obtain rfl | ⟨hmem, _⟩ := mem_components_ofClass h
    · exact .inl rfl
    · cases hmem
  · rename_i base rest
    obtain rfl := List.mem_singleton.mp h
    exact (orTop_eq (base :: rest) 0).imp_right fun hbase => ⟨_, _, rfl, hbase⟩
  · cases h
  · exact (mem_components_ofClass h).imp_right fun he => ⟨_, _, rfl, he⟩
  · cases h

theorem ofClass_eq_none {c : ClassRef} {args : List Descriptor} (h : ofClass c args = none fault) :
    fault = .noConverter (.shape (.cls c) args) ∧ args ≠ [] := by
  obtain ⟨rfl, hc⟩ | hc | hc | ⟨_, _, hc⟩ | ⟨_, hc⟩ | hc := ofClass_cases c args
  · rw [hc] at h
    obtain ⟨rfl, htuple⟩ | ⟨_, rfl, htuple⟩ | htuple := ofTuple_cases args
    · cases h
    · cases h
    · rw [htuple] at h
      cases h
      refine ⟨rfl, ?_⟩
      rintro rfl
      cases htuple
  all_goals
    rw [hc] at h
    cases h

/-- Of the types that a form is reduced to, only tuples have a shape without a converter. -/
theorem eq_noConverter_of_none {P : ClassRef → Prop} (hd : d.Reduced P) (h : of d = none fault) :
    fault = .noConverter d := by
  cases hd with
  | plain => exact absurd rfl (ofClass_eq_none h).2
  | shape => exact (ofClass_eq_none h).1
  | optional => cases h

theorem eq_of_ofClass_eq_array_dots {c : ClassRef} {args : List Descriptor}
    (h : ofClass c args = array .dots) : c = .builtin "tuple" ∧ args = [.dots, .dots] := by
  obtain ⟨rfl, hc⟩ | hc | hc | ⟨_, _, hc⟩ | ⟨_, hc⟩ | hc := ofClass_cases c args
  · rw [hc] at h
    obtain ⟨rfl, htuple⟩ | ⟨element, rfl, htuple⟩ | htuple := ofTuple_cases args
    · cases h
    · cases h
      exact ⟨rfl, rfl⟩
    · rw [htuple] at h
      cases h
  all_goals
    rw [hc] at h
    cases h

theorem eq_pointsTuple_of_array (h : of d = array .dots) : d = .pointsTuple := by
  unfold of at h
  split at h
  · cases h
  · cases (eq_of_ofClass_eq_array_dots h).2
  · cases h
  · cases h
  · obtain ⟨rfl, rfl⟩ := eq_of_ofClass_eq_array_dots h
    rfl
  · cases h

theorem components_pointsTuple : (of .pointsTuple).components = [.top] := rfl

/-- A recipe whose components are there fails for its shape alone. -/
theorem complete_eq_error {resolver : NameResolver} {prefixes : List String} {recipe : Recipe}
    {parts : List Converter} (h : recipe.complete resolver prefixes parts = .error fault) :
    recipe = none fault ∨ recipe = array .dots ∧ fault = .points := by
  unfold complete at h
  split at h
  · cases h
    exact .inl rfl
  · cases h
  · cases h
  · rename_i element inner
    cases element with
    | dots =>
      cases h
      exact .inr ⟨rfl, rfl⟩
    | plain | shape => cases h
  all_goals cases h

end Recipe

theorem Descriptor.Reduced.component {P : ClassRef → Prop} {d e : Descriptor} (hd : d.Reduced P)
    (he : e ∈ (Recipe.of d).components) : e.Reduced P := by
  obtain rfl | ⟨origin, args, rfl, hmem, hne⟩ := Recipe.mem_components he
  · exact .top
  · cases hd with
    | shape _ _ hargs => exact hargs e hmem hne
    | optional hbase =>
      obtain rfl := List.mem_singleton.mp hmem
      exact hbase

namespace Registry

variable {r : Registry} {d : Descriptor} {fault : Fault}

theorem answer_component_eq_error_iff :
    answer (component d) r = .error fault ↔ answer (resolve d) r = .error fault := by
  rw [answer_component, map_eq_error_iff]

/-- Resolving components one after the other fails at the first that does not resolve, where those before
it have left the registry. -/
theorem answer_mapM_eq_error_iff {es : List Descriptor} :
    answer (es.mapM component) r = .error fault ↔ ∃ before e rest parts, es = before ++ e :: rest ∧
      answer (before.mapM component) r = .ok parts ∧
      answer (resolve e) (after (before.mapM component) r) = .error fault := by
  induction es generalizing r with
  | nil =>
    refine iff_of_false (by rintro ⟨⟩) ?_
    rintro ⟨before, e, rest, parts, h, _⟩
    simp at h
  | cons e es ih =>
    rw [answer_mapM_cons, bind_eq_error_iff, answer_component_eq_error_iff]
    constructor
    · rintro (h | ⟨c, hc, h⟩)
      · exact ⟨[], e, es, [], rfl, rfl, h⟩
      · obtain ⟨before, e', rest, parts, rfl, hparts, hfault⟩ := ih.mp (map_eq_error_iff.mp h)
        refine ⟨e :: before, e', rest, c :: parts, rfl, ?_, ?_⟩
        · rw [answer_mapM_cons, hc]
          exact congrArg (Except.map _) hparts
        · rw [after_mapM_cons, hc]
          exact hfault
    · rintro ⟨before, e', rest, parts, hes, hparts, hfault⟩
      cases before with
      | nil =>
        obtain ⟨rfl, rfl⟩ := List.cons.inj hes
        exact .inl hfault
      | cons d before =>
        obtain ⟨rfl, rfl⟩ := List.cons.inj hes
        rw [answer_mapM_cons] at hparts
        obtain ⟨c, hc, hparts⟩ := bind_eq_ok_iff.mp hparts
        obtain ⟨parts, hbefore, _⟩ := map_eq_ok_iff.mp hparts
        rw [after_mapM_cons, hc] at hfault
        exact .inr ⟨c, hc, map_eq_error_iff.mpr (ih.mpr ⟨before, e', rest, parts, rfl, hbefore, hfault⟩)⟩

/-- Resolving a type comes to a tuple with three points for its element type, after everything before it is
resolved: it is such a tuple, or one of its components comes to one. -/
inductive Stumbles : Registry → Descriptor → Prop
  | points {r held} (hcached : r.cached? .pointsTuple = none)
      (hscalar : r.scalar? .pointsTuple = none) (htop : answer (resolve .top) r = .ok held) :
      Stumbles r .pointsTuple
  | component {r d before e rest parts} (hcached : r.cached? d = none) (hscalar : r.scalar? d = none)
      (hcomponents : (Recipe.of d).components = before ++ e :: rest)
      (hbefore : answer (before.mapM component) r = .ok parts)
      (h : Stumbles (after (before.mapM component) r) e) : Stumbles r d

theorem eq_of_answer_settle {assembled : Except Fault (Option Converter)}
    (h : answer (settle d assembled) r = .error fault) :
    assembled = .error fault ∨ fault = .noConverter d := by
  obtain ⟨r', _, ⟨found, hrun, hfound⟩ | ⟨held, hrun, _⟩⟩ := run_settle r d assembled
  · rw [answer, hrun] at h
    cases h
    exact hfound
  · rw [answer, hrun] at h
    cases h

theorem Stumbles.answer_resolve (h : r.Stumbles d) : answer (resolve d) r = .error .points := by
  induction h with
  | @points r held hcached hscalar htop =>
    have hparts : answer ((Recipe.of .pointsTuple).components.mapM Registry.component) r =
        .ok [held.converter] := by
      rw [Recipe.components_pointsTuple, answer_mapM_cons, answer_component, htop]
      rfl
    rw [answer_resolve_of_unregistered hcached hscalar, hparts]
    rfl
  | component hcached hscalar hcomponents hbefore _ ih =>
    rw [answer_resolve_of_unregistered hcached hscalar]
    refine bind_eq_error_iff.mpr (.inl ?_)
    exact answer_mapM_eq_error_iff.mpr ⟨_, _, _, _, hcomponents, hbefore, ih⟩

theorem Stumbles.holds (h : r.Stumbles d) : d.Holds .pointsTuple := by
  induction h with
  | points => exact .self _
  | @component r d before e rest parts _ _ hcomponents _ _ ih =>
    obtain rfl | ⟨origin, args, rfl, he, _⟩ :=
      Recipe.mem_components (d := d) (e := e) (by simp [hcomponents])
    · -- the type of everything holds no other
      cases ih
    · exact .argument he ih

/-- A type that a form is reduced to fails for want of a converter or by stumbling, whatever state the
registry is in. By induction on the weight of the type: a component that fails does so in one of these
ways. -/
theorem noConverter_or_stumbles {P : ClassRef → Prop} {r : Registry} {d : Descriptor} {fault : Fault}
    (hd : d.Reduced P) (h : answer (resolve d) r = .error fault) :
    (∃ e, fault = .noConverter e) ∨ r.Stumbles d := by
  cases hcached : r.cached? d with
  | some held =>
    rw [answer, run_resolve_of_cached hcached] at h
    cases h
  | none =>
    cases hscalar : r.scalar? d with
    | some held =>
      rw [answer, run_resolve_of_scalar hcached hscalar] at h
      cases h
    | none =>
      rw [answer_resolve_of_unregistered hcached hscalar] at h
      obtain h | ⟨parts, hparts, h⟩ := bind_eq_error_iff.mp h
      · obtain ⟨before, e, rest, parts, hcomponents, hbefore, he⟩ := answer_mapM_eq_error_iff.mp h
        have hmem : e ∈ (Recipe.of d).components := by simp [hcomponents]
        have := Recipe.weight_components_lt d e hmem
        obtain hnone | hstumbles := noConverter_or_stumbles (hd.component hmem) he
        · exact .inl hnone
        · exact .inr (.component hcached hscalar hcomponents hbefore hstumbles)
      -- the components are there, so it is the shape that fails, or no one serves the type
      · obtain h | rfl := eq_of_answer_settle h
        · obtain hrecipe | ⟨hrecipe, _⟩ := Recipe.complete_eq_error h
          · exact .inl ⟨d, Recipe.eq_noConverter_of_none hd hrecipe⟩
          · obtain rfl := Recipe.eq_pointsTuple_of_array hrecipe
            rw [Recipe.components_pointsTuple, answer_mapM_cons] at hparts
            obtain ⟨c, htop, _⟩ := bind_eq_ok_iff.mp hparts
            rw [answer_component] at htop
            obtain ⟨held, hheld, _⟩ := map_eq_ok_iff.mp htop
            exact .inr (.points hcached hscalar hheld)
        · exact .inl ⟨d, rfl⟩
termination_by d.weight

theorem answer_describe (d : Descriptor) :
    answer (describe d) r =
      match answer (resolve d) r with
      | .ok held => .ok (.success "describe" d "converter" (.text held.converter.shown))
      | .error fault =>
        if Outcome.reportsMissing fault then .ok (.failed "describe" d fault) else .error fault := by
  rw [answer, answer, describe]
  rcases h : (resolve d).run.run r with ⟨outcome, r'⟩
  cases outcome with
  | ok held => rw [run_outcomeOf_of_ok h]; rfl
  | error fault => rw [run_outcomeOf_of_error h]

/-- Resolving a type that an expression states gives a converter or fails for want of one, in every
registry and whatever state it is in, unless the type stumbles over a tuple with three points for its
element type. Then the fault of that tuple comes through, and no description and no conversion to the
type has an outcome; otherwise both have one where resolving fails. -/
theorem resolve_or_stumbles {u : Universe} {text : String} {form : TypeForm}
    (h : TypeForm.parse u text = .ok form) (r : Registry) :
    let d := form.synthesize
    (((∃ held, answer (resolve d) r = .ok held) ∨ ∃ e, answer (resolve d) r = .error (.noConverter e)) ↔
        ¬r.Stumbles d) ∧
      (r.Stumbles d → d.Holds .pointsTuple ∧ answer (resolve d) r = .error .points ∧
        ∀ op value, answer (tryConvert op value d) r = .error .points) ∧
      ((∃ outcome, answer (describe d) r = .ok outcome) ↔ ¬r.Stumbles d) ∧
      ∀ fault, answer (resolve d) r = .error fault → ¬r.Stumbles d →
        ∀ op value, answer (tryConvert op value d) r = .ok (.failed op d fault) := by
  intro d
  have hreduced : d.Reduced fun _ => True := by
    obtain ⟨tree, hgrammar, _, heval⟩ := Types.ofText_eq_ok_iff.mp h
    exact (hgrammar.gives_eval ⟨fun _ => trivial, fun _ _ => trivial, fun _ _ _ => trivial⟩ _ heval).reduced
  have hfails {fault : Fault} (hfault : answer (resolve d) r = .error fault) (hnot : ¬r.Stumbles d) :
      ∃ e, fault = .noConverter e := (noConverter_or_stumbles hreduced hfault).resolve_right hnot
  refine ⟨⟨?_, fun hnot => ?_⟩, fun hstumbles => ⟨hstumbles.holds, hstumbles.answer_resolve, ?_⟩,
    ⟨?_, fun hnot => ?_⟩, ?_⟩
  · rintro (⟨held, hheld⟩ | ⟨e, he⟩) hstumbles
    · rw [hstumbles.answer_resolve] at hheld
      cases hheld
    · rw [hstumbles.answer_resolve] at he
      cases he
  · cases hanswer : answer (resolve d) r with
    | ok held => exact .inl ⟨held, rfl⟩
    | error fault =>
      obtain ⟨e, rfl⟩ := hfails hanswer hnot
      exact .inr ⟨e, rfl⟩
  · intro op value
    rw [answer_tryConvert, (convert_of_not_resolves hstumbles.answer_resolve value).1]
    rfl
  · rintro ⟨outcome, houtcome⟩ hstumbles
    rw [answer_describe, hstumbles.answer_resolve] at houtcome
    cases houtcome
  · rw [answer_describe]
    cases hanswer : answer (resolve d) r with
    | ok held => exact ⟨_, rfl⟩
    | error fault =>
      obtain ⟨e, rfl⟩ := hfails hanswer hnot
      exact ⟨_, rfl⟩
  · intro fault hfault hnot op value
    obtain ⟨e, rfl⟩ := hfails hfault hnot
    rw [answer_tryConvert, (convert_of_not_resolves hfault value).1]
    rfl

/-- A list of tuples with three points for their element type, in the standard registry. -/
theorem resolve_or_stumbles_of_list :
    ∃ form, TypeForm.parse .standard "list[tuple[..., ...]]" = .ok form ∧
      answer (resolve form.synthesize) (standard .standard) = .error .points ∧
      ¬∃ outcome, answer (describe form.synthesize) (standard .standard) = .ok outcome := by
  let tree : Types.Tree := .subscript "list" [.subscript "tuple" [.dots, .dots]]
  have htuple : (Types.Tree.subscript "tuple" [.dots, .dots]).Grammatical :=
    .subscript (by simp) (by simp [Types.Tree.Grammatical.dots])
  have hgrammar : tree.Grammatical := .subscript (by simp) (by simpa using htuple)
  have hspells : Types.Spells tree.yield "list[tuple[..., ...]]".toList := by
    refine Types.tokens_eq_ok_iff.mp ?_
    decide +kernel
  have hparse : TypeForm.parse .standard "list[tuple[..., ...]]" =
      .ok (.generic false (.builtin "list") [.generic false (.builtin "tuple") [.dots, .dots]]) :=
    Types.ofText_of_spells hgrammar hspells
  obtain ⟨_, hstumbling, hdescribe, _⟩ := resolve_or_stumbles hparse (standard .standard)
  have htop : answer (resolve .top) (standard .standard) = .ok ⟨0, .text⟩ := by
    rw [answer, run_resolve_of_scalar rfl rfl]
  have hpoints : (after (([] : List Descriptor).mapM component) (standard .standard)).Stumbles
      .pointsTuple := .points rfl rfl htop
  have hstumbles : (standard .standard).Stumbles (.shape (.cls (.builtin "list")) [.pointsTuple]) :=
    .component rfl rfl rfl rfl hpoints
  exact ⟨_, hparse, (hstumbling hstumbles).2.1, fun h => hdescribe.mp h hstumbles⟩

end Registry

end SettingText
