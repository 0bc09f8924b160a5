import SettingText.Proofs.Registry.Missing
import SettingText.Proofs.Registry.Shapes
import SettingText.Proofs.Types.Congruence

/-!
Tuples of a fixed length. No text can be read as one, so it has no converter unless one is registered, and
nor has a type that is put together from it. Two tuples are not told from those of any length: the one of
no types at all, whose descriptor is that of the class of tuples, and the one of two times three points.
-/

namespace SettingText

/-- A tuple of any length. -/
def Descriptor.tupleOf (element : Descriptor) : Descriptor :=
  .shape (.cls (.builtin "tuple")) [element, .dots]

namespace TypeForm

variable {P : ClassRef → Prop} {arg : TypeForm} {args : List TypeForm}

/-- A tuple with its arguments; `checked` tells that these were checked. -/
def tuple (checked : Bool) (args : List TypeForm) : TypeForm := generic checked (.builtin "tuple") args

/-- The tuple is one of any number of values of a type. -/
def IsAnyLength (args : List TypeForm) : Prop := ∃ element, element ≠ dots ∧ args = [element, dots]

theorem synthesize_ne_dots (h : arg.MadeOf P) : arg.synthesize ≠ .dots := by
  intro hdots
  have hreduced := h.reduced
  rw [hdots] at hreduced
  exact Descriptor.not_reduced_dots hreduced

theorem length_arguments (args : List TypeForm) :
    (synthesize.arguments args).length = args.length := by
  induction args with
  | nil => rfl
  | cons arg rest ih =>
    by_cases harg : arg = dots
    · subst harg
      exact congrArg (· + 1) ih
    · rw [arguments_cons harg, List.length_cons, List.length_cons, ih]

/-- Only three points are reduced to three points, also behind another argument. -/
theorem eq_of_arguments_pair {element : Descriptor} (hargs : AllMade P args)
    (h : synthesize.arguments args = [element, .dots]) :
    ∃ first, args = [first, dots] ∧ (element = .dots → first = dots) := by
  have hlength := length_arguments args
  rw [h] at hlength
  obtain ⟨first, second, rfl⟩ := List.length_eq_two.mp hlength.symm
  have hsecond : second = dots := by
    by_contra hne
    have hlast := congrArg List.getLast? h
    by_cases hfirst : first = dots
    · subst hfirst
      change (Descriptor.dots :: synthesize.arguments [second]).getLast? = _ at hlast
      rw [arguments_cons hne] at hlast
      exact synthesize_ne_dots (hargs second (by simp)) (Option.some.inj hlast)
    · rw [arguments_cons hfirst, arguments_cons hne] at hlast
      exact synthesize_ne_dots (hargs second (by simp)) (Option.some.inj hlast)
  refine ⟨first, by rw [hsecond], ?_⟩
  rintro rfl
  by_contra hfirst
  rw [arguments_cons hfirst] at h
  exact synthesize_ne_dots (hargs first (by simp)) (List.cons.inj h).1

theorem rawClass_tuple (checked : Bool) (args : List TypeForm) :
    (tuple checked args).synthesize.rawClass = .builtin "tuple" := by
  change (ofArguments (.builtin "tuple") (synthesize.arguments args)).rawClass = _
  cases synthesize.arguments args <;> rfl

theorem recipe_tuple (checked : Bool) (args : List TypeForm) :
    Recipe.of (tuple checked args).synthesize = Recipe.ofTuple (synthesize.arguments args) := by
  change Recipe.of (ofArguments (.builtin "tuple") (synthesize.arguments args)) = _
  cases synthesize.arguments args <;> rfl

/-- A tuple of a fixed length has no recipe, unless it has no arguments or is told by three points alone. -/
theorem recipe_fixed_tuple (checked : Bool) (hargs : AllMade P args) (hfixed : ¬IsAnyLength args)
    (hempty : args ≠ []) (hpoints : args ≠ [dots, dots]) :
    Recipe.of (tuple checked args).synthesize =
      .none (.noConverter (tuple checked args).synthesize) := by
  have hsome : synthesize.arguments args ≠ [] := by
    intro h
    exact hempty (List.length_eq_zero_iff.mp ((length_arguments args).symm.trans (congrArg _ h)))
  have hsynthesize : (tuple checked args).synthesize =
      .shape (.cls (.builtin "tuple")) (synthesize.arguments args) := by
    change ofArguments (.builtin "tuple") (synthesize.arguments args) = _
    obtain ⟨d, ds, hds⟩ := List.exists_cons_of_ne_nil hsome
    rw [hds]
    rfl
  rw [recipe_tuple, hsynthesize]
  obtain ⟨hnil, _⟩ | ⟨element, hpair, _⟩ | hnone := Recipe.ofTuple_cases (synthesize.arguments args)
  · exact absurd hnil hsome
  · obtain ⟨first, rfl, _⟩ := eq_of_arguments_pair hargs hpair
    by_cases hfirst : first = dots
    · exact absurd (by rw [hfirst]) hpoints
    · exact absurd ⟨first, hfirst, rfl⟩ hfixed
  · exact hnone

end TypeForm

namespace Registry

variable {r : Registry} {d e : Descriptor} {fault : Fault}

/-- No converter is registered for a tuple. -/
def HasNoTuples (r : Registry) : Prop :=
  ∀ d : Descriptor, d.rawClass = .builtin "tuple" → r.scalar? d = none

/-- The first type is put together from the second, or from a type that is: nothing is registered for a
type on the way, and its recipe has the next for a component. -/
inductive Needs (r : Registry) : Descriptor → Descriptor → Prop
  | self (d : Descriptor) : Needs r d d
  | component {d e f : Descriptor} (hscalar : r.scalar? d = none)
      (he : e ∈ (Recipe.of d).components) (h : Needs r e f) : Needs r d f

/-- A shape without a converter fails as such, and nothing can be kept for it. -/
theorem Accounted.answer_resolve_of_none (hr : r.Accounted) (hscalar : r.scalar? d = none)
    (hrecipe : Recipe.of d = .none fault) : answer (resolve d) r = .error fault := by
  have hcomplete (parts : List Converter) : r.complete d parts = .error fault := by
    rw [complete, hrecipe]
    rfl
  cases hcached : r.cached? d with
  | none =>
    rw [answer_resolve_of_unregistered hcached hscalar, hrecipe]
    change answer (settle d (r.complete d [])) r = _
    rw [hcomplete]
    rfl
  | some held =>
    cases hr d held hcached with
    | registered h =>
      rw [hscalar] at h
      cases h
    | assembled _ _ h =>
      rw [hcomplete] at h
      cases h
    | served _ hplain =>
      rw [hrecipe] at hplain
      cases hplain

/-- Resolving components one after the other fails where one of them does, perhaps at an earlier one. -/
theorem exists_answer_mapM_eq_error {es : List Descriptor} (he : e ∈ es)
    (h : answer (resolve e) r = .error fault) :
    ∃ fault', answer (es.mapM component) r = .error fault' := by
  obtain ⟨before, rest, rfl⟩ := List.append_of_mem he
  cases hbefore : answer (before.mapM component) r with
  | ok parts =>
    have hlater := (answer_resolve_eq_error_iff (extends_mapM before (.refl r))).mpr h
    exact ⟨fault, answer_mapM_eq_error_iff.mpr ⟨before, e, rest, parts, rfl, hbefore, hlater⟩⟩
  | error fault' =>
    obtain ⟨first, e', others, parts, rfl, hfirst, hfault⟩ := answer_mapM_eq_error_iff.mp hbefore
    exact ⟨fault', answer_mapM_eq_error_iff.mpr
      ⟨first, e', others ++ e :: rest, parts, by simp, hfirst, hfault⟩⟩

theorem Accounted.fails_of_component (hr : r.Accounted) (hscalar : r.scalar? d = none)
    (he : e ∈ (Recipe.of d).components) (h : answer (resolve e) r = .error fault) :
    ∃ fault', answer (resolve d) r = .error fault' := by
  have hrecipe : Recipe.of d ≠ .plain := by
    intro hplain
    rw [hplain] at he
    cases he
  obtain ⟨fault', hparts⟩ := exists_answer_mapM_eq_error he h
  have hanswer := hr.answer_component_of_recipe hscalar hrecipe
  rw [hparts] at hanswer
  exact ⟨fault', answer_component_eq_error_iff.mp (map_eq_error_iff.mp hanswer)⟩

/-- A type fails where one does that it is put together from. -/
theorem Needs.fails (h : r.Needs d e) (hr : r.Accounted) (he : answer (resolve e) r = .error fault) :
    ∃ fault', answer (resolve d) r = .error fault' := by
  induction h with
  | self => exact ⟨fault, he⟩
  | component hscalar hmem _ ih =>
    obtain ⟨fault', hfault'⟩ := ih he
    exact hr.fails_of_component hscalar hmem hfault'

/-- A fault is that of a missing converter unless the type stumbles. -/
theorem exists_eq_noConverter_iff {P : ClassRef → Prop} (hd : d.Reduced P)
    (h : answer (resolve d) r = .error fault) : (∃ e, fault = .noConverter e) ↔ ¬r.Stumbles d := by
  constructor
  · rintro ⟨e, rfl⟩ hstumbles
    rw [hstumbles.answer_resolve] at h
    cases h
  · exact (noConverter_or_stumbles hd h).resolve_right

theorem not_stumbles_top : ¬r.Stumbles .top := by
  intro h
  cases h.holds

/-- The type of everything fails for want of a converter only. -/
theorem exists_noConverter_top_iff :
    (∃ e, answer (resolve .top) r = .error (.noConverter e)) ↔
      ∀ held, answer (resolve .top) r ≠ .ok held := by
  constructor
  · rintro ⟨e, he⟩ held hheld
    rw [he] at hheld
    cases hheld
  · intro h
    cases hanswer : answer (resolve .top) r with
    | ok held => exact absurd hanswer (h held)
    | error fault =>
      obtain ⟨e, rfl⟩ := (exists_eq_noConverter_iff (P := fun _ => True) .top hanswer).mpr not_stumbles_top
      exact ⟨e, rfl⟩

section Tuples

variable {checked : Bool} {args : List TypeForm}

theorem complete_of_array {element : Descriptor} (hd : Recipe.of d = .array element) (c : Converter) :
    r.complete d [c] = (Converter.arrayOf (elementOf element) (.listOf c)).map some := by
  rw [complete, hd]
  rfl

/-- An array of anything has one component, the type of everything. -/
theorem Accounted.answer_component_array_top (hr : r.Accounted) (hscalar : r.scalar? d = none)
    (hd : Recipe.of d = .array .top) :
    answer (component d) r = (answer (component .top) r).map fun c => .array .top (.listOf c) :=
  hr.answer_component_of_one hscalar (congrArg Recipe.components hd) fun c => complete_of_array hd c

theorem Accounted.answer_resolve_array_top (hr : r.Accounted) (hscalar : r.scalar? d = none)
    (hd : Recipe.of d = .array .top) :
    answer (resolve d) r = .error fault ↔ answer (resolve .top) r = .error fault := by
  rw [← answer_component_eq_error_iff, hr.answer_component_array_top hscalar hd, map_eq_error_iff,
    answer_component_eq_error_iff]

/-- A tuple with three points for its element type fails as the type of everything does, or else for the
points. -/
theorem Accounted.answer_resolve_pointsTuple (hr : r.Accounted)
    (hscalar : r.scalar? .pointsTuple = none) :
    answer (resolve .pointsTuple) r = .error fault ↔ answer (resolve .top) r = .error fault ∨
      (∃ held, answer (resolve .top) r = .ok held) ∧ fault = .points := by
  rw [← answer_component_eq_error_iff, ← map_eq_error_iff (f := some),
    hr.answer_component_of_single hscalar Recipe.components_pointsTuple, bind_eq_error_iff,
    answer_component_eq_error_iff]
  refine or_congr_right ⟨?_, ?_⟩
  · rintro ⟨c, hc, hfault⟩
    rw [answer_component] at hc
    obtain ⟨held, hheld, _⟩ := map_eq_ok_iff.mp hc
    cases hfault
    exact ⟨⟨held, hheld⟩, rfl⟩
  · rintro ⟨⟨held, hheld⟩, rfl⟩
    refine ⟨held.converter, ?_, rfl⟩
    rw [answer_component, hheld]
    rfl

end Tuples

/-- A tuple of a fixed length fails for want of a converter for itself, and a type that is put together from
it fails too, for want of a converter unless it stumbles over another tuple before. This is so for every
list of arguments but two. Without arguments the tuple is put together like a tuple of any length, of
anything; with three points for both arguments it fails for the points. So these two lack a converter only
where the type of everything does. -/
theorem resolve_fixed_tuple {u : Universe} {checked : Bool} {args : List TypeForm}
    (hform : (TypeForm.tuple checked args).Built u) (hfixed : ¬TypeForm.IsAnyLength args)
    {r : Registry} (hr : r.Handled) (hno : r.HasNoTuples) :
    let d := (TypeForm.tuple checked args).synthesize
    ((∃ e, answer (resolve d) r = .error (.noConverter e)) ↔
        args ≠ [] ∧ args ≠ [.dots, .dots] ∨ ∀ held, answer (resolve .top) r ≠ .ok held) ∧
      (args ≠ [] → args ≠ [.dots, .dots] →
        answer (resolve d) r = .error (.noConverter d) ∧
          ∀ whole : TypeForm, whole.Built u → r.Needs whole.synthesize d →
            ∃ fault, answer (resolve whole.synthesize) r = .error fault ∧
              ((∃ e, fault = .noConverter e) ↔ ¬r.Stumbles whole.synthesize)) ∧
      (args = [] → answer (component d) r = answer (component (.tupleOf .top)) r) ∧
      (args = [.dots, .dots] → (∃ held, answer (resolve .top) r = .ok held) →
        answer (resolve d) r = .error .points) := by
  intro d
  have haccounted : r.Accounted := hr.accounted
  have hcovers : TypeForm.Covers u fun _ => True :=
    ⟨fun _ => trivial, fun _ _ => trivial, fun _ _ _ => trivial⟩
  have hargs : TypeForm.AllMade (fun _ => True) args := by
    cases hform.madeOf hcovers with
    | atom hatom => cases hatom
    | generic _ h => exact h
  have hnone : r.scalar? d = none := hno d (TypeForm.rawClass_tuple checked args)
  have hfails (hempty : args ≠ []) (hpoints : args ≠ [.dots, .dots]) :
      answer (resolve d) r = .error (.noConverter d) :=
    haccounted.answer_resolve_of_none hnone
      (TypeForm.recipe_fixed_tuple checked hargs hfixed hempty hpoints)
  have hempty (h : args = []) : answer (component d) r = answer (component (.tupleOf .top)) r := by
    subst h
    have hany := haccounted.answer_component_array_top (hno (.tupleOf .top) rfl) rfl
    rw [hany]
    exact haccounted.answer_component_array_top hnone rfl
  have hpoints (h : args = [.dots, .dots]) (fault : Fault) : answer (resolve d) r = .error fault ↔
      answer (resolve .top) r = .error fault ∨
        (∃ held, answer (resolve .top) r = .ok held) ∧ fault = .points := by
    subst h
    exact haccounted.answer_resolve_pointsTuple hnone
  refine ⟨?_, fun hne hnp => ⟨hfails hne hnp, fun whole hwhole hneeds => ?_⟩, hempty,
    fun h hheld => (hpoints h _).mpr (.inr ⟨hheld, rfl⟩)⟩
  · rw [← exists_noConverter_top_iff]
    by_cases hnil : args = []
    · subst hnil
      have hsame {fault : Fault} :
          answer (resolve d) r = .error fault ↔ answer (resolve .top) r = .error fault :=
        haccounted.answer_resolve_array_top hnone rfl
      simp [hsame]
    by_cases hdots : args = [.dots, .dots]
    · simp [hpoints hdots, hdots, Fault.points]
    · exact iff_of_true ⟨d, hfails hnil hdots⟩ (.inl ⟨hnil, hdots⟩)
  · obtain ⟨fault, hfault⟩ := hneeds.fails haccounted (hfails hne hnp)
    exact ⟨fault, hfault, exists_eq_noConverter_iff (hwhole.madeOf hcovers).reduced hfault⟩

theorem hasNoTuples_standard (u : Universe) : (standard u).HasNoTuples := by
  intro d hd
  cases h : (standard u).catalogue.registered d with
  | none =>
    have hfind : (standard u).scalars.find? d = none := by simpa [catalogue] using h
    rw [scalar?, hfind]
    rfl
  | some c =>
    obtain ⟨entry, hentry, hmem, _⟩ := registered_standard h
    simp only [builtinScalars, List.mem_cons, List.not_mem_nil, or_false] at hentry
    rcases hentry with rfl | rfl | rfl | rfl | rfl | rfl | rfl | rfl <;>
      simp only [List.mem_cons, List.not_mem_nil, or_false] at hmem
    · rcases hmem with rfl | rfl <;> exact absurd hd (by decide)
    all_goals
      subst hmem
      exact absurd hd (by decide)

/-- A pair of a number and a text, alone and as the values of a table, has no converter in the standard
registry. The tuple of no types has one. -/
theorem resolve_fixed_tuple_of_pair :
    let r := standard .standard
    let args : List TypeForm := [.cls (.builtin "int"), .cls (.builtin "str")]
    let pair : TypeForm := .tuple false args
    let table : TypeForm := .generic false (.builtin "dict") [.cls (.builtin "str"), pair]
    let empty : TypeForm := .tuple false []
    (pair.Built .standard ∧ ¬TypeForm.IsAnyLength args ∧ r.Handled ∧ r.HasNoTuples ∧
        table.Built .standard ∧ r.Needs table.synthesize pair.synthesize) ∧
      answer (resolve pair.synthesize) r = .error (.noConverter pair.synthesize) ∧
      (∃ e, answer (resolve table.synthesize) r = .error (.noConverter e)) ∧
      empty.Built .standard ∧ ¬TypeForm.IsAnyLength [] ∧
      ¬∃ e, answer (resolve empty.synthesize) r = .error (.noConverter e) := by
  intro r args pair table empty
  have hclass (name : String) : (TypeForm.cls (.builtin name)).Built .standard := .atom rfl
  have hargs : ∀ arg ∈ args, arg.Built .standard := by
    simpa [args] using ⟨hclass "int", hclass "str"⟩
  have hpair : pair.Built .standard := .subscript (hclass "tuple") hargs rfl
  have htable : table.Built .standard := by
    have hmembers : ∀ arg ∈ [.cls (.builtin "str"), pair], TypeForm.Built .standard arg := by
      simpa using ⟨hclass "str", hpair⟩
    exact .subscript (hclass "dict") hmembers rfl
  have hempty : empty.Built .standard := .subscript (hclass "tuple") (by simp) rfl
  have hlengths : ¬TypeForm.IsAnyLength args ∧ ¬TypeForm.IsAnyLength [] := by
    simp [TypeForm.IsAnyLength, args]
  have hr : r.Handled := .new (cache_standard _)
  have hno := hasNoTuples_standard .standard
  have hneeds : r.Needs table.synthesize pair.synthesize :=
    .component rfl (List.mem_cons_of_mem _ (List.mem_singleton.mpr rfl)) (.self _)
  obtain ⟨_, hfixed, _⟩ := resolve_fixed_tuple hpair hlengths.1 hr hno
  obtain ⟨hfails, hwhole⟩ := hfixed (by simp [args]) (by simp [args])
  obtain ⟨fault, hfault, hmissing⟩ := hwhole table htable hneeds
  have hnot : ¬r.Stumbles table.synthesize := by
    intro h
    obtain h | ⟨a, ha, h⟩ := h.holds.eq_or_exists
    · exact absurd h (by decide)
    obtain rfl | rfl := List.mem_pair.mp ha
    · cases h
    obtain h | ⟨a, ha, h⟩ := h.eq_or_exists
    · exact absurd h (by decide)
    obtain rfl | rfl := List.mem_pair.mp ha <;> cases h
  obtain ⟨e, rfl⟩ := hmissing.mpr hnot
  refine ⟨⟨hpair, hlengths.1, hr, hno, htable, hneeds⟩, hfails, ⟨e, hfault⟩, hempty, hlengths.2, ?_⟩
  rw [(resolve_fixed_tuple hempty hlengths.2 hr hno).1]
  rintro (⟨h, _⟩ | h)
  · exact h rfl
  · exact h _ (by rw [answer, run_resolve_of_scalar rfl rfl])

end Registry

end SettingText
