import SettingText.Proofs.Registry.Stumbling
import SettingText.Proofs.Types.RoundTrip

/-!
Reducing a type hangs on its parts only by what they are reduced to. A part is exchanged for one that is
reduced to the same descriptor, and whatever is built around the two is reduced to one descriptor again.
What a type is reduced to has no shape that lacks an argument.
-/

namespace SettingText

namespace Descriptor

variable {P : ClassRef → Prop} {d e : Descriptor} {origin : Origin} {args : List Descriptor}

theorem not_reduced_dots : ¬dots.Reduced P := by
  intro h
  cases h

/-- All that stands in a descriptor of a form is such a descriptor, but for three points. -/
theorem Reduced.of_holds (hd : d.Reduced P) (h : d.Holds e) (hne : e ≠ .dots) : e.Reduced P := by
  induction h with
  | self => exact hd
  | @argument origin args a d ha h ih =>
    have hdots : a ≠ .dots := by
      rintro rfl
      cases h
      exact hne rfl
    cases hd with
    | shape _ _ hargs => exact ih (hargs a ha hdots) hne
    | optional hbase =>
      obtain rfl := List.mem_singleton.mp ha
      exact ih hbase hne

/-- An optional shape has one argument, which is no three points, and any other is of a class and has
some. -/
theorem Reduced.shape_cases (h : (Descriptor.shape origin args).Reduced P) :
    (origin = .optional ∧ ∃ d, args = [d] ∧ d ≠ .dots) ∨ (∃ c, origin = .cls c) ∧ args ≠ [] := by
  cases h with
  | shape _ hne _ => exact .inr ⟨⟨_, rfl⟩, hne⟩
  | @optional d hd =>
    refine .inl ⟨rfl, d, rfl, ?_⟩
    rintro rfl
    exact not_reduced_dots hd

end Descriptor

namespace TypeForm

/-- Three points and the absent value stand for themselves where they are arguments. Every other form is a
part like any other. -/
def isPart : TypeForm → Bool
  | dots | nothing => false
  | _ => true

/-- Forms that are the same, or parts that are reduced to the same descriptor. -/
inductive Alike : TypeForm → TypeForm → Prop
  | refl (x : TypeForm) : Alike x x
  | parts {x y : TypeForm} (hx : x.isPart = true) (hy : y.isPart = true)
      (h : x.synthesize = y.synthesize) : Alike x y

variable {u : Universe} {x y first second : TypeForm} {args args' : List TypeForm} {notes : List Json}

theorem ne_dots_of_isPart (h : x.isPart = true) : x ≠ dots := by
  rintro rfl
  cases h

theorem ne_nothing_of_isPart (h : x.isPart = true) : x ≠ nothing := by
  rintro rfl
  cases h

theorem Alike.synthesize_eq (h : Alike x y) : x.synthesize = y.synthesize := by
  cases h with
  | refl => rfl
  | parts _ _ h => exact h

theorem arguments_cons (h : x ≠ dots) (rest : List TypeForm) :
    synthesize.arguments (x :: rest) = x.synthesize :: synthesize.arguments rest := by
  cases x <;> first | rfl | exact absurd rfl h

theorem arguments_alike (h : List.Forall₂ Alike args args') :
    synthesize.arguments args = synthesize.arguments args' := by
  induction h with
  | nil => rfl
  | @cons x y rest rest' hxy _ ih =>
    cases hxy with
    | refl =>
      by_cases hx : x = dots
      · subst hx
        exact congrArg (Descriptor.dots :: ·) ih
      · rw [arguments_cons hx, arguments_cons hx, ih]
    | parts hx hy hsame =>
      rw [arguments_cons (ne_dots_of_isPart hx), arguments_cons (ne_dots_of_isPart hy), hsame, ih]

theorem forall₂_alike_self (args : List TypeForm) : List.Forall₂ Alike args args :=
  List.forall₂_same.mpr fun x _ => .refl x

theorem forall₂_alike_exchange (before after : List TypeForm) (h : Alike x y) :
    List.Forall₂ Alike (before ++ x :: after) (before ++ y :: after) :=
  List.rel_append (forall₂_alike_self before) (.cons h (forall₂_alike_self after))

theorem Alike.generic (checked checked' : Bool) (c : ClassRef) (h : List.Forall₂ Alike args args') :
    Alike (generic checked c args) (generic checked' c args') :=
  .parts rfl rfl (congrArg (ofArguments c) (arguments_alike h))

theorem Alike.eq_dots_iff (h : Alike x y) : x = dots ↔ y = dots := by
  cases h with
  | refl => rfl
  | parts hx hy => exact iff_of_false (ne_dots_of_isPart hx) (ne_dots_of_isPart hy)

theorem eq_of_asArgument (hx : x ≠ nothing) (h : x.asArgument = .ok first) : first = x := by
  unfold asArgument at h
  split at h
  · contradiction
  all_goals first
    | (cases h; rfl)
    | (split at h <;> cases h; rfl)

theorem Alike.asArgument (h : Alike x y) (hx : x.asArgument = .ok first)
    (hy : y.asArgument = .ok second) : Alike first second := by
  cases h with
  | refl =>
    rw [hx] at hy
    cases hy
    exact .refl _
  | parts hpart hpart' hsame =>
    rw [eq_of_asArgument (ne_nothing_of_isPart hpart) hx,
      eq_of_asArgument (ne_nothing_of_isPart hpart') hy]
    exact .parts hpart hpart' hsame

theorem converted_of_ne_nothing (h : x ≠ nothing) : x.converted = x := by
  cases x <;> first | rfl | exact absurd rfl h

theorem Alike.converted (h : Alike x y) : Alike x.converted y.converted := by
  cases h with
  | refl => exact .refl _
  | parts hx hy hsame =>
    rw [converted_of_ne_nothing (ne_nothing_of_isPart hx), converted_of_ne_nothing (ne_nothing_of_isPart hy)]
    exact .parts hx hy hsame

theorem forall₂_alike_converted (h : List.Forall₂ Alike args args') :
    List.Forall₂ Alike (args.map TypeForm.converted) (args'.map TypeForm.converted) := by
  rw [List.forall₂_map_left_iff, List.forall₂_map_right_iff]
  exact h.imp fun _ _ => Alike.converted

variable {forms forms' : List TypeForm}

theorem forall₂_alike_arguments (h : List.Forall₂ Alike args args')
    (hforms : args.mapM TypeForm.asArgument = .ok forms)
    (hforms' : args'.mapM TypeForm.asArgument = .ok forms') : List.Forall₂ Alike forms forms' := by
  rw [mapM_eq_ok_iff] at hforms hforms'
  induction h generalizing forms forms' with
  | nil =>
    cases hforms
    cases hforms'
    exact .nil
  | cons hxy _ ih =>
    cases hforms with
    | cons hx hrest =>
      cases hforms' with
      | cons hy hrest' => exact .cons (hxy.asArgument hx hy) (ih hrest hrest')

/-- Three points, by themselves or alone in a list. -/
def isPoints (form : TypeForm) : Prop := form = dots ∨ form = listing [dots]

/-- Three points alone in a list are no such list where the first argument of a function type is told: they
are read as three points there. -/
def KeepsPoints (before : List TypeForm) (x y : TypeForm) : Prop :=
  before = [] → (x = listing [dots] ↔ y = listing [dots])

/-- What comes first is three points in both of two lists, or in neither. -/
def SameFirstPoints (args args' : List TypeForm) : Prop :=
  ∀ a b, args.head? = some a → args'.head? = some b → (a.isPoints ↔ b.isPoints)

theorem KeepsPoints.sameFirstPoints {before : List TypeForm} (h : KeepsPoints before x y)
    (hxy : Alike x y) (after : List TypeForm) :
    SameFirstPoints (before ++ x :: after) (before ++ y :: after) := by
  intro a b ha hb
  cases before with
  | nil =>
    cases ha
    cases hb
    exact or_congr hxy.eq_dots_iff (h rfl)
  | cons first before =>
    cases ha
    cases hb
    rfl

/-- A function type has three points or a list in front of its result. -/
theorem functionArgs_cases {lax : Bool} (h : functionArgs lax args = .ok forms) :
    ∃ x result, args = [x, result] ∧ ((x.isPoints ∧ forms = [dots, result]) ∨
      ¬x.isPoints ∧ ∃ items, forms = [TypeForm.listing items, result]) := by
  unfold functionArgs at h
  split at h
  · cases h
    exact ⟨_, _, rfl, .inl ⟨.inr rfl, rfl⟩⟩
  · cases h
    exact ⟨_, _, rfl, .inl ⟨.inl rfl, rfl⟩⟩
  · rename_i items result hitems
    cases h
    have hpoints : ¬(TypeForm.listing items).isPoints := by
      rintro (h | h)
      · cases h
      · exact hitems (TypeForm.listing.inj h)
    exact ⟨_, _, rfl, .inr ⟨hpoints, items, rfl⟩⟩
  · rename_i single result hlist hdots _
    split at h
    · cases h
      exact ⟨_, _, rfl, .inr ⟨fun h => h.elim hdots hlist, _, rfl⟩⟩
    · cases h
  · cases h

/-- The list of what a function takes, and its result. -/
theorem forall₂_alike_functionArgs {lax : Bool} (h : List.Forall₂ Alike args args')
    (hpoints : SameFirstPoints args args') (hforms : functionArgs lax args = .ok forms)
    (hforms' : functionArgs lax args' = .ok forms') : List.Forall₂ Alike forms forms' := by
  obtain ⟨x, result, rfl, hx⟩ := functionArgs_cases hforms
  obtain ⟨y, result', rfl, hy⟩ := functionArgs_cases hforms'
  have hfirst : x.isPoints ↔ y.isPoints := hpoints x y rfl rfl
  cases h with
  | cons hxy hresult =>
    obtain ⟨hpoints, rfl⟩ | ⟨hpoints, items, rfl⟩ := hx
    · obtain ⟨_, rfl⟩ | ⟨hnot, _⟩ := hy
      · exact .cons (.refl dots) hresult
      · exact absurd (hfirst.mp hpoints) hnot
    · obtain ⟨hpoints', _⟩ | ⟨_, items', rfl⟩ := hy
      · exact absurd (hfirst.mpr hpoints') hpoints
      · exact .cons (.parts rfl rfl rfl) hresult

theorem Alike.classSubscript {c : ClassRef} (hc : c ≠ ⟨"typing", "Annotated"⟩)
    (h : List.Forall₂ Alike args args') (hpoints : u.parametersOf c = .callable → SameFirstPoints args args')
    (hfirst : classSubscript u c args = .ok first) (hsecond : classSubscript u c args' = .ok second) :
    Alike first second := by
  unfold TypeForm.classSubscript at hfirst hsecond
  rw [if_neg hc] at hfirst hsecond
  split at hfirst
  · rename_i hbare
    rw [if_pos hbare] at hsecond
    split at hfirst <;> cases hfirst
    split at hsecond <;> cases hsecond
    exact .generic _ _ c h
  · rename_i hbare
    rw [if_neg hbare] at hsecond
    cases hparameters : u.parametersOf c with
    | none =>
      simp only [hparameters] at hfirst
      cases hfirst
    | any =>
      simp only [hparameters] at hfirst hsecond
      cases hfirst
      cases hsecond
      exact .generic _ _ c h
    | exactly count =>
      simp only [hparameters] at hfirst hsecond
      split at hfirst <;> cases hfirst
      split at hsecond <;> cases hsecond
      exact .generic _ _ c (forall₂_alike_converted h)
    | callable =>
      simp only [hparameters] at hfirst hsecond
      obtain ⟨forms, hforms, hfirst⟩ := bind_eq_ok_iff.mp hfirst
      obtain ⟨forms', hforms', hsecond⟩ := bind_eq_ok_iff.mp hsecond
      cases hfirst
      cases hsecond
      exact .generic _ _ c (forall₂_alike_functionArgs h (hpoints hparameters) hforms hforms')
    | memberName =>
      simp only [hparameters] at hfirst
      split at hfirst <;> cases hfirst

/-- The list of what a function takes, in which the absent value stands for its class. -/
def convertedList : TypeForm → TypeForm
  | listing items => listing (items.map TypeForm.converted)
  | form => form

theorem Alike.convertedList (h : Alike x y) : Alike x.convertedList y.convertedList := by
  have hlist {form : TypeForm} (h : form.isPart = true) : form.convertedList.isPart = true ∧
      form.convertedList.synthesize = form.synthesize := by
    cases form with
    | listing items => exact ⟨rfl, rfl⟩
    | _ => exact ⟨h, rfl⟩
  cases h with
  | refl => exact .refl _
  | parts hx hy hsame =>
    exact .parts (hlist hx).1 (hlist hy).1 ((hlist hx).2.trans (hsame.trans (hlist hy).2.symm))

/-- A second name takes a number of types of its own, or what a function takes and its result. -/
theorem aliasSubscript_cases {name : String} (h : aliasSubscript name args = .ok first) :
    ∃ forms, first = TypeForm.generic true (aliasOrigin name) forms ∧
      (name ≠ "Callable" ∧ args.mapM TypeForm.asArgument = .ok forms ∨
        name = "Callable" ∧ ∃ taken result arg, functionArgs true args = .ok [taken, result] ∧
          result.asArgument = .ok arg ∧ forms = [taken.convertedList, arg]) := by
  unfold TypeForm.aliasSubscript at h
  dsimp only at h
  split at h
  · rename_i count hcount
    have hname : name ≠ "Callable" := by
      rintro rfl
      cases hcount
    obtain ⟨forms, hforms, h⟩ := bind_eq_ok_iff.mp h
    split at h <;> cases h
    exact ⟨forms, rfl, .inl ⟨hname, hforms⟩⟩
  · split at h
    · obtain ⟨found, hfound, h⟩ := bind_eq_ok_iff.mp h
      split at h
      · obtain ⟨arg, harg, h⟩ := bind_eq_ok_iff.mp h
        cases h
        exact ⟨_, rfl, .inr ⟨‹_›, _, _, _, hfound, harg, rfl⟩⟩
      · cases h
    · obtain ⟨forms, hforms, h⟩ := bind_eq_ok_iff.mp h
      cases h
      exact ⟨forms, rfl, .inl ⟨‹_›, hforms⟩⟩

theorem Alike.aliasSubscript {name : String} (h : List.Forall₂ Alike args args')
    (hpoints : name = "Callable" → SameFirstPoints args args')
    (hfirst : aliasSubscript name args = .ok first) (hsecond : aliasSubscript name args' = .ok second) :
    Alike first second := by
  obtain ⟨forms, rfl, ⟨hname, hforms⟩ | ⟨hname, taken, result, arg, hforms, harg, rfl⟩⟩ :=
    aliasSubscript_cases hfirst
  · obtain ⟨forms', rfl, ⟨_, hforms'⟩ | ⟨hname', _⟩⟩ := aliasSubscript_cases hsecond
    · exact .generic _ _ _ (forall₂_alike_arguments h hforms hforms')
    · exact absurd hname' hname
  · obtain ⟨forms', rfl, ⟨hname', _⟩ | ⟨_, taken', result', arg', hforms', harg', rfl⟩⟩ :=
      aliasSubscript_cases hsecond
    · exact absurd hname hname'
    · cases forall₂_alike_functionArgs h (hpoints hname) hforms hforms' with
      | cons htaken hrest =>
        cases hrest with
        | cons hresult =>
          exact .generic _ _ _ (.cons htaken.convertedList (.cons (hresult.asArgument harg harg') .nil))

/-- Notes are put around a type, or beside the notes that it has. -/
theorem annotate_cases (hx : x ≠ nothing) (h : annotate x notes = .ok first) :
    first.isPart = true ∧ first.synthesize = x.synthesize := by
  unfold TypeForm.annotate at h
  split at h
  · cases h
  · obtain ⟨checked, hchecked, hnoted⟩ := bind_eq_ok_iff.mp h
    clear h
    obtain rfl := eq_of_asArgument hx hchecked
    split at hnoted <;> cases hnoted <;> exact ⟨rfl, rfl⟩

theorem Alike.annotate (h : Alike x y) (hfirst : annotate x notes = .ok first)
    (hsecond : annotate y notes = .ok second) : Alike first second := by
  cases h with
  | refl =>
    rw [hfirst] at hsecond
    cases hsecond
    exact .refl _
  | parts hx hy hsame =>
    obtain ⟨hpart, hfirst⟩ := annotate_cases (ne_nothing_of_isPart hx) hfirst
    obtain ⟨hpart', hsecond⟩ := annotate_cases (ne_nothing_of_isPart hy) hsecond
    exact .parts hpart hpart' (hfirst.trans (hsame.trans hsecond.symm))

/-- The members are the absent value and one type besides. -/
def JoinsNothing (x : TypeForm) (members : List TypeForm) : Prop :=
  x.isNothingClass = false ∧ (members = [x, nothingClass] ∨ members = [nothingClass, x])

theorem JoinsNothing.synthesize {bars : Bool} {members : List TypeForm} (h : JoinsNothing x members) :
    (union bars members).synthesize = .optional x.synthesize := by
  have hnothing : nothingClass.isNothingClass = true := rfl
  obtain ⟨hx, rfl | rfl⟩ := h <;>
    simp [TypeForm.synthesize, synthesize.present, hx, hnothing, optionalOf]

/-- Two types as typing builds them, the second with parts exchanged for others that are reduced to the
same descriptors. A part may stand anywhere among the arguments of a generic class, whether the class is
given them here or was before, in the list of what a function takes, in a form of its own, under notes, in
a bound, or beside the absent value alone in a union. Only three points are told apart from what is reduced
as they are, and so is their list where it stands for them. -/
inductive Exchanged (u : Universe) : TypeForm → TypeForm → Prop
  | part {x y : TypeForm} (hx : x.isPart = true) (hy : y.isPart = true)
      (h : x.synthesize = y.synthesize) : Exchanged u x y
  | argument {x y : TypeForm} (checked : Bool) (c : ClassRef) (before after : List TypeForm)
      (h : Exchanged u x y) :
      Exchanged u (generic checked c (before ++ x :: after)) (generic checked c (before ++ y :: after))
  | given {x y first second : TypeForm} (c : ClassRef) (before after : List TypeForm)
      (h : Exchanged u x y) (hc : c ≠ ⟨"typing", "Annotated"⟩)
      (hpoints : u.parametersOf c = .callable → KeepsPoints before x y)
      (hfirst : (cls c).subscript u (before ++ x :: after) = .ok first)
      (hsecond : (cls c).subscript u (before ++ y :: after) = .ok second) : Exchanged u first second
  | givenToName {x y first second : TypeForm} (name : String) (before after : List TypeForm)
      (h : Exchanged u x y) (hpoints : name = "Callable" → KeepsPoints before x y)
      (hfirst : (otherName name).subscript u (before ++ x :: after) = .ok first)
      (hsecond : (otherName name).subscript u (before ++ y :: after) = .ok second) :
      Exchanged u first second
  | item {x y : TypeForm} (before after : List TypeForm) (h : Exchanged u x y) :
      Exchanged u (listing (before ++ x :: after)) (listing (before ++ y :: after))
  | marked {x y : TypeForm} (name : String) (h : Exchanged u x y) :
      Exchanged u (marked name x) (marked name y)
  | annotated {x y first second : TypeForm} (notes : List Json) (h : Exchanged u x y)
      (hfirst : annotate x notes = .ok first) (hsecond : annotate y notes = .ok second) :
      Exchanged u first second
  | bound {x y : TypeForm} (name : String) (h : Exchanged u x y) :
      Exchanged u (bounded name x) (bounded name y)
  | member {x y : TypeForm} {members members' : List TypeForm} (bars bars' : Bool)
      (h : Exchanged u x y) (hmembers : JoinsNothing x members) (hmembers' : JoinsNothing y members') :
      Exchanged u (union bars members) (union bars' members')

/-- Whatever is built around exchanged parts is reduced to the same. By induction on what is built. -/
theorem Exchanged.alike (h : Exchanged u first second) : Alike first second := by
  induction h with
  | part hx hy h => exact .parts hx hy h
  | argument checked c before after _ ih => exact .generic _ _ c (forall₂_alike_exchange before after ih)
  | given c before after _ hc hpoints hfirst hsecond ih =>
    exact .classSubscript hc (forall₂_alike_exchange before after ih)
      (fun hcallable => (hpoints hcallable).sameFirstPoints ih after) hfirst hsecond
  | givenToName name before after _ hpoints hfirst hsecond ih =>
    exact .aliasSubscript (forall₂_alike_exchange before after ih)
      (fun hcallable => (hpoints hcallable).sameFirstPoints ih after) hfirst hsecond
  -- a list is no type itself, and a form of its own is reduced to the type of everything
  | item | marked => exact .parts rfl rfl rfl
  | annotated notes _ hfirst hsecond ih => exact ih.annotate hfirst hsecond
  | bound name _ ih => exact .parts rfl rfl ih.synthesize_eq
  | member bars bars' _ hmembers hmembers' ih =>
    refine .parts rfl rfl ?_
    rw [hmembers.synthesize, hmembers'.synthesize, ih.synthesize_eq]

/-- A type that can be stated is reduced to a descriptor in which every optional shape has one argument,
which is no three points, and every other shape is of a class and has some. Exchanging parts of it for
others that are reduced to the same changes nothing about that. -/
theorem synthesize_congruent {form : TypeForm} (hform : form.Built u) :
    form.synthesize ≠ .dots ∧
      (∀ origin args, form.synthesize.Holds (.shape origin args) →
        (origin = .optional ∧ ∃ d, args = [d] ∧ d ≠ .dots) ∨ (∃ c, origin = .cls c) ∧ args ≠ []) ∧
      ∀ other : TypeForm, other.Built u → Exchanged u form other →
        other.synthesize = form.synthesize := by
  have hcovers : Covers u fun _ => True := ⟨fun _ => trivial, fun _ _ => trivial, fun _ _ _ => trivial⟩
  have hreduced : form.synthesize.Reduced fun _ => True := (hform.madeOf hcovers).reduced
  refine ⟨?_, fun origin args hholds => ?_, fun other _ hother => hother.alike.synthesize_eq.symm⟩
  · intro hdots
    rw [hdots] at hreduced
    exact Descriptor.not_reduced_dots hreduced
  · exact (hreduced.of_holds hholds (by rintro ⟨⟩)).shape_cases

/-- A list of numbers in an optional value of a table, and a type variable bounded by the second name of
the class with the same argument. -/
theorem synthesize_congruent_of_dict :
    let int : TypeForm := .cls (.builtin "int")
    let numbers : TypeForm := .generic false (.builtin "list") [int]
    let bounding : TypeForm := .bounded "T" (.generic true (.builtin "list") [int])
    let table (value : TypeForm) : TypeForm :=
      .generic false (.builtin "dict") [.cls (.builtin "str"), .union false [value, .nothingClass]]
    (table numbers).Built .standard ∧ (table bounding).Built .standard ∧
      Exchanged .standard (table numbers) (table bounding) ∧
      (table bounding).synthesize = (table numbers).synthesize := by
  intro int numbers bounding table
  have hclass (name : String) : (cls (.builtin name)).Built .standard := .atom rfl
  have hint : ∀ arg ∈ [int], arg.Built .standard := by simpa using hclass "int"
  have hnumbers : numbers.Built .standard := .subscript (hclass "list") hint rfl
  have hbounding : bounding.Built .standard := by
    have hname : (otherName "List").Built .standard := .atom rfl
    have hlist : (generic true (.builtin "list") [int]).Built .standard := .subscript hname hint rfl
    have hmade : variableOf "T" (some (generic true (.builtin "list") [int])) [] = .ok bounding := rfl
    exact .typeVariable (by simpa using hlist) (by simp) hmade
  have htable {value : TypeForm} (hvalue : value.Built .standard)
      (hunion : unionOf [value, nothingClass] = .ok (union false [value, nothingClass])) :
      (table value).Built .standard := by
    have hmembers : ∀ m ∈ [value, nothingClass], m.Built .standard := by
      simpa using ⟨hvalue, Built.atom rfl⟩
    have hargs : ∀ arg ∈ [cls (.builtin "str"), union false [value, nothingClass]],
        arg.Built .standard := by
      simpa using ⟨hclass "str", Built.union hmembers hunion⟩
    exact .subscript (hclass "dict") hargs rfl
  have hpart : Exchanged .standard numbers bounding := .part rfl rfl rfl
  have hexchanged : Exchanged .standard (table numbers) (table bounding) :=
    .argument false (.builtin "dict") [.cls (.builtin "str")] []
      (.member false false hpart ⟨rfl, .inl rfl⟩ ⟨rfl, .inl rfl⟩)
  have hfirst := htable hnumbers rfl
  have hsecond := htable hbounding rfl
  exact ⟨hfirst, hsecond, hexchanged, (synthesize_congruent hfirst).2.2 _ hsecond hexchanged⟩

end TypeForm

end SettingText
