import SettingText.Proofs.Expression.Grammar

/-!
How reading a type expression fails. Most faults are faults of the expression and are reported as such.
Two are not: a row of members one of which may not stand in a union, and arguments behind the name of an
enumeration, which looks for a member under them.
-/

namespace SettingText.TypeForm

/-- Building fails, if it does, because the parts do not fit together. -/
def RefusesOnly {α : Type} (x : Except FormFault α) : Prop :=
  ∀ fault, x = .error fault → fault = .refused

namespace RefusesOnly

variable {α β : Type} {x : Except FormFault α}

theorem ok (a : α) : RefusesOnly (.ok a : Except FormFault α) := by
  intro fault h
  cases h

theorem refused : RefusesOnly (.error .refused : Except FormFault α) := by
  intro fault h
  cases h
  rfl

theorem bind {f : α → Except FormFault β} (h : RefusesOnly x) (hf : ∀ a, RefusesOnly (f a)) :
    RefusesOnly (x >>= f) := by
  intro fault hfault
  obtain hx | ⟨a, _, ha⟩ := bind_eq_error_iff.mp hfault
  · exact h fault hx
  · exact hf a fault ha

theorem ite {p : Prop} [Decidable p] {y : Except FormFault α} (hx : RefusesOnly x)
    (hy : RefusesOnly y) : RefusesOnly (if p then x else y) := by
  split
  · exact hx
  · exact hy

theorem mapM {f : α → Except FormFault β} (items : List α) (h : ∀ a ∈ items, RefusesOnly (f a)) :
    RefusesOnly (items.mapM f) := by
  intro fault hfault
  obtain ⟨before, a, after, rfl, _, ha⟩ := mapM_eq_error_iff.mp hfault
  exact h a (by simp) fault ha

theorem foldlM {f : β → α → Except FormFault β} (items : List α) (b : β)
    (h : ∀ b a, RefusesOnly (f b a)) : RefusesOnly (items.foldlM f b) := by
  intro fault hfault
  obtain ⟨_, a, _, c, _, _, ha⟩ := foldlM_eq_error_iff.mp hfault
  exact h c a fault ha

end RefusesOnly

theorem refusesOnly_asArgument (form : TypeForm) : RefusesOnly form.asArgument := by
  unfold asArgument
  split <;> first | exact .ok _ | exact .ite (.ok _) .refused | exact .ite .refused (.ok _)

theorem refusesOnly_unionOf (forms : List TypeForm) : RefusesOnly (unionOf forms) := by
  have hargs : RefusesOnly (forms.mapM asArgument) :=
    .mapM forms fun form _ => refusesOnly_asArgument form
  exact .ite .refused (.bind hargs fun _ => .ok _)

theorem refusesOnly_barAll (forms : List TypeForm) : RefusesOnly (barAll forms) := by
  have hbar (a b : TypeForm) : RefusesOnly (bar a b) := by
    unfold bar
    split
    · exact .refused
    · exact .ite (.ok _) (.ite (refusesOnly_unionOf _) .refused)
  cases forms with
  | nil => exact .refused
  | cons first rest => exact .foldlM rest first hbar

theorem refusesOnly_fill (types : List TypeForm) (form : TypeForm) :
    RefusesOnly (fill types form) := by
  have hfirst (first : TypeForm) (rest : List TypeForm) :
      RefusesOnly (do return (← asArgument first, rest)) :=
    .bind (refusesOnly_asArgument first) fun _ => .ok _
  induction types, form using
    TypeForm.fill.induct (fun types forms => RefusesOnly (fill.fillAll types forms)) with
  | case1 => exact .refused
  | case2 _ first rest => exact hfirst first rest
  | case3 => exact .refused
  | case4 _ _ first rest => exact hfirst first rest
  | case5 _ _ _ ih => exact .bind ih fun _ => .ok _
  | case6 _ bars _ ih =>
    refine .bind ih fun filled => ?_
    cases bars
    · exact .bind (refusesOnly_unionOf _) fun _ => .ok _
    · exact .bind (refusesOnly_barAll _) fun _ => .ok _
  | case7 _ _ _ _ ih => exact .bind ih fun _ => .ok _
  | case8 _ _ ih => exact .bind ih fun _ => .ok _
  | case9 types form hunbound hbounded hannotated hunion hgeneric hlisting =>
    cases form with
    | unbound name => exact (hunbound name rfl).elim
    | bounded name bound => exact (hbounded name bound rfl).elim
    | annotated base notes => exact (hannotated base notes rfl).elim
    | union bars members => exact (hunion bars members rfl).elim
    | generic checked c args => exact (hgeneric checked c args rfl).elim
    | listing items => exact (hlisting items rfl).elim
    | _ => exact .ok _
  | case10 => exact .ok _
  | case11 _ _ _ ih ihrest => exact .bind ih fun _ => .bind (ihrest _) fun _ => .ok _

theorem refusesOnly_substituted (form : TypeForm) (args : List TypeForm) :
    RefusesOnly (form.substituted args) :=
  .ite .refused (.bind (refusesOnly_fill args form) fun _ => .ok _)

theorem refusesOnly_functionArgs (lax : Bool) (args : List TypeForm) :
    RefusesOnly (functionArgs lax args) := by
  unfold functionArgs
  split <;> first | exact .ok _ | exact .ite (.ok _) .refused | exact .refused

theorem refusesOnly_aliasSubscript (name : String) (args : List TypeForm) :
    RefusesOnly (aliasSubscript name args) := by
  have hargs : RefusesOnly (args.mapM asArgument) :=
    .mapM args fun form _ => refusesOnly_asArgument form
  unfold aliasSubscript
  dsimp only
  split
  · exact .bind hargs fun _ => .ite (.ok _) .refused
  · refine .ite (.bind (refusesOnly_functionArgs true args) fun pair => ?_) (.bind hargs fun _ => .ok _)
    split
    · exact .bind (refusesOnly_asArgument _) fun _ => .ok _
    · exact .refused

theorem refusesOnly_specialSubscript (name : String) (args : List TypeForm) :
    RefusesOnly (specialSubscript name args) := by
  unfold specialSubscript
  split
  · exact .bind (refusesOnly_asArgument _) fun _ => refusesOnly_unionOf _
  · exact refusesOnly_unionOf _
  · exact .ok _
  · exact .ite (.bind (refusesOnly_asArgument _) fun _ => .ok _) .refused
  · exact .refused

theorem refusesOnly_annotate (base : TypeForm) (notes : List Json) :
    RefusesOnly (annotate base notes) := by
  refine .ite .refused (.bind (refusesOnly_asArgument base) fun checked => ?_)
  split <;> exact .ok _

/-- Building from a form and its arguments fails otherwise than by refusing just where the form is an
    enumeration and the arguments could be the key of a member. -/
theorem subscript_eq_noMember_iff (u : Universe) (base : TypeForm) (args : List TypeForm)
    (shown : String) : base.subscript u args = .error (.noMember shown) ↔
      ∃ c, base = .cls c ∧ c ≠ ⟨"typing", "Annotated"⟩ ∧ c ∉ bareClasses ∧
        u.parametersOf c = .memberName ∧ args.all isHashable = true ∧ shown = keyShown u args := by
  have hne {x : Except FormFault TypeForm} (hx : RefusesOnly x) : x ≠ .error (.noMember shown) := by
    intro h
    cases hx _ h
  constructor
  · intro h
    cases base with
    | cls c =>
      change classSubscript u c args = _ at h
      unfold classSubscript at h
      by_cases hannotated : c = ⟨"typing", "Annotated"⟩
      · rw [if_pos hannotated] at h
        split at h
        · exact absurd h (hne (refusesOnly_annotate _ _))
        · exact absurd h (hne .refused)
      rw [if_neg hannotated] at h
      by_cases hbare : bareClasses.contains c = true
      · rw [if_pos hbare] at h
        exact absurd h (hne (.ite (.ok _) .refused))
      rw [if_neg hbare] at h
      cases hparameters : u.parametersOf c with
      | memberName =>
        simp only [hparameters] at h
        split at h
        · rename_i hhashable
          cases h
          exact ⟨c, rfl, hannotated, by simpa using hbare, hparameters, hhashable, rfl⟩
        · cases h
      | none => simp only [hparameters] at h; cases h
      | any => simp only [hparameters] at h; cases h
      | exactly count =>
        simp only [hparameters] at h
        exact absurd h (hne (.ite (.ok _) .refused))
      | callable =>
        simp only [hparameters] at h
        exact absurd h (hne (.bind (refusesOnly_functionArgs false args) fun _ => .ok _))
    | otherName name => exact absurd h (hne (refusesOnly_aliasSubscript name args))
    | special name => exact absurd h (hne (refusesOnly_specialSubscript name args))
    | generic | union | annotated => exact absurd h (hne (refusesOnly_substituted _ args))
    | _ => cases h
  · rintro ⟨c, rfl, hannotated, hbare, hparameters, hhashable, rfl⟩
    simp [subscript, classSubscript, hannotated, hbare, hparameters, hhashable]

/-- A union cannot be made of nothing, nor of a form that may not stand inside others. -/
theorem unionOf_eq_error_iff {forms : List TypeForm} {fault : FormFault} :
    unionOf forms = .error fault ↔
      fault = .refused ∧ (forms = [] ∨ ∃ form ∈ forms, form.asArgument = .error .refused) := by
  constructor
  · intro h
    obtain rfl := refusesOnly_unionOf forms fault h
    refine ⟨rfl, ?_⟩
    cases forms with
    | nil => exact .inl rfl
    | cons first rest =>
      obtain hargs | ⟨_, _, h⟩ := bind_eq_error_iff.mp h
      · obtain ⟨before, form, after, hforms, _, hform⟩ := mapM_eq_error_iff.mp hargs
        exact .inr ⟨form, by simp [hforms], hform⟩
      · cases h
  · rintro ⟨rfl, rfl | ⟨form, hform, hrefused⟩⟩
    · rfl
    · cases hargs : forms.mapM asArgument with
      | error fault =>
        obtain ⟨_, a, _, _, _, ha⟩ := mapM_eq_error_iff.mp hargs
        obtain rfl := refusesOnly_asArgument a fault ha
        have hne : forms.isEmpty = false := by cases forms <;> first | rfl | cases hform
        rw [unionOf, hne]
        exact bind_eq_error_iff.mpr (.inl hargs)
      | ok args =>
        obtain ⟨arg, harg⟩ := exists_mapM_eq_ok_iff.mp ⟨args, hargs⟩ form hform
        rw [hrefused] at harg
        cases harg

end SettingText.TypeForm

namespace SettingText.Types

section Evaluator

variable {u : Universe} {fault : FormFault}

theorem name_ne_form (text : String) : (formEvaluator u).name text ≠ .error (.form fault) := by
  change lookup u text ≠ _
  unfold lookup
  intro h
  split at h
  · cases h
  · split at h <;> cases h

theorem subscript_eq_form_iff {text : String} {base : TypeForm} {args : List TypeForm} :
    (formEvaluator u).subscript text base args = .error (.form fault) ↔
      ∃ shown, fault = .noMember shown ∧ base.subscript u args = .error (.noMember shown) := by
  simp only [formEvaluator]
  cases base.subscript u args with
  | ok form => simp
  | error found => cases found <;> simp [eq_comm]

theorem union_eq_form_iff {members : List TypeForm} :
    (formEvaluator u).union members = .error (.form fault) ↔
      TypeForm.unionOf members = .error fault := by
  simp [formEvaluator, mapError_eq_error_iff]

end Evaluator

/-- The tokens go well up to a part that fails otherwise than as a fault of the expression: a name of an
    enumeration with a possible key of a member, or a row of members with one that may not stand in a
    union. -/
inductive Escapes (u : Universe) : List Token → FormFault → Prop
  | member {beginning members brackets text c args values rest}
      (hbefore : Beginning.Reaches (formEvaluator u) beginning members brackets)
      (hname : lookup u text = .ok (.cls c)) (henumeration : u.parametersOf c = .memberName)
      (hannotated : c ≠ ⟨"typing", "Annotated"⟩) (hbare : c ∉ TypeForm.bareClasses)
      (hne : args ≠ []) (hargs : HaveValues (formEvaluator u) args values)
      (hhashable : values.all TypeForm.isHashable = true) :
      Escapes u (beginning.yield ++ ((Tree.subscript text args).yield ++ rest))
        (.noMember (TypeForm.keyShown u values))
  | union {enclosing brackets terms values form rest}
      (hbefore : Beginning.Reaches (formEvaluator u) ⟨enclosing, []⟩ [] brackets)
      (hseveral : 2 ≤ terms.length) (hterms : ∀ term ∈ terms, term.isTerm = true)
      (hvalues : HaveValues (formEvaluator u) terms values) (hover : (Tree.union terms).IsOver rest)
      (hform : form ∈ values) (hrefused : form.asArgument = .error .refused) :
      Escapes u ((⟨enclosing, []⟩ : Beginning).yield ++ ((Tree.union terms).yield ++ rest)) .refused

theorem escapes_iff_breaks {u : Universe} {tokens : List Token} {fault : FormFault} :
    Escapes u tokens fault ↔ Breaks (formEvaluator u) tokens (.form fault) := by
  constructor
  · intro h
    cases h with
    | member hbefore hname henumeration hannotated hbare hne hargs hhashable =>
      refine .subscript hbefore hname hne hargs (subscript_eq_form_iff.mpr ⟨_, rfl, ?_⟩)
      exact (TypeForm.subscript_eq_noMember_iff u _ _ _).mpr
        ⟨_, rfl, hannotated, hbare, henumeration, hhashable, rfl⟩
    | @union _ _ _ _ form _ hbefore hseveral hterms hvalues hover hform hrefused =>
      refine .union hbefore hseveral hterms hvalues hover (union_eq_form_iff.mpr ?_)
      exact TypeForm.unionOf_eq_error_iff.mpr ⟨rfl, .inr ⟨form, hform, hrefused⟩⟩
  · intro h
    cases h with
    | name _ hfault => exact absurd hfault (name_ne_form _)
    | subscript hbefore hbase hne hargs hfault =>
      obtain ⟨shown, rfl, hnone⟩ := subscript_eq_form_iff.mp hfault
      obtain ⟨c, rfl, hannotated, hbare, henumeration, hhashable, rfl⟩ :=
        (TypeForm.subscript_eq_noMember_iff u _ _ _).mp hnone
      exact .member hbefore hbase henumeration hannotated hbare hne hargs hhashable
    | union hbefore hseveral hterms hvalues hover hfault =>
      obtain ⟨rfl, hnil | ⟨form, hform, hrefused⟩⟩ :=
        TypeForm.unionOf_eq_error_iff.mp (union_eq_form_iff.mp hfault)
      · have hlength := hvalues.length_eq
        rw [hnil] at hlength
        rw [← hlength] at hseveral
        cases hseveral
      · exact .union hbefore hseveral hterms hvalues hover hform hrefused

/-- Reading fails otherwise than as a fault of the expression exactly where everything before a part
    goes well and that part is the member of an enumeration, looked for in vain, or a union that may not
    be. -/
theorem parse_fails_outside_iff (u : Universe) (text : String) (fault : ExpressionFault) :
    (TypeForm.parse u text = .error fault ∧ fault.kind ≠ .typeExpression) ↔
      ∃ all found, fault = .form found ∧ Spells all text.toList ∧ Escapes u all found := by
  constructor
  · rintro ⟨h, hkind⟩
    cases fault with
    | form found =>
      cases htokens : tokens text with
      | error stray =>
        rw [TypeForm.parse, ofText, htokens] at h
        cases h
      | ok all =>
        rw [TypeForm.parse, ofText, htokens] at h
        have hbreaks : Breaks (formEvaluator u) all (.form found) := (ofTokens_eq_error_iff rfl).mp h
        exact ⟨all, found, rfl, tokens_eq_ok_iff.mp htokens, escapes_iff_breaks.mpr hbreaks⟩
    | _ => exact absurd rfl hkind
  · rintro ⟨all, found, rfl, hspells, hescapes⟩
    have hbreaks := escapes_iff_breaks.mp hescapes
    constructor
    · rw [TypeForm.parse, ofText, tokens_eq_ok_iff.mpr hspells]
      exact hbreaks.ofTokens_eq
    · cases found <;> simp [ExpressionFault.kind, FormFault.kind]

example : verdict (TypeForm.parse Universe.standard "Optional | int") = .error (.form .refused) := by
  decide +kernel

end SettingText.Types
