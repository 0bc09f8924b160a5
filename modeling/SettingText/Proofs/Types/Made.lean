import SettingText.Proofs.Expression.Tree

/-!
What the forms are made of that a program can state. Every way of building a form puts the parts it is given
together and takes generic classes from a few places only, so what is known of those classes holds
throughout a form and the descriptor it is reduced to. No descriptor of a stated form lacks an argument
that its shape needs.
-/

namespace SettingText

variable {P : ClassRef → Prop}

/-- A descriptor that a form may be reduced to: an optional shape has one argument and every other shape
some, three points are arguments only, and the condition holds of the classes of shapes. -/
inductive Descriptor.Reduced (P : ClassRef → Prop) : Descriptor → Prop
  | plain {c} (h : c ≠ TypeForm.anyClass ∨ P c) : Reduced P (.plain c)
  | shape {c args} (hc : P c) (hne : args ≠ []) (hargs : ∀ a ∈ args, a ≠ .dots → Reduced P a) :
      Reduced P (.shape (.cls c) args)
  | optional {d} (h : Reduced P d) : Reduced P (.optional d)

theorem Descriptor.Reduced.top : Descriptor.top.Reduced P :=
  .plain (.inl (by decide))

/-- Work that gives only what has a property, if it gives anything. -/
def Gives {α ε : Type} (Q : α → Prop) (x : Except ε α) : Prop := ∀ a, x = .ok a → Q a

namespace Gives

variable {α β ε : Type} {Q : α → Prop} {R : β → Prop} {x y : Except ε α}

theorem ok {a : α} (h : Q a) : Gives Q (.ok a : Except ε α) := by
  intro b hb
  cases hb
  exact h

theorem error (e : ε) : Gives Q (.error e) := by
  intro b hb
  cases hb

theorem bind {f : α → Except ε β} (h : Gives Q x) (hf : ∀ a, Q a → Gives R (f a)) :
    Gives R (x >>= f) := by
  intro b hb
  obtain ⟨a, ha, hb⟩ := bind_eq_ok_iff.mp hb
  exact hf a (h a ha) b hb

theorem ite {p : Prop} [Decidable p] (hx : Gives Q x) (hy : Gives Q y) :
    Gives Q (if p then x else y) := by
  split
  · exact hx
  · exact hy

theorem mapM {f : α → Except ε β} {items : List α} (h : ∀ a ∈ items, Gives R (f a)) :
    Gives (fun results => ∀ b ∈ results, R b) (items.mapM f) := by
  intro results hresults b hb
  obtain ⟨a, ha, hfa⟩ := exists_of_mapM_eq_ok hresults hb
  exact h a ha b hfa

theorem foldlM {f : β → α → Except ε β} {items : List α} {b : β} (hb : R b)
    (h : ∀ a ∈ items, ∀ b, R b → Gives R (f b a)) : Gives R (items.foldlM f b) := by
  induction items generalizing b with
  | nil => exact .ok hb
  | cons a rest ih =>
    rw [List.foldlM_cons]
    exact .bind (h a (by simp) b hb) fun b' hb' => ih hb' fun a' ha' => h a' (by simp [ha'])

end Gives

namespace TypeForm

/-- The form holds no other that it is reduced by. -/
def isAtom : TypeForm → Bool
  | dots | nothing | cls _ | value _ | forward _ | unbound _ | renamed _ | literal _ | otherName _
  | special _ => true
  | _ => false

/-- A form that is put together of others, with a condition on the generic classes in it. -/
inductive MadeOf (P : ClassRef → Prop) : TypeForm → Prop
  | atom {form} (h : form.isAtom = true) : MadeOf P form
  | listing {items} (h : ∀ item ∈ items, MadeOf P item) : MadeOf P (listing items)
  | bounded {name bound} (h : MadeOf P bound) : MadeOf P (bounded name bound)
  | annotated {base notes} (h : MadeOf P base) : MadeOf P (annotated base notes)
  | union {bars members} (h : ∀ m ∈ members, MadeOf P m) : MadeOf P (union bars members)
  | generic {checked c args} (hc : P c) (h : ∀ arg ∈ args, MadeOf P arg) :
      MadeOf P (generic checked c args)
  | marked {name inner} (h : MadeOf P inner) : MadeOf P (marked name inner)
  | descriptor {d} (h : d.Reduced P) : MadeOf P (descriptor d)

/-- A condition on classes that holds of all that may be generic. -/
structure Covers (u : Universe) (P : ClassRef → Prop) : Prop where
  aliased : ∀ name, P (aliasOrigin name)
  bare : ∀ c ∈ bareClasses, P c
  parameterized : ∀ c, c ≠ ⟨"typing", "Annotated"⟩ → u.parametersOf c ≠ .none → P c

/-- A condition that holds of the class of everything and of all classes with second names holds of the
class behind every second name. -/
theorem aliasOrigin_of_table {Q : ClassRef → Prop} (hobject : Q .object)
    (htable : ∀ entry ∈ aliasTable, Q entry.2.1) (name : String) : Q (aliasOrigin name) := by
  unfold aliasOrigin
  cases hfound : aliasTable.find? (·.1 == name) with
  | none => exact hobject
  | some entry => exact htable entry (List.mem_of_find?_eq_some hfound)

theorem mem_present {d : Descriptor} {members : List TypeForm} (h : d ∈ synthesize.present members) :
    ∃ m ∈ members, m.isNothingClass = false ∧ m.synthesize = d := by
  induction members with
  | nil => cases h
  | cons m rest ih =>
    unfold synthesize.present at h
    split at h
    · obtain ⟨m', hm', hd⟩ := ih h
      exact ⟨m', by simp [hm'], hd⟩
    · rename_i hm
      obtain rfl | h := List.mem_cons.mp h
      · exact ⟨m, by simp, by simpa using hm, rfl⟩
      · obtain ⟨m', hm', hd⟩ := ih h
        exact ⟨m', by simp [hm'], hd⟩

theorem mem_arguments {d : Descriptor} {args : List TypeForm} (h : d ∈ synthesize.arguments args) :
    d = .dots ∨ ∃ arg ∈ args, arg.synthesize = d := by
  induction args with
  | nil => cases h
  | cons arg rest ih =>
    have hrest (h : d ∈ synthesize.arguments rest) :
        d = .dots ∨ ∃ a ∈ arg :: rest, a.synthesize = d := by
      obtain rfl | ⟨a, ha, hd⟩ := ih h
      · exact .inl rfl
      · exact .inr ⟨a, by simp [ha], hd⟩
    unfold synthesize.arguments at h
    split at h
    · cases ‹_ = []›
    · obtain ⟨rfl, rfl⟩ := List.cons.inj ‹arg :: rest = _›
      obtain rfl | h := List.mem_cons.mp h
      · exact .inl rfl
      · exact hrest h
    · obtain ⟨rfl, rfl⟩ := List.cons.inj ‹arg :: rest = _›
      obtain rfl | h := List.mem_cons.mp h
      · exact .inr ⟨arg, by simp, rfl⟩
      · exact hrest h

theorem reduced_optionalOf {ds : List Descriptor} (h : ∀ d ∈ ds, d.Reduced P) :
    (optionalOf ds).Reduced P := by
  unfold optionalOf
  split
  · exact .optional (h _ (by simp))
  · exact .optional .top

theorem reduced_ofArguments {c : ClassRef} {ds : List Descriptor} (hc : P c)
    (h : ∀ d ∈ ds, d ≠ .dots → d.Reduced P) : (ofArguments c ds).Reduced P := by
  cases ds with
  | nil => exact .plain (.inr hc)
  | cons d rest => exact .shape hc (by simp) h

theorem MadeOf.reduced {form : TypeForm} (h : form.MadeOf P) : form.synthesize.Reduced P := by
  induction h with
  | @atom form hatom =>
    have hnothing : Descriptor.Reduced P (.plain .nothing) := .plain (.inl (by decide))
    have halias (name : String) : Descriptor.Reduced P (.plain (aliasOrigin name)) :=
      .plain (.inl (aliasOrigin_of_table (Q := (· ≠ anyClass)) (by decide) (by decide) name))
    cases form with
    | nothing => exact hnothing
    | cls c =>
      rw [synthesize]
      split
      · exact .top
      · exact .plain (.inl ‹_›)
    | otherName name => exact halias name
    | bounded | listing | annotated | union | generic | marked | descriptor => cases hatom
    | _ => exact .top
  | listing | marked => exact .top
  | bounded _ ih | annotated _ ih => exact ih
  | union _ ih =>
    rw [synthesize]
    split
    · refine reduced_optionalOf fun d hd => ?_
      obtain ⟨m, hm, _, rfl⟩ := mem_present hd
      exact ih m hm
    · exact .top
  | generic hc _ ih =>
    refine reduced_ofArguments hc fun d hd hne => ?_
    obtain rfl | ⟨arg, harg, rfl⟩ := mem_arguments hd
    · exact absurd rfl hne
    · exact ih arg harg
  | descriptor hd => exact hd

section Building

variable {form : TypeForm} {forms args : List TypeForm}

/-- All the forms are made so. -/
def AllMade (P : ClassRef → Prop) (forms : List TypeForm) : Prop := ∀ form ∈ forms, form.MadeOf P

theorem AllMade.nil : AllMade P [] := by simp [AllMade]

theorem AllMade.cons (h : form.MadeOf P) (hrest : AllMade P forms) : AllMade P (form :: forms) :=
  List.forall_mem_cons.mpr ⟨h, hrest⟩

theorem AllMade.append (h : AllMade P forms) (hargs : AllMade P args) : AllMade P (forms ++ args) :=
  List.forall_mem_append.mpr ⟨h, hargs⟩

theorem madeOf_converted (h : form.MadeOf P) : form.converted.MadeOf P := by
  unfold converted
  split
  · exact .atom rfl
  · exact h

theorem gives_asArgument (h : form.MadeOf P) : Gives (MadeOf P) form.asArgument := by
  unfold asArgument
  split <;> first
    | exact .ok (.atom rfl)
    | exact .ok h
    | exact .ite (.ok h) (.error _)
    | exact .ite (.error _) (.ok h)

theorem gives_arguments (h : AllMade P args) : Gives (AllMade P) (args.mapM asArgument) :=
  .mapM fun arg harg => gives_asArgument (h arg harg)

theorem allMade_memberList (h : form.MadeOf P) : AllMade P form.memberList := by
  unfold memberList
  split
  · cases h with
    | atom hatom => cases hatom
    | union h => exact h
  · exact .cons h .nil

/-- What is left of forms when each is taken once is among them. -/
theorem mem_of_mem_distinct (h : form ∈ distinct forms) : form ∈ forms := by
  -- by induction on what is left to be looked at, whatever was kept before
  have hkept : ∀ (rest kept : List TypeForm), (∀ f ∈ kept, f ∈ forms) → (∀ f ∈ rest, f ∈ forms) →
      ∀ f ∈ rest.foldl (fun kept form => if kept.any (same · form) then kept else kept ++ [form]) kept,
        f ∈ forms := by
    intro rest
    induction rest with
    | nil => exact fun kept hkept _ => hkept
    | cons first rest ih =>
      intro kept hkept hrest
      rw [List.foldl_cons]
      refine ih _ ?_ fun f hf => hrest f (by simp [hf])
      split
      · exact hkept
      · simpa [or_imp, forall_and] using ⟨hkept, hrest first (by simp)⟩
  exact hkept forms [] (by simp) (fun _ h => h) form h

theorem madeOf_joined (bars : Bool) (h : AllMade P forms) : (joined bars forms).MadeOf P := by
  have hdistinct : AllMade P (distinct forms) := fun f hf => h f (mem_of_mem_distinct hf)
  unfold joined
  split
  · rename_i single hsingle
    exact hdistinct single (by simp [hsingle])
  · exact .union hdistinct

theorem gives_unionOf (h : AllMade P forms) : Gives (MadeOf P) (unionOf forms) := by
  refine .ite (.error _) (.bind (gives_arguments h) fun found hfound => .ok (madeOf_joined _ ?_))
  -- unions among the members are taken apart into their own members
  intro f hf
  obtain ⟨g, hg, hf⟩ := List.mem_flatMap.mp hf
  exact allMade_memberList (hfound g hg) f hf

theorem gives_bar {other : TypeForm} (h : form.MadeOf P) (hother : other.MadeOf P) :
    Gives (MadeOf P) (bar form other) := by
  have hunion : Gives (MadeOf P) (unionOf [form, other]) :=
    gives_unionOf (.cons h (.cons hother .nil))
  have hmembers : AllMade P (memberList form.converted ++ memberList other.converted) :=
    .append (allMade_memberList (madeOf_converted h)) (allMade_memberList (madeOf_converted hother))
  unfold bar
  split
  · exact .error _
  · exact .ite (.ok (madeOf_joined true hmembers)) (.ite hunion (.error _))

theorem gives_barAll (h : AllMade P forms) : Gives (MadeOf P) (barAll forms) := by
  cases forms with
  | nil => exact .error _
  | cons first rest =>
    obtain ⟨hfirst, hrest⟩ := List.forall_mem_cons.mp h
    exact .foldlM hfirst fun form hform _ hsofar => gives_bar hsofar (hrest form hform)

/-- A form and forms left over are all made so. -/
def FilledWell (P : ClassRef → Prop) (filled : TypeForm × List TypeForm) : Prop :=
  filled.1.MadeOf P ∧ AllMade P filled.2

/-- Putting types for variables puts only those types into a form. -/
theorem gives_fill {types : List TypeForm} (htypes : AllMade P types) (h : form.MadeOf P) :
    Gives (FilledWell P) (fill types form) := by
  have hfirst {first : TypeForm} {rest : List TypeForm} (h : AllMade P (first :: rest)) :
      Gives (FilledWell P) (do return (← asArgument first, rest)) := by
    obtain ⟨hfirst, hrest⟩ := List.forall_mem_cons.mp h
    exact .bind (gives_asArgument hfirst) fun arg harg => .ok ⟨harg, hrest⟩
  induction types, form using
    TypeForm.fill.induct (fun types forms => AllMade P types → AllMade P forms →
      Gives (fun filled => AllMade P filled.1 ∧ AllMade P filled.2) (fill.fillAll types forms)) with
  | case1 => exact .error _
  | case2 _ first rest => exact hfirst htypes
  | case3 => exact .error _
  | case4 _ _ first rest => exact hfirst htypes
  | case5 _ base _ ih =>
    cases h with
    | atom hatom => cases hatom
    | annotated hbase =>
      exact .bind (ih htypes hbase) fun _ hfilled => .ok ⟨.annotated hfilled.1, hfilled.2⟩
  | case6 _ bars members ih =>
    cases h with
    | atom hatom => cases hatom
    | union hmembers =>
      -- a union is built anew from its members, with bars if it was so built before
      refine .bind (ih htypes hmembers) fun filled hfilled => ?_
      cases bars
      · exact .bind (gives_unionOf hfilled.1) fun _ hunion => .ok ⟨hunion, hfilled.2⟩
      · exact .bind (gives_barAll hfilled.1) fun _ hunion => .ok ⟨hunion, hfilled.2⟩
  | case7 _ _ _ _ ih =>
    cases h with
    | atom hatom => cases hatom
    | generic hc hargs =>
      exact .bind (ih htypes hargs) fun _ hfilled => .ok ⟨.generic hc hfilled.1, hfilled.2⟩
  | case8 _ _ ih =>
    cases h with
    | atom hatom => cases hatom
    | listing hitems =>
      exact .bind (ih htypes hitems) fun _ hfilled => .ok ⟨.listing hfilled.1, hfilled.2⟩
  | case9 types form hunbound hbounded hannotated hunion hgeneric hlisting =>
    cases form with
    | unbound name => exact (hunbound name rfl).elim
    | bounded name bound => exact (hbounded name bound rfl).elim
    | annotated base notes => exact (hannotated base notes rfl).elim
    | union bars members => exact (hunion bars members rfl).elim
    | generic checked c args => exact (hgeneric checked c args rfl).elim
    | listing items => exact (hlisting items rfl).elim
    | _ => exact .ok ⟨h, htypes⟩
  | case10 => exact .ok ⟨.nil, ‹_›⟩
  | case11 _ form rest ih ihrest htypes hforms =>
    obtain ⟨hform, hrest⟩ := List.forall_mem_cons.mp hforms
    refine .bind (ih htypes hform) fun filled hfilled => ?_
    refine .bind (ihrest _ hfilled.2 hrest) fun others hothers => ?_
    exact .ok ⟨.cons hfilled.1 hothers.1, hothers.2⟩

theorem gives_substituted (h : form.MadeOf P) (hargs : AllMade P args) :
    Gives (MadeOf P) (form.substituted args) :=
  .ite (.error _) (.bind (gives_fill hargs h) fun _ hfilled => .ok hfilled.1)

theorem gives_functionArgs (lax : Bool) (h : AllMade P args) :
    Gives (AllMade P) (functionArgs lax args) := by
  unfold functionArgs
  split
  · exact .ok (.cons (.atom rfl) (.cons (h _ (by simp)) .nil))
  · exact .ok h
  · exact .ok h
  · obtain ⟨hsingle, hresult⟩ := List.forall_mem_cons.mp h
    exact .ite (.ok (.cons (.listing (AllMade.cons hsingle .nil)) hresult)) (.error _)
  · exact .error _

theorem gives_annotate (notes : List Json) (h : form.MadeOf P) :
    Gives (MadeOf P) (annotate form notes) := by
  refine .ite (.error _) (.bind (gives_asArgument h) fun checked hchecked => ?_)
  split
  · cases hchecked with
    | atom hatom => cases hatom
    | annotated hinner => exact .ok (.annotated hinner)
  · exact .ok (.annotated hchecked)

theorem gives_specialSubscript (name : String) (h : AllMade P args) :
    Gives (MadeOf P) (specialSubscript name args) := by
  unfold specialSubscript
  split
  · refine .bind (gives_asArgument (h _ (by simp))) fun arg harg => ?_
    exact gives_unionOf (.cons harg (.cons (.atom rfl) .nil))
  · exact gives_unionOf h
  · exact .ok (.marked (.listing h))
  · refine .ite (.bind (gives_asArgument (h _ (by simp))) fun arg harg => ?_) (.error _)
    exact .ok (.marked harg)
  · exact .error _

theorem gives_aliasSubscript (hP : ∀ name, P (aliasOrigin name)) (name : String)
    (h : AllMade P args) : Gives (MadeOf P) (aliasSubscript name args) := by
  have hgeneric {forms : List TypeForm} (h : AllMade P forms) :
      (TypeForm.generic true (aliasOrigin name) forms).MadeOf P := .generic (hP name) h
  unfold aliasSubscript
  dsimp only
  split
  · exact .bind (gives_arguments h) fun found hfound => .ite (.ok (hgeneric hfound)) (.error _)
  · refine .ite (.bind (gives_functionArgs true h) fun pair hpair => ?_)
      (.bind (gives_arguments h) fun found hfound => .ok (hgeneric hfound))
    split
    · rename_i first result
      have hfirst : first.MadeOf P := hpair _ (by simp)
      refine .bind (gives_asArgument (hpair _ (by simp))) fun arg harg => ?_
      refine .ok (hgeneric (.cons ?_ (.cons harg .nil)))
      split
      · cases hfirst with
        | atom hatom => cases hatom
        | listing hitems =>
          refine .listing fun item hitem => ?_
          obtain ⟨given, hgiven, rfl⟩ := List.mem_map.mp hitem
          exact madeOf_converted (hitems given hgiven)
      · exact hfirst
    · exact .error _

variable {u : Universe}

theorem gives_classSubscript (hP : Covers u P) (c : ClassRef) (h : AllMade P args) :
    Gives (MadeOf P) (classSubscript u c args) := by
  unfold classSubscript
  split
  · split
    · exact gives_annotate _ (h _ (by simp))
    · exact .error _
  rename_i hannotated
  split
  · rename_i hbare
    exact .ite (.ok (.generic (hP.bare c (by simpa using hbare)) h)) (.error _)
  have hparameterized (hne : u.parametersOf c ≠ .none) : P c := hP.parameterized c hannotated hne
  split
  · exact .error _
  · exact .ok (.generic (hparameterized (by simp [*])) h)
  · refine .ite (.ok (.generic (hparameterized (by simp [*])) fun arg harg => ?_)) (.error _)
    obtain ⟨given, hgiven, rfl⟩ := List.mem_map.mp harg
    exact madeOf_converted (h given hgiven)
  · exact .bind (gives_functionArgs false h) fun found hfound =>
      .ok (.generic (hparameterized (by simp [*])) hfound)
  · exact .ite (.error _) (.error _)

/-- What is built from a form and its arguments is made of what they are made of. -/
theorem gives_subscript (hP : Covers u P) (h : form.MadeOf P) (hargs : AllMade P args) :
    Gives (MadeOf P) (form.subscript u args) := by
  cases form with
  | cls c => exact gives_classSubscript hP c hargs
  | otherName name => exact gives_aliasSubscript hP.aliased name hargs
  | special name => exact gives_specialSubscript name hargs
  | generic | union | annotated => exact gives_substituted h hargs
  | _ => exact .error _

theorem gives_variableOf (name : String) {bound : Option TypeForm} (constraints : List TypeForm)
    (h : ∀ form ∈ bound, form.MadeOf P) : Gives (MadeOf P) (variableOf name bound constraints) := by
  have hconstraints : Gives (fun _ => True) (constraints.mapM asArgument) := fun _ _ => trivial
  refine .ite (.error _) (.bind hconstraints fun _ _ => ?_)
  split
  · rename_i found hfound
    have hmade : found.MadeOf P := h found (Option.filter_eq_some_iff.mp hfound).1
    exact .bind (gives_asArgument hmade) fun arg harg => .ok (.bounded harg)
  · exact .ok (.atom rfl)

end Building

end TypeForm

namespace Types

variable {u : Universe}

theorem gives_lookup (name : String) : Gives (TypeForm.MadeOf P) (lookup u name) := by
  have hknown : ∀ entry ∈ knownNames, entry.2.isAtom = true := by decide
  unfold lookup
  split
  · rename_i hfound
    exact .ok (.atom (hknown _ (List.mem_of_find?_eq_some hfound)))
  · split
    · exact .ok (.atom rfl)
    · exact .error _

/-- What a tree of an expression stands for is made of generic classes that the condition covers. -/
theorem Tree.Grammatical.gives_eval (hP : TypeForm.Covers u P) {tree : Tree} (h : tree.Grammatical) :
    Gives (TypeForm.MadeOf P) (tree.eval (formEvaluator u)) := by
  induction h with
  | dots => exact .ok (.atom rfl)
  | name => exact gives_lookup _
  | @subscript text _ _ _ ih =>
    have hname : Gives (TypeForm.MadeOf P) ((formEvaluator u).name text) := gives_lookup text
    rw [Tree.eval_subscript]
    refine .bind hname fun base hbase => .bind (.mapM ih) fun args hargs => ?_
    intro form hform
    simp only [formEvaluator] at hform
    split at hform
    · rename_i hsubscript
      cases hform
      exact TypeForm.gives_subscript hP hbase hargs _ hsubscript
    · cases hform
    · cases hform
  | union _ _ _ ih =>
    rw [Tree.eval_union]
    refine .bind (.mapM ih) fun members hmembers => ?_
    intro form hform
    exact TypeForm.gives_unionOf hmembers form (mapError_eq_ok_iff.mp hform)

end Types

end SettingText
