import SettingText.Classes.Own
import SettingText.Outcome.Basic
import SettingText.Proofs.Types.Made
import SettingText.Proofs.Types.Written

/-!
Writing a descriptor and reading it again. A descriptor whose classes go by their names is read as the type
that it states, and that type is reduced to the descriptor again, so no two such descriptors have one text.
-/

namespace SettingText

theorem Fault.message_noConverter (d : Descriptor) :
    (Fault.noConverter d).message = "No converter available for " ++ d.text := rfl

theorem Types.lookup_of_resolve {u : Universe} {name : String} {c : ClassRef}
    (hknown : ∀ entry ∈ knownNames, entry.1 ≠ name) (h : u.resolve name = .ok c) :
    lookup u name = .ok (.cls c) := by
  have hfind : knownNames.find? (·.1 == name) = none := by simpa using hknown
  rw [lookup, hfind, h]

/-- A class goes by its text: the text is a name of expressions and stands for the class. -/
structure Universe.Names (u : Universe) (c : ClassRef) : Prop where
  spelled : Types.IsName c.text.toList
  found : Types.lookup u c.text = .ok (.cls c)

/-- A generic class looks at its arguments when it is given them. -/
def Universe.checksArguments (u : Universe) (c : ClassRef) : Bool :=
  match u.parametersOf c with
  | .exactly _ => true
  | _ => false

namespace Descriptor

/-- The type that a descriptor states. -/
def stated (u : Universe) : Descriptor → TypeForm
  | dots => .dots
  | plain c => .cls c
  | shape .optional args => .union false (stateds args ++ [.nothingClass])
  | shape (.cls c) args => .generic (u.checksArguments c) c (stateds args)
  | shape (.foreign text) args => .descriptor (shape (.foreign text) args)
where
  /-- The types that arguments state. -/
  stateds : List Descriptor → List TypeForm
    | [] => []
    | d :: rest => d.stated u :: stateds rest

/-- A descriptor that can be read from its text: its classes go by their names, its generic classes take
their arguments, and an optional type is neither of an optional type nor of a class that may not stand
inside other types. -/
inductive Legible (u : Universe) : Descriptor → Prop
  | plain {c} (hc : u.Names c) : Legible u (plain c)
  | shape {c args form} (hc : u.Names c) (hargs : ∀ a ∈ args, a ≠ .dots → Legible u a)
      (haccepts : (TypeForm.cls c).subscript u (args.map (·.stated u)) = .ok form) :
      Legible u (shape (.cls c) args)
  | optional {d} (h : Legible u d) (hbare : ∀ c ∈ TypeForm.bareClasses, d ≠ .plain c)
      (hsingle : ∀ e, d ≠ .optional e) : Legible u (optional d)

variable {u : Universe} {P : ClassRef → Prop} {d : Descriptor} {c : ClassRef} {args : List Descriptor}

theorem stateds_eq_map (args : List Descriptor) : stated.stateds u args = args.map (·.stated u) := by
  induction args with
  | nil => rfl
  | cons d rest ih => rw [stated.stateds, ih, List.map_cons]

theorem stated_shape (c : ClassRef) (args : List Descriptor) :
    (shape (.cls c) args).stated u =
      .generic (u.checksArguments c) c (args.map (·.stated u)) := by
  rw [← stateds_eq_map]
  rfl

theorem stated_optional (d : Descriptor) :
    (optional d).stated u = .union false [d.stated u, .nothingClass] := rfl

theorem stated_ne_listing (d : Descriptor) (items : List TypeForm) : d.stated u ≠ .listing items := by
  cases d with
  | shape origin => cases origin <;> rintro ⟨⟩
  | _ => rintro ⟨⟩

theorem converted_stated (d : Descriptor) : (d.stated u).converted = d.stated u := by
  cases d with
  | shape origin => cases origin <;> rfl
  | _ => rfl

theorem isVariable_stated (d : Descriptor) : (d.stated u).isVariable = false := by
  cases d with
  | shape origin => cases origin <;> rfl
  | _ => rfl

theorem eq_dots_of_stated (h : d.stated u = .dots) : d = .dots := by
  cases d with
  | dots => rfl
  | plain => cases h
  | shape origin => cases origin <;> cases h

theorem Legible.isTerm (h : d.Legible u) (hsingle : ∀ e, d ≠ .optional e) : d.tree.isTerm = true := by
  cases h with
  | plain => rfl
  | shape => rfl
  | optional => exact absurd rfl (hsingle _)

theorem Legible.written (h : d.Legible u) (hd : d.Reduced P) : d.Written := by
  induction h with
  | plain hc => exact written_plain hc.spelled
  | @shape c args _ hc _ _ ih =>
    cases hd with
    | shape _ hne hargs =>
      refine written_shape hc.spelled hne fun a ha => ?_
      by_cases hdots : a = .dots
      · subst hdots
        exact written_dots
      · exact ih a ha hdots (hargs a ha hdots)
  | optional hbase _ hsingle ih =>
    cases hd with
    | optional hd => exact written_optional (ih hd) (hbase.isTerm hsingle)

end Descriptor

namespace TypeForm

variable {u : Universe} {c : ClassRef} {form : TypeForm}

theorem eq_of_functionArgs {args found : List TypeForm} (hlist : ∀ arg ∈ args, ∀ items, arg ≠ listing items)
    (h : functionArgs false args = .ok found) : found = args := by
  unfold functionArgs at h
  split at h
  · exact absurd rfl (hlist (listing [dots]) (by simp) _)
  · cases h
    rfl
  · cases h
    rfl
  · cases h
  · cases h

/-- A generic class that takes the types that descriptors state is generic in just these. -/
theorem subscript_stated {args : List Descriptor} (hc : c ≠ ⟨"typing", "Annotated"⟩) (hne : args ≠ [])
    (h : (cls c).subscript u (args.map (·.stated u)) = .ok form) :
    c ∉ bareClasses ∧ form = generic (u.checksArguments c) c (args.map (·.stated u)) := by
  change classSubscript u c _ = _ at h
  unfold classSubscript at h
  rw [if_neg hc] at h
  split at h
  · -- such a class takes variables only, and no descriptor states one
    obtain ⟨a, rest, rfl⟩ := List.exists_cons_of_ne_nil hne
    have hall : ((a :: rest).map (·.stated u)).all isVariable = false := by
      simp [Descriptor.isVariable_stated]
    rw [hall] at h
    cases h
  rename_i hbare
  refine ⟨by simpa using hbare, ?_⟩
  rw [Universe.checksArguments]
  cases hparameters : u.parametersOf c with
  | none => simp only [hparameters] at h; cases h
  | any =>
    simp only [hparameters] at h
    cases h
    rfl
  | exactly count =>
    simp only [hparameters] at h
    split at h
    · cases h
      have hconverted : (args.map (·.stated u)).map converted = args.map (·.stated u) := by
        simp [Descriptor.converted_stated]
      rw [hconverted]
    · cases h
  | callable =>
    simp only [hparameters] at h
    obtain ⟨found, hfound, h⟩ := bind_eq_ok_iff.mp h
    cases h
    have hlist : ∀ arg ∈ args.map (·.stated u), ∀ items, arg ≠ listing items := by
      intro arg harg
      obtain ⟨a, _, rfl⟩ := List.mem_map.mp harg
      exact a.stated_ne_listing
    rw [eq_of_functionArgs hlist hfound]
  | memberName =>
    simp only [hparameters] at h
    split at h <;> cases h

/-- A type joined with the absent value keeps to itself, unless it is a union or the absent value. -/
theorem unionOf_nothingClass (hargument : form.asArgument = .ok form) (hsingle : form.memberList = [form])
    (hsame : same form nothingClass = false) :
    unionOf [form, nothingClass] = .ok (union false [form, nothingClass]) := by
  have hargs : [form, nothingClass].mapM asArgument = .ok [form, nothingClass] :=
    mapM_eq_ok_iff.mpr (.cons hargument (.cons rfl .nil))
  have hmembers : [form, nothingClass].flatMap memberList = [form, nothingClass] := by
    rw [List.flatMap_cons, hsingle]
    rfl
  have hdistinct : distinct [form, nothingClass] = [form, nothingClass] := by
    simp [distinct, hsame]
  rw [unionOf, hargs]
  change Except.ok (joined false ([form, nothingClass].flatMap memberList)) = _
  rw [hmembers, joined, hdistinct]

end TypeForm

/-- The classes of the language are as they are: what stands for every type takes no arguments, and the
class of the absent value goes by no name of its own. -/
structure Universe.Proper (u : Universe) : Prop where
  any_not_generic : u.parametersOf TypeForm.anyClass = .none
  nothing_unnamed : ¬u.Names .nothing

theorem Universe.proper_standard : Universe.standard.Proper where
  any_not_generic := by decide
  nothing_unnamed h := by
    have hlookup : Types.lookup .standard "NoneType" = .error (.unknownName "NoneType") :=
      verdict_eq_error_iff.mp (by decide +kernel)
    cases hlookup.symm.trans h.found

/-- A class that may be the class of a shape. -/
def ClassRef.IsGeneric (c : ClassRef) : Prop := c ≠ TypeForm.anyClass ∧ c ≠ ⟨"typing", "Annotated"⟩

instance : DecidablePred ClassRef.IsGeneric := fun c =>
  inferInstanceAs (Decidable (c ≠ TypeForm.anyClass ∧ c ≠ ⟨"typing", "Annotated"⟩))

theorem Universe.Proper.covers {u : Universe} (hu : u.Proper) :
    TypeForm.Covers u ClassRef.IsGeneric where
  aliased := TypeForm.aliasOrigin_of_table (by decide) (by decide)
  bare := by decide
  parameterized c hannotated hparameters := by
    refine ⟨?_, hannotated⟩
    rintro rfl
    exact hparameters hu.any_not_generic

namespace Descriptor

variable {u : Universe} {d : Descriptor}

theorem Legible.isSingle (hu : u.Proper) (h : d.Legible u) (hd : d.Reduced ClassRef.IsGeneric)
    (hbare : ∀ c ∈ TypeForm.bareClasses, d ≠ .plain c) (hsingle : ∀ e, d ≠ .optional e) :
    (d.stated u).asArgument = .ok (d.stated u) ∧ (d.stated u).memberList = [d.stated u] ∧
      TypeForm.same (d.stated u) .nothingClass = false ∧ (d.stated u).isNothingClass = false := by
  cases h with
  | @plain c hc =>
    have hnotBare : TypeForm.bareClasses.contains c = false := by
      simpa using fun hmem => hbare c hmem rfl
    -- joined with itself the class of the absent value would be no union
    have hne : (c == .nothing) = false := by
      refine beq_eq_false_iff_ne.mpr ?_
      rintro rfl
      exact hu.nothing_unnamed hc
    refine ⟨?_, rfl, hne, hne⟩
    rw [stated, TypeForm.asArgument, hnotBare]
    rfl
  | @shape c args form hc _ haccepts =>
    cases hd with
    | shape hgeneric hne _ =>
      have hnotBare : TypeForm.bareClasses.contains c = false := by
        simpa using (TypeForm.subscript_stated hgeneric.2 hne haccepts).1
      refine ⟨?_, rfl, rfl, rfl⟩
      rw [stated_shape, TypeForm.asArgument, hnotBare]
      rfl
  | optional => exact absurd rfl (hsingle _)

/-- The tree of a legible descriptor stands for the type that the descriptor states. -/
theorem Legible.eval_tree (hu : u.Proper) (h : d.Legible u) (hd : d.Reduced ClassRef.IsGeneric) :
    d.tree.eval (Types.formEvaluator u) = .ok (d.stated u) := by
  induction h with
  | plain hc => exact hc.found
  | @shape c args form hc _ haccepts ih =>
    cases hd with
    | shape hgeneric hne hargs =>
      -- three points are not legible by themselves, and stand for themselves as an argument
      have hall : ∀ a ∈ args, a.tree.eval (Types.formEvaluator u) = .ok (a.stated u) := by
        intro a ha
        by_cases hdots : a = .dots
        · subst hdots
          rfl
        · exact ih a ha hdots (hargs a ha hdots)
      have hforms : (args.map tree).mapM (Types.Tree.eval (Types.formEvaluator u)) =
          .ok (args.map (·.stated u)) := by
        refine mapM_eq_ok_iff.mpr ?_
        rw [List.forall₂_map_left_iff, List.forall₂_map_right_iff]
        exact List.forall₂_same.mpr hall
      have hname : (Types.formEvaluator u).name c.text = .ok (.cls c) := hc.found
      obtain ⟨_, rfl⟩ := TypeForm.subscript_stated hgeneric.2 hne haccepts
      rw [tree_shape, Types.Tree.eval_subscript, hname, hforms, stated_shape]
      change (Types.formEvaluator u).subscript c.text (.cls c) (args.map (·.stated u)) = _
      simp only [Types.formEvaluator, haccepts]
  | @optional d hbase hbare hsingle ih =>
    cases hd with
    | optional hd =>
      obtain ⟨hargument, hmember, hsame, _⟩ := hbase.isSingle hu hd hbare hsingle
      have hforms : [d.tree, .name "None"].mapM (Types.Tree.eval (Types.formEvaluator u)) =
          .ok [d.stated u, .nothingClass] := mapM_eq_ok_iff.mpr (.cons (ih hd) (.cons rfl .nil))
      change (Types.Tree.union [d.tree, .name "None"]).eval _ = _
      rw [Types.Tree.eval_union, hforms]
      change (TypeForm.unionOf [d.stated u, .nothingClass]).mapError Types.ExpressionFault.form = _
      rw [TypeForm.unionOf_nothingClass hargument hmember hsame, stated_optional]
      rfl

theorem arguments_stated {args : List Descriptor}
    (h : ∀ a ∈ args, a ≠ .dots → (a.stated u).synthesize = a) :
    TypeForm.synthesize.arguments (args.map (·.stated u)) = args := by
  induction args with
  | nil => rfl
  | cons a rest ih =>
    obtain ⟨ha, hrest⟩ := List.forall_mem_cons.mp h
    rw [List.map_cons]
    by_cases hdots : a = .dots
    · subst hdots
      exact congrArg (dots :: ·) (ih hrest)
    · have hcons : ∀ form rest, form ≠ .dots → TypeForm.synthesize.arguments (form :: rest) =
          form.synthesize :: TypeForm.synthesize.arguments rest := by
        intro form rest hform
        cases form <;> first | rfl | exact absurd rfl hform
      rw [hcons _ _ fun hstated => hdots (eq_dots_of_stated hstated), ha hdots, ih hrest]

/-- The type that a descriptor states is reduced to the descriptor. -/
theorem Legible.synthesize_stated (hu : u.Proper) (h : d.Legible u)
    (hd : d.Reduced ClassRef.IsGeneric) : (d.stated u).synthesize = d := by
  induction h with
  | @plain c hc =>
    have hany : c ≠ TypeForm.anyClass := by
      cases hd with
      | plain h => exact h.elim id And.left
    exact if_neg hany
  | @shape c args form hc _ haccepts ih =>
    cases hd with
    | shape hgeneric hne hargs =>
      have harguments : TypeForm.synthesize.arguments (args.map (·.stated u)) = args :=
        arguments_stated fun a ha hdots => ih a ha hdots (hargs a ha hdots)
      rw [stated_shape, TypeForm.synthesize, harguments]
      obtain ⟨a, rest, rfl⟩ := List.exists_cons_of_ne_nil hne
      rfl
  | @optional d hbase hbare hsingle ih =>
    cases hd with
    | optional hd =>
      obtain ⟨_, _, _, hnothing⟩ := hbase.isSingle hu hd hbare hsingle
      have hpresent : TypeForm.synthesize.present [d.stated u, .nothingClass] = [d] := by
        simp only [TypeForm.synthesize.present, hnothing, Bool.false_eq_true, if_false, ih hd]
        rfl
      rw [stated_optional, TypeForm.synthesize, hpresent]
      simp [TypeForm.isNothingClass, TypeForm.nothingClass, TypeForm.optionalOf]

/-- The text of a legible descriptor is read as a type that is reduced to the descriptor. -/
theorem Legible.parse_text (hu : u.Proper) (h : d.Legible u) (hd : d.Reduced ClassRef.IsGeneric) :
    TypeForm.parse u d.text = .ok (d.stated u) := by
  have hwritten := h.written hd
  have hspells := hwritten.grammatical.spells_of_renders hwritten.spelled hwritten.renders
  rw [TypeForm.parse, Types.ofText_of_spells hwritten.grammatical hspells, h.eval_tree hu hd]

end Descriptor

namespace TypeForm

/-- A type that a program can state: a name, a class, a value or a text, or what is built from such types;
a descriptor only as what a type is reduced to. -/
inductive Built (u : Universe) : TypeForm → Prop
  | atom {form} (h : form.isAtom = true) : Built u form
  | listing {items} (h : ∀ item ∈ items, Built u item) : Built u (listing items)
  | typeVariable {name bound constraints form} (hbound : ∀ b ∈ bound, Built u b)
      (hconstraints : ∀ c ∈ constraints, Built u c)
      (h : variableOf name bound constraints = .ok form) : Built u form
  | annotated {base notes form} (hbase : Built u base) (h : annotate base notes = .ok form) :
      Built u form
  | union {forms form} (hforms : ∀ f ∈ forms, Built u f) (h : unionOf forms = .ok form) : Built u form
  | bars {forms form} (hforms : ∀ f ∈ forms, Built u f) (h : barAll forms = .ok form) : Built u form
  | subscript {base args form} (hbase : Built u base) (hargs : ∀ arg ∈ args, Built u arg)
      (h : base.subscript u args = .ok form) : Built u form
  | reduced {form} (h : Built u form) : Built u (descriptor form.synthesize)

variable {u : Universe} {P : ClassRef → Prop} {form : TypeForm}

theorem Built.madeOf (hP : Covers u P) (h : form.Built u) : form.MadeOf P := by
  induction h with
  | atom h => exact .atom h
  | listing _ ih => exact .listing ih
  | typeVariable _ _ h ih => exact gives_variableOf _ _ ih _ h
  | annotated _ h ih => exact gives_annotate _ ih _ h
  | union _ h ih => exact gives_unionOf ih _ h
  | bars _ h ih => exact gives_barAll ih _ h
  | subscript _ _ h ih ihargs => exact gives_subscript hP ih ihargs _ h
  | reduced _ ih => exact .descriptor ih.reduced

/-- Writing what a type is reduced to and reading the text gives it back, if the text can be read; so two
such descriptors with one text are the same, and the type that an outcome or a message tells is no other. -/
theorem synthesize_of_text (hu : u.Proper) (hform : form.Built u)
    (hlegible : form.synthesize.Legible u) :
    (∃ back, TypeForm.parse u form.synthesize.text = .ok back ∧ back.synthesize = form.synthesize) ∧
      ∀ other : TypeForm, other.Built u → other.synthesize.Legible u →
        (other.synthesize.text = form.synthesize.text ∨
          Outcome.typeField other.synthesize = Outcome.typeField form.synthesize ∨
          (Fault.noConverter other.synthesize).message = (Fault.noConverter form.synthesize).message) →
        other.synthesize = form.synthesize := by
  have hback {form : TypeForm} (hform : form.Built u) (h : form.synthesize.Legible u) :
      ∃ back, TypeForm.parse u form.synthesize.text = .ok back ∧ back.synthesize = form.synthesize := by
    have hreduced := (hform.madeOf hu.covers).reduced
    exact ⟨_, h.parse_text hu hreduced, h.synthesize_stated hu hreduced⟩
  refine ⟨hback hform hlegible, fun other hother hreadable hsame => ?_⟩
  have hfield (h : Outcome.typeField other.synthesize = Outcome.typeField form.synthesize) :
      other.synthesize.text = form.synthesize.text := by
    simpa [Outcome.typeField] using h
  have hmessage (h : (Fault.noConverter other.synthesize).message =
      (Fault.noConverter form.synthesize).message) :
      other.synthesize.text = form.synthesize.text := by
    have hlist := congrArg String.toList h
    rw [Fault.message_noConverter, Fault.message_noConverter, String.toList_append,
      String.toList_append] at hlist
    exact String.toList_inj.mp (List.append_cancel_left hlist)
  have htext := hsame.elim id fun h => h.elim hfield hmessage
  obtain ⟨first, hfirst, hfirstBack⟩ := hback hform hlegible
  obtain ⟨second, hsecond, hsecondBack⟩ := hback hother hreadable
  rw [htext, hfirst] at hsecond
  rw [← hsecondBack, ← Except.ok.inj hsecond, hfirstBack]

/-- A table of lists of numbers, some of them missing. -/
theorem synthesize_of_text_of_dict :
    let numbers : TypeForm := .generic false (.builtin "list") [.cls (.builtin "int")]
    let form : TypeForm := .generic false (.builtin "dict")
      [.cls (.builtin "str"), .union false [numbers, .nothingClass]]
    form.Built .standard ∧ form.synthesize.Legible .standard ∧
      ∃ back, TypeForm.parse .standard "dict[str, list[int] | None]" = .ok back ∧
        back.synthesize = form.synthesize := by
  intro numbers form
  have hnames : ∀ name ∈ ["dict", "str", "list", "int"], Universe.standard.Names (.builtin name) := by
    intro name hname
    have hspelled : ∀ name ∈ ["dict", "str", "list", "int"], Types.IsName name.toList := by
      decide +kernel
    have hresolve : ∀ name ∈ ["dict", "str", "list", "int"],
        Universe.standard.resolve name = .ok (.builtin name) := by
      decide +kernel
    have hknown : ∀ name ∈ ["dict", "str", "list", "int"], ∀ entry ∈ Types.knownNames,
        entry.1 ≠ name := by
      decide +kernel
    exact ⟨hspelled name hname, Types.lookup_of_resolve (hknown name hname) (hresolve name hname)⟩
  have hclass (name : String) : (cls (.builtin name)).Built .standard := .atom rfl
  have hnothing : nothingClass.Built .standard := .atom rfl
  have hint : ∀ arg ∈ [cls (.builtin "int")], arg.Built .standard := by simpa using hclass "int"
  have hnumbers : numbers.Built .standard := .subscript (hclass "list") hint rfl
  have hmembers : ∀ m ∈ [numbers, nothingClass], m.Built .standard := by
    simpa using ⟨hnumbers, hnothing⟩
  have hmissing : (union false [numbers, nothingClass]).Built .standard := .union hmembers rfl
  have hargs : ∀ arg ∈ [cls (.builtin "str"), union false [numbers, nothingClass]],
      arg.Built .standard := by
    simpa using ⟨hclass "str", hmissing⟩
  have hform : form.Built .standard := .subscript (hclass "dict") hargs rfl
  have hlist : numbers.synthesize.Legible .standard := by
    refine .shape (hnames "list" (by simp)) (fun a ha _ => ?_) rfl
    obtain rfl := List.mem_singleton.mp ha
    exact .plain (hnames "int" (by simp))
  have hlegible : form.synthesize.Legible .standard := by
    refine .shape (hnames "dict" (by simp)) (fun a ha _ => ?_) rfl
    obtain rfl | rfl := List.mem_pair.mp ha
    · exact .plain (hnames "str" (by simp))
    · exact .optional hlist (by rintro c _ ⟨⟩) (by rintro e ⟨⟩)
  exact ⟨hform, hlegible, (synthesize_of_text Universe.proper_standard hform hlegible).1⟩

/-- A class that may not stand inside other types may be joined with the absent value by a bar, and the
text of the joined type cannot be read. Nor can the text of a class be read whose module begins with a
letter that begins no name, or that of a descriptor made by hand, of a list of no type at all. -/
theorem text_not_read :
    let bare : ClassRef := ⟨"typing", "Generic"⟩
    let joined : TypeForm := .union true [.cls bare, .nothingClass]
    let accented : ClassRef := ⟨"é", "C"⟩
    let u : Universe := ⟨[{ ref := accented, ancestors := [.object] }], ["é"], [], []⟩
    let list : ClassRef := .builtin "list"
    let empty : Descriptor := .shape (.cls list) []
    (barAll [.cls bare, .nothing] = .ok joined ∧ joined.synthesize = .optional (.plain bare) ∧
        Types.lookup .standard bare.text = .ok (.cls bare) ∧
        TypeForm.parse .standard joined.synthesize.text = .error (.form .refused)) ∧
      ((TypeForm.cls accented).synthesize = .plain accented ∧
        Types.lookup u accented.text = .ok (.cls accented) ∧
        TypeForm.parse u (Descriptor.plain accented).text = .error (.stray ⟨0, "é.C".toList⟩)) ∧
      (TypeForm.descriptor empty).synthesize = empty ∧
        Types.lookup .standard list.text = .ok (.cls list) ∧
        (TypeForm.cls list).subscript .standard [] = .ok (.generic false list []) ∧
        TypeForm.parse .standard empty.text = .error (.unexpected .closing) := by
  refine ⟨⟨rfl, rfl, ?_, ?_⟩, ⟨rfl, ?_, ?_⟩, rfl, ?_, rfl, ?_⟩
  · exact Types.lookup_of_resolve (by decide +kernel) (by decide +kernel)
  · exact verdict_eq_error_iff.mp (by decide +kernel)
  · exact Types.lookup_of_resolve (by decide +kernel) (by decide +kernel)
  · exact verdict_eq_error_iff.mp (by decide +kernel)
  · exact Types.lookup_of_resolve (by decide +kernel) (by decide +kernel)
  · exact verdict_eq_error_iff.mp (by decide +kernel)

end TypeForm

end SettingText
