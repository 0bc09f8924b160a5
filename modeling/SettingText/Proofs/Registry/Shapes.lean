import SettingText.Classes.Own
import SettingText.Proofs.Converter.Gathering
import SettingText.Proofs.Nesting.Basic
import SettingText.Proofs.Registry.Handled

/-!
All containers agree with the list. Where nothing is registered for types that are put together from
others, a registry in any state makes of a setting at a sequence, an array, a set or a map what it makes of
it at a list, told in the form of the container.
-/

namespace SettingText

/-- The classes of sets. -/
inductive SetClass where
  | set | mutableSet | frozenset | abstractSet
  deriving DecidableEq

namespace SetClass

def ref : SetClass → ClassRef
  | set => .builtin "set"
  | mutableSet => .abstraction "MutableSet"
  | frozenset => .builtin "frozenset"
  | abstractSet => .abstraction "Set"

/-- What becomes of the items. -/
def finish : SetClass → Finish
  | set | mutableSet => .asIs
  | frozenset | abstractSet => .frozenset

/-- The set of some items. -/
def of : SetClass → List Datum → Datum
  | set | mutableSet => .set
  | frozenset | abstractSet => .frozenset

theorem finish_apply (c : SetClass) (items : List Datum) :
    c.finish.apply true items = .ok (c.of items) := by
  cases c <;> rfl

end SetClass

namespace Registry

variable {r : Registry} {d e : Descriptor}

/-- Converting is the work of the converter that is handed out, with the editors as they are. -/
theorem answer_convert_component (r : Registry) (value : Option Setting) (d : Descriptor) :
    answer (convert value d) r =
      answer (component d) r >>= fun c => (c.convert r.classes value).on r.bench := by
  rw [answer_component]
  cases h : answer (resolve d) r with
  | error fault => rw [(convert_of_not_resolves h value).1]; rfl
  | ok held => rw [(convert_of_resolves h value).1]; rfl

private theorem map_some_inj {x y : Except Fault Converter} (h : x.map some = y.map some) : x = y := by
  cases x <;> cases y <;> cases h <;> rfl

/-- A type with one component gets what its recipe makes of the converter of that component, or its fault. -/
theorem Accounted.answer_component_of_single (hr : r.Accounted) (hscalar : r.scalar? d = none)
    (hcomponents : (Recipe.of d).components = [e]) :
    (answer (component d) r).map some = answer (component e) r >>= fun c => r.complete d [c] := by
  have hplain : Recipe.of d ≠ .plain := by
    intro h
    rw [h] at hcomponents
    cases hcomponents
  rw [hr.answer_component_of_recipe hscalar hplain, hcomponents, List.mapM_cons, answer_bind, bind_assoc]
  cases answer (component e) r <;> rfl

/-- A type with one component, of whose converter something can be made. -/
theorem Accounted.answer_component_of_one (hr : r.Accounted) (hscalar : r.scalar? d = none)
    (hcomponents : (Recipe.of d).components = [e]) {make : Converter → Converter}
    (hmake : ∀ c, r.complete d [c] = .ok (some (make c))) :
    answer (component d) r = (answer (component e) r).map make := by
  -- what is put together is there, so it may be compared as such
  apply map_some_inj
  rw [hr.answer_component_of_single hscalar hcomponents]
  cases answer (component e) r with
  | error fault => rfl
  | ok c => exact hmake c

/-- Two types with the same two components get their converters from one and the same pair. -/
theorem Accounted.answer_component_of_two (hr : r.Accounted) {d d' key val : Descriptor}
    (hscalar : r.scalar? d = none) (hscalar' : r.scalar? d' = none)
    (hcomponents : (Recipe.of d).components = [key, val])
    (hcomponents' : (Recipe.of d').components = [key, val]) {make make' : Converter → Converter → Converter}
    (hmake : ∀ k v, r.complete d [k, v] = .ok (some (make k v)))
    (hmake' : ∀ k v, r.complete d' [k, v] = .ok (some (make' k v))) :
    (∃ fault, answer (component d) r = .error fault ∧ answer (component d') r = .error fault) ∨
      ∃ k v, answer (component d) r = .ok (make k v) ∧ answer (component d') r = .ok (make' k v) := by
  have hplain : ∀ d, (Recipe.of d).components = [key, val] → Recipe.of d ≠ .plain := by
    intro d hd h
    rw [h] at hd
    cases hd
  have hd := hr.answer_component_of_recipe hscalar (hplain d hcomponents)
  have hd' := hr.answer_component_of_recipe hscalar' (hplain d' hcomponents')
  rw [hcomponents] at hd
  rw [hcomponents'] at hd'
  cases hparts : answer ([key, val].mapM component) r with
  | error fault =>
    rw [hparts] at hd hd'
    exact .inl ⟨fault, map_some_inj hd, map_some_inj hd'⟩
  | ok parts =>
    obtain ⟨k, v, rfl⟩ := List.length_eq_two.mp (length_of_answer_mapM hparts)
    rw [hparts] at hd hd'
    exact .inr ⟨k, v, map_some_inj (hd.trans (hmake k v)), map_some_inj (hd'.trans (hmake' k v))⟩

/-- Where nothing is registered for types put together from others, such a type has no converter of its
own. -/
theorem NothingNested.scalar? (hn : r.NothingNested) (h : (Recipe.of d).components ≠ []) :
    r.scalar? d = none := by
  have hcontains := hn d h
  rw [contains, Option.isSome_eq_false_iff, Option.isNone_iff_eq_none] at hcontains
  rw [Registry.scalar?, hcontains]
  rfl

/-- The items of a list that a setting is converted to, or those before the first that fails. -/
def elements (r : Registry) (value : Option Setting) (t : Descriptor) : List Datum :=
  match answer (component t) r with
  | .ok inner => inner.elements r.classes value r.bench
  | .error _ => []

variable {t : Descriptor}

theorem recipe_sequence (c : SequenceClass) (ht : t ≠ .dots) :
    Recipe.of (.shape (.cls c.ref) [t]) = .collection (.sequence fun _ => []) t c.finish := by
  rw [← Catalogue.orTop_of_ne_dots ht]
  cases c <;> cases t <;> rfl

theorem recipe_set (c : SetClass) (ht : t ≠ .dots) :
    Recipe.of (.shape (.cls c.ref) [t]) = .collection .set t c.finish := by
  rw [← Catalogue.orTop_of_ne_dots ht]
  cases c <;> cases t <;> rfl

theorem answer_component_collection (hr : r.Accounted) (hn : r.NothingNested) {container : Container}
    {finish : Finish} (hrecipe : Recipe.of d = .collection container t finish) :
    answer (component d) r = (answer (component t) r).map fun inner => .collection container inner finish := by
  refine hr.answer_component_of_one (hn.scalar? ?_) (congrArg Recipe.components hrecipe) fun inner => ?_
  · rw [hrecipe]
    simp [Recipe.components]
  · rw [complete, hrecipe]
    rfl

theorem answer_component_array (hr : r.Accounted) (hn : r.NothingNested) (ht : t ≠ .dots) :
    answer (component (.shape (.cls (.builtin "tuple")) [t, .dots])) r =
      (answer (component t) r).map fun inner => .array t (.listOf inner) := by
  have hrecipe : Recipe.of (.shape (.cls (.builtin "tuple")) [t, .dots]) = .array t := rfl
  have hcomponents : (Recipe.array t).components = [t] := by
    rw [Recipe.components, Catalogue.orTop_of_ne_dots ht]
  refine hr.answer_component_of_one (hn.scalar? (by rw [hrecipe, hcomponents]; simp))
    (hrecipe ▸ hcomponents) fun inner => ?_
  rw [complete, hrecipe]
  cases t <;> first | contradiction | rfl

theorem answer_component_map (hr : r.Accounted) (hn : r.NothingNested) (c : MapClass)
    (key val : Descriptor) :
    let entryType : Descriptor := .shape (.cls Datum.entryClass) [key, val]
    let mapType : Descriptor := .shape (.cls c.ref) [key, val]
    (∃ fault, answer (component entryType) r = .error fault ∧ answer (component mapType) r = .error fault) ∨
      ∃ k v, answer (component entryType) r = .ok (.entry k v) ∧
        answer (component mapType) r =
          .ok (.map (.collection (.sequence fun _ => []) (.entry k v) .entries)) := by
  intro entryType mapType
  have hentry : Recipe.of entryType = .entry (Recipe.orTop (some key)) (Recipe.orTop (some val)) := rfl
  have hmap : Recipe.of mapType = .map (Recipe.orTop (some key)) (Recipe.orTop (some val)) := by
    cases c <;> rfl
  refine hr.answer_component_of_two (hn.scalar? ?_) (hn.scalar? ?_) (congrArg Recipe.components hentry)
    (congrArg Recipe.components hmap) (fun k v => ?_) fun k v => ?_
  · rw [hentry]
    simp [Recipe.components]
  · rw [hmap]
    simp [Recipe.components]
  · rw [complete, hentry]
    rfl
  · rw [complete, hmap]
    rfl

variable {value : Option Setting}

theorem answer_convert_list (hr : r.Accounted) (hn : r.NothingNested) (ht : t ≠ .dots) :
    answer (convert value (.shape (.cls (.builtin "list")) [t])) r =
      answer (component t) r >>= fun inner => ((Converter.listOf inner).convert r.classes value).on r.bench := by
  rw [answer_convert_component]
  change answer (component (.shape (.cls SequenceClass.list.ref) [t])) r >>= _ = _
  rw [answer_component_collection hr hn (recipe_sequence .list ht)]
  cases answer (component t) r <;> rfl

theorem eq_of_answer_list (hr : r.Accounted) (hn : r.NothingNested) (ht : t ≠ .dots) {x : Datum}
    (h : answer (convert value (.shape (.cls (.builtin "list")) [t])) r = .ok x) :
    x = .nothing ∨ x = .list (r.elements value t) := by
  rw [answer_convert_list hr hn ht] at h
  obtain ⟨inner, hinner, h⟩ := bind_eq_ok_iff.mp h
  rw [elements, hinner]
  exact Converter.eq_of_on_listOf h

theorem answer_convert_sequence (hr : r.Accounted) (hn : r.NothingNested) (c : SequenceClass)
    (ht : t ≠ .dots) : answer (convert value (.shape (.cls c.ref) [t])) r =
      (answer (convert value (.shape (.cls (.builtin "list")) [t])) r).map (Datum.retold c.of) := by
  rw [answer_convert_list hr hn ht, answer_convert_component,
    answer_component_collection hr hn (recipe_sequence c ht)]
  cases answer (component t) r with
  | error fault => rfl
  | ok inner => exact Converter.on_sequence c.finish_apply

theorem answer_convert_array (hr : r.Accounted) (hn : r.NothingNested) (ht : t ≠ .dots) :
    answer (convert value (.shape (.cls (.builtin "tuple")) [t, .dots])) r =
      (answer (convert value (.shape (.cls (.builtin "list")) [t])) r).map (Datum.retold .tuple) := by
  rw [answer_convert_list hr hn ht, answer_convert_component, answer_component_array hr hn ht]
  cases answer (component t) r with
  | error fault => rfl
  | ok inner => exact Converter.on_array t

theorem answer_convert_set (hr : r.Accounted) (hn : r.NothingNested) (c : SetClass) (ht : t ≠ .dots) :
    answer (convert value (.shape (.cls c.ref) [t])) r =
      (Datum.setOf (r.elements value t)).mapError .stray >>= fun distinct =>
        (answer (convert value (.shape (.cls (.builtin "list")) [t])) r).map
          (Datum.retold fun _ => c.of distinct) := by
  rw [answer_convert_list hr hn ht, answer_convert_component,
    answer_component_collection hr hn (recipe_set c ht), elements]
  cases answer (component t) r with
  | error fault => rfl
  | ok inner => exact Converter.on_set c.finish_apply

theorem answer_convert_map (hr : r.Accounted) (hn : r.NothingNested) (c : MapClass)
    (key val : Descriptor) : answer (convert value (.shape (.cls c.ref) [key, val])) r =
      answer (convert value (.shape (.cls (.builtin "list")) [.shape (.cls Datum.entryClass) [key, val]])) r >>=
        Datum.entryMap := by
  rw [answer_convert_list hr hn (by simp), answer_convert_component]
  obtain ⟨fault, hentry, hmap⟩ | ⟨k, v, hentry, hmap⟩ := answer_component_map hr hn c key val
  · rw [hentry, hmap]
    rfl
  · rw [hentry, hmap]
    exact Converter.on_map

/-- All containers agree with the list. Where nothing is registered for types put together from others,
whatever state the registry is in and whatever its editors go by: a sequence and an array are the list told
in their form; a set is the set of the items of the list, which there is when they can be hashed, and a map
the map of the entries of the list. Where the list is nothing, so are they, and they fail as the list
does. -/
theorem containers_agree_with_list (hr : r.Handled) (hn : r.NothingNested) (ht : t ≠ .dots)
    (key val : Descriptor) (value : Option Setting) :
    let outcome (c : ClassRef) (args : List Descriptor) := answer (convert value (.shape (.cls c) args)) r
    let list := outcome (.builtin "list") [t]
    let items := r.elements value t
    (∀ x, list = .ok x → x = .nothing ∨ x = .list items) ∧
      (∀ c : SequenceClass, outcome c.ref [t] = list.map (Datum.retold c.of)) ∧
      outcome (.builtin "tuple") [t, .dots] = list.map (Datum.retold .tuple) ∧
      ((∀ x ∈ items, x.Hashable) → ∃ distinct, Datum.setOf items = .ok distinct) ∧
      (∀ (c : SetClass) distinct, Datum.setOf items = .ok distinct →
        outcome c.ref [t] = list.map (Datum.retold fun _ => c.of distinct)) ∧
      (∀ (c : SetClass) cause, Datum.setOf items = .error cause →
        outcome c.ref [t] = .error (.stray cause)) ∧
      ∀ c : MapClass, outcome c.ref [key, val] =
        outcome (.builtin "list") [.shape (.cls Datum.entryClass) [key, val]] >>= Datum.entryMap := by
  intro outcome list items
  have hr := hr.accounted
  refine ⟨fun x => eq_of_answer_list hr hn ht, fun c => answer_convert_sequence hr hn c ht,
    answer_convert_array hr hn ht, Datum.setOf_eq_ok_of_hashable, fun c distinct hdistinct => ?_,
    fun c cause hcause => ?_, fun c => answer_convert_map hr hn c key val⟩
  · change answer (convert value (.shape (.cls c.ref) [t])) r = _
    rw [answer_convert_set hr hn c ht, show Datum.setOf (r.elements value t) = _ from hdistinct]
    rfl
  · change answer (convert value (.shape (.cls c.ref) [t])) r = _
    rw [answer_convert_set hr hn c ht, show Datum.setOf (r.elements value t) = _ from hcause]
    rfl

/-- Three texts, two of which are the same. -/
theorem containers_agree_with_list_of_texts :
    let r := standard .standard
    let str := Descriptor.plain (.builtin "str")
    let value := some (Setting.ofText (some "b,a,b"))
    let outcome (c : ClassRef) := answer (convert value (.shape (.cls c) [str])) r
    r.Handled ∧ r.NothingNested ∧ str ≠ .dots ∧
      outcome (.builtin "list") = .ok (.list [.text "b", .text "a", .text "b"]) ∧
      outcome (.abstraction "Sequence") = .ok (.tuple [.text "b", .text "a", .text "b"]) ∧
      outcome (.abstraction "MutableSet") = .ok (.set [.text "b", .text "a"]) := by
  intro r str value outcome
  have hr : r.Handled := .new (cache_standard _)
  have hn : r.NothingNested := nothingNested_standard _
  have hstr : str ≠ .dots := by simp [str]
  have hlist : outcome (.builtin "list") = .ok (.list [.text "b", .text "a", .text "b"]) := by
    have hreached : r.Reached := .of_new (cache_standard _) (isPure_standard _)
    have hbuild : r.catalogue.build (.shape (.cls (.builtin "list")) [str]) = .ok (.listOf .text) := by
      rw [Catalogue.build_of_collection rfl rfl, Catalogue.build_of_registered rfl]
      rfl
    change answer (convert value _) r = _
    rw [hreached.answer_convert, Catalogue.outcome, hbuild]
    rfl
  obtain ⟨hitems, hsequence, -, -, hset, -, -⟩ :=
    containers_agree_with_list hr hn hstr str str value
  have helements : r.elements value str = [.text "b", .text "a", .text "b"] := by
    obtain h | h := hitems _ hlist
    · cases h
    · exact (Datum.list.inj h).symm
  have hdistinct : Datum.setOf (r.elements value str) = .ok [.text "b", .text "a"] := by
    rw [helements]
    rfl
  refine ⟨hr, hn, hstr, hlist, ?_, ?_⟩
  · exact (hsequence .sequence).trans (congrArg _ hlist)
  · exact (hset .mutableSet _ hdistinct).trans (congrArg _ hlist)

end Registry

end SettingText
