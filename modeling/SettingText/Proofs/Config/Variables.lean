import SettingText.Proofs.Config.Merging

/-!
The source that variables make: no name occurs twice in it, and a flag in it has the text of the last
variable of its name.
-/

namespace SettingText

namespace Json

theorem find?_append (front back : List (String × Json)) (name : String) :
    find? (front ++ back) name = (find? front name).or (find? back name) := by
  rw [find?, List.find?_append, Option.map_or]
  rfl

section Chosen

variable {ι : Type} (key : ι → String) (f : ι → Option Json)

/-- The members of the items that have a value. -/
def chosen (items : List ι) : List (String × Json) :=
  items.filterMap fun item => (f item).map fun value => (key item, value)

variable {key f}

theorem chosen_cons_none {item : ι} (h : f item = none) (rest : List ι) :
    chosen key f (item :: rest) = chosen key f rest :=
  List.filterMap_cons_none (by rw [h]; rfl)

theorem chosen_cons_some {item : ι} {value : Json} (h : f item = some value) (rest : List ι) :
    chosen key f (item :: rest) = (key item, value) :: chosen key f rest :=
  List.filterMap_cons_some (by rw [h]; rfl)

theorem sublist_chosen (items : List ι) :
    List.Sublist ((chosen key f items).map (·.1)) (items.map key) := by
  induction items with
  | nil => exact List.Sublist.refl []
  | cons first rest ih =>
    cases hvalue : f first with
    | none =>
      rw [chosen_cons_none hvalue]
      exact ih.cons _
    | some value =>
      rw [chosen_cons_some hvalue]
      exact ih.cons_cons _

theorem find?_chosen {items : List ι} (h : (items.map key).Nodup) {item : ι} (hitem : item ∈ items) :
    find? (chosen key f items) (key item) = f item := by
  induction items with
  | nil => simp at hitem
  | cons first rest ih =>
    obtain ⟨hfirst, hrest⟩ := List.nodup_cons.mp h
    obtain rfl | hin := List.mem_cons.mp hitem
    · cases hvalue : f item with
      | some value => rw [chosen_cons_some hvalue, find?_cons, if_pos rfl]
      | none =>
        rw [chosen_cons_none hvalue]
        exact find?_eq_none_iff.mpr fun hmem => hfirst ((sublist_chosen rest).subset hmem)
    · have hne : key first ≠ key item := fun hsame => hfirst (hsame ▸ List.mem_map_of_mem hin)
      cases hvalue : f first with
      | none => rw [chosen_cons_none hvalue, ih hrest hin]
      | some value => rw [chosen_cons_some hvalue, find?_cons, if_neg hne, ih hrest hin]

end Chosen

end Json

namespace Config

variable {environment : List (String × String)} {source : Source}

theorem nodup_named (leaves : Leaves) (members : Source) :
    ((named leaves members).map (·.1)).Nodup :=
  nodup_ofPairs _

theorem nodup_inside_sectionOfVariables {name : String} {leaves : Leaves} {value : Json}
    (h : sectionOfVariables environment name leaves = some (some value)) :
    (value.inside.map (·.1)).Nodup := by
  unfold sectionOfVariables at h
  split at h
  · obtain ⟨parts, _, h⟩ := Option.bind_eq_some_iff.mp h
    split at h <;> cases h
    exact nodup_named leaves parts
  · obtain ⟨whole, _, h⟩ := Option.bind_eq_some_iff.mp h
    split at h
    · obtain ⟨parts, _, h⟩ := Option.bind_eq_some_iff.mp h
      cases h
      exact nodup_named leaves _
    · cases h
    · next other hother _ =>
      cases h
      have hvalue : value.isTable = false := by
        cases value <;> first | rfl | exact absurd rfl (hother _)
      rw [Json.inside_of_not_isTable hvalue]
      exact List.nodup_nil

/-- A section that variables give, under its name. -/
def givenSection (environment : List (String × String)) (group : String × Leaves) :
    Option (Option (String × Json)) :=
  (sectionOfVariables environment group.1 group.2).bind fun given =>
    some (given.map fun value => (group.1, value))

theorem nodup_inside_givenSection {group : String × Leaves} {m : String × Json}
    (h : givenSection environment group = some (some m)) :
    m.1 = group.1 ∧ (m.2.inside.map (·.1)).Nodup := by
  obtain ⟨given, hgiven, h⟩ := Option.bind_eq_some_iff.mp h
  obtain ⟨value, rfl, rfl⟩ := Option.map_eq_some_iff.mp (Option.some.inj h)
  exact ⟨rfl, nodup_inside_sectionOfVariables hgiven⟩

theorem sublist_givenSections {groups : List (String × Leaves)}
    (h : groups.filterMapM (givenSection environment) = some source) :
    List.Sublist (source.map (·.1)) (groups.map (·.1)) ∧
      ∀ m ∈ source, (m.2.inside.map (·.1)).Nodup := by
  induction groups generalizing source with
  | nil =>
    cases h
    simp
  | cons group rest ih =>
    rw [List.filterMapM_cons] at h
    obtain ⟨given, hgiven, h⟩ := Option.bind_eq_some_iff.mp h
    cases given with
    | none =>
      obtain ⟨hnames, htables⟩ := ih h
      exact ⟨hnames.cons _, htables⟩
    | some m =>
      obtain ⟨others, hothers, h⟩ := Option.bind_eq_some_iff.mp h
      cases h
      obtain ⟨hnames, htables⟩ := ih hothers
      obtain ⟨hname, hm⟩ := nodup_inside_givenSection hgiven
      rw [List.map_cons, List.map_cons, hname]
      exact ⟨hnames.cons_cons _, List.forall_mem_cons.mpr ⟨hm, htables⟩⟩

/-- The text of a flag that a variable gives. The name counts in any case, and of several variables the
last. -/
def flagVariable? (environment : List (String × String)) (flag : String) : Option String :=
  (environment.reverse.find? fun v => Text.lower v.1 == variableStart ++ flag).map (·.2)

/-- The flags that variables give. -/
def givenFlags (environment : List (String × String)) : Source :=
  Json.chosen id (fun flag => (flagVariable? environment flag).map Json.text) flags

theorem ofVariables_eq_some_iff : ofVariables environment = some source ↔
    ∃ given, sections.filterMapM (givenSection (environment.map fun v => (Text.lower v.1, v.2))) =
      some given ∧ source = givenFlags environment ++ given := by
  have hflags : (flags.filterMap fun flag =>
      ((environment.map fun v => (Text.lower v.1, v.2)).reverse.find?
        (·.1 == variableStart ++ flag)).map fun found => (flag, Json.text found.2)) =
      givenFlags environment := by
    unfold givenFlags Json.chosen flagVariable?
    refine List.filterMap_congr fun flag _ => ?_
    rw [← List.map_reverse, List.find?_map, Option.map_map, Option.map_map,
      Option.map_map]
    rfl
  rw [← hflags]
  exact Option.bind_eq_some_iff.trans (exists_congr fun given => and_congr_right fun _ =>
    Option.some_inj.trans eq_comm)

/-- In the source that variables make, no name occurs twice. -/
theorem distinct_ofVariables (h : ofVariables environment = some source) : Distinct source := by
  obtain ⟨given, hgiven, rfl⟩ := ofVariables_eq_some_iff.mp h
  obtain ⟨hnames, htables⟩ := sublist_givenSections hgiven
  have hflags : List.Sublist ((givenFlags environment).map (·.1)) (flags.map id) :=
    Json.sublist_chosen flags
  constructor
  · rw [List.map_append]
    exact (hflags.append hnames).nodup (by decide)
  · intro m hm
    obtain hm | hm := List.mem_append.mp hm
    · obtain ⟨flag, _, hm⟩ := List.mem_filterMap.mp hm
      obtain ⟨value, hvalue, rfl⟩ := Option.map_eq_some_iff.mp hm
      obtain ⟨text, _, rfl⟩ := Option.map_eq_some_iff.mp hvalue
      exact List.nodup_nil
    · exact htables m hm

/-- A flag has the text of its variable, if there is one. -/
theorem find?_ofVariables {flag : String} (h : ofVariables environment = some source)
    (hflag : flag ∈ flags) :
    Json.find? source flag = (flagVariable? environment flag).map Json.text := by
  obtain ⟨given, hgiven, rfl⟩ := ofVariables_eq_some_iff.mp h
  have hnone : Json.find? given flag = none := by
    refine Json.find?_eq_none_iff.mpr fun hmem => ?_
    have hsection := (sublist_givenSections hgiven).1.subset hmem
    have hapart : ∀ flag ∈ flags, flag ∉ sections.map (·.1) := by decide
    exact hapart flag hflag hsection
  rw [Json.find?_append, hnone, Option.or_none]
  exact Json.find?_chosen (by decide) hflag

end Config

end SettingText
