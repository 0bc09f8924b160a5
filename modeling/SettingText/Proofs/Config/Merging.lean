import SettingText.Config.Settings
import Mathlib.Data.List.Nodup
import Mathlib.Data.List.Induction

/-!
What merging comes to: under a name, and under a leaf of a section, stands what the first source has
there that has anything. Where that is a table, parts of other sources may stand in it as well; as no
setting is a table, what stands inside does not count.
-/

namespace SettingText

namespace Json

variable {members : List (String × Json)} {name other : String}

theorem find?_cons (value : Json) (rest : List (String × Json)) :
    find? ((other, value) :: rest) name = if other = name then some value else find? rest name := by
  by_cases h : other = name <;> simp [find?, h]

theorem find?_eq_none_iff : find? members name = none ↔ name ∉ members.map (·.1) := by
  rw [find?, Option.map_eq_none_iff, List.find?_eq_none, List.mem_map]
  constructor
  · rintro h ⟨m, hm, rfl⟩
    exact h m hm (beq_self_eq_true m.1)
  · intro h m hm hname
    exact h ⟨m, hm, eq_of_beq hname⟩

theorem any_name_iff : members.any (·.1 == name) = true ↔ name ∈ members.map (·.1) := by
  simp

theorem find?_map_replace (members : List (String × Json)) (value : Json) :
    find? (members.map fun m => if m.1 == other then (other, value) else m) name =
      if other = name then (find? members name).map fun _ => value else find? members name := by
  induction members with
  | nil => simp [find?]
  | cons m rest ih =>
    obtain ⟨first, old⟩ := m
    rw [List.map_cons, find?_cons]
    by_cases hfirst : first = other
    · subst hfirst
      rw [if_pos (beq_self_eq_true first), find?_cons, ih]
      split <;> rfl
    · rw [if_neg (mt eq_of_beq hfirst), find?_cons, ih]
      by_cases hname : first = name
      · rw [if_pos hname, if_pos hname, if_neg (hname ▸ Ne.symm hfirst)]
      · rw [if_neg hname, if_neg hname]

theorem find?_put_same (members : List (String × Json)) (name : String) (value : Json) :
    find? (put members name value) name = some value := by
  unfold put
  split
  · next h =>
    obtain ⟨old, hold⟩ := Option.ne_none_iff_exists'.mp
      (mt find?_eq_none_iff.mp (not_not_intro (any_name_iff.mp h)))
    rw [find?_map_replace, if_pos rfl, hold]
    rfl
  · next h =>
    have habsent : members.find? (·.1 == name) = none :=
      Option.map_eq_none_iff.mp (find?_eq_none_iff.mpr (mt any_name_iff.mpr h))
    simp [find?, List.find?_append, habsent]

theorem find?_put_other (h : other ≠ name) (value : Json) :
    find? (put members other value) name = find? members name := by
  unfold put
  split
  · rw [find?_map_replace, if_neg h]
  · simp [find?, List.find?_append, h]

theorem mem_of_find? {value : Json} (h : find? members name = some value) :
    (name, value) ∈ members := by
  obtain ⟨m, hm, rfl⟩ := Option.map_eq_some_iff.mp h
  have hname : m.1 = name := by simpa using List.find?_some hm
  exact hname ▸ List.mem_of_find?_eq_some hm

/-- The members of a table; no other value has members. -/
def inside : Json → List (String × Json)
  | object members => members
  | _ => []

def isTable : Json → Bool
  | object _ => true
  | _ => false

/-- The value without what stands in it, if it is a table. -/
def shallow : Json → Json
  | object _ => object []
  | value => value

@[simp] theorem isTable_shallow (value : Json) : value.shallow.isTable = value.isTable := by
  cases value <;> rfl

theorem inside_of_not_isTable {value : Json} (h : value.isTable = false) : value.inside = [] := by
  cases value <;> first | rfl | cases h

theorem eq_object_of_isTable {value : Json} (h : value.isTable = true) :
    value = object value.inside := by
  cases value <;> first | rfl | cases h

end Json

namespace Config

/-- No name occurs twice, neither among the members nor inside one of them. -/
def Distinct (members : Source) : Prop :=
  (members.map (·.1)).Nodup ∧ ∀ m ∈ members, (m.2.inside.map (·.1)).Nodup

instance (members : Source) : Decidable (Distinct members) :=
  inferInstanceAs (Decidable (_ ∧ _))

section Names

variable {members : Source} {name : String} {value : Json}

theorem map_fst_put : (Json.put members name value).map (·.1) =
    if name ∈ members.map (·.1) then members.map (·.1) else members.map (·.1) ++ [name] := by
  unfold Json.put
  by_cases h : name ∈ members.map (·.1)
  · rw [if_pos (Json.any_name_iff.mpr h), if_pos h, List.map_map]
    refine List.map_congr_left fun m _ => ?_
    by_cases hm : m.1 = name <;> simp [hm]
  · rw [if_neg (mt Json.any_name_iff.mp h), if_neg h, List.map_append]
    rfl

theorem nodup_put (h : (members.map (·.1)).Nodup) :
    ((Json.put members name value).map (·.1)).Nodup := by
  rw [map_fst_put]
  split
  · exact h
  · next hnew =>
    refine List.nodup_append.mpr ⟨h, List.nodup_singleton name, ?_⟩
    rintro first hfirst _ hname rfl
    exact hnew (List.mem_singleton.mp hname ▸ hfirst)

theorem mem_put {m : String × Json} (h : m ∈ Json.put members name value) :
    m = (name, value) ∨ m ∈ members := by
  unfold Json.put at h
  split at h
  · obtain ⟨old, hold, rfl⟩ := List.mem_map.mp h
    split
    · exact .inl rfl
    · exact .inr hold
  · simpa [or_comm] using h

theorem Distinct.put (h : Distinct members) (hvalue : (value.inside.map (·.1)).Nodup) :
    Distinct (Json.put members name value) := by
  refine ⟨nodup_put h.1, fun m hm => ?_⟩
  obtain rfl | hm := mem_put hm
  · exact hvalue
  · exact h.2 m hm

theorem nodup_ofPairs (pairs : List (String × Json)) : ((Json.ofPairs pairs).map (·.1)).Nodup := by
  have hfold : ∀ kept : Source, (kept.map (·.1)).Nodup →
      ((pairs.foldl (fun members pair => Json.put members pair.1 pair.2) kept).map (·.1)).Nodup := by
    induction pairs with
    | nil => exact fun _ h => h
    | cons pair rest ih => exact fun kept h => ih _ (nodup_put h)
  exact hfold [] List.nodup_nil

theorem Distinct.inside (h : Distinct members) (hfind : Json.find? members name = some value) :
    (value.inside.map (·.1)).Nodup :=
  h.2 _ (Json.mem_of_find? hfind)

end Names

section Merged

variable {members updates : Source} {name : String}

theorem merged_nil (members : Source) : merged members [] = members := by
  rw [merged]

theorem merged_cons (members : Source) (name : String) (value : Json) (rest : Source) :
    merged members ((name, value) :: rest) =
      merged (Json.put members name ((Json.find? members name).elim value (updated · value))) rest := by
  rw [merged]
  cases Json.find? members name <;> rfl

theorem updated_of_tables (members updates : Source) :
    updated (.object members) (.object updates) = .object (merged members updates) := by
  rw [updated]

theorem updated_of_not_table {old new : Json} (h : old.isTable = false ∨ new.isTable = false) :
    updated old new = new := by
  cases new with
  | object updates =>
    cases old with
    | object members => simp [Json.isTable] at h
    | _ => rw [updated]; simp
  | _ => rw [updated]

theorem shallow_updated (old new : Json) : (updated old new).shallow = new.shallow := by
  by_cases h : old.isTable = false ∨ new.isTable = false
  · rw [updated_of_not_table h]
  · simp only [not_or, Bool.not_eq_false] at h
    rw [Json.eq_object_of_isTable h.1, Json.eq_object_of_isTable h.2, updated_of_tables]
    rfl

/-- What stands somewhere after an update. -/
def after (old new : Option Json) : Option Json :=
  new.elim old fun value => some (old.elim value (updated · value))

theorem after_none (new : Option Json) : after none new = new := by
  cases new <;> rfl

theorem shallow_after (old new : Option Json) :
    (after old new).map Json.shallow = (new.or old).map Json.shallow := by
  cases new with
  | none => rfl
  | some value =>
    cases old with
    | none => rfl
    | some old => exact congrArg some (shallow_updated old value)

theorem find?_merged (members : Source) (h : (updates.map (·.1)).Nodup) (name : String) :
    Json.find? (merged members updates) name =
      after (Json.find? members name) (Json.find? updates name) := by
  induction updates generalizing members with
  | nil =>
    rw [merged_nil]
    rfl
  | cons update rest ih =>
    obtain ⟨first, value⟩ := update
    obtain ⟨hfirst, hrest⟩ := List.nodup_cons.mp h
    rw [merged_cons, ih _ hrest, Json.find?_cons]
    by_cases hname : first = name
    · subst hname
      rw [Json.find?_eq_none_iff.mpr hfirst, Json.find?_put_same, if_pos rfl]
      rfl
    · rw [Json.find?_put_other hname, if_neg hname]

theorem nodup_merged (updates : Source) (h : (members.map (·.1)).Nodup) :
    ((merged members updates).map (·.1)).Nodup := by
  induction updates generalizing members with
  | nil => rwa [merged_nil]
  | cons update rest ih =>
    rw [merged_cons]
    exact ih (nodup_put h)

theorem nodup_inside_updated {old new : Json} (hold : (old.inside.map (·.1)).Nodup)
    (hnew : (new.inside.map (·.1)).Nodup) : ((updated old new).inside.map (·.1)).Nodup := by
  by_cases h : old.isTable = false ∨ new.isTable = false
  · rwa [updated_of_not_table h]
  · simp only [not_or, Bool.not_eq_false] at h
    rw [Json.eq_object_of_isTable h.1, Json.eq_object_of_isTable h.2, updated_of_tables]
    exact nodup_merged _ hold

theorem Distinct.merged (hmembers : Distinct members) (hupdates : Distinct updates) :
    Distinct (merged members updates) := by
  induction updates generalizing members with
  | nil => rwa [merged_nil]
  | cons update rest ih =>
    obtain ⟨name, value⟩ := update
    obtain ⟨hvalue, htables⟩ := List.forall_mem_cons.mp hupdates.2
    rw [merged_cons]
    refine ih (hmembers.put ?_) ⟨(List.nodup_cons.mp hupdates.1).2, htables⟩
    cases hfind : Json.find? members name with
    | none => exact hvalue
    | some old => exact nodup_inside_updated (hmembers.inside hfind) hvalue

end Merged

/-- The value of a leaf of a section. -/
def leaf? (members : Source) (group leaf : String) : Option Json :=
  (Json.find? members group).bind fun value => Json.find? value.inside leaf

section Sections

variable {members updates : Source} {group leaf : String}

/-- A section is updated leaf by leaf, unless something else than a table is put in its place. -/
theorem leaf?_merged (h : Distinct updates)
    (htable : ∀ value, Json.find? updates group = some value → value.isTable = true) :
    leaf? (merged members updates) group leaf =
      after (leaf? members group leaf) (leaf? updates group leaf) := by
  unfold leaf?
  rw [find?_merged members h.1]
  cases hnew : Json.find? updates group with
  | none => rfl
  | some new =>
    have hdistinct := h.inside hnew
    obtain ⟨inner, rfl⟩ : ∃ inner, new = .object inner :=
      ⟨_, Json.eq_object_of_isTable (htable new hnew)⟩
    cases Json.find? members group with
    | none => exact (after_none _).symm
    | some old =>
      change Json.find? (updated old (.object inner)).inside leaf =
        after (Json.find? old.inside leaf) (Json.find? inner leaf)
      by_cases hold : old.isTable = true
      · rw [Json.eq_object_of_isTable hold, updated_of_tables]
        exact find?_merged old.inside hdistinct leaf
      · rw [Bool.not_eq_true] at hold
        rw [updated_of_not_table (.inl hold), Json.inside_of_not_isTable hold]
        exact (after_none _).symm

end Sections

section All

variable {front sources : List Source} {last : Source} {name group leaf : String}

theorem mergedAll_concat (front : List Source) (last : Source) :
    mergedAll (front ++ [last]) = merged last (mergedAll front) := by
  rw [mergedAll, List.foldl_append]
  rfl

theorem distinct_mergedAll (h : ∀ source ∈ sources, Distinct source) :
    Distinct (mergedAll sources) := by
  induction sources using List.reverseRecOn with
  | nil => exact ⟨List.nodup_nil, by simp [mergedAll]⟩
  | append_singleton front last ih =>
    rw [mergedAll_concat]
    exact (h last (by simp)).merged (ih fun source hsource => h source (by simp [hsource]))

/-- Under a name stands what the first source has there, up to what stands in a table. Of the last
source it does not matter whether names occur twice. -/
theorem find?_mergedAll (h : ∀ source ∈ sources.dropLast, Distinct source) (name : String) :
    (Json.find? (mergedAll sources) name).map Json.shallow =
      (sources.findSome? (Json.find? · name)).map Json.shallow := by
  induction sources using List.reverseRecOn with
  | nil => rfl
  | append_singleton front last ih =>
    rw [List.dropLast_concat] at h
    have hfront := ih fun source hsource => h source (List.dropLast_subset _ hsource)
    rw [mergedAll_concat, find?_merged last (distinct_mergedAll h).1, shallow_after,
      List.findSome?_append, Option.map_or, Option.map_or, hfront, List.findSome?_singleton]

/-- Where sections are tables, a leaf is what the first source has there, up to what stands in a
table. -/
theorem leaf?_mergedAll (h : ∀ source ∈ sources.dropLast, Distinct source)
    (htable : ∀ value, sources.findSome? (Json.find? · group) = some value → value.isTable = true) :
    (leaf? (mergedAll sources) group leaf).map Json.shallow =
      (sources.findSome? (leaf? · group leaf)).map Json.shallow := by
  induction sources using List.reverseRecOn with
  | nil => rfl
  | append_singleton front last ih =>
    rw [List.dropLast_concat] at h
    have hdropped : ∀ source ∈ front.dropLast, Distinct source :=
      fun source hsource => h source (List.dropLast_subset _ hsource)
    have hfront : ∀ value, front.findSome? (Json.find? · group) = some value →
        value.isTable = true := by
      intro value hvalue
      exact htable value (by rw [List.findSome?_append, hvalue, Option.some_or])
    have hmerged : ∀ value, Json.find? (mergedAll front) group = some value →
        value.isTable = true := by
      intro value hvalue
      have hshallow := find?_mergedAll hdropped group
      rw [hvalue] at hshallow
      obtain ⟨first, hfirst, hsame⟩ := Option.map_eq_some_iff.mp hshallow.symm
      rw [← Json.isTable_shallow, ← hsame, Json.isTable_shallow]
      exact hfront first hfirst
    rw [mergedAll_concat, leaf?_merged (distinct_mergedAll h) hmerged, shallow_after,
      List.findSome?_append, Option.map_or, Option.map_or, ih hdropped hfront,
      List.findSome?_singleton]

/-- The names of merged sources are those of all sources. -/
theorem mem_names_mergedAll (h : ∀ source ∈ sources.dropLast, Distinct source) :
    name ∈ (mergedAll sources).map (·.1) ↔ ∃ source ∈ sources, name ∈ source.map (·.1) := by
  have hshallow := congrArg Option.isSome (find?_mergedAll h name)
  rw [Option.isSome_map, Option.isSome_map] at hshallow
  rw [← not_iff_not, ← Json.find?_eq_none_iff, ← Option.not_isSome_iff_eq_none, hshallow,
    Option.not_isSome_iff_eq_none, List.findSome?_eq_none_iff]
  simp only [Json.find?_eq_none_iff, not_exists, not_and]

end All

end Config

end SettingText
