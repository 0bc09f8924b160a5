import SettingText.Proofs.Datum.Table

/-!
The plain form of a map from texts. Its members are those of the distinct keys in the order in which they
first occur, each with the plain form of what is found under it.
-/

namespace SettingText

variable {ε : Type}

/-- Where it makes no difference whether keys are the same object, a position makes none either. -/
theorem Entries.findAt_eq_find {κ ν : Type} {same : Bool → κ → κ → Except ε Bool} {wanted : κ}
    {matching : κ → Except ε Bool} {entries : List (κ × ν)} {position index : Nat}
    (h : ∀ one, ∀ e ∈ entries, same one e.1 wanted = matching e.1) :
    findAt same position wanted index entries = find matching entries := by
  induction entries generalizing index with
  | nil => rfl
  | cons e rest ih => rw [findAt, find, h _ e (by simp), ih fun one e' he' => h one e' (by simp [he'])]

theorem eraseDups_append_of_mem {α : Type} [BEq α] [LawfulBEq α] {items : List α} {a : α} (h : a ∈ items) :
    (items ++ [a]).eraseDups = items.eraseDups := by
  rw [List.eraseDups_append]
  simp [List.removeAll, h]

theorem eraseDups_append_of_new {α : Type} [BEq α] [LawfulBEq α] {items : List α} {a : α} (h : a ∉ items) :
    (items ++ [a]).eraseDups = items.eraseDups ++ [a] := by
  rw [List.eraseDups_append]
  simp [List.removeAll, h, List.eraseDups_cons]

namespace Json

variable {members : List (String × Json)} {name : String} {value : Json}

theorem put_of_mem (hmem : (name, value) ∈ members) (honly : ∀ m ∈ members, m.1 = name → m.2 = value) :
    put members name value = members := by
  have hany : members.any (·.1 == name) = true := List.any_eq_true.mpr ⟨_, hmem, beq_self_eq_true name⟩
  rw [put, if_pos hany]
  conv_rhs => rw [← List.map_id members]
  refine List.map_congr_left fun m hm => ?_
  split
  · next hname =>
    have hname := eq_of_beq hname
    rw [id, ← hname, ← honly m hm hname]
  · rfl

theorem put_of_new (hnew : ∀ m ∈ members, m.1 ≠ name) :
    put members name value = members ++ [(name, value)] := by
  have hany : ¬members.any (·.1 == name) = true := by
    rw [List.any_eq_true]
    rintro ⟨m, hm, hname⟩
    exact hnew m hm (eq_of_beq hname)
  rw [put, if_neg hany]

theorem ofPairs_append (pairs : List (String × Json)) (last : String × Json) :
    ofPairs (pairs ++ [last]) = put (ofPairs pairs) last.1 last.2 := by
  rw [ofPairs, List.foldl_append]
  rfl

theorem mem_of_members {form : String → Except ε Json} {names : List String} {m : String × Json}
    (h : (names.mapM fun t => (form t).map (t, ·)) = .ok members) (hm : m ∈ members) :
    m.1 ∈ names ∧ form m.1 = .ok m.2 := by
  obtain ⟨s, hs, hform⟩ := exists_of_mapM_eq_ok h hm
  obtain ⟨j, hj, rfl⟩ := map_eq_ok_iff.mp hform
  exact ⟨hs, hj⟩

/-- Members whose values hang on their names only: putting them in one after the other comes to the
members of the distinct names. -/
theorem ofPairs_mapM (form : String → Except ε Json) (names : List String) :
    (names.mapM fun t => (form t).map (t, ·)).map ofPairs =
      names.eraseDups.mapM fun t => (form t).map (t, ·) := by
  induction names using List.reverseRecOn with
  | nil => rfl
  | append_singleton names t ih =>
    rw [mapM_append_singleton]
    by_cases ht : t ∈ names
    · rw [eraseDups_append_of_mem ht, ← ih]
      cases hnames : names.mapM fun t => (form t).map (t, ·) with
      | error e => rfl
      | ok pairs =>
        rw [hnames] at ih
        obtain ⟨m, hm⟩ := exists_mapM_eq_ok_iff.mp ⟨pairs, hnames⟩ t ht
        obtain ⟨j, hj, rfl⟩ := map_eq_ok_iff.mp hm
        -- the member is there already
        have hput : put (ofPairs pairs) t j = ofPairs pairs := by
          refine put_of_mem (mem_of_mapM_eq_ok ih.symm (List.mem_eraseDups.mpr ht) hm) ?_
          intro held hheld hname
          have hform := (mem_of_members ih.symm hheld).2
          rw [hname, hj] at hform
          exact (Except.ok.inj hform).symm
        rw [hm]
        change Except.ok (ofPairs (pairs ++ [(t, j)])) = _
        rw [ofPairs_append, hput]
        rfl
    · rw [eraseDups_append_of_new ht, mapM_append_singleton, ← ih]
      cases hnames : names.mapM fun t => (form t).map (t, ·) with
      | error e => rfl
      | ok pairs =>
        rw [hnames] at ih
        cases hform : form t with
        | error e => rfl
        | ok j =>
          have hput : put (ofPairs pairs) t j = ofPairs pairs ++ [(t, j)] := by
            refine put_of_new fun m hm hname => ht ?_
            rw [← hname]
            exact List.mem_eraseDups.mp (mem_of_members ih.symm hm).1
          change Except.ok (ofPairs (pairs ++ [(t, j)])) = _
          rw [ofPairs_append, hput]
          rfl

end Json

namespace Datum

/-- Entries whose keys are texts. -/
def keyed (pairs : List (String × Datum)) : List (Datum × Datum) := pairs.map fun p => (.text p.1, p.2)

variable {pairs : List (String × Datum)} {t : String} {v : Datum}

theorem equalObjects_text (one : Bool) (s t : String) :
    equalObjects one (.text s) (.text t) = .ok (s == t) := rfl

theorem equal_text (s t : String) : equal (.text s) (.text t) = .ok (s == t) := rfl

theorem orderly_of_texts {keys : List Datum} (h : ∀ k ∈ keys, ∃ t, k = .text t) : Orderly keys where
  hashable k hk := by
    obtain ⟨t, rfl⟩ := h k hk
    rfl
  compared a ha b hb := by
    obtain ⟨s, rfl⟩ := h a ha
    obtain ⟨t, rfl⟩ := h b hb
    exact ⟨_, equal_text s t⟩
  itself k hk := by
    obtain ⟨t, rfl⟩ := h k hk
    rw [EqualsItself, equalObjects_text, beq_self_eq_true]
  symm a ha b hb hab := by
    obtain ⟨s, rfl⟩ := h a ha
    obtain ⟨t, rfl⟩ := h b hb
    rw [equal_text] at hab ⊢
    rw [BEq.comm, Except.ok.inj hab]
  trans a ha b hb c hc hab hbc := by
    obtain ⟨s, rfl⟩ := h a ha
    obtain ⟨t, rfl⟩ := h b hb
    obtain ⟨u, rfl⟩ := h c hc
    rw [equal_text] at hab hbc ⊢
    rw [eq_of_beq (Except.ok.inj hab), hbc]
  marks a ha b hb _ := by
    obtain ⟨s, rfl⟩ := h a ha
    obtain ⟨t, rfl⟩ := h b hb
    rfl

/-- The first entry of a text answers for it. -/
theorem lookup?_keyed (pairs : List (String × Datum)) (t : String) :
    lookup? (keyed pairs) (.text t) = .ok (pairs.lookup t) := by
  induction pairs with
  | nil => rfl
  | cons pair rest ih =>
    rw [lookup?, keyed, List.map_cons, Entries.find, equal_text, List.lookup_cons, BEq.comm]
    cases t == pair.1 with
    | true => rfl
    | false => exact ih

theorem findAt_keyed (position index : Nat) (pairs : List (String × Datum)) (t : String) :
    Entries.findAt equalObjects position (.text t) index (keyed pairs) = .ok (pairs.lookup t) := by
  rw [← lookup?_keyed]
  refine Entries.findAt_eq_find fun one e he => ?_
  obtain ⟨pair, _, rfl⟩ := List.mem_map.mp he
  rfl

theorem lookup_keyed_eq_ok_iff : lookup (keyed pairs) (.text t) = .ok v ↔ pairs.lookup t = some v := by
  rw [lookup, lookup?_keyed]
  cases pairs.lookup t with
  | none => exact ⟨nofun, nofun⟩
  | some w => exact ⟨fun h => congrArg some (Except.ok.inj h), fun h => congrArg _ (Option.some.inj h)⟩

theorem exists_lookup_keyed (ht : t ∈ pairs.map (·.1)) :
    ∃ v, lookup (keyed pairs) (.text t) = .ok v ∧ (t, v) ∈ pairs := by
  simp only [lookup_keyed_eq_ok_iff]
  induction pairs with
  | nil => simp at ht
  | cons pair rest ih =>
    rw [List.lookup_cons]
    cases hname : t == pair.1 with
    | true =>
      obtain rfl := eq_of_beq hname
      exact ⟨pair.2, rfl, by simp⟩
    | false =>
      have hne : t ≠ pair.1 := ne_of_beq_false hname
      obtain ⟨v, hv, hmem⟩ := ih (by simpa [hne] using ht)
      exact ⟨v, hv, by simp [hmem]⟩

/-- Such a map is gone through with what is found under each key. -/
theorem mapItems_keyed (pairs : List (String × Datum)) : mapItems (keyed pairs) =
    (pairs.map (·.1)).mapM fun t => (lookup (keyed pairs) (.text t)).map (Datum.text t, ·) := by
  have hstep : mapItems (keyed pairs) = (keyed pairs).zipIdx.mapM fun e =>
      ((fun e : Datum × Datum => (lookup (keyed pairs) e.1).map (e.1, ·)) ∘ Prod.fst) e := by
    refine mapM_congr_of_mem fun e he => ?_
    obtain ⟨pair, _, hpair⟩ := List.mem_map.mp (List.fst_mem_of_mem_zipIdx he)
    obtain ⟨⟨key, value⟩, position⟩ := e
    cases hpair
    dsimp only [Function.comp]
    rw [findAt_keyed, lookup, lookup?_keyed]
    cases pairs.lookup pair.1 <;> rfl
  rw [hstep, ← List.mapM_map, List.zipIdx_map_fst, keyed, List.mapM_map, List.mapM_map]
  rfl

theorem exists_mapItems_keyed (pairs : List (String × Datum)) :
    ∃ items, mapItems (keyed pairs) = .ok items := by
  rw [mapItems_keyed]
  refine exists_mapM_eq_ok_iff.mpr fun t ht => ?_
  obtain ⟨v, hv, _⟩ := exists_lookup_keyed ht
  exact ⟨(.text t, v), by rw [hv]; rfl⟩

theorem plainPair_text {n : Nat} (ht : (Datum.text t).depth < n) (hv : v.depth < n) :
    plainPair n (.text t, v) = (v.plain.map (t, ·)).map fun m => (Json.text m.1, m.2) := by
  rw [plainPair, plainWithin_eq_plain ht, plainWithin_eq_plain hv]
  change (plain v >>= fun form => pure (Json.text t, form)) = _
  cases plain v <;> rfl

theorem mapM_plainPair_keyed {n : Nat} {items : List (Datum × Datum)}
    (hn : ∀ e ∈ keyed pairs, e.1.depth < n ∧ e.2.depth < n)
    (hitems : mapItems (keyed pairs) = .ok items) : items.mapM (plainPair n) =
      ((pairs.map (·.1)).mapM fun t => (lookup (keyed pairs) (.text t) >>= plain).map (t, ·)).map
        (List.map fun m => (Json.text m.1, m.2)) := by
  rw [mapItems_keyed] at hitems
  rw [mapM_results hitems, ← mapM_map_results]
  refine mapM_congr_of_mem fun t ht => ?_
  obtain ⟨v, hv, hmem⟩ := exists_lookup_keyed ht
  obtain ⟨hkey, hvalue⟩ := hn (.text t, v) (List.mem_map_of_mem hmem)
  rw [hv]
  exact plainPair_text hkey hvalue

theorem objectOf_texts (members : List (String × Json)) :
    objectOf (members.map fun m => (Json.text m.1, m.2)) = .object (Json.ofPairs members) := by
  rw [objectOf, List.map_map]
  exact congrArg (fun pairs => Json.object (Json.ofPairs pairs)) (List.map_id members)

/-- The plain form of a map from texts: each distinct key, in the order of first occurrence, with the
plain form of what is found under it. -/
theorem plain_keyed (pairs : List (String × Datum)) : (Datum.map (keyed pairs)).plain =
    ((pairs.map (·.1)).eraseDups.mapM fun t =>
      (lookup (keyed pairs) (.text t) >>= plain).map (t, ·)).map .object := by
  obtain ⟨items, hitems⟩ := exists_mapItems_keyed pairs
  have hforms := mapM_plainPair_keyed (depth_entries_lt (d := .map (keyed pairs)) (.inl rfl)) hitems
  rw [plain, plainWithin_map, hitems, ← Json.ofPairs_mapM]
  refine (congrArg (Except.map objectOf) hforms).trans ?_
  cases (pairs.map (·.1)).mapM fun t => (lookup (keyed pairs) (.text t) >>= plain).map (t, ·) with
  | error cause => rfl
  | ok members => exact congrArg Except.ok (objectOf_texts members)

end Datum

end SettingText
