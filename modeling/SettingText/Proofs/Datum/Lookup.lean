import SettingText.Datum.Map
import SettingText.Proofs.Converter.Entries
import SettingText.Proofs.Datum.Equality

/-!
Looking the keys of a map up while it is gone through. The entry that answers for a key is the first
whose key equals it, which may be the key itself; so a key that does not equal itself is not found.
-/

namespace SettingText

section Lists

theorem exists_append_of_getElem? {α : Type} {items : List α} {i : Nat} {a : α} (h : items[i]? = some a) :
    ∃ before after, items = before ++ a :: after ∧ before.length = i := by
  obtain ⟨hlt, hget⟩ := List.getElem?_eq_some_iff.mp h
  refine ⟨items.take i, items.drop (i + 1), ?_, ?_⟩
  · rw [← hget, List.getElem_cons_drop, List.take_append_drop]
  · rw [List.length_take, Nat.min_eq_left (Nat.le_of_lt hlt)]

variable {ε κ ν : Type} {same : Bool → κ → κ → Except ε Bool} {missing : κ → ε} {position index : Nat}
  {wanted : κ} {entries : List (κ × ν)} {value : ν}

/-- The value found is that of the first entry whose key matches, which the ones before it do not. -/
theorem Entries.findAt_eq_some_iff :
    findAt same position wanted index entries = .ok (some value) ↔
      ∃ before key after, entries = before ++ (key, value) :: after ∧
        same (index + before.length == position) key wanted = .ok true ∧
          ∀ i e, before[i]? = some e → same (index + i == position) e.1 wanted = .ok false := by
  induction entries generalizing index with
  | nil => simp [findAt]
  | cons e rest ih =>
    obtain ⟨key, held⟩ := e
    rw [findAt, bind_eq_ok_iff]
    constructor
    · rintro ⟨found, hfound, h⟩
      cases found with
      | true =>
        cases h
        exact ⟨[], key, rest, rfl, hfound, by simp⟩
      | false =>
        obtain ⟨before, key', after, rfl, hmatch, hbefore⟩ := ih.mp h
        refine ⟨(key, held) :: before, key', after, rfl, ?_, ?_⟩
        · rwa [List.length_cons, ← Nat.add_assoc, Nat.add_right_comm]
        · intro i e he
          cases i with
          | zero =>
            cases he
            exact hfound
          | succ i =>
            rw [← Nat.add_assoc, Nat.add_right_comm]
            exact hbefore i e he
    · rintro ⟨before, key', after, hentries, hmatch, hbefore⟩
      cases before with
      | nil =>
        obtain ⟨hfirst, rfl⟩ := List.cons.inj hentries
        cases hfirst
        exact ⟨true, hmatch, rfl⟩
      | cons first before =>
        obtain ⟨rfl, rfl⟩ := List.cons.inj hentries
        refine ⟨false, hbefore 0 _ rfl, ih.mpr ⟨before, key', after, rfl, ?_, fun i e he => ?_⟩⟩
        · rwa [List.length_cons, ← Nat.add_assoc, Nat.add_right_comm] at hmatch
        · rw [Nat.add_right_comm]
          exact hbefore (i + 1) e he

/-- Where all keys before an entry can be compared, and its own key matches, some value is found. -/
theorem Entries.exists_findAt {before after : List (κ × ν)} {key : κ} {held : ν}
    (hbefore : ∀ i e, before[i]? = some e → ∃ t, same (index + i == position) e.1 wanted = .ok t)
    (hkey : same (index + before.length == position) key wanted = .ok true) :
    ∃ value, findAt same position wanted index (before ++ (key, held) :: after) = .ok (some value) := by
  induction before generalizing index with
  | nil =>
    refine ⟨held, ?_⟩
    rw [List.nil_append, findAt]
    exact bind_eq_ok_iff.mpr ⟨true, hkey, rfl⟩
  | cons e rest ih =>
    obtain ⟨t, ht⟩ := hbefore 0 e rfl
    rw [List.cons_append, findAt]
    cases t with
    | true => exact ⟨e.2, bind_eq_ok_iff.mpr ⟨true, ht, rfl⟩⟩
    | false =>
      have hrest (i : Nat) (e' : κ × ν) (he' : rest[i]? = some e') :
          ∃ t, same (index + 1 + i == position) e'.1 wanted = .ok t := by
        rw [Nat.add_right_comm]
        exact hbefore (i + 1) e' he'
      rw [List.length_cons, ← Nat.add_assoc, Nat.add_right_comm] at hkey
      obtain ⟨value, hvalue⟩ := ih hrest hkey
      exact ⟨value, bind_eq_ok_iff.mpr ⟨false, ht, hvalue⟩⟩

/-- A map is gone through when a value is found under the key of every entry. -/
theorem Entries.exists_items_iff : (∃ found, items same missing entries = .ok found) ↔
    ∀ i key held, entries[i]? = some (key, held) →
      ∃ value, findAt same i key 0 entries = .ok (some value) := by
  unfold items
  rw [exists_mapM_eq_ok_iff]
  constructor
  · intro h i key held hentry
    obtain ⟨pair, hpair⟩ := h ((key, held), i) (List.mem_zipIdx_iff_getElem?.mpr hentry)
    obtain ⟨found, hfound, hpair⟩ := bind_eq_ok_iff.mp hpair
    cases found with
    | none => cases hpair
    | some value => exact ⟨value, hfound⟩
  · rintro h ⟨⟨key, held⟩, i⟩ hmem
    obtain ⟨value, hvalue⟩ := h i key held (List.mem_zipIdx_iff_getElem?.mp hmem)
    exact ⟨(key, value), bind_eq_ok_iff.mpr ⟨some value, hvalue, rfl⟩⟩

end Lists

namespace Datum

variable {entries : List (Datum × Datum)} {position : Nat} {key value held : Datum}

/-- The value of the first entry whose key equals the one at a position, which the keys before it do not
equal. -/
def AnswersAt (entries : List (Datum × Datum)) (position : Nat) (key value : Datum) : Prop :=
  ∃ before k after, entries = before ++ (k, value) :: after ∧
    equalObjects (before.length == position) k key = .ok true ∧
      ∀ i e, before[i]? = some e → equalObjects (i == position) e.1 key = .ok false

theorem findAt_eq_some_iff : Entries.findAt equalObjects position key 0 entries = .ok (some value) ↔
    AnswersAt entries position key value := by
  rw [Entries.findAt_eq_some_iff]
  simp only [Nat.zero_add, AnswersAt]

/-- In a map without equal entries, the key at a position is found exactly when it equals itself. -/
theorem exists_findAt_iff (hdistinct : entries.Pairwise fun a b => equalEntries a b = .ok false)
    (hkey : entries[position]? = some (key, held)) :
    (∃ value, Entries.findAt equalObjects position key 0 entries = .ok (some value)) ↔
      key.EqualsItself := by
  constructor
  · rintro ⟨value, hvalue⟩
    obtain ⟨before, k, after, rfl, hequal, _⟩ := findAt_eq_some_iff.mp hvalue
    -- at its own place the key meets itself, and anywhere else another object
    by_cases hposition : before.length = position
    · subst hposition
      rw [List.getElem?_append_right (Nat.le_refl _), Nat.sub_self] at hkey
      cases hkey
      rwa [beq_self_eq_true] at hequal
    · rw [beq_eq_false_iff_ne.mpr hposition] at hequal
      exact equalsItself_of_equal hequal
  · intro hself
    obtain ⟨before, after, rfl, rfl⟩ := exists_append_of_getElem? hkey
    refine Entries.exists_findAt (fun i e he => ?_) ?_
    · -- entries that differ have been compared, and their keys come first in that
      have hlt := (List.getElem?_eq_some_iff.mp he).1
      have hne : (0 + i == before.length) = false := by
        rw [beq_eq_false_iff_ne]
        omega
      have hdiffer := (List.pairwise_append.mp hdistinct).2.2 e (List.mem_of_getElem? he) (key, held)
        (by simp)
      obtain ⟨t, ht, _⟩ := bind_eq_ok_iff.mp hdiffer
      exact ⟨t, by rw [hne]; exact ht⟩
    · rw [Nat.zero_add, beq_self_eq_true]
      exact hself

/-- Such a map can be gone through exactly when all its keys equal themselves. -/
theorem exists_mapItems_iff (hdistinct : entries.Pairwise fun a b => equalEntries a b = .ok false) :
    (∃ items, mapItems entries = .ok items) ↔ ∀ e ∈ entries, e.1.EqualsItself := by
  unfold mapItems
  rw [Entries.exists_items_iff]
  constructor
  · intro h e he
    obtain ⟨i, hi⟩ := List.mem_iff_getElem?.mp he
    exact (exists_findAt_iff hdistinct hi).mp (h i e.1 e.2 hi)
  · intro h i key held hi
    exact (exists_findAt_iff hdistinct hi).mpr (h _ (List.mem_of_getElem? hi))

/-- If its keys and values have plain forms, so has such a map exactly when all its keys equal
themselves. -/
theorem exists_plain_map_iff (hdistinct : entries.Pairwise fun a b => equalEntries a b = .ok false)
    (hparts : ∀ e ∈ entries, ¬e.1.Unplain ∧ ¬e.2.Unplain) :
    (∃ form, (Datum.map entries).plain = .ok form) ↔ ∀ e ∈ entries, e.1.EqualsItself := by
  rw [exists_plain_iff, ← exists_mapItems_iff hdistinct, unplain_iff]
  constructor
  · intro h
    cases hitems : mapItems entries with
    | ok items => exact ⟨items, rfl⟩
    | error cause => exact absurd (.inr (.inl ⟨entries, cause, rfl, hitems⟩)) h
  · rintro ⟨items, hitems⟩ (⟨cause, h⟩ | ⟨_, cause, h, herror⟩ | ⟨p, hp, hunplain⟩)
    · cases h
    · cases h
      rw [hitems] at herror
      cases herror
    · rw [plainParts, hitems] at hp
      obtain ⟨pair, hpair, hp⟩ := List.mem_flatMap.mp hp
      obtain ⟨⟨v, hkey⟩, ⟨k, hvalue⟩⟩ := Entries.mem_of_items hitems hpair
      obtain rfl | rfl : p = pair.1 ∨ p = pair.2 := by simpa using hp
      · exact (hparts _ hkey).1 hunplain
      · exact (hparts _ hvalue).2 hunplain

end Datum

end SettingText
