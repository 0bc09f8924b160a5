import Mathlib.Data.List.Induction
import SettingText.Proofs.Datum.Lookup

/-!
Maps as tables. Where the keys can be told apart, the table that a map is compared by holds the entries
that come first for their keys, each once. These are the entries by which keys are found.
-/

namespace SettingText

section Lists

variable {ε κ ν : Type}

/-- A key is found at the first entry whose key matches, which the ones before it do not. -/
theorem Entries.find_eq_some_iff {matching : κ → Except ε Bool} {entries : List (κ × ν)} {value : ν} :
    find matching entries = .ok (some value) ↔ ∃ before key after,
      entries = before ++ (key, value) :: after ∧ matching key = .ok true ∧
        ∀ e ∈ before, matching e.1 = .ok false := by
  induction entries with
  | nil => simp [find]
  | cons e rest ih =>
    obtain ⟨key, held⟩ := e
    rw [find, bind_eq_ok_iff]
    constructor
    · rintro ⟨found, hfound, h⟩
      cases found with
      | true =>
        cases h
        exact ⟨[], key, rest, rfl, hfound, by simp⟩
      | false =>
        obtain ⟨before, key', after, rfl, hmatch, hbefore⟩ := ih.mp h
        exact ⟨(key, held) :: before, key', after, rfl, hmatch,
          List.forall_mem_cons.mpr ⟨hfound, hbefore⟩⟩
    · rintro ⟨before, key', after, hentries, hmatch, hbefore⟩
      cases before with
      | nil =>
        obtain ⟨hfirst, rfl⟩ := List.cons.inj hentries
        cases hfirst
        exact ⟨true, hmatch, rfl⟩
      | cons first before =>
        obtain ⟨rfl, rfl⟩ := List.cons.inj hentries
        obtain ⟨hfirst, hbefore⟩ := List.forall_mem_cons.mp hbefore
        exact ⟨false, hfirst, ih.mpr ⟨before, key', after, rfl, hmatch, hbefore⟩⟩

/-- What is put under a new key comes last. -/
theorem Entries.put_of_new {same : κ → κ → Except ε Bool} {key : κ} {value : ν} {table : List (κ × ν)}
    (h : ∀ e ∈ table, same e.1 key = .ok false) :
    put same key value table = .ok (table ++ [(key, value)]) := by
  induction table with
  | nil => rfl
  | cons e rest ih =>
    obtain ⟨hfirst, hrest⟩ := List.forall_mem_cons.mp h
    rw [put, hfirst]
    change put same key value rest >>= _ = _
    rw [ih hrest]
    rfl

/-- Putting a value where it is already changes nothing. -/
theorem Entries.put_of_held {same : κ → κ → Except ε Bool} {key held : κ} {value : ν}
    {before after : List (κ × ν)} (hbefore : ∀ e ∈ before, same e.1 key = .ok false)
    (hheld : same held key = .ok true) :
    put same key value (before ++ (held, value) :: after) = .ok (before ++ (held, value) :: after) := by
  induction before with
  | nil =>
    rw [List.nil_append, put, hheld]
    rfl
  | cons e rest ih =>
    obtain ⟨hfirst, hrest⟩ := List.forall_mem_cons.mp hbefore
    rw [List.cons_append, put, hfirst]
    change put same key value (rest ++ (held, value) :: after) >>= _ = _
    rw [ih hrest]
    rfl

end Lists

namespace Datum

/-- Keys that a table can go by: they can be hashed and compared, every key equals itself, equality of
different ones is symmetric and transitive, and nothing tells equal ones apart. -/
structure Orderly (keys : List Datum) : Prop where
  hashable : ∀ k ∈ keys, checkHashable k = .ok ()
  compared : ∀ a ∈ keys, ∀ b ∈ keys, ∃ t, equal a b = .ok t
  itself : ∀ k ∈ keys, k.EqualsItself
  symm : ∀ a ∈ keys, ∀ b ∈ keys, equal a b = .ok true → equal b a = .ok true
  trans : ∀ a ∈ keys, ∀ b ∈ keys, ∀ c ∈ keys,
    equal a b = .ok true → equal b c = .ok true → equal a c = .ok true
  marks : ∀ a ∈ keys, ∀ b ∈ keys, equal a b = .ok true → keyMarks a = keyMarks b

/-- An entry that comes first for its key: the key of none before it equals its key. -/
def IsFirst (entries : List (Datum × Datum)) (e : Datum × Datum) : Prop :=
  ∃ before after, entries = before ++ e :: after ∧ ∀ x ∈ before, equal x.1 e.1 = .ok false

variable {keys : List Datum} {entries : List (Datum × Datum)} {k a b v : Datum} {e x y : Datum × Datum}
  {n : Nat}

theorem IsFirst.mem (h : IsFirst entries e) : e ∈ entries := by
  obtain ⟨before, after, rfl, _⟩ := h
  simp

theorem isFirst_append_iff {rest : List (Datum × Datum)} : IsFirst (entries ++ rest) e ↔
    IsFirst entries e ∨ (∀ y ∈ entries, equal y.1 e.1 = .ok false) ∧ IsFirst rest e := by
  constructor
  · rintro ⟨before, after, hentries, hbefore⟩
    obtain ⟨mid, rfl, rfl⟩ | ⟨mid, rfl, hrest⟩ := List.append_eq_append_iff.mp hentries
    · obtain ⟨hentries, hmid⟩ := List.forall_mem_append.mp hbefore
      exact .inr ⟨hentries, mid, after, rfl, hmid⟩
    · cases mid with
      | nil =>
        rw [List.append_nil]
        exact .inr ⟨hbefore, [], after, hrest.symm, by simp⟩
      | cons z mid =>
        obtain ⟨rfl, _⟩ := List.cons.inj hrest
        exact .inl ⟨before, mid, rfl, hbefore⟩
  · rintro (⟨before, after, rfl, hbefore⟩ | ⟨hentries, before, after, rfl, hbefore⟩)
    · exact ⟨before, after ++ rest, by simp, hbefore⟩
    · exact ⟨entries ++ before, after, by simp, List.forall_mem_append.mpr ⟨hentries, hbefore⟩⟩

theorem isFirst_singleton_iff : IsFirst [x] e ↔ e = x :=
  ⟨fun he => List.mem_singleton.mp he.mem, fun he => ⟨[], [], by rw [he]; rfl, by simp⟩⟩

theorem isFirst_cons_iff : IsFirst (x :: entries) e ↔
    e = x ∨ equal x.1 e.1 = .ok false ∧ IsFirst entries e := by
  rw [← List.singleton_append, isFirst_append_iff, isFirst_singleton_iff, List.forall_mem_singleton]

/-- Where no two keys are equal, every entry comes first. -/
theorem isFirst_iff_mem (hdistinct : entries.Pairwise fun a b => equal a.1 b.1 = .ok false) :
    IsFirst entries e ↔ e ∈ entries := by
  refine ⟨IsFirst.mem, fun he => ?_⟩
  obtain ⟨before, after, rfl⟩ := List.append_of_mem he
  exact ⟨before, after, rfl, fun y hy => (List.pairwise_append.mp hdistinct).2.2 y hy e (by simp)⟩

/-- The table of a map: the entries that come first for their keys. -/
structure IsTableOf (entries table : List (Datum × Datum)) : Prop where
  mem_iff : ∀ e, e ∈ table ↔ IsFirst entries e
  distinct : table.Pairwise fun a b => equal a.1 b.1 = .ok false

/-- A key that equals an earlier one is found with the value of the first such entry. -/
theorem findAt_of_earlier {before after : List (Datum × Datum)} (hlate : before.length < n)
    (hkey : equal a k = .ok true) (hbefore : ∀ y ∈ before, equal y.1 k = .ok false) :
    Entries.findAt equalObjects n k 0 (before ++ (a, v) :: after) = .ok (some v) := by
  refine findAt_eq_some_iff.mpr ⟨before, a, after, rfl, ?_, fun i e he => ?_⟩
  · rw [beq_eq_false_iff_ne.mpr (by omega)]
    exact hkey
  · have hlt := (List.getElem?_eq_some_iff.mp he).1
    rw [beq_eq_false_iff_ne.mpr (by omega)]
    exact hbefore e (List.mem_of_getElem? he)

/-- A key that equals none before it is found at its own place. -/
theorem findAt_of_new {before after : List (Datum × Datum)} (hself : k.EqualsItself)
    (hbefore : ∀ y ∈ before, equal y.1 k = .ok false) :
    Entries.findAt equalObjects before.length k 0 (before ++ (k, v) :: after) = .ok (some v) := by
  refine findAt_eq_some_iff.mpr ⟨before, k, after, rfl, ?_, fun i e he => ?_⟩
  · rw [beq_self_eq_true]
    exact hself
  · have hlt := (List.getElem?_eq_some_iff.mp he).1
    rw [beq_eq_false_iff_ne.mpr (by omega)]
    exact hbefore e (List.mem_of_getElem? he)

section Orderly

variable (h : Orderly keys)
include h

theorem Orderly.equal_eq_false (ha : a ∈ keys) (hb : b ∈ keys) (hne : equal a b ≠ .ok true) :
    equal a b = .ok false := by
  obtain ⟨t, ht⟩ := h.compared a ha b hb
  cases t with
  | true => exact absurd ht hne
  | false => exact ht

theorem Orderly.equal_eq_false_symm (ha : a ∈ keys) (hb : b ∈ keys) (hab : equal a b = .ok false) :
    equal b a = .ok false := by
  refine h.equal_eq_false hb ha fun hba => ?_
  rw [h.symm b hb a ha hba] at hab
  cases hab

/-- Such keys are told apart in a table as they are told apart elsewhere. -/
theorem Orderly.sameKey_equal (ha : a ∈ keys) (hb : b ∈ keys) : sameKey equal a b = equal a b := by
  unfold sameKey
  split
  · rfl
  · next hmarks => exact (h.equal_eq_false ha hb fun hab => hmarks (h.marks a ha b hb hab)).symm

variable (hin : ∀ e ∈ entries, e.1 ∈ keys)
include hin

/-- A key that some entry has is answered for by the first such entry, which comes first for its own key
as well. -/
theorem Orderly.exists_isFirst (hk : k ∈ keys) (hx : x ∈ entries) (hxk : equal x.1 k = .ok true) :
    ∃ before e after, entries = before ++ e :: after ∧ equal e.1 k = .ok true ∧
      (∀ y ∈ before, equal y.1 k = .ok false) ∧ ∀ y ∈ before, equal y.1 e.1 = .ok false := by
  classical
  have hsome : (entries.find? fun y => decide (equal y.1 k = .ok true)).isSome :=
    List.find?_isSome.mpr ⟨x, hx, decide_eq_true hxk⟩
  obtain ⟨e, he⟩ := Option.isSome_iff_exists.mp hsome
  obtain ⟨hek, before, after, rfl, hbefore⟩ := List.find?_eq_some_iff_append.mp he
  have hek := of_decide_eq_true hek
  have hne (y : Datum × Datum) (hy : y ∈ before) : equal y.1 k ≠ .ok true := by
    simpa using hbefore y hy
  have hkey (y : Datum × Datum) (hy : y ∈ before) : y.1 ∈ keys := hin y (by simp [hy])
  refine ⟨before, e, after, rfl, hek, fun y hy => h.equal_eq_false (hkey y hy) hk (hne y hy), ?_⟩
  intro y hy
  have he : e.1 ∈ keys := hin e (by simp)
  exact h.equal_eq_false (hkey y hy) he fun hye =>
    hne y hy (h.trans y.1 (hkey y hy) e.1 he k hk hye hek)

/-- At most one entry comes first for a key. -/
theorem Orderly.isFirst_unique (hx : IsFirst entries x) (hy : IsFirst entries y)
    (hxy : equal x.1 y.1 = .ok true) : x = y := by
  have hyx := h.symm x.1 (hin x hx.mem) y.1 (hin y hy.mem) hxy
  obtain ⟨before, after, rfl, hbefore⟩ := hx
  obtain ⟨before', after', hentries, hbefore'⟩ := hy
  -- were one before the other, the other would not come first
  obtain ⟨mid, hmid, hrest⟩ | ⟨mid, hmid, hrest⟩ := List.append_eq_append_iff.mp hentries
  · cases mid with
    | nil => exact (List.cons.inj hrest).1
    | cons z mid =>
      obtain ⟨rfl, _⟩ := List.cons.inj hrest
      rw [hbefore' x (by simp [hmid])] at hxy
      cases hxy
  · cases mid with
    | nil => exact (List.cons.inj hrest).1.symm
    | cons z mid =>
      obtain ⟨rfl, _⟩ := List.cons.inj hrest
      rw [hbefore y (by simp [hmid])] at hyx
      cases hyx

/-- A key is found elsewhere with the value of the entry that comes first for it. -/
theorem Orderly.find_eq_some_iff (hk : k ∈ keys) :
    Entries.find (fun k' => equal k' k) entries = .ok (some v) ↔
      ∃ key, IsFirst entries (key, v) ∧ equal key k = .ok true := by
  rw [Entries.find_eq_some_iff]
  constructor
  · rintro ⟨before, key, after, rfl, hkey, hbefore⟩
    refine ⟨key, ⟨before, after, rfl, fun y hy => ?_⟩, hkey⟩
    have hy' : y.1 ∈ keys := hin y (by simp [hy])
    have hkey' : key ∈ keys := hin (key, v) (by simp)
    refine h.equal_eq_false hy' hkey' fun hyk => ?_
    have hyk' := hbefore y hy
    rw [h.trans y.1 hy' key hkey' k hk hyk hkey] at hyk'
    cases hyk'
  · rintro ⟨key, hfirst, hkey⟩
    obtain ⟨before, e, after, rfl, hek, hbefore, hfirst'⟩ := h.exists_isFirst hin hk hfirst.mem hkey
    have he : e.1 ∈ keys := hin e (by simp)
    have hkey' : key ∈ keys := hin _ hfirst.mem
    have hsame : e = (key, v) := h.isFirst_unique hin ⟨before, after, rfl, hfirst'⟩ hfirst
      (h.trans e.1 he k hk key hkey' hek (h.symm key hkey' k hk hkey))
    exact ⟨before, key, after, by rw [hsame], hkey, hbefore⟩

/-- Going on to the next entry keeps the table of the entries so far: it is put into the table if it comes
first for its key, and otherwise the table holds its key with the value that is found. -/
theorem Orderly.exists_addFound {before after table : List (Datum × Datum)}
    (hentries : entries = before ++ e :: after) (htable : IsTableOf before table) :
    ∃ table', addFound equalObjects entries table e.1 before.length = .ok table' ∧
      IsTableOf (before ++ [e]) table' := by
  obtain ⟨key, value⟩ := e
  subst hentries
  have hkey : key ∈ keys := hin (key, value) (by simp)
  have hbefore : ∀ y ∈ before, y.1 ∈ keys := fun y hy => hin y (by simp [hy])
  have hheld : ∀ y ∈ table, y.1 ∈ keys := fun y hy => hbefore y ((htable.mem_iff y).mp hy).mem
  by_cases hearlier : ∃ y ∈ before, equal y.1 key = .ok true
  · obtain ⟨y, hy, hyk⟩ := hearlier
    obtain ⟨front, ⟨key', found⟩, back, rfl, hfound, hfront, hfirst⟩ :=
      h.exists_isFirst hbefore hkey hy hyk
    refine ⟨table, ?_, ?_, htable.distinct⟩
    · have hlookup : Entries.findAt equalObjects (front ++ (key', found) :: back).length key 0
          ((front ++ (key', found) :: back) ++ (key, value) :: after) = .ok (some found) := by
        rw [List.append_assoc, List.cons_append]
        exact findAt_of_earlier (by simp) hfound hfront
      obtain ⟨ahead, behind, rfl⟩ :=
        List.append_of_mem ((htable.mem_iff (key', found)).mpr ⟨front, back, rfl, hfirst⟩)
      have hput : Entries.put (sameKey equal) key found (ahead ++ (key', found) :: behind) =
          .ok (ahead ++ (key', found) :: behind) := by
        refine Entries.put_of_held (fun z hz => ?_) ?_
        · have hz' := hheld z (by simp [hz])
          have hkey' := hheld (key', found) (by simp)
          rw [h.sameKey_equal hz' hkey]
          refine h.equal_eq_false hz' hkey fun hzk => ?_
          have hne := (List.pairwise_append.mp htable.distinct).2.2 z hz (key', found) (by simp)
          rw [h.trans z.1 hz' key hkey key' hkey' hzk (h.symm key' hkey' key hkey hfound)] at hne
          cases hne
        · rw [h.sameKey_equal (hheld (key', found) (by simp)) hkey]
          exact hfound
      rw [addFound, hlookup]
      change checkHashable key >>= _ = _
      rw [h.hashable key hkey]
      exact hput
    · intro z
      rw [isFirst_append_iff, isFirst_singleton_iff, htable.mem_iff, or_iff_left]
      rintro ⟨hnone, rfl⟩
      rw [hnone y hy] at hyk
      cases hyk
  · have hnone : ∀ y ∈ before, equal y.1 key = .ok false := fun y hy =>
      h.equal_eq_false (hbefore y hy) hkey fun hyk => hearlier ⟨y, hy, hyk⟩
    have hnew : ∀ y ∈ table, equal y.1 key = .ok false := fun y hy =>
      hnone y ((htable.mem_iff y).mp hy).mem
    refine ⟨table ++ [(key, value)], ?_, ?_, ?_⟩
    · have hput : Entries.put (sameKey equal) key value table = .ok (table ++ [(key, value)]) := by
        refine Entries.put_of_new fun y hy => ?_
        rw [h.sameKey_equal (hheld y hy) hkey]
        exact hnew y hy
      rw [addFound, findAt_of_new (h.itself key hkey) hnone]
      change checkHashable key >>= _ = _
      rw [h.hashable key hkey]
      exact hput
    · intro z
      rw [isFirst_append_iff, isFirst_singleton_iff, List.mem_append, htable.mem_iff, List.mem_singleton]
      refine or_congr_right ⟨?_, And.right⟩
      rintro rfl
      exact ⟨hnone, rfl⟩
    · refine List.pairwise_append.mpr ⟨htable.distinct, List.pairwise_singleton _ _, fun y hy z hz => ?_⟩
      rw [List.mem_singleton.mp hz]
      exact hnew y hy

/-- A key of the map's own is found with the value of an entry that comes first, whose key equals it or is
the same. -/
theorem Orderly.exists_findAt {held : Datum} (hentry : entries[n]? = some (k, held)) :
    ∃ e, IsFirst entries e ∧ (equal e.1 k = .ok true ∨ e.1 = k) ∧
      Entries.findAt equalObjects n k 0 entries = .ok (some e.2) := by
  obtain ⟨before, after, rfl, rfl⟩ := exists_append_of_getElem? hentry
  have hk : k ∈ keys := hin (k, held) (by simp)
  have hbefore : ∀ y ∈ before, y.1 ∈ keys := fun y hy => hin y (by simp [hy])
  by_cases hearlier : ∃ y ∈ before, equal y.1 k = .ok true
  · obtain ⟨y, hy, hyk⟩ := hearlier
    obtain ⟨front, e, back, rfl, hek, hfront, hfirst⟩ := h.exists_isFirst hbefore hk hy hyk
    refine ⟨e, ⟨front, back ++ (k, held) :: after, by simp, hfirst⟩, .inl hek, ?_⟩
    rw [List.append_assoc, List.cons_append]
    exact findAt_of_earlier (by simp) hek hfront
  · have hnone : ∀ y ∈ before, equal y.1 k = .ok false := fun y hy =>
      h.equal_eq_false (hbefore y hy) hk fun hyk => hearlier ⟨y, hy, hyk⟩
    exact ⟨(k, held), ⟨before, after, rfl, hnone⟩, .inr rfl, findAt_of_new (h.itself k hk) hnone⟩

/-- The table of such a map can be made. By induction on the entries that are gone through. -/
theorem Orderly.exists_tableOf : ∃ table, tableOf equalObjects entries = .ok table ∧
    IsTableOf entries table := by
  rw [tableOf_eq]
  suffices hrun : ∀ before after, entries = before ++ after → ∃ table,
      before.zipIdx.foldlM (fun table e => addFound equalObjects entries table e.1.1 e.2) [] =
        .ok table ∧ IsTableOf before table from hrun entries [] (by simp)
  intro before
  induction before using List.reverseRecOn with
  | nil =>
    intro after _
    exact ⟨[], rfl, by simp [IsFirst], .nil⟩
  | append_singleton before e ih =>
    intro after hentries
    rw [List.append_assoc, List.singleton_append] at hentries
    obtain ⟨table, hfold, htable⟩ := ih (e :: after) hentries
    obtain ⟨table', hadd, htable'⟩ := h.exists_addFound hin hentries htable
    refine ⟨table', ?_, htable'⟩
    rw [List.zipIdx_append, List.foldlM_append, hfold, Nat.zero_add]
    exact bind_eq_ok_iff.mpr ⟨table, rfl, bind_eq_ok_iff.mpr ⟨table', hadd, rfl⟩⟩

end Orderly

theorem tableOf_equalWithin (hdepth : ∀ e ∈ entries, e.1.depth < n) :
    tableOf (equalWithin n) entries = tableOf equalObjects entries := by
  refine tableOf_congr fun one e he e' he' => ?_
  have hkey := hdepth e he
  have hkey' := hdepth e' he'
  exact equalWithin_eq_of_depth_lt (by omega) (by omega) one

end Datum

end SettingText
