import SettingText.Proofs.Datum.Table

/-!
When two maps are equal. Where the keys can be told apart, they are equal exactly when they agree on every
key, whatever the order of their entries and whatever entries come later for a key.
-/

namespace SettingText

section Lists

variable {ε α β κ ν : Type}

/-- Where every element is matched, and no two by the same, there are as many to match them. -/
theorem length_le_of_matched {R : α → β → Prop} {as : List α} {bs : List β}
    (hapart : as.Pairwise fun a a' => ∀ b ∈ bs, R a b → ¬R a' b) (h : ∀ a ∈ as, ∃ b ∈ bs, R a b) :
    as.length ≤ bs.length := by
  induction as generalizing bs with
  | nil => exact Nat.zero_le _
  | cons a rest ih =>
    obtain ⟨hfirst, hrest⟩ := List.pairwise_cons.mp hapart
    obtain ⟨b, hb, hab⟩ := h a (by simp)
    obtain ⟨before, after, rfl⟩ := List.append_of_mem hb
    have hle : rest.length ≤ (before ++ after).length := by
      have hsub := ((List.sublist_cons_self b after).append_left before).subset
      refine ih (hrest.imp fun hapart c hc => hapart c (hsub hc)) fun a' ha' => ?_
      obtain ⟨c, hc, hac⟩ := h a' (by simp [ha'])
      -- what matches the first element matches no other
      have hne : c ≠ b := by
        rintro rfl
        exact hfirst a' ha' c hc hab hac
      exact ⟨c, by simpa [hne] using hc, hac⟩
    rw [List.length_append] at hle
    rw [List.length_cons, List.length_append, List.length_cons]
    omega

/-- Where they are as many, each of those that match is needed. -/
theorem matched_of_length_eq {R : α → β → Prop} {as : List α} {bs : List β}
    (hapart : as.Pairwise fun a a' => ∀ b ∈ bs, R a b → ¬R a' b) (h : ∀ a ∈ as, ∃ b ∈ bs, R a b)
    (hlength : as.length = bs.length) : ∀ b ∈ bs, ∃ a ∈ as, R a b := by
  intro b hb
  by_contra hnone
  obtain ⟨before, after, rfl⟩ := List.append_of_mem hb
  have hle : as.length ≤ (before ++ after).length := by
    have hsub := ((List.sublist_cons_self b after).append_left before).subset
    refine length_le_of_matched (hapart.imp fun hapart c hc => hapart c (hsub hc)) fun a ha => ?_
    obtain ⟨c, hc, hac⟩ := h a ha
    have hne : c ≠ b := by
      rintro rfl
      exact hnone ⟨a, ha, hac⟩
    exact ⟨c, by simpa [hne] using hc, hac⟩
  rw [List.length_append] at hle
  rw [List.length_append, List.length_cons] at hlength
  omega

theorem Entries.within_eq_true_iff {sameKey : κ → κ → Except ε Bool} {sameValue : ν → ν → Except ε Bool}
    {second first : List (κ × ν)} : within sameKey sameValue second first = .ok true ↔
      ∀ e ∈ first, ∃ other, find (fun k => sameKey k e.1) second = .ok (some other) ∧
        sameValue e.2 other = .ok true := by
  induction first with
  | nil => simp [within]
  | cons e rest ih =>
    rw [within, List.forall_mem_cons, ← ih, bind_eq_ok_iff]
    constructor
    · rintro ⟨found, hfound, h⟩
      cases found with
      | none => cases h
      | some other =>
        obtain ⟨t, ht, h⟩ := bind_eq_ok_iff.mp h
        cases t with
        | true => exact ⟨⟨other, hfound, ht⟩, h⟩
        | false => cases h
    · rintro ⟨⟨other, hfound, ht⟩, h⟩
      exact ⟨some other, hfound, bind_eq_ok_iff.mpr ⟨true, ht, h⟩⟩

end Lists

namespace Datum

/-- Two maps have the same keys, and equal values for each: a key of either is found in both. A key is its
map's own, so there it may also be found by being the same object. -/
def AgreeOnKeys (first second : List (Datum × Datum)) : Prop :=
  (∀ i k held, first[i]? = some (k, held) → ∃ a b,
    Entries.findAt equalObjects i k 0 first = .ok (some a) ∧ lookup? second k = .ok (some b) ∧
      equal a b = .ok true) ∧
  ∀ i k held, second[i]? = some (k, held) → ∃ a b,
    lookup? first k = .ok (some a) ∧ Entries.findAt equalObjects i k 0 second = .ok (some b) ∧
      equal a b = .ok true

variable {keys : List Datum} {entries first second : List (Datum × Datum)} {e : Datum × Datum}

/-- Maps are compared by their tables. -/
theorem equal_map (first second : List (Datum × Datum)) : equal (.map first) (.map second) =
    tableOf equalObjects first >>= fun one => tableOf equalObjects second >>= fun other =>
      Entries.sameTable (sameKey equal) equal one other := by
  generalize hn : max (Datum.map first).depth (Datum.map second).depth = n
  have hle : (Datum.map first).depth ≤ n := hn ▸ Nat.le_max_left ..
  have hle' : (Datum.map second).depth ≤ n := hn ▸ Nat.le_max_right ..
  have hby : equal (.map first) (.map second) =
      tableOf (equalWithin n) first >>= fun one => tableOf (equalWithin n) second >>= fun other =>
        Entries.sameTable (sameKey (equalWithin n false)) (equalWithin n false) one other := by
    rw [← hn]
    rfl
  rw [hby,
    ← tableOf_equalWithin fun e he => Nat.lt_of_lt_of_le (depth_entries_lt (.inl rfl) e he).1 hle,
    ← tableOf_equalWithin fun e he => Nat.lt_of_lt_of_le (depth_entries_lt (.inl rfl) e he).1 hle']
  cases hone : tableOf (equalWithin n) first with
  | error cause => rfl
  | ok one =>
    cases hother : tableOf (equalWithin n) second with
    | error cause => rfl
    | ok other =>
      have hsame {x y : Datum} (hx : x.depth < (Datum.map first).depth)
          (hy : y.depth < (Datum.map second).depth) : equalWithin n false x y = equal x y :=
        equalWithin_eq_of_depth_lt (by omega) (by omega) false
      -- what the tables hold is less deep than the maps
      have hdepth := depth_table_lt (d := .map first) (congrArg some hone)
      have hdepth' := depth_table_lt (d := .map second) (congrArg some hother)
      refine ite_congr rfl (fun _ => Entries.within_congr (fun e he e' he' => sameKey_congr ?_)
        fun e he e' he' => hsame (hdepth e he).2 (hdepth' e' he').2) fun _ => rfl
      have := (hdepth e he).1
      have := (hdepth' e' he').1
      exact equalWithin_eq_of_depth_lt (by omega) (by omega) false

section Comparison

variable {one other : List (Datum × Datum)}

/-- Of entries with different keys, no two have a key that equals a third. -/
theorem Orderly.apart (h : Orderly keys) (hone : ∀ e ∈ one, e.1 ∈ keys) (hother : ∀ e ∈ other, e.1 ∈ keys)
    (hdistinct : one.Pairwise fun a b => equal a.1 b.1 = .ok false) :
    one.Pairwise fun a a' => ∀ b ∈ other, equal b.1 a.1 = .ok true → ¬equal b.1 a'.1 = .ok true := by
  refine hdistinct.imp_of_mem fun {a a'} ha ha' hne b hb hba hba' => ?_
  have hab := h.symm _ (hother b hb) _ (hone a ha) hba
  rw [h.trans _ (hone a ha) _ (hother b hb) _ (hone a' ha') hab hba'] at hne
  cases hne

/-- Every key of a table is in another one, with an equal value. -/
theorem Orderly.within_eq_true_iff (h : Orderly keys) (hone : ∀ e ∈ one, e.1 ∈ keys)
    (hother : ∀ e ∈ other, e.1 ∈ keys)
    (hdistinct : other.Pairwise fun a b => equal a.1 b.1 = .ok false) :
    Entries.within (sameKey equal) equal other one = .ok true ↔
      ∀ e ∈ one, ∃ e' ∈ other, equal e'.1 e.1 = .ok true ∧ equal e.2 e'.2 = .ok true := by
  rw [Entries.within_eq_true_iff]
  refine forall₂_congr fun e he => ?_
  have hfind : Entries.find (fun k => sameKey equal k e.1) other =
      Entries.find (fun k => equal k e.1) other :=
    Entries.find_congr fun e' he' => h.sameKey_equal (hother e' he') (hone e he)
  simp only [hfind, h.find_eq_some_iff hother (hone e he), isFirst_iff_mem hdistinct]
  constructor
  · rintro ⟨value, ⟨key, hkey, hsame⟩, hvalue⟩
    exact ⟨(key, value), hkey, hsame, hvalue⟩
  · rintro ⟨e', he', hsame, hvalue⟩
    exact ⟨e'.2, ⟨e'.1, he', hsame⟩, hvalue⟩

/-- Tables are the same exactly when every key of either is in the other, with equal values. That there
are as many keys follows, and makes up for going through one table only. -/
theorem Orderly.sameTable_eq_true_iff (h : Orderly keys) (hone : ∀ e ∈ one, e.1 ∈ keys)
    (hother : ∀ e ∈ other, e.1 ∈ keys)
    (hdistinct : one.Pairwise fun a b => equal a.1 b.1 = .ok false)
    (hdistinct' : other.Pairwise fun a b => equal a.1 b.1 = .ok false) :
    Entries.sameTable (sameKey equal) equal one other = .ok true ↔
      (∀ e ∈ one, ∃ e' ∈ other, equal e'.1 e.1 = .ok true ∧ equal e.2 e'.2 = .ok true) ∧
      ∀ e' ∈ other, ∃ e ∈ one, equal e'.1 e.1 = .ok true := by
  rw [Entries.sameTable, ← h.within_eq_true_iff hone hother hdistinct']
  have hforth (hwithin : Entries.within (sameKey equal) equal other one = .ok true) :
      ∀ e ∈ one, ∃ e' ∈ other, equal e'.1 e.1 = .ok true := by
    intro e he
    obtain ⟨e', he', hsame, _⟩ := (h.within_eq_true_iff hone hother hdistinct').mp hwithin e he
    exact ⟨e', he', hsame⟩
  constructor
  · intro hsame
    split at hsame
    · next hlength =>
      exact ⟨hsame, matched_of_length_eq (h.apart hone hother hdistinct) (hforth hsame) hlength⟩
    · cases hsame
  · rintro ⟨hwithin, hback⟩
    have hle : other.length ≤ one.length := by
      refine length_le_of_matched (h.apart hother hone hdistinct') fun e' he' => ?_
      obtain ⟨e, he, hsame⟩ := hback e' he'
      exact ⟨e, he, h.symm _ (hother e' he') _ (hone e he) hsame⟩
    have hge := length_le_of_matched (h.apart hone hother hdistinct) (hforth hwithin)
    rw [if_pos (Nat.le_antisymm hge hle)]
    exact hwithin

/-- Two maps are equal exactly when the entries that come first for their keys match: for each of one
there is one of the other with an equal key and an equal value. -/
theorem Orderly.equal_map_iff_matched (h : Orderly keys) (hfirst : ∀ e ∈ first, e.1 ∈ keys)
    (hsecond : ∀ e ∈ second, e.1 ∈ keys) : equal (.map first) (.map second) = .ok true ↔
      (∀ e, IsFirst first e → ∃ e', IsFirst second e' ∧ equal e'.1 e.1 = .ok true ∧
        equal e.2 e'.2 = .ok true) ∧
      ∀ e', IsFirst second e' → ∃ e, IsFirst first e ∧ equal e'.1 e.1 = .ok true := by
  obtain ⟨one, hone, hmem, hdistinct⟩ := h.exists_tableOf hfirst
  obtain ⟨other, hother, hmem', hdistinct'⟩ := h.exists_tableOf hsecond
  have hinOne : ∀ e ∈ one, e.1 ∈ keys := fun e he => hfirst e ((hmem e).mp he).mem
  have hinOther : ∀ e ∈ other, e.1 ∈ keys := fun e he => hsecond e ((hmem' e).mp he).mem
  rw [equal_map, hone, hother]
  refine (h.sameTable_eq_true_iff hinOne hinOther hdistinct hdistinct').trans ?_
  simp only [hmem, hmem']

/-- Maps whose first entries match are those that agree on their keys. -/
theorem Orderly.matched_iff_agreeOnKeys (h : Orderly keys) (hfirst : ∀ e ∈ first, e.1 ∈ keys)
    (hsecond : ∀ e ∈ second, e.1 ∈ keys) :
    ((∀ e, IsFirst first e → ∃ e', IsFirst second e' ∧ equal e'.1 e.1 = .ok true ∧
        equal e.2 e'.2 = .ok true) ∧
      ∀ e', IsFirst second e' → ∃ e, IsFirst first e ∧ equal e'.1 e.1 = .ok true) ↔
      AgreeOnKeys first second := by
  constructor
  · rintro ⟨hforth, hback⟩
    refine ⟨fun i k held hentry => ?_, fun i k held hentry => ?_⟩
    · have hk := hfirst _ (List.mem_of_getElem? hentry)
      obtain ⟨e, he, hek, hfound⟩ := h.exists_findAt hfirst hentry
      obtain ⟨e', he', hkey, hvalue⟩ := hforth e he
      refine ⟨e.2, e'.2, hfound, (h.find_eq_some_iff hsecond hk).mpr ⟨e'.1, he', ?_⟩, hvalue⟩
      obtain hek | rfl := hek
      · exact h.trans _ (hsecond e' he'.mem) _ (hfirst e he.mem) k hk hkey hek
      · exact hkey
    · have hk := hsecond _ (List.mem_of_getElem? hentry)
      obtain ⟨e', he', hek, hfound⟩ := h.exists_findAt hsecond hentry
      obtain ⟨e, he, hkey⟩ := hback e' he'
      have hkey' := h.symm _ (hsecond e' he'.mem) _ (hfirst e he.mem) hkey
      -- what matches the entry found in the first map is the one found in the second
      obtain ⟨x, hx, hxe, hvalue⟩ := hforth e he
      obtain rfl := h.isFirst_unique hsecond hx he'
        (h.trans _ (hsecond x hx.mem) _ (hfirst e he.mem) _ (hsecond e' he'.mem) hxe hkey')
      refine ⟨e.2, x.2, (h.find_eq_some_iff hfirst hk).mpr ⟨e.1, he, ?_⟩, hfound, hvalue⟩
      obtain hek | rfl := hek
      · exact h.trans _ (hfirst e he.mem) _ (hsecond x hx.mem) k hk hkey' hek
      · exact hkey'
  · rintro ⟨hforth, hback⟩
    refine ⟨fun e he => ?_, fun e' he' => ?_⟩
    · have hk := hfirst e he.mem
      obtain ⟨before, after, rfl, hbefore⟩ := he
      obtain ⟨a, b, ha, hb, hvalue⟩ := hforth before.length e.1 e.2 (by simp)
      rw [findAt_of_new (h.itself e.1 hk) hbefore] at ha
      cases ha
      obtain ⟨key, hkey, hsame⟩ := (h.find_eq_some_iff hsecond hk).mp hb
      exact ⟨(key, b), hkey, hsame, hvalue⟩
    · have hk := hsecond e' he'.mem
      obtain ⟨before, after, rfl, hbefore⟩ := he'
      obtain ⟨a, b, ha, _, _⟩ := hback before.length e'.1 e'.2 (by simp)
      obtain ⟨key, hkey, hsame⟩ := (h.find_eq_some_iff hfirst hk).mp ha
      exact ⟨(key, a), hkey, h.symm _ (hfirst _ hkey.mem) _ hk hsame⟩

/-- Two maps are equal exactly when they agree on their keys. -/
theorem Orderly.equal_map_iff (h : Orderly keys) (hfirst : ∀ e ∈ first, e.1 ∈ keys)
    (hsecond : ∀ e ∈ second, e.1 ∈ keys) :
    equal (.map first) (.map second) = .ok true ↔ AgreeOnKeys first second :=
  (h.equal_map_iff_matched hfirst hsecond).trans (h.matched_iff_agreeOnKeys hfirst hsecond)

/-- A map equals itself, whatever its values. -/
theorem Orderly.equalsItself_map (h : Orderly keys) (hin : ∀ e ∈ entries, e.1 ∈ keys) :
    (Datum.map entries).EqualsItself := by
  obtain ⟨table, htable, _⟩ := h.exists_tableOf hin
  refine (equalsItself_map_iff (Nat.le_refl _)).mpr ⟨table, ?_⟩
  rw [tableOf_equalWithin fun e he => (depth_entries_lt (.inl rfl) e he).1]
  exact htable

end Comparison

/-- The entries of a map in another order, where no two keys are equal, or without an entry that comes
later for a key that is there already. -/
inductive Rearranged (entries : List (Datum × Datum)) : List (Datum × Datum) → Prop
  | reordered {entries' : List (Datum × Datum)} (hperm : entries'.Perm entries)
      (hdistinct : entries.Pairwise fun a b => equal a.1 b.1 = .ok false) : Rearranged entries entries'
  | shortened {before after : List (Datum × Datum)} {later : Datum × Datum}
      (hentries : entries = before ++ later :: after)
      (hheld : ∃ e ∈ before, equal e.1 later.1 = .ok true) : Rearranged entries (before ++ after)

section Rearranged

variable {entries' : List (Datum × Datum)}

theorem Rearranged.subset (h : Rearranged entries entries') : entries' ⊆ entries := by
  cases h with
  | reordered hperm _ => exact hperm.subset
  | @shortened before after later hentries _ =>
    rw [hentries]
    exact ((List.sublist_cons_self later after).append_left before).subset

theorem Orderly.isFirst_of_perm (h : Orderly keys) (hin : ∀ e ∈ entries, e.1 ∈ keys)
    (hperm : entries'.Perm entries)
    (hdistinct : entries.Pairwise fun a b => equal a.1 b.1 = .ok false) :
    IsFirst entries' e ↔ IsFirst entries e := by
  have hboth : entries.Pairwise fun a b => equal a.1 b.1 = .ok false ∧ equal b.1 a.1 = .ok false :=
    hdistinct.imp_of_mem fun {a b} ha hb hne =>
      ⟨hne, h.equal_eq_false_symm (hin a ha) (hin b hb) hne⟩
  have hdistinct' : entries'.Pairwise fun a b => equal a.1 b.1 = .ok false :=
    ((hperm.pairwise_iff fun {a b} hab => hab.symm).mpr hboth).imp And.left
  rw [isFirst_iff_mem hdistinct, isFirst_iff_mem hdistinct', hperm.mem_iff]

/-- An entry that comes later for its key has no part in what comes first for the others. -/
theorem Orderly.isFirst_of_shortened (h : Orderly keys) {before after : List (Datum × Datum)}
    {later : Datum × Datum} (hin : ∀ e ∈ before ++ later :: after, e.1 ∈ keys)
    (hheld : ∃ e ∈ before, equal e.1 later.1 = .ok true) :
    IsFirst (before ++ after) e ↔ IsFirst (before ++ later :: after) e := by
  obtain ⟨x, hx, hsame⟩ := hheld
  have hx' : x.1 ∈ keys := hin x (by simp [hx])
  have hlater : later.1 ∈ keys := hin later (by simp)
  rw [isFirst_append_iff, isFirst_append_iff, isFirst_cons_iff]
  refine or_congr_right (and_congr_right fun hbefore => ?_)
  constructor
  · intro he
    have he' : e.1 ∈ keys := hin e (by simp [he.mem])
    refine .inr ⟨h.equal_eq_false hlater he' fun hle => ?_, he⟩
    have hne := hbefore x hx
    rw [h.trans _ hx' _ hlater _ he' hsame hle] at hne
    cases hne
  · rintro (rfl | ⟨_, he⟩)
    · rw [hbefore x hx] at hsame
      cases hsame
    · exact he

/-- Neither the order of the entries nor later entries for a key matter to what comes first. -/
theorem Orderly.isFirst_of_rearranged (h : Orderly keys) (hin : ∀ e ∈ entries, e.1 ∈ keys)
    (hrearranged : Rearranged entries entries') : IsFirst entries' e ↔ IsFirst entries e := by
  cases hrearranged with
  | reordered hperm hdistinct => exact h.isFirst_of_perm hin hperm hdistinct
  | shortened hentries hheld =>
    subst hentries
    exact h.isFirst_of_shortened hin hheld

/-- A map with rearranged entries is equal to the same maps. -/
theorem Orderly.equal_map_of_rearranged (h : Orderly keys) (hin : ∀ e ∈ entries, e.1 ∈ keys)
    (hother : ∀ e ∈ first, e.1 ∈ keys) (hrearranged : Rearranged entries entries') :
    (equal (.map entries') (.map first) = .ok true ↔ equal (.map entries) (.map first) = .ok true) ∧
      (equal (.map first) (.map entries') = .ok true ↔ equal (.map first) (.map entries) = .ok true) := by
  have hin' : ∀ e ∈ entries', e.1 ∈ keys := fun e he => hin e (hrearranged.subset he)
  have hfirst (e : Datum × Datum) : IsFirst entries' e ↔ IsFirst entries e :=
    h.isFirst_of_rearranged hin hrearranged
  rw [h.equal_map_iff_matched hin' hother, h.equal_map_iff_matched hin hother,
    h.equal_map_iff_matched hother hin', h.equal_map_iff_matched hother hin]
  simp only [hfirst, and_self]

end Rearranged

end Datum

end SettingText
