import SettingText.Datum.Equality
import SettingText.Proofs.Datum.Plain

/-!
Equality of values does not hang on the depth to which they are compared, as long as that is deeper
than both. An object equals itself unless it is a number that is undefined or a map whose keys cannot be
told, and nothing else equals what does not equal itself.
-/

namespace SettingText

section Alike

variable {ε α κ ν : Type}

/-! Work on lists that goes by an equality comes to the same with another one that agrees with it on
what is compared. -/

theorem Entries.contains_congr {same same' : α → α → Except ε Bool} {wanted : α} {kept : List α}
    (h : ∀ a ∈ kept, same a wanted = same' a wanted) :
    contains same wanted kept = contains same' wanted kept := by
  induction kept with
  | nil => rfl
  | cons a rest ih => rw [contains, contains, h a (by simp), ih fun b hb => h b (by simp [hb])]

theorem Entries.findAt_congr {same same' : Bool → κ → κ → Except ε Bool} {wanted : κ}
    {entries : List (κ × ν)} (h : ∀ one, ∀ e ∈ entries, same one e.1 wanted = same' one e.1 wanted)
    (position index : Nat) :
    findAt same position wanted index entries = findAt same' position wanted index entries := by
  induction entries generalizing index with
  | nil => rfl
  | cons e rest ih =>
    rw [findAt, findAt, h _ e (by simp), ih fun one e' he' => h one e' (by simp [he'])]

theorem Entries.find_congr {matching matching' : κ → Except ε Bool} {entries : List (κ × ν)}
    (h : ∀ e ∈ entries, matching e.1 = matching' e.1) :
    find matching entries = find matching' entries := by
  induction entries with
  | nil => rfl
  | cons e rest ih => rw [find, find, h e (by simp), ih fun e' he' => h e' (by simp [he'])]

theorem Entries.put_congr {same same' : κ → κ → Except ε Bool} {key : κ} {table : List (κ × ν)}
    (h : ∀ e ∈ table, same e.1 key = same' e.1 key) (value : ν) :
    put same key value table = put same' key value table := by
  induction table with
  | nil => rfl
  | cons e rest ih => rw [put, put, h e (by simp), ih fun e' he' => h e' (by simp [he'])]

/-- What is put is the new pair, or one that was there, perhaps with the new value. -/
theorem Entries.mem_of_put {same : κ → κ → Except ε Bool} {key : κ} {value : ν}
    {table after : List (κ × ν)} (h : put same key value table = .ok after) {e : κ × ν}
    (he : e ∈ after) : (e.1 = key ∨ ∃ e' ∈ table, e'.1 = e.1) ∧ (e.2 = value ∨ ∃ e' ∈ table, e'.2 = e.2) := by
  induction table generalizing after with
  | nil =>
    cases h
    obtain rfl := List.mem_singleton.mp he
    exact ⟨.inl rfl, .inl rfl⟩
  | cons first rest ih =>
    rw [put] at h
    obtain ⟨found, _, h⟩ := bind_eq_ok_iff.mp h
    cases found with
    | true =>
      cases h
      obtain rfl | he := List.mem_cons.mp he
      · exact ⟨.inr ⟨first, by simp, rfl⟩, .inl rfl⟩
      · exact ⟨.inr ⟨e, by simp [he], rfl⟩, .inr ⟨e, by simp [he], rfl⟩⟩
    | false =>
      obtain ⟨rest', hrest, h⟩ := bind_eq_ok_iff.mp h
      cases h
      obtain rfl | he := List.mem_cons.mp he
      · exact ⟨.inr ⟨_, by simp, rfl⟩, .inr ⟨_, by simp, rfl⟩⟩
      · obtain ⟨hkey, hvalue⟩ := ih hrest he
        refine ⟨hkey.imp_right ?_, hvalue.imp_right ?_⟩
        all_goals
          rintro ⟨e', he', hsame⟩
          exact ⟨e', by simp [he'], hsame⟩

theorem Entries.mem_of_find {matching : κ → Except ε Bool} {entries : List (κ × ν)} {value : ν}
    (h : find matching entries = .ok (some value)) : ∃ key, (key, value) ∈ entries := by
  induction entries with
  | nil => cases h
  | cons e rest ih =>
    rw [find] at h
    obtain ⟨found, _, h⟩ := bind_eq_ok_iff.mp h
    cases found with
    | true =>
      cases h
      exact ⟨e.1, by simp⟩
    | false =>
      obtain ⟨key, hkey⟩ := ih h
      exact ⟨key, by simp [hkey]⟩

theorem Entries.within_congr {sameKey sameKey' : κ → κ → Except ε Bool}
    {sameValue sameValue' : ν → ν → Except ε Bool} {second first : List (κ × ν)}
    (hkey : ∀ e ∈ first, ∀ e' ∈ second, sameKey e'.1 e.1 = sameKey' e'.1 e.1)
    (hvalue : ∀ e ∈ first, ∀ e' ∈ second, sameValue e.2 e'.2 = sameValue' e.2 e'.2) :
    within sameKey sameValue second first = within sameKey' sameValue' second first := by
  induction first with
  | nil => rfl
  | cons e rest ih =>
    have hrest := ih (fun x hx => hkey x (by simp [hx])) fun x hx => hvalue x (by simp [hx])
    have hfind : find (fun k => sameKey k e.1) second = find (fun k => sameKey' k e.1) second :=
      find_congr (hkey e (by simp))
    rw [within, within, hfind, hrest]
    cases hfound : find (fun k => sameKey' k e.1) second with
    | error fault => rfl
    | ok found =>
      cases found with
      | none => rfl
      | some other =>
        obtain ⟨key, hother⟩ := mem_of_find hfound
        change sameValue e.2 other >>= _ = sameValue' e.2 other >>= _
        rw [hvalue e (by simp) _ hother]

end Alike

/-- Gathering from a list comes to the same where the steps do, on all that may have been gathered
before. -/
theorem foldlM_congr_of_invariant {ε α β : Type} {P : β → Prop} {f g : β → α → Except ε β}
    {items : List α} (hstep : ∀ b, P b → ∀ a ∈ items, f b a = g b a)
    (hkeep : ∀ b a b', P b → a ∈ items → f b a = .ok b' → P b') {b : β} (hb : P b) :
    items.foldlM f b = items.foldlM g b := by
  induction items generalizing b with
  | nil => rfl
  | cons a rest ih =>
    rw [List.foldlM_cons, List.foldlM_cons, ← hstep b hb a (by simp)]
    cases hnext : f b a with
    | error fault => rfl
    | ok b' =>
      exact ih (fun c hc x hx => hstep c hc x (by simp [hx]))
        (fun c x c' hc hx => hkeep c x c' hc (by simp [hx])) (hkeep b a b' hb (by simp) hnext)

theorem invariant_of_foldlM {ε α β : Type} {P : β → Prop} {f : β → α → Except ε β} {items : List α}
    (hkeep : ∀ b a b', P b → a ∈ items → f b a = .ok b' → P b') {b c : β} (hb : P b)
    (h : items.foldlM f b = .ok c) : P c := by
  induction items generalizing b with
  | nil =>
    cases h
    exact hb
  | cons a rest ih =>
    rw [List.foldlM_cons] at h
    obtain ⟨b', hnext, h⟩ := bind_eq_ok_iff.mp h
    exact ih (fun c x c' hc hx => hkeep c x c' hc (by simp [hx])) (hkeep b a b' hb (by simp) hnext) h

namespace Datum

section Congruence

variable {same same' : Datum → Datum → Except Cause Bool}

theorem sameItems_congr {as bs : List Datum} (h : ∀ a ∈ as, ∀ b ∈ bs, same a b = same' a b) :
    sameItems same as bs = sameItems same' as bs := by
  induction as generalizing bs with
  | nil => cases bs <;> rfl
  | cons a rest ih =>
    cases bs with
    | nil => rfl
    | cons b others =>
      rw [sameItems, sameItems, h a (by simp) b (by simp),
        ih fun x hx y hy => h x (by simp [hx]) y (by simp [hy])]

theorem sameKey_congr {a b : Datum} (h : same a b = same' a b) : sameKey same a b = sameKey same' a b := by
  rw [sameKey, sameKey, h]

theorem covered_congr {first second : List Datum}
    (h : ∀ a ∈ first, ∀ b ∈ second, same b a = same' b a) :
    covered same second first = covered same' second first := by
  induction first with
  | nil => rfl
  | cons a rest ih =>
    rw [covered, covered, holds, holds, Entries.contains_congr (h a (by simp)),
      ih fun x hx => h x (by simp [hx])]

variable {within within' : Bool → Datum → Datum → Except Cause Bool} {entries : List (Datum × Datum)}

/-- Keys and values of a table are those of the map it is made of. -/
def Within (entries table : List (Datum × Datum)) : Prop :=
  ∀ e ∈ table, (∃ e' ∈ entries, e'.1 = e.1) ∧ ∃ e' ∈ entries, e'.2 = e.2

/-- Put the value found under the key of an entry at a position into a table. -/
def addFound (same : Bool → Datum → Datum → Except Cause Bool) (entries table : List (Datum × Datum))
    (key : Datum) (position : Nat) : Except Cause (List (Datum × Datum)) := do
  match ← Entries.findAt same position key 0 entries with
  | some value =>
    checkHashable key
    Entries.put (sameKey (same false)) key value table
  | none => throw (.missingKey key.shown)

theorem tableOf_eq (same : Bool → Datum → Datum → Except Cause Bool)
    (entries : List (Datum × Datum)) : tableOf same entries =
      entries.zipIdx.foldlM (fun table e => addFound same entries table e.1.1 e.2) [] := rfl

theorem Within.addFound {table table' : List (Datum × Datum)} {e : (Datum × Datum) × Nat}
    (htable : Within entries table) (he : e ∈ entries.zipIdx)
    (h : addFound within entries table e.1.1 e.2 = .ok table') : Within entries table' := by
  obtain ⟨found, hfound, h⟩ := bind_eq_ok_iff.mp h
  cases found with
  | none => cases h
  | some value =>
    obtain ⟨_, _, h⟩ := bind_eq_ok_iff.mp h
    intro e' he'
    obtain ⟨hkey, hvalue⟩ := Entries.mem_of_put h he'
    constructor
    · obtain hkey | ⟨old, hold, hsame⟩ := hkey
      · exact ⟨e.1, List.fst_mem_of_mem_zipIdx he, hkey.symm⟩
      · exact hsame ▸ (htable old hold).1
    · obtain hvalue | ⟨old, hold, hsame⟩ := hvalue
      · obtain ⟨key, hmem⟩ := Entries.mem_of_findAt hfound
        exact ⟨_, hmem, hvalue.symm⟩
      · exact hsame ▸ (htable old hold).2

theorem within_of_tableOf {table : List (Datum × Datum)} (h : tableOf within entries = .ok table) :
    Within entries table := by
  rw [tableOf_eq] at h
  exact invariant_of_foldlM (P := Within entries)
    (fun table e table' htable he hadd => htable.addFound he hadd) (by simp [Within]) h

theorem tableOf_congr (h : ∀ one, ∀ e ∈ entries, ∀ e' ∈ entries,
    within one e.1 e'.1 = within' one e.1 e'.1) : tableOf within entries = tableOf within' entries := by
  rw [tableOf_eq, tableOf_eq]
  refine foldlM_congr_of_invariant (P := Within entries) (fun table htable e he => ?_)
    (fun table e table' htable he hadd => htable.addFound he hadd) (by simp [Within])
  have hmem := List.fst_mem_of_mem_zipIdx he
  have hput (value : Datum) : Entries.put (sameKey (within false)) e.1.1 value table =
      Entries.put (sameKey (within' false)) e.1.1 value table := by
    refine Entries.put_congr (fun x hx => sameKey_congr ?_) value
    obtain ⟨⟨x', hx', hsame⟩, _⟩ := htable x hx
    exact hsame ▸ h false x' hx' e.1 hmem
  unfold Datum.addFound
  rw [Entries.findAt_congr fun one x hx => h one x hx e.1 hmem]
  simp only [hput]

end Congruence

section Equality

variable {within within' : Bool → Datum → Datum → Except Cause Bool} {a b d : Datum} {depth : Nat}

theorem depth_fixedItems_lt {items : List Datum} (h : fixedItems? d = some items) :
    ∀ x ∈ items, x.depth < d.depth := by
  have hparts : ∀ x ∈ items, x ∈ d.plainParts := by
    cases d with
    | entry key value =>
      cases h
      exact fun x hx => hx
    | tuple xs =>
      cases h
      exact fun x hx => hx
    | named c fields =>
      cases h
      exact fun x hx => hx
    | _ => cases h
  exact fun x hx => depth_plainParts_lt (hparts x hx)

theorem depth_setItems_lt {items : List Datum} (h : setItems? d = some items) :
    ∀ x ∈ items, x.depth < d.depth := by
  have hparts : ∀ x ∈ items, x ∈ d.plainParts := by
    cases d with
    | set xs | frozenset xs =>
      cases h
      exact fun x hx => hx
    | _ => cases h
  exact fun x hx => depth_plainParts_lt (hparts x hx)

theorem depth_list_lt {items : List Datum} (h : d ∈ items) : d.depth < (Datum.list items).depth :=
  depth_plainParts_lt h

/-- A map of either kind holds what is less deep. -/
theorem depth_entries_lt {entries : List (Datum × Datum)}
    (h : d = .map entries ∨ ∃ c, d = .dict c entries) :
    ∀ e ∈ entries, e.1.depth < d.depth ∧ e.2.depth < d.depth := by
  intro e he
  have hdepth := depth_le_depthPairs he
  obtain rfl | ⟨c, rfl⟩ := h
  all_goals
    rw [Datum.depth]
    omega

theorem tableOf?_cases {x : Except Cause (List (Datum × Datum))} (h : tableOf? within d = some x) :
    (∃ entries, d = .map entries ∧ x = tableOf within entries) ∨
      ∃ c entries, d = .dict c entries ∧ x = .ok entries := by
  cases d with
  | map entries =>
    cases h
    exact .inl ⟨entries, rfl, rfl⟩
  | dict c entries =>
    cases h
    exact .inr ⟨c, entries, rfl, rfl⟩
  | _ => cases h

theorem tableOf?_congr
    (h : ∀ one x y, x.depth < d.depth → y.depth < d.depth → within one x y = within' one x y) :
    tableOf? within d = tableOf? within' d := by
  cases d with
  | map entries =>
    have hdepth : ∀ e ∈ entries, e.1.depth < (Datum.map entries).depth := fun e he =>
      (depth_entries_lt (.inl rfl) e he).1
    exact congrArg some (tableOf_congr fun one e he e' he' => h one _ _ (hdepth e he) (hdepth e' he'))
  | _ => rfl

theorem depth_table_lt {table : List (Datum × Datum)} (h : tableOf? within d = some (.ok table)) :
    ∀ e ∈ table, e.1.depth < d.depth ∧ e.2.depth < d.depth := by
  intro e he
  obtain ⟨entries, hd, htable⟩ | ⟨c, entries, hd, htable⟩ := tableOf?_cases h
  · obtain ⟨⟨e₁, he₁, hkey⟩, ⟨e₂, he₂, hvalue⟩⟩ := within_of_tableOf htable.symm e he
    exact ⟨hkey ▸ (depth_entries_lt (.inl hd) e₁ he₁).1, hvalue ▸ (depth_entries_lt (.inl hd) e₂ he₂).2⟩
  · cases htable
    exact depth_entries_lt (.inr ⟨c, hd⟩) e he

/-- Equality goes by the equality of what is less deep. -/
theorem equalBy_congr (ha : a.depth ≤ depth) (hb : b.depth ≤ depth)
    (h : ∀ one x y, x.depth < depth → y.depth < depth → within one x y = within' one x y) (one : Bool) :
    equalBy within one a b = equalBy within' one a b := by
  have hsame (x y : Datum) (hx : x.depth < depth) (hy : y.depth < depth) :
      (if one then .ok true else within false x y) = if one then .ok true else within' false x y := by
    rw [h false x y hx hy]
  have htable {d : Datum} (hd : d.depth ≤ depth) : tableOf? within d = tableOf? within' d :=
    tableOf?_congr fun one x y hx hy =>
      h one x y (Nat.lt_of_lt_of_le hx hd) (Nat.lt_of_lt_of_le hy hd)
  unfold equalBy
  rw [htable ha, htable hb]
  dsimp only
  split
  · rfl
  split
  · rfl
  split
  · rfl
  split
  · next x y hx hy =>
    refine sameItems_congr fun d hd e he => hsame d e ?_ ?_
    · exact Nat.lt_of_lt_of_le (depth_fixedItems_lt hx d hd) ha
    · exact Nat.lt_of_lt_of_le (depth_fixedItems_lt hy e he) hb
  split
  · next x y hx hy =>
    refine ite_congr rfl (fun _ => covered_congr fun d hd e he => sameKey_congr (hsame e d ?_ ?_))
      fun _ => rfl
    · exact Nat.lt_of_lt_of_le (depth_setItems_lt hy e he) hb
    · exact Nat.lt_of_lt_of_le (depth_setItems_lt hx d hd) ha
  split
  · next x y hx hy =>
    cases x with
    | error cause => rfl
    | ok first =>
      cases y with
      | error cause => rfl
      | ok second =>
        have hfirst := depth_table_lt hx
        have hsecond := depth_table_lt hy
        refine ite_congr rfl (fun _ => rfl) fun _ => ite_congr rfl (fun _ => ?_) fun _ => rfl
        refine Entries.within_congr (fun e he e' he' => sameKey_congr (h false _ _ ?_ ?_))
          fun e he e' he' => h false _ _ ?_ ?_
        · exact Nat.lt_of_lt_of_le (hsecond e' he').1 hb
        · exact Nat.lt_of_lt_of_le (hfirst e he).1 ha
        · exact Nat.lt_of_lt_of_le (hfirst e he).2 ha
        · exact Nat.lt_of_lt_of_le (hsecond e' he').2 hb
  -- only lists are left that hold parts of their own
  split
  all_goals try rfl
  refine ite_congr rfl (fun _ => sameItems_congr fun d hd e he => hsame d e ?_ ?_) fun _ => rfl
  · exact Nat.lt_of_lt_of_le (depth_list_lt hd) ha
  · exact Nat.lt_of_lt_of_le (depth_list_lt he) hb

/-- How deep values are compared does not matter, as long as it is deeper than both. -/
theorem equalWithin_eq_of_depth_lt {n m : Nat} (hn : max a.depth b.depth < n)
    (hm : max a.depth b.depth < m) (one : Bool) : equalWithin n one a b = equalWithin m one a b := by
  induction n generalizing m a b one with
  | zero => omega
  | succ n ih =>
    cases m with
    | zero => omega
    | succ m =>
      refine equalBy_congr (Nat.le_max_left ..) (Nat.le_max_right ..) (fun one x y hx hy => ?_) one
      exact ih (by omega) (by omega) one

/-! What equals itself. -/

theorem sameItems_self (items : List Datum) : sameItems (fun _ _ => .ok true) items items = .ok true := by
  induction items with
  | nil => rfl
  | cons d rest ih => exact ih

theorem contains_self {same : Datum → Datum → Except Cause Bool} {items : List Datum}
    (hself : same d d = .ok true) (h : ∀ x, ∃ t, same x d = .ok t) (hd : d ∈ items) :
    Entries.contains same d items = .ok true := by
  induction items with
  | nil => simp at hd
  | cons x rest ih =>
    obtain ⟨t, ht⟩ := h x
    rw [Entries.contains, ht]
    cases t with
    | true => rfl
    | false =>
      obtain rfl | hd := List.mem_cons.mp hd
      · cases ht.symm.trans hself
      · exact ih hd

theorem covered_self {items second : List Datum} (h : items ⊆ second) :
    covered (sameKey fun _ _ => .ok true) second items = .ok true := by
  induction items with
  | nil => rfl
  | cons d rest ih =>
    obtain ⟨hd, hrest⟩ := List.cons_subset.mp h
    have hholds : holds (sameKey fun _ _ => .ok true) d second = .ok true := by
      refine contains_self (if_pos rfl) (fun x => ?_) hd
      unfold sameKey
      split <;> exact ⟨_, rfl⟩
    rw [covered, hholds]
    exact ih hrest

/-- A number that is undefined, or a complex one with an undefined part. -/
def IsUndefined (d : Datum) : Prop :=
  (∃ negative signalling payload, realOf? d = some (.nan negative signalling payload)) ∨
    ∃ z, d = .complex z ∧ (z.re = .nan ∨ z.im = .nan)

theorem sameReal_nan (x : Decimal) (negative signalling : Bool) (payload : Nat) :
    sameReal x (.nan negative signalling payload) ≠ .ok true := by
  unfold sameReal
  split
  · simp
  · cases x <;> simp [Decimal.eq]

theorem sameReal_self {x : Decimal} (h : ∀ negative signalling payload,
    x ≠ .nan negative signalling payload) : sameReal x x = .ok true := by
  cases x with
  | nan negative signalling payload => exact absurd rfl (h negative signalling payload)
  | _ => simp [sameReal, Decimal.isSignalling, Decimal.eq]

theorem moment_same_self (m : Calendar.Moment) : m.same m = true := by
  obtain ⟨date, time, zone⟩ := m
  cases zone <;> simp [Calendar.Moment.same, Calendar.Moment.Zone.shared, Calendar.Moment.instant?,
    Calendar.Moment.offset?, Calendar.Moment.Zone.offsetAt, Calendar.Moment.ambiguous]

theorem clock_same_self (c : Calendar.Clock) : c.same c = true := by
  unfold Calendar.Clock.same
  cases c.offset <;> simp

theorem binary64_eq_self_iff (x : Binary64) : x.eq x = true ↔ x ≠ .nan := by
  cases x <;> simp [Binary64.eq]

theorem binary64_eq_nan (x : Binary64) : x.eq .nan = false := by
  cases x <;> rfl

/-- Whatever is no number, no complex number and no map equals itself. -/
theorem equalBy_self_of_other (hreal : realOf? d = none) (hcomplex : ∀ z, d ≠ .complex z)
    (hmap : ∀ entries, d ≠ .map entries) : equalBy within true d d = .ok true := by
  cases d with
  | map entries => exact absurd rfl (hmap entries)
  | complex z => exact absurd rfl (hcomplex z)
  | bool | int | float | decimal | level => cases hreal
  | text s => simp [equalBy, realOf?, textOf?]
  | date x => simp [equalBy, realOf?, textOf?, dateOf?]
  | refined c base =>
    cases base with
    | int | float => cases hreal
    | _ => simp [equalBy, realOf?, textOf?, dateOf?, fixedItems?, setItems?, tableOf?]
  | entry | tuple | named =>
    exact sameItems_self _
  | set items | frozenset items =>
    exact (if_pos rfl).trans (covered_self (List.Subset.refl items))
  | list items => exact (if_pos rfl).trans (sameItems_self items)
  | moment m => exact congrArg Except.ok (moment_same_self m)
  | clock c => exact congrArg Except.ok (clock_same_self c)
  | dict c entries => rfl
  | _ => simp [equalBy, realOf?, textOf?, dateOf?, fixedItems?, setItems?, tableOf?]

theorem not_isUndefined_of_other (hreal : realOf? d = none) (hcomplex : ∀ z, d ≠ .complex z) :
    ¬d.IsUndefined := by
  rintro (⟨negative, signalling, payload, h⟩ | ⟨z, h, _⟩)
  · rw [hreal] at h
    cases h
  · exact hcomplex z h

theorem equalBy_of_realOf? {x y : Decimal} {one : Bool} (ha : realOf? a = some x) (hb : realOf? b = some y) :
    equalBy within one a b = sameReal x y := by
  simp only [equalBy, ha, hb]

/-- What is no map equals itself unless it is a number that is undefined. -/
theorem equalBy_self_iff (hmap : ∀ entries, d ≠ .map entries) :
    equalBy within true d d = .ok true ↔ ¬d.IsUndefined := by
  cases hreal : realOf? d with
  | some x =>
    rw [equalBy_of_realOf? hreal hreal]
    have hundefined : d.IsUndefined ↔ ∃ negative signalling payload,
        x = .nan negative signalling payload := by
      constructor
      · rintro (⟨negative, signalling, payload, h⟩ | ⟨z, rfl, _⟩)
        · rw [hreal] at h
          exact ⟨negative, signalling, payload, Option.some.inj h⟩
        · cases hreal
      · rintro ⟨negative, signalling, payload, rfl⟩
        exact .inl ⟨negative, signalling, payload, hreal⟩
    rw [hundefined]
    constructor
    · rintro h ⟨negative, signalling, payload, rfl⟩
      exact sameReal_nan _ _ _ _ h
    · intro h
      exact sameReal_self fun negative signalling payload hx => h ⟨negative, signalling, payload, hx⟩
  | none =>
    by_cases hcomplex : ∃ z, d = .complex z
    · obtain ⟨z, rfl⟩ := hcomplex
      have hequal : equalBy within true (.complex z) (.complex z) =
          .ok (z.re.eq z.re && z.im.eq z.im) := rfl
      rw [hequal, Except.ok.injEq, Bool.and_eq_true, binary64_eq_self_iff, binary64_eq_self_iff]
      simp [IsUndefined, realOf?]
    · have hother := not_exists.mp hcomplex
      exact iff_of_true (equalBy_self_of_other hreal hother hmap) (not_isUndefined_of_other hreal hother)

/-- What has neither characters nor a date nor parts. -/
structure IsBare (d : Datum) : Prop where
  text : textOf? d = none
  date : dateOf? d = none
  fixed : fixedItems? d = none
  set : setItems? d = none
  table : ∀ within, tableOf? within d = none

theorem isBare_of_realOf? {x : Decimal} (h : realOf? d = some x) : d.IsBare := by
  cases d with
  | bool | int | float | decimal | level => exact ⟨rfl, rfl, rfl, rfl, fun _ => rfl⟩
  | refined c base =>
    cases base with
    | int | float => exact ⟨rfl, rfl, rfl, rfl, fun _ => rfl⟩
    | _ => cases h
  | _ => cases h

/-- Two different objects are equal as numbers, as complex numbers, or as something else. -/
theorem IsBare.of_equalBy (hb : b.IsBare) (h : equalBy within false a b = .ok true) :
    (∃ x y, realOf? a = some x ∧ realOf? b = some y ∧ sameReal x y = .ok true) ∨
      (∃ z w : Complex, b = .complex w ∧ (z.re.eq w.re && z.im.eq w.im) = true) ∨
      realOf? b = none ∧ ∀ z, b ≠ .complex z := by
  unfold equalBy at h
  rw [hb.text, hb.date, hb.fixed, hb.set, hb.table] at h
  simp only [Bool.false_eq_true, if_false] at h
  split at h
  · next x y hx hy => exact .inl ⟨x, y, hx, hy, h⟩
  -- the five ways that go by what a bare value does not have
  iterate 5
    split at h
    · next hy => cases hy
  split at h
  · exact .inr (.inr ⟨rfl, by simp⟩)
  · exact .inr (.inl ⟨_, _, rfl, Except.ok.inj h⟩)
  all_goals first | exact .inr (.inr ⟨rfl, by simp⟩) | cases h

/-- Nothing equals a number that is undefined. -/
theorem not_isUndefined_of_equalBy (h : equalBy within false a b = .ok true) : ¬b.IsUndefined := by
  rintro (⟨negative, signalling, payload, hreal⟩ | ⟨z, rfl, hz⟩)
  · obtain ⟨x, y, _, hy, hsame⟩ | ⟨_, w, rfl, _⟩ | ⟨hnone, _⟩ := (isBare_of_realOf? hreal).of_equalBy h
    · rw [hreal] at hy
      cases hy
      exact sameReal_nan _ _ _ _ hsame
    · cases hreal
    · rw [hreal] at hnone
      cases hnone
  · have hbare : (Datum.complex z).IsBare := ⟨rfl, rfl, rfl, rfl, fun _ => rfl⟩
    obtain ⟨_, _, _, hy, _⟩ | ⟨x, w, hw, hsame⟩ | ⟨_, hne⟩ := hbare.of_equalBy h
    · cases hy
    · cases hw
      rw [Bool.and_eq_true] at hsame
      obtain hz | hz := hz
      · rw [hz] at hsame
        exact Bool.false_ne_true ((binary64_eq_nan x.re).symm.trans hsame.1)
      · rw [hz] at hsame
        exact Bool.false_ne_true ((binary64_eq_nan x.im).symm.trans hsame.2)
    · exact hne z rfl

/-- An object equals itself. -/
def EqualsItself (d : Datum) : Prop := equalObjects true d d = .ok true

theorem equalsItself_iff (hmap : ∀ entries, d ≠ .map entries) : d.EqualsItself ↔ ¬d.IsUndefined :=
  equalBy_self_iff hmap

theorem exists_tableOf_of_equalBy {entries : List (Datum × Datum)}
    (h : equalBy within false a (.map entries) = .ok true) :
    ∃ table, tableOf within entries = .ok table := by
  unfold equalBy at h
  simp only [Bool.false_eq_true, if_false] at h
  -- no other way to be equal is open to a map
  iterate 5
    split at h
    · next hy => cases hy
  split at h
  · next hy =>
    cases hy
    obtain ⟨first, _, h⟩ := bind_eq_ok_iff.mp h
    obtain ⟨second, hsecond, _⟩ := bind_eq_ok_iff.mp h
    exact ⟨second, hsecond⟩
  · cases h

theorem equalsItself_map_iff {entries : List (Datum × Datum)} {n : Nat}
    (hn : (Datum.map entries).depth ≤ n) : (Datum.map entries).EqualsItself ↔
      ∃ table, tableOf (equalWithin n) entries = .ok table := by
  have hkeys : ∀ e ∈ entries, e.1.depth < (Datum.map entries).depth := fun e he =>
    (depth_entries_lt (.inl rfl) e he).1
  -- keys are less deep than the map, so the table is the same at any depth from there on
  have htable : tableOf (equalWithin (max (Datum.map entries).depth (Datum.map entries).depth))
      entries = tableOf (equalWithin n) entries := by
    refine tableOf_congr fun one e he e' he' => ?_
    have hkey := hkeys e he
    have hkey' := hkeys e' he'
    exact equalWithin_eq_of_depth_lt (by omega) (by omega) one
  have hself : equalObjects true (.map entries) (.map entries) =
      (tableOf (equalWithin n) entries >>= fun _ => tableOf (equalWithin n) entries >>= fun _ =>
        .ok true) := by
    rw [← htable]
    rfl
  rw [EqualsItself, hself]
  cases tableOf (equalWithin n) entries with
  | error cause => simp [bind, Except.bind]
  | ok table => exact iff_of_true rfl ⟨table, rfl⟩

/-- What equals something else equals itself. -/
theorem equalsItself_of_equal (h : equal a b = .ok true) : b.EqualsItself := by
  have hby : equalBy (equalWithin (max a.depth b.depth)) false a b = .ok true := h
  by_cases hmap : ∃ entries, b = .map entries
  · obtain ⟨entries, rfl⟩ := hmap
    exact (equalsItself_map_iff (Nat.le_max_right ..)).mpr (exists_tableOf_of_equalBy hby)
  · exact (equalsItself_iff (not_exists.mp hmap)).mpr (not_isUndefined_of_equalBy hby)

end Equality

end Datum

end SettingText
