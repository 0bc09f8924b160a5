import SettingText.Proofs.Converter.Entries

/-!
Values that can be put into a set. They can be compared with one another, so a set can always be made of
them.
-/

namespace SettingText.Datum

/-- The value has no parts that matter where it is hashed, and can be hashed. -/
def isAtom : Datum → Bool
  | list _ | set _ | map _ | dict _ _ | broken _ => false
  | entry _ _ | tuple _ | frozenset _ | named _ _ | decimal _ => false
  | _ => true

/-- The value can be put into a set, and so can its parts. -/
inductive Hashable : Datum → Prop
  | atom {d} (h : isAtom d = true) : Hashable d
  | decimal {x} (h : x.isSignalling = false) : Hashable (.decimal x)
  | entry {key value} (hkey : Hashable key) (hvalue : Hashable value) : Hashable (.entry key value)
  | tuple {items} (h : ∀ d ∈ items, Hashable d) : Hashable (.tuple items)
  | frozenset {items} (h : ∀ d ∈ items, Hashable d) : Hashable (.frozenset items)
  | named {c fields} (h : ∀ field ∈ fields, Hashable field.2) : Hashable (.named c fields)

theorem checkItems_eq_ok {items : List Datum} (h : ∀ d ∈ items, checkHashable d = .ok ()) :
    checkHashable.checkItems items = .ok () := by
  induction items with
  | nil => rfl
  | cons d rest ih =>
    rw [checkHashable.checkItems, h d (by simp)]
    exact ih fun e he => h e (by simp [he])

theorem checkFields_eq_ok {fields : List (String × Datum)}
    (h : ∀ field ∈ fields, checkHashable field.2 = .ok ()) :
    checkHashable.checkFields fields = .ok () := by
  induction fields with
  | nil => rfl
  | cons field rest ih =>
    rw [checkHashable.checkFields, h field (by simp)]
    exact ih fun e he => h e (by simp [he])

theorem Hashable.checkHashable {d : Datum} (h : Hashable d) : d.checkHashable = .ok () := by
  induction h with
  | @atom d h => cases d <;> first | rfl | cases h
  | decimal h => simp [Datum.checkHashable, h]
  | entry _ _ ihk ihv =>
    rw [Datum.checkHashable, ihk]
    exact ihv
  | tuple _ ih => exact checkItems_eq_ok ih
  | frozenset => rfl
  | named _ ih => exact checkFields_eq_ok ih

theorem isSignalling_ofBinary64 (x : Binary64) : (Decimal.ofBinary64 x).isSignalling = false := by
  cases x with
  | finite =>
    rw [Decimal.ofBinary64]
    split <;> rfl
  | _ => rfl

variable {a b d : Datum}

theorem Hashable.isSignalling_of_realOf? {x : Decimal} (h : Hashable d) (hx : realOf? d = some x) :
    x.isSignalling = false := by
  cases h with
  | atom h =>
    unfold realOf? at hx
    split at hx <;> cases hx <;> first | rfl | exact isSignalling_ofBinary64 _ | cases h
  | decimal h =>
    cases hx
    exact h
  | _ => cases hx

theorem Hashable.of_fixedItems? {items : List Datum} (h : Hashable d) (hitems : fixedItems? d = some items) :
    ∀ e ∈ items, Hashable e := by
  cases h with
  | atom h => cases d <;> first | (cases hitems; done) | cases h
  | entry hkey hvalue =>
    cases hitems
    simpa using ⟨hkey, hvalue⟩
  | tuple h =>
    cases hitems
    exact h
  | named h =>
    cases hitems
    exact List.forall_mem_map.mpr h
  | _ => cases hitems

theorem Hashable.of_setItems? {items : List Datum} (h : Hashable d) (hitems : setItems? d = some items) :
    ∀ e ∈ items, Hashable e := by
  cases h with
  | atom h => cases d <;> first | (cases hitems; done) | cases h
  | frozenset h =>
    cases hitems
    exact h
  | _ => cases hitems

theorem not_hashable_list (items : List Datum) : ¬Hashable (.list items) := by
  rintro (h | _)
  cases h

/-- Maps of no kind can be hashed. -/
theorem Hashable.tableOf?_eq_none (h : Hashable d) (same : Bool → Datum → Datum → Except Cause Bool) :
    tableOf? same d = none := by
  cases h with
  | atom h => cases d <;> first | rfl | cases h
  | _ => rfl

theorem sameItems_eq_ok {same : Datum → Datum → Except Cause Bool} {as bs : List Datum}
    (h : ∀ a ∈ as, ∀ b ∈ bs, ∃ t, same a b = .ok t) : ∃ t, sameItems same as bs = .ok t := by
  induction as generalizing bs with
  | nil => cases bs <;> exact ⟨_, rfl⟩
  | cons a rest ih =>
    cases bs with
    | nil => exact ⟨_, rfl⟩
    | cons b others =>
      obtain ⟨t, ht⟩ := h a (by simp) b (by simp)
      rw [sameItems, ht]
      cases t with
      | true => exact ih fun x hx y hy => h x (by simp [hx]) y (by simp [hy])
      | false => exact ⟨_, rfl⟩

theorem covered_eq_ok {same : Datum → Datum → Except Cause Bool} {as bs : List Datum}
    (h : ∀ a ∈ as, ∀ b ∈ bs, ∃ t, same b a = .ok t) : ∃ t, covered same bs as = .ok t := by
  induction as with
  | nil => exact ⟨_, rfl⟩
  | cons a rest ih =>
    obtain ⟨t, ht⟩ := Entries.contains_ok fun b hb => h a (by simp) b hb
    rw [covered, holds, ht]
    cases t with
    | true => exact ih fun x hx => h x (by simp [hx])
    | false => exact ⟨_, rfl⟩

theorem sameKey_eq_ok {same : Datum → Datum → Except Cause Bool} (h : ∃ t, same a b = .ok t) :
    ∃ t, sameKey same a b = .ok t := by
  rw [sameKey]
  split
  · exact h
  · exact ⟨_, rfl⟩

/-- Comparing two values that can be hashed does not fail. By induction on the depth to which they are
compared: the parts of a value that can be hashed can be hashed. -/
theorem Hashable.equalWithin_eq_ok (depth : Nat) (ha : Hashable a) (hb : Hashable b) :
    ∃ t, equalWithin depth false a b = .ok t := by
  induction depth generalizing a b with
  | zero => exact ⟨false, rfl⟩
  | succ depth ih =>
    unfold equalWithin equalBy
    simp only [Bool.false_eq_true, if_false]
    split
    · next x y hx hy =>
      rw [sameReal, ha.isSignalling_of_realOf? hx, hb.isSignalling_of_realOf? hy]
      exact ⟨_, rfl⟩
    split
    · exact ⟨_, rfl⟩
    split
    · exact ⟨_, rfl⟩
    split
    · next x y hx hy =>
      exact sameItems_eq_ok fun d hd e he => ih (ha.of_fixedItems? hx d hd) (hb.of_fixedItems? hy e he)
    split
    · next x y hx hy =>
      split
      · exact covered_eq_ok fun d hd e he =>
          sameKey_eq_ok (ih (hb.of_setItems? hy e he) (ha.of_setItems? hx d hd))
      · exact ⟨_, rfl⟩
    rw [ha.tableOf?_eq_none]
    dsimp only
    split <;> first | exact ⟨_, rfl⟩ | exact absurd ha (not_hashable_list _)

theorem Hashable.equal_eq_ok (ha : Hashable a) (hb : Hashable b) : ∃ t, equal a b = .ok t :=
  ha.equalWithin_eq_ok _ hb

private theorem foldlM_addItem_eq_ok {items kept : List Datum} (hkept : ∀ d ∈ kept, Hashable d)
    (h : ∀ d ∈ items, Hashable d) : ∃ distinct, items.foldlM addItem kept = .ok distinct := by
  induction items generalizing kept with
  | nil => exact ⟨kept, rfl⟩
  | cons d rest ih =>
    have hd : Hashable d := h d (by simp)
    have hholds : ∃ t, Entries.contains (sameKey equal) d kept = .ok t :=
      Entries.contains_ok fun e he => sameKey_eq_ok ((hkept e he).equal_eq_ok hd)
    obtain ⟨t, ht⟩ := hholds
    rw [List.foldlM_cons, addItem, hd.checkHashable, holds, ht]
    cases t with
    | true => exact ih hkept fun e he => h e (by simp [he])
    | false =>
      have hkept' : ∀ e ∈ kept ++ [d], Hashable e :=
        List.forall_mem_append.mpr ⟨hkept, by simpa using hd⟩
      exact ih hkept' fun e he => h e (by simp [he])

/-- A set can be made of values that can be hashed. -/
theorem setOf_eq_ok_of_hashable {items : List Datum} (h : ∀ d ∈ items, Hashable d) :
    ∃ distinct, setOf items = .ok distinct :=
  foldlM_addItem_eq_ok (by simp) h

end SettingText.Datum
