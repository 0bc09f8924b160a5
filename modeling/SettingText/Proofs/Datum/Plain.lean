import SettingText.Datum.Plain
import SettingText.Proofs.Except

/-!
Which values have no plain form: those that hold, at any depth, an object every use of which fails,
or a map with a key that is not found again when it is looked up.
-/

namespace SettingText

variable {ε α β : Type}

/-- A chain of steps fails in some way. -/
def Fails (x : Except ε α) : Prop := ∃ e, x = .error e

theorem fails_iff_ne_ok {x : Except ε α} : Fails x ↔ ¬∃ a, x = .ok a := by
  cases x <;> simp [Fails]

theorem fails_map_iff {x : Except ε α} {f : α → β} : Fails (x >>= fun a => pure (f a)) ↔ Fails x := by
  cases x with
  | error e => exact ⟨fun _ => ⟨e, rfl⟩, fun _ => ⟨e, rfl⟩⟩
  | ok a =>
    refine iff_of_false ?_ ?_ <;>
    · rintro ⟨e, h⟩
      cases h

/-- Two steps fail when either does. -/
theorem fails_bind_pure_iff {γ : Type} {x : Except ε α} {y : Except ε β} {f : α → β → γ} :
    Fails (do return f (← x) (← y)) ↔ Fails x ∨ Fails y := by
  cases x with
  | error e => exact ⟨fun _ => .inl ⟨e, rfl⟩, fun _ => ⟨e, rfl⟩⟩
  | ok a =>
    have hx : ¬Fails (.ok a : Except ε α) := by simp [Fails]
    have hbind : Fails (do return f (← .ok a) (← y)) ↔ Fails y := fails_map_iff
    rw [hbind, or_iff_right hx]

/-- Going through a list fails when any step does. -/
theorem fails_mapM_iff {f : α → Except ε β} {items : List α} :
    Fails (items.mapM f) ↔ ∃ a ∈ items, Fails (f a) := by
  rw [fails_iff_ne_ok, exists_mapM_eq_ok_iff]
  simp only [fails_iff_ne_ok, not_forall, exists_prop]

/-- The value found under a key is one of those in the map. -/
theorem Entries.mem_of_findAt {κ ν : Type} {same : Bool → κ → κ → Except ε Bool} {position : Nat}
    {wanted : κ} {index : Nat} {entries : List (κ × ν)} {value : ν}
    (h : findAt same position wanted index entries = .ok (some value)) :
    ∃ key, (key, value) ∈ entries := by
  induction entries generalizing index with
  | nil => cases h
  | cons entry rest ih =>
    rw [findAt] at h
    obtain ⟨found, _, h⟩ := bind_eq_ok_iff.mp h
    cases found with
    | true =>
      cases h
      exact ⟨entry.1, by simp⟩
    | false =>
      obtain ⟨key, hkey⟩ := ih h
      exact ⟨key, by simp [hkey]⟩

/-- The keys and the values a map is gone through with are those of its entries. -/
theorem Entries.mem_of_items {κ ν : Type} {same : Bool → κ → κ → Except ε Bool} {missing : κ → ε}
    {entries items : List (κ × ν)} (h : Entries.items same missing entries = .ok items) {pair : κ × ν}
    (hpair : pair ∈ items) :
    (∃ value, (pair.1, value) ∈ entries) ∧ ∃ key, (key, pair.2) ∈ entries := by
  obtain ⟨⟨entry, position⟩, hentry, hstep⟩ := exists_of_mapM_eq_ok h hpair
  obtain ⟨found, hfound, hstep⟩ := bind_eq_ok_iff.mp hstep
  cases found with
  | none => cases hstep
  | some value =>
    cases hstep
    exact ⟨⟨entry.2, List.fst_mem_of_mem_zipIdx hentry⟩, mem_of_findAt hfound⟩

namespace Datum

/-- The values whose plain forms the plain form of a value is made of. -/
def plainParts : Datum → List Datum
  | member _ _ value => [value]
  | refined _ base => [base]
  | entry key value => [key, value]
  | map entries =>
    match mapItems entries with
    | .ok items => items.flatMap fun (key, value) => [key, value]
    | .error _ => []
  | dict _ entries => entries.flatMap fun (key, value) => [key, value]
  | list items | tuple items | set items | frozenset items => items
  | named _ fields => fields.map (·.2)
  | _ => []

/-- A value without a plain form. -/
inductive Unplain : Datum → Prop
  | broken (cause : Cause) : Unplain (.broken cause)
  | notFound {entries cause} (h : mapItems entries = .error cause) : Unplain (.map entries)
  | part {d p} (hp : p ∈ d.plainParts) (h : Unplain p) : Unplain d

theorem depth_le_depthItems {items : List Datum} {d : Datum} (h : d ∈ items) :
    d.depth ≤ depth.depthItems items := by
  induction items with
  | nil => cases h
  | cons e rest ih =>
    rw [depth.depthItems]
    obtain rfl | h := List.mem_cons.mp h
    · exact Nat.le_max_left ..
    · exact Nat.le_trans (ih h) (Nat.le_max_right ..)

theorem depth_le_depthPairs {entries : List (Datum × Datum)} {pair : Datum × Datum}
    (h : pair ∈ entries) :
    pair.1.depth ≤ depth.depthPairs entries ∧ pair.2.depth ≤ depth.depthPairs entries := by
  induction entries with
  | nil => cases h
  | cons entry rest ih =>
    rw [depth.depthPairs]
    obtain rfl | h := List.mem_cons.mp h
    · omega
    · have := ih h
      omega

theorem depth_le_depthFields {fields : List (String × Datum)} {field : String × Datum}
    (h : field ∈ fields) : field.2.depth ≤ depth.depthFields fields := by
  induction fields with
  | nil => cases h
  | cons entry rest ih =>
    rw [depth.depthFields]
    obtain rfl | h := List.mem_cons.mp h
    · exact Nat.le_max_left ..
    · exact Nat.le_trans (ih h) (Nat.le_max_right ..)

/-- The parts of a value are less deep than the value. -/
theorem depth_plainParts_lt {d p : Datum} (h : p ∈ d.plainParts) : p.depth < d.depth := by
  cases d with
  | member c name value => simp_all [plainParts, depth]
  | refined c base => simp_all [plainParts, depth]
  | entry key value =>
    obtain rfl | rfl : p = key ∨ p = value := by simpa [plainParts] using h
    all_goals
      rw [depth]
      omega
  | map entries =>
    rw [plainParts] at h
    split at h
    · next items hitems =>
      obtain ⟨⟨key, value⟩, hpair, hp⟩ := List.mem_flatMap.mp h
      obtain ⟨⟨_, hkey⟩, ⟨_, hvalue⟩⟩ := Entries.mem_of_items hitems hpair
      have hkeyDepth := (depth_le_depthPairs hkey).1
      have hvalueDepth := (depth_le_depthPairs hvalue).2
      dsimp only at hkeyDepth hvalueDepth
      obtain rfl | rfl : p = key ∨ p = value := by simpa using hp
      all_goals
        rw [depth]
        omega
    · cases h
  | dict c entries =>
    obtain ⟨⟨key, value⟩, hpair, hp⟩ := List.mem_flatMap.mp h
    have hdepth := depth_le_depthPairs hpair
    dsimp only at hdepth
    obtain rfl | rfl : p = key ∨ p = value := by simpa using hp
    all_goals
      rw [depth]
      omega
  | list items | tuple items | set items | frozenset items =>
    rw [depth]
    exact Nat.lt_succ_of_le (depth_le_depthItems h)
  | named c fields =>
    obtain ⟨field, hfield, rfl⟩ := List.mem_map.mp h
    rw [depth]
    exact Nat.lt_succ_of_le (depth_le_depthFields hfield)
  | _ => cases h

/-- The parts of pairs fail when a key or a value does. -/
theorem fails_plainPairs_iff {n : Nat} {pairs : List (Datum × Datum)} :
    Fails (do
      return objectOf (← pairs.mapM fun (key, value) => do
        return (← plainWithin n key, ← plainWithin n value))) ↔
      ∃ p ∈ pairs.flatMap (fun (key, value) => [key, value]), Fails (plainWithin n p) := by
  rw [fails_map_iff, fails_mapM_iff]
  constructor
  · rintro ⟨⟨key, value⟩, hpair, h⟩
    obtain h | h := fails_bind_pure_iff.mp h
    · exact ⟨key, List.mem_flatMap.mpr ⟨_, hpair, by simp⟩, h⟩
    · exact ⟨value, List.mem_flatMap.mpr ⟨_, hpair, by simp⟩, h⟩
  · rintro ⟨p, hp, h⟩
    obtain ⟨⟨key, value⟩, hpair, hp⟩ := List.mem_flatMap.mp hp
    refine ⟨(key, value), hpair, fails_bind_pure_iff.mpr ?_⟩
    obtain rfl | rfl : p = key ∨ p = value := by simpa using hp
    · exact .inl h
    · exact .inr h

/-- A value has no plain form because of itself, or because of a part. -/
theorem fails_plainWithin_succ_iff {n : Nat} {d : Datum} :
    Fails (plainWithin (n + 1) d) ↔ (∃ cause, d = .broken cause) ∨
      (∃ entries cause, d = .map entries ∧ mapItems entries = .error cause) ∨
      ∃ p ∈ d.plainParts, Fails (plainWithin n p) := by
  cases d with
  | broken cause => simp [plainWithin, Fails]
  | member c name value => simp [plainWithin, plainParts]
  | refined c base => simp [plainWithin, plainParts]
  | entry key value =>
    rw [plainWithin]
    refine fails_bind_pure_iff.trans ?_
    simp [plainParts]
  | map entries =>
    rw [plainWithin, plainParts]
    cases h : mapItems entries with
    | error cause =>
      exact ⟨fun _ => .inr (.inl ⟨entries, cause, rfl, h⟩), fun _ => ⟨cause, rfl⟩⟩
    | ok items =>
      refine fails_plainPairs_iff.trans ?_
      simp [h]
  | dict c entries =>
    rw [plainWithin, plainParts]
    simpa using fails_plainPairs_iff
  | list items | tuple items | set items | frozenset items =>
    rw [plainWithin, plainParts, fails_map_iff, fails_mapM_iff]
    simp
  | named c fields =>
    rw [plainWithin, plainParts, fails_map_iff, fails_mapM_iff]
    simp only [reduceCtorEq, exists_false, false_and, false_or, List.mem_map]
    constructor
    · rintro ⟨field, hfield, h⟩
      exact ⟨field.2, ⟨field, hfield, rfl⟩, h⟩
    · rintro ⟨_, ⟨field, hfield, rfl⟩, h⟩
      exact ⟨field, hfield, h⟩
  | _ => simp [plainWithin, plainParts, Fails]

/-- The plain forms of a key and of its value. -/
def plainPair (n : Nat) (pair : Datum × Datum) : Except Cause (Json × Json) := do
  return (← plainWithin n pair.1, ← plainWithin n pair.2)

theorem plainWithin_map (n : Nat) (entries : List (Datum × Datum)) :
    plainWithin (n + 1) (.map entries) =
      mapItems entries >>= fun items => (items.mapM (plainPair n)).map objectOf := by
  rw [plainWithin]
  rfl

theorem plainWithin_dict (n : Nat) (c : ClassRef) (entries : List (Datum × Datum)) :
    plainWithin (n + 1) (.dict c entries) = (entries.mapM (plainPair n)).map objectOf := by
  rw [plainWithin]
  rfl

theorem mapM_plainPair_congr {n m : Nat} {pairs : List (Datum × Datum)}
    (h : ∀ p ∈ pairs.flatMap (fun (key, value) => [key, value]), plainWithin n p = plainWithin m p) :
    pairs.mapM (plainPair n) = pairs.mapM (plainPair m) := by
  refine mapM_congr_of_mem fun pair hpair => ?_
  rw [plainPair, plainPair, h pair.1 (List.mem_flatMap.mpr ⟨pair, hpair, by simp⟩),
    h pair.2 (List.mem_flatMap.mpr ⟨pair, hpair, by simp⟩)]

/-- The plain form of a value goes by the plain forms of its parts. -/
theorem plainWithin_succ_congr {n m : Nat} {d : Datum}
    (h : ∀ p ∈ d.plainParts, plainWithin n p = plainWithin m p) :
    plainWithin (n + 1) d = plainWithin (m + 1) d := by
  cases d with
  | member c name value => exact h value (by simp [plainParts])
  | refined c base => exact h base (by simp [plainParts])
  | entry key value =>
    rw [plainWithin, plainWithin, h key (by simp [plainParts]), h value (by simp [plainParts])]
  | map entries =>
    rw [plainWithin_map, plainWithin_map]
    rw [plainParts] at h
    cases hitems : mapItems entries with
    | error cause => rfl
    | ok items =>
      rw [hitems] at h
      exact congrArg (Except.map objectOf) (mapM_plainPair_congr h)
  | dict c entries => rw [plainWithin_dict, plainWithin_dict, mapM_plainPair_congr h]
  | list items | tuple items | set items | frozenset items =>
    rw [plainWithin, plainWithin]
    exact congrArg (· >>= fun forms => pure (Json.list forms)) (mapM_congr_of_mem h)
  | named c fields =>
    rw [plainWithin, plainWithin]
    have hfields : fields.mapM (fun field => plainWithin n field.2) =
        fields.mapM fun field => plainWithin m field.2 :=
      mapM_congr_of_mem fun field hfield => h field.2 (List.mem_map_of_mem hfield)
    exact congrArg (· >>= fun forms => pure (Json.list forms)) hfields
  | _ => rfl

/-- How deep a plain form is made does not matter, as long as it is deeper than the value. -/
theorem plainWithin_eq_plain {n : Nat} {d : Datum} (hn : d.depth < n) : plainWithin n d = d.plain := by
  suffices hsame : ∀ m, d.depth < m → plainWithin n d = plainWithin m d from
    hsame _ (Nat.lt_succ_self d.depth)
  induction n generalizing d with
  | zero => omega
  | succ n ih =>
    intro m hm
    cases m with
    | zero => omega
    | succ m =>
      refine plainWithin_succ_congr fun p hp => ?_
      have hdepth := depth_plainParts_lt hp
      exact ih (by omega) m (by omega)

theorem unplain_iff {d : Datum} :
    d.Unplain ↔ (∃ cause, d = .broken cause) ∨
      (∃ entries cause, d = .map entries ∧ mapItems entries = .error cause) ∨
      ∃ p ∈ d.plainParts, p.Unplain := by
  constructor
  · rintro (⟨cause⟩ | ⟨h⟩ | ⟨hp, h⟩)
    · exact .inl ⟨cause, rfl⟩
    · exact .inr (.inl ⟨_, _, rfl, h⟩)
    · exact .inr (.inr ⟨_, hp, h⟩)
  · rintro (⟨cause, rfl⟩ | ⟨entries, cause, rfl, h⟩ | ⟨p, hp, h⟩)
    · exact .broken cause
    · exact .notFound h
    · exact .part hp h

theorem fails_plainWithin_iff {n : Nat} {d : Datum} (hn : d.depth < n) :
    Fails (plainWithin n d) ↔ d.Unplain := by
  induction n generalizing d with
  | zero => omega
  | succ n ih =>
    have hpart : ∀ p ∈ d.plainParts, (Fails (plainWithin n p) ↔ p.Unplain) := fun p hp =>
      ih (by have := depth_plainParts_lt hp; omega)
    rw [fails_plainWithin_succ_iff, unplain_iff]
    refine or_congr_right (or_congr_right ?_)
    exact exists_congr fun p => and_congr_right fun hp => hpart p hp

/-- A value has a plain form unless something in it has none. -/
theorem exists_plain_iff {d : Datum} : (∃ plain, d.plain = .ok plain) ↔ ¬d.Unplain := by
  rw [← fails_plainWithin_iff (Nat.lt_succ_self d.depth), fails_iff_ne_ok, not_not]
  rfl

end Datum

end SettingText
