import SettingText.Proofs.Converter.Entries
import SettingText.Proofs.Converter.Own
import SettingText.Proofs.Meaning.Kind

/-!
Where a conversion meets an error that is none of a conversion: only at an item that a set cannot
hold, or at the entries of a map that cannot be compared, and only when everything before it converts.
-/

namespace SettingText.Converter

/-- A set takes the next fragment in. -/
def takeIn (u : Universe) (inner : Converter) (s : Setting) (items : List Datum) (text : String) :
    Except Fault (List Datum) := do
  (Datum.addItem items (← inner.outcome u (some (s.child (some text))))).mapError .stray

/-- The items of a setting clash, for the cause told: somewhere within it a set meets an item that it
cannot hold, or a map entries that cannot be compared, and all that is converted before converts. -/
inductive Clash (u : Universe) : Converter → Setting → Cause → Prop
  | optional {base s raw cause} (hs : s.raw = some raw) (h : Clash u base s cause) :
      Clash u (.optional base) s cause
  | array {element sequence s cause} (h : Clash u sequence s cause) :
      Clash u (.array element sequence) s cause
  | map {entries s cause} (h : Clash u entries s cause) : Clash u (.map entries) s cause
  | key {key value s raw cause} (hs : s.raw = some raw)
      (h : Clash u key (s.child (some (entryTexts raw).1)) cause) : Clash u (.entry key value) s cause
  | value {key value s raw k cause} (hs : s.raw = some raw)
      (hk : key.outcome u (some (s.child (some (entryTexts raw).1))) = .ok k)
      (h : Clash u value (s.child (entryTexts raw).2) cause) : Clash u (.entry key value) s cause
  | item {first inner finish s raw before text after cause} (hs : s.raw = some raw)
      (hsplit : itemTexts raw = before ++ text :: after)
      (hbefore : ∀ t ∈ before, ∃ d, inner.outcome u (some (s.child (some t))) = .ok d)
      (h : Clash u inner (s.child (some text)) cause) :
      Clash u (.collection (.sequence first) inner finish) s cause
  | setItem {inner finish s raw before text after items cause} (hs : s.raw = some raw)
      (hsplit : itemTexts raw = before ++ text :: after)
      (hbefore : before.foldlM (takeIn u inner s) [] = .ok items)
      (h : Clash u inner (s.child (some text)) cause) : Clash u (.collection .set inner finish) s cause
  /-- A set meets an item that it cannot hold. -/
  | unfit {inner finish s raw before text after items d cause} (hs : s.raw = some raw)
      (hsplit : itemTexts raw = before ++ text :: after)
      (hbefore : before.foldlM (takeIn u inner s) [] = .ok items)
      (hd : inner.outcome u (some (s.child (some text))) = .ok d)
      (h : Datum.addItem items d = .error cause) : Clash u (.collection .set inner finish) s cause
  /-- The entries of a map are all there, and cannot be compared. -/
  | incomparable {inner s raw items cause} (hs : s.raw = some raw)
      (hitems : ((itemTexts raw).mapM fun text => inner.outcome u (some (s.child (some text)))) =
        .ok items)
      (h : Datum.canonicalEntries items = .error cause) :
      Clash u (.collection (.sequence fun _ => []) inner .entries) s cause

variable {u : Universe} {s : Setting} {raw : String} {inner : Converter} {finish : Finish}

/-- A fragment is not taken in when it does not convert, or when the set cannot hold what it
becomes. -/
theorem takeIn_eq_error_iff {items : List Datum} {text : String} {fault : Fault} :
    takeIn u inner s items text = .error fault ↔
      inner.outcome u (some (s.child (some text))) = .error fault ∨
        ∃ d cause, inner.outcome u (some (s.child (some text))) = .ok d ∧
          Datum.addItem items d = .error cause ∧ .stray cause = fault := by
  rw [takeIn, bind_eq_error_iff]
  simp only [mapError_eq_error_iff, exists_and_left]

theorem outcome_set_takeIn (hp : inner.IsPure) (hs : s.raw = some raw) :
    outcome u (.collection .set inner finish) (some s) = (do
      let items ← (itemTexts raw).foldlM (takeIn u inner s) []
      (finish.apply true items).mapError .stray) :=
  outcome_set hp finish hs

/-- A set fails at the first fragment that it does not take in. -/
theorem outcome_set_of_error (hp : inner.IsPure) (hs : s.raw = some raw) {before after : List String}
    {text : String} {items : List Datum} {fault : Fault}
    (hsplit : itemTexts raw = before ++ text :: after)
    (hbefore : before.foldlM (takeIn u inner s) [] = .ok items)
    (hfault : takeIn u inner s items text = .error fault) :
    outcome u (.collection .set inner finish) (some s) = .error fault := by
  rw [outcome_set_takeIn hp hs,
    foldlM_eq_error_iff.mpr ⟨before, text, after, items, hsplit, hbefore, hfault⟩]
  rfl

/-- A clash is an error that is none of a conversion. -/
theorem Clash.outcome {c : Converter} {cause : Cause} (h : Clash u c s cause) (hp : c.IsPure) :
    c.outcome u (some s) = .error (.stray cause) := by
  induction h with
  | optional hs h ih => rw [outcome_optional _ hs, ih hp]
  | array h ih =>
    rw [outcome_array (isPure_array.mp hp), ih hp]
    rfl
  | map h ih =>
    rw [outcome_map (isPure_map.mp hp), ih hp]
    rfl
  | key hs h ih =>
    rw [outcome_entry hp.1 hp.2 hs, ih hp.1]
    rfl
  | value hs hk h ih =>
    rw [outcome_entry hp.1 hp.2 hs, hk, ih hp.2]
    rfl
  | item hs hsplit hbefore h ih =>
    rw [outcome_sequence (isPure_collection.mp hp) _ _ hs,
      mapM_eq_error_iff.mpr ⟨_, _, _, hsplit, hbefore, ih hp⟩]
    rfl
  | setItem hs hsplit hbefore h ih =>
    exact outcome_set_of_error (isPure_collection.mp hp) hs hsplit hbefore
      (takeIn_eq_error_iff.mpr (.inl (ih hp)))
  | unfit hs hsplit hbefore hd h =>
    exact outcome_set_of_error (isPure_collection.mp hp) hs hsplit hbefore
      (takeIn_eq_error_iff.mpr (.inr ⟨_, _, hd, h, rfl⟩))
  | incomparable hs hitems h =>
    rw [outcome_sequence (isPure_collection.mp hp) _ _ hs, hitems]
    change (Finish.apply .entries false _).mapError Fault.stray = _
    rw [Finish.apply, List.nil_append, h]
    rfl

/-- A fault is a malformed text, or a clash in the setting that was converted. -/
def Explained (u : Universe) (c : Converter) (value : Option Setting) (fault : Fault) : Prop :=
  fault.isMalformed = true ∨ ∃ s cause, value = some s ∧ fault = .stray cause ∧ Clash u c s cause

variable {c c' : Converter} {fault : Fault}

/-- What explains a fault of a part explains it as a fault of the whole. -/
theorem Explained.lift {s s' : Setting} (h : Explained u c (some s) fault)
    (hclash : ∀ cause, Clash u c s cause → Clash u c' s' cause) : Explained u c' (some s') fault := by
  obtain h | ⟨_, cause, hs, rfl, h⟩ := h
  · exact .inl h
  · cases hs
    exact .inr ⟨s', cause, rfl, rfl, hclash cause h⟩

/-- How the collections of the program are gathered and finished. -/
theorem containers_cases {c : ClassRef} {container : Container}
    (h : (c, container, finish) ∈ Recipe.containers) :
    (container = .sequence (fun _ => []) ∧ (finish = .asIs ∨ finish = .tuple)) ∨
      (container = .set ∧ (finish = .asIs ∨ finish = .frozenset)) := by
  have hcases := Recipe.containers_cases h
  exact hcases.imp (.imp_right (.imp And.right And.right)) (.imp_right (.imp And.right And.right))

/-- Every fault of the converter is explained. -/
def Explains (u : Universe) (c : Converter) : Prop :=
  ∀ value fault, c.outcome u value = .error fault → Explained u c value fault

theorem explained_sequence (hp : inner.IsPure) (ih : Explains u inner)
    (hfinish : finish = .asIs ∨ finish = .tuple ∨ finish = .entries) (hs : s.raw = some raw)
    (h : outcome u (.collection (.sequence fun _ => []) inner finish) (some s) = .error fault) :
    Explained u (.collection (.sequence fun _ => []) inner finish) (some s) fault := by
  rw [outcome_sequence hp _ _ hs] at h
  obtain h | ⟨items, hitems, h⟩ := bind_eq_error_iff.mp h
  · obtain ⟨before, text, after, hsplit, hbefore, h⟩ := mapM_eq_error_iff.mp h
    exact (ih _ _ h).lift fun cause hclash => .item hs hsplit hbefore hclash
  · obtain ⟨cause, hcause, rfl⟩ := mapError_eq_error_iff.mp h
    obtain rfl | rfl | rfl := hfinish
    · cases hcause
    · cases hcause
    · obtain hcause | ⟨kept, _, hcause⟩ := bind_eq_error_iff.mp hcause
      · exact .inr ⟨s, cause, rfl, rfl, .incomparable hs hitems hcause⟩
      · cases hcause

theorem explained_set (hp : inner.IsPure) (ih : Explains u inner)
    (hfinish : finish = .asIs ∨ finish = .frozenset) (hs : s.raw = some raw)
    (h : outcome u (.collection .set inner finish) (some s) = .error fault) :
    Explained u (.collection .set inner finish) (some s) fault := by
  rw [outcome_set_takeIn hp hs] at h
  obtain h | ⟨items, _, h⟩ := bind_eq_error_iff.mp h
  · obtain ⟨before, text, after, items, hsplit, hbefore, h⟩ := foldlM_eq_error_iff.mp h
    obtain h | ⟨d, cause, hd, hcause, rfl⟩ := takeIn_eq_error_iff.mp h
    · exact (ih _ _ h).lift fun cause hclash => .setItem hs hsplit hbefore hclash
    · exact .inr ⟨s, cause, rfl, rfl, .unfit hs hsplit hbefore hd hcause⟩
  · obtain rfl | rfl := hfinish <;> cases h

theorem explained_entry {key value : Converter} (hp : (entry key value).IsPure)
    (ihk : Explains u key) (ihv : Explains u value) (hs : s.raw = some raw)
    (h : outcome u (.entry key value) (some s) = .error fault) :
    Explained u (.entry key value) (some s) fault := by
  rw [outcome_entry hp.1 hp.2 hs] at h
  obtain h | ⟨k, hk, h⟩ := bind_eq_error_iff.mp h
  · exact (ihk _ _ h).lift fun cause hclash => .key hs hclash
  · obtain h | ⟨_, _, h⟩ := bind_eq_error_iff.mp h
    · exact (ihv _ _ h).lift fun cause hclash => .value hs hk hclash
    · cases h

/-- The entries that a map is made of are found again in the tuple that gathers them. -/
theorem mapOfItems_of_gathersEntries (hc : c.GathersEntries) (hp : c.IsPure)
    {value : Option Setting} {d : Datum} (h : c.outcome u value = .ok d) :
    ∃ m, (mapOfItems d).result = .ok m := by
  cases c with
  | collection container inner finish =>
    obtain ⟨rfl, rfl, hentry⟩ := hc
    cases hv : present? value with
    | none =>
      rw [outcome_collection_absent _ _ _ hv] at h
      cases h
      exact ⟨.nothing, rfl⟩
    | some found =>
      obtain ⟨rfl, hs⟩ := present?_eq_some.mp hv
      rw [outcome_sequence (isPure_collection.mp hp) _ _ hs] at h
      obtain ⟨items, hitems, h⟩ := bind_eq_ok_iff.mp h
      have h := mapError_eq_ok_iff.mp h
      obtain ⟨kept, hkept, h⟩ := bind_eq_ok_iff.mp h
      cases h
      cases inner with
      | entry key item =>
        obtain ⟨pairs, rfl⟩ := exists_pairs hp.1 hp.2 hitems
        exact ⟨_, result_mapOfItems_tuple (Datum.canonicalEntries_of_canonicalEntries hkept)⟩
      | _ => exact hentry.elim
  | _ => exact hc.elim

theorem tupleOfItems_of_gathersList (hc : c.GathersList) (hp : c.IsPure)
    {value : Option Setting} {d : Datum} (h : c.outcome u value = .ok d) :
    ∃ t, (tupleOfItems d).result = .ok t := by
  cases c with
  | collection container inner finish =>
    obtain ⟨rfl, rfl⟩ := hc
    cases hv : present? value with
    | none =>
      rw [outcome_collection_absent _ _ _ hv] at h
      cases h
      exact ⟨.nothing, rfl⟩
    | some found =>
      obtain ⟨rfl, hs⟩ := present?_eq_some.mp hv
      rw [outcome_sequence (isPure_collection.mp hp) _ _ hs] at h
      obtain ⟨items, _, h⟩ := bind_eq_ok_iff.mp h
      cases h
      exact ⟨.tuple items, rfl⟩
  | _ => exact hc.elim

/-- A converter of the kinds that come with the program fails in no other way. By induction on the
converter. -/
theorem Own.explains (h : c.Own) (hm : c.MakesByParsing) : Explains u c := by
  induction c with
  | collection container inner finish ih =>
    intro value fault hf
    obtain ⟨hinner, hshape⟩ := h
    cases hv : present? value with
    | none =>
      rw [outcome_collection_absent _ _ _ hv] at hf
      cases hf
    | some found =>
      obtain ⟨rfl, hs⟩ := present?_eq_some.mp hv
      obtain ⟨c, hc⟩ | ⟨rfl, rfl, _⟩ := hshape
      · obtain ⟨rfl, hfinish⟩ | ⟨rfl, hfinish⟩ := containers_cases hc
        · exact explained_sequence hinner.isPure (ih hinner hm)
            (hfinish.elim .inl fun htuple => .inr (.inl htuple)) hs hf
        · exact explained_set hinner.isPure (ih hinner hm) hfinish hs hf
      · exact explained_sequence hinner.isPure (ih hinner hm) (.inr (.inr rfl)) hs hf
  | entry key value ihk ihv =>
    intro whole fault hf
    cases hv : present? whole with
    | none =>
      rw [outcome_entry_absent _ _ hv] at hf
      cases hf
    | some found =>
      obtain ⟨rfl, hs⟩ := present?_eq_some.mp hv
      exact explained_entry (Own.isPure (c := .entry key value) h) (ihk h.1 hm.1) (ihv h.2 hm.2) hs hf
  | map entries ih =>
    intro value fault hf
    rw [outcome_map h.1.isPure] at hf
    obtain hf | ⟨d, hd, hf⟩ := bind_eq_error_iff.mp hf
    · obtain hf | ⟨s, cause, rfl, rfl, hclash⟩ := ih h.1 hm _ _ hf
      · exact .inl hf
      · exact .inr ⟨s, cause, rfl, rfl, .map hclash⟩
    · obtain ⟨m, hm⟩ := mapOfItems_of_gathersEntries h.2 h.1.isPure hd
      rw [hm] at hf
      cases hf
  | optional base ih =>
    intro value fault hf
    cases hv : present? value with
    | none =>
      rw [outcome_optional_absent _ hv] at hf
      cases hf
    | some found =>
      obtain ⟨rfl, hs⟩ := present?_eq_some.mp hv
      rw [outcome_optional _ hs] at hf
      exact (ih h hm _ _ hf).lift fun cause hclash => .optional hs hclash
  | array element sequence ih =>
    intro value fault hf
    rw [outcome_array h.1.isPure] at hf
    obtain hf | ⟨d, hd, hf⟩ := bind_eq_error_iff.mp hf
    · obtain hf | ⟨s, cause, rfl, rfl, hclash⟩ := ih h.1 hm _ _ hf
      · exact .inl hf
      · exact .inr ⟨s, cause, rfl, rfl, .array hclash⟩
    · obtain ⟨t, ht⟩ := tupleOfItems_of_gathersList h.2 h.1.isPure hd
      rw [ht] at hf
      cases hf
  | missing | unparsed | function => exact h.elim
  | _ => exact fun value fault hf => .inl (h.isMalformed hm trivial hf)

/-- Converting a value clashes somewhere. -/
def Clashes (u : Universe) (c : Converter) (value : Option Setting) : Prop :=
  ∃ s cause, value = some s ∧ Clash u c s cause

/-- Among such converters, a clash is the one way to fail with an error that is none of a conversion. -/
theorem Own.clashes_iff (h : c.Own) (hm : c.MakesByParsing) {value : Option Setting} :
    Clashes u c value ↔ ∃ cause, c.outcome u value = .error (.stray cause) := by
  constructor
  · rintro ⟨s, cause, rfl, hclash⟩
    exact ⟨cause, hclash.outcome h.isPure⟩
  · rintro ⟨cause, hf⟩
    obtain hf | ⟨s, cause, rfl, _, hclash⟩ := h.explains hm _ _ hf
    · cases hf
    · exact ⟨s, cause, rfl, hclash⟩

/-- Faults are all of a sort that takes malformed texts in, and leaves other errors out, as long as
nothing clashes. -/
theorem Own.faults_iff (h : c.Own) (hm : c.MakesByParsing) {sort : Fault → Bool}
    (hmalformed : ∀ fault, fault.isMalformed = true → sort fault = true)
    (hstray : ∀ cause, sort (.stray cause) = false) {value : Option Setting} :
    (∀ fault, c.outcome u value = .error fault → sort fault = true) ↔ ¬Clashes u c value := by
  constructor
  · intro hall hclash
    obtain ⟨cause, hf⟩ := (h.clashes_iff hm).mp hclash
    have htrue := hall _ hf
    rw [hstray] at htrue
    cases htrue
  · intro hno fault hf
    obtain hf | ⟨s, cause, rfl, _, hclash⟩ := h.explains hm _ _ hf
    · exact hmalformed fault hf
    · exact absurd ⟨s, cause, rfl, hclash⟩ hno

end SettingText.Converter
