import Mathlib.Data.List.Forall2

/-!
How chains of steps that may fail come out: what it means that a chain succeeds, and where one that
fails has failed.
-/

namespace SettingText

variable {ε ε' α β : Type} {x : Except ε α} {e : ε}

theorem bind_ok (x : Except ε α) : x >>= Except.ok = x := by
  cases x <;> rfl

theorem bind_eq_ok_iff {f : α → Except ε β} {b : β} :
    x >>= f = .ok b ↔ ∃ a, x = .ok a ∧ f a = .ok b := by
  cases x with
  | error e => exact ⟨nofun, fun ⟨_, h, _⟩ => nomatch h⟩
  | ok a => exact ⟨fun h => ⟨a, rfl, h⟩, fun ⟨_, h, hf⟩ => by cases h; exact hf⟩

/-- A chain of two steps fails at the first or, when that succeeds, at the second. -/
theorem bind_eq_error_iff {f : α → Except ε β} :
    x >>= f = .error e ↔ x = .error e ∨ ∃ a, x = .ok a ∧ f a = .error e := by
  cases x with
  | error e' =>
    constructor
    · intro h
      exact .inl (by cases h; rfl)
    · rintro (h | ⟨_, h, _⟩)
      · cases h
        rfl
      · cases h
  | ok a =>
    constructor
    · intro h
      exact .inr ⟨a, rfl, h⟩
    · rintro (h | ⟨_, h, hf⟩)
      · cases h
      · cases h
        exact hf

theorem map_eq_ok_iff {f : α → β} {b : β} : x.map f = .ok b ↔ ∃ a, x = .ok a ∧ f a = b := by
  cases x with
  | error e => exact ⟨nofun, fun ⟨_, h, _⟩ => nomatch h⟩
  | ok a =>
    constructor
    · intro h
      exact ⟨a, rfl, Except.ok.inj h⟩
    · rintro ⟨_, h, rfl⟩
      cases h
      rfl

theorem map_eq_error_iff {f : α → β} : x.map f = .error e ↔ x = .error e := by
  cases x <;> simp [Except.map]

theorem mapError_eq_ok_iff {f : ε → ε'} {a : α} : x.mapError f = .ok a ↔ x = .ok a := by
  cases x with
  | error e => exact ⟨nofun, nofun⟩
  | ok a' => simp [Except.mapError]

theorem mapError_eq_error_iff {f : ε → ε'} {e' : ε'} :
    x.mapError f = .error e' ↔ ∃ e, x = .error e ∧ f e = e' := by
  cases x with
  | error e => simp [Except.mapError]
  | ok a => simp [Except.mapError]

/-- Going through a list succeeds when every step does, each with its own result. -/
theorem mapM_eq_ok_iff {f : α → Except ε β} {items : List α} {results : List β} :
    items.mapM f = .ok results ↔ List.Forall₂ (fun a b => f a = .ok b) items results := by
  induction items generalizing results with
  | nil =>
    rw [List.mapM_nil, List.forall₂_nil_left_iff]
    exact ⟨fun h => (Except.ok.inj h).symm, fun h => h ▸ rfl⟩
  | cons a rest ih =>
    rw [List.mapM_cons, bind_eq_ok_iff, List.forall₂_cons_left_iff]
    constructor
    · rintro ⟨b, hb, h⟩
      obtain ⟨bs, hbs, h⟩ := bind_eq_ok_iff.mp h
      exact ⟨b, bs, hb, ih.mp hbs, (Except.ok.inj h).symm⟩
    · rintro ⟨b, bs, hb, hbs, rfl⟩
      exact ⟨b, hb, bind_eq_ok_iff.mpr ⟨bs, ih.mpr hbs, rfl⟩⟩

theorem mapM_congr_of_mem {f g : α → Except ε β} {items : List α} (h : ∀ a ∈ items, f a = g a) :
    items.mapM f = items.mapM g := by
  induction items with
  | nil => rfl
  | cons a rest ih => rw [List.mapM_cons, List.mapM_cons, h a (by simp), ih fun b hb => h b (by simp [hb])]

/-- Results that are changed one by one are changed all at once. -/
theorem mapM_map_results {γ : Type} {f : α → Except ε β} {g : β → γ} (items : List α) :
    items.mapM (fun a => (f a).map g) = (items.mapM f).map (List.map g) := by
  induction items with
  | nil => rfl
  | cons a rest ih =>
    rw [List.mapM_cons, List.mapM_cons, ih]
    cases f a with
    | error e => rfl
    | ok b => cases rest.mapM f <;> rfl

/-- Going through the results of steps that succeed is going through the items with both steps. -/
theorem mapM_results {γ : Type} {f : α → Except ε β} {g : β → Except ε γ} {items : List α}
    {results : List β} (h : items.mapM f = .ok results) :
    results.mapM g = items.mapM fun a => f a >>= g := by
  induction items generalizing results with
  | nil =>
    cases h
    rfl
  | cons a rest ih =>
    rw [List.mapM_cons] at h
    obtain ⟨b, hb, h⟩ := bind_eq_ok_iff.mp h
    obtain ⟨bs, hbs, h⟩ := bind_eq_ok_iff.mp h
    cases h
    rw [List.mapM_cons, List.mapM_cons, hb, ih hbs]
    rfl

theorem mapM_append_singleton (f : α → Except ε β) (front : List α) (last : α) :
    (front ++ [last]).mapM f =
      front.mapM f >>= fun results => f last >>= fun result => .ok (results ++ [result]) := by
  rw [List.mapM_append, List.mapM_cons, List.mapM_nil]
  simp only [bind_assoc]
  rfl

theorem length_of_mapM_eq_ok {f : α → Except ε β} {items : List α} {results : List β}
    (h : items.mapM f = .ok results) : results.length = items.length :=
  (mapM_eq_ok_iff.mp h).length_eq.symm

/-- Each result of going through a list is the result of a step. -/
theorem exists_of_mapM_eq_ok {f : α → Except ε β} {items : List α} {results : List β}
    (h : items.mapM f = .ok results) {b : β} (hb : b ∈ results) : ∃ a ∈ items, f a = .ok b := by
  have hall := mapM_eq_ok_iff.mp h
  clear h
  induction hall with
  | nil => simp at hb
  | @cons a _ rest _ ha _ ih =>
    obtain rfl | hb := List.mem_cons.mp hb
    · exact ⟨a, by simp, ha⟩
    · obtain ⟨a', ha', hread⟩ := ih hb
      exact ⟨a', by simp [ha'], hread⟩

theorem mem_of_mapM_eq_ok {f : α → Except ε β} {items : List α} {results : List β}
    (h : items.mapM f = .ok results) {a : α} {b : β} (ha : a ∈ items) (hb : f a = .ok b) : b ∈ results := by
  induction items generalizing results with
  | nil => simp at ha
  | cons a' rest ih =>
    rw [List.mapM_cons] at h
    obtain ⟨first, hfirst, h⟩ := bind_eq_ok_iff.mp h
    obtain ⟨others, hothers, h⟩ := bind_eq_ok_iff.mp h
    cases h
    obtain rfl | ha := List.mem_cons.mp ha
    · rw [hb] at hfirst
      cases hfirst
      simp
    · exact List.mem_cons_of_mem _ (ih hothers ha)

theorem exists_mapM_eq_ok_iff {f : α → Except ε β} {items : List α} :
    (∃ results, items.mapM f = .ok results) ↔ ∀ a ∈ items, ∃ b, f a = .ok b := by
  induction items with
  | nil => simp [pure, Except.pure]
  | cons a rest ih =>
    rw [List.forall_mem_cons, ← ih, List.mapM_cons]
    constructor
    · rintro ⟨results, h⟩
      obtain ⟨b, hb, h⟩ := bind_eq_ok_iff.mp h
      obtain ⟨bs, hbs, _⟩ := bind_eq_ok_iff.mp h
      exact ⟨⟨b, hb⟩, ⟨bs, hbs⟩⟩
    · rintro ⟨⟨b, hb⟩, ⟨bs, hbs⟩⟩
      exact ⟨b :: bs, bind_eq_ok_iff.mpr ⟨b, hb, bind_eq_ok_iff.mpr ⟨bs, hbs, rfl⟩⟩⟩

/-- Going through a list fails at the first step that fails. -/
theorem mapM_eq_error_iff {f : α → Except ε β} {items : List α} :
    items.mapM f = .error e ↔ ∃ before a after, items = before ++ a :: after ∧
      (∀ b ∈ before, ∃ c, f b = .ok c) ∧ f a = .error e := by
  induction items with
  | nil => simp [pure, Except.pure]
  | cons a rest ih =>
    rw [List.mapM_cons, bind_eq_error_iff]
    constructor
    · rintro (h | ⟨b, hb, h⟩)
      · exact ⟨[], a, rest, rfl, by simp, h⟩
      · obtain h | ⟨_, _, h⟩ := bind_eq_error_iff.mp h
        · obtain ⟨before, c, after, rfl, hbefore, hc⟩ := ih.mp h
          refine ⟨a :: before, c, after, rfl, ?_, hc⟩
          intro d hd
          obtain rfl | hd := List.mem_cons.mp hd
          · exact ⟨b, hb⟩
          · exact hbefore d hd
        · cases h
    · rintro ⟨before, c, after, hitems, hbefore, hc⟩
      cases before with
      | nil =>
        obtain ⟨rfl, rfl⟩ := List.cons.inj hitems
        exact .inl hc
      | cons d before =>
        obtain ⟨rfl, rfl⟩ := List.cons.inj hitems
        obtain ⟨b, hb⟩ := hbefore a (by simp)
        refine .inr ⟨b, hb, bind_eq_error_iff.mpr (.inl ?_)⟩
        exact ih.mpr ⟨before, c, after, rfl, fun x hx => hbefore x (by simp [hx]), hc⟩

/-- Gathering from a list fails at the first step that fails, with what was gathered before it. -/
theorem foldlM_eq_error_iff {f : β → α → Except ε β} {items : List α} {b : β} :
    items.foldlM f b = .error e ↔ ∃ before a after c, items = before ++ a :: after ∧
      before.foldlM f b = .ok c ∧ f c a = .error e := by
  induction items generalizing b with
  | nil => simp [pure, Except.pure]
  | cons a rest ih =>
    rw [List.foldlM_cons, bind_eq_error_iff]
    constructor
    · rintro (h | ⟨c, hc, h⟩)
      · exact ⟨[], a, rest, b, rfl, rfl, h⟩
      · obtain ⟨before, a', after, c', rfl, hbefore, hfault⟩ := ih.mp h
        refine ⟨a :: before, a', after, c', rfl, ?_, hfault⟩
        rw [List.foldlM_cons, hc]
        exact hbefore
    · rintro ⟨before, a', after, c, hitems, hbefore, hfault⟩
      cases before with
      | nil =>
        obtain ⟨rfl, rfl⟩ := List.cons.inj hitems
        cases hbefore
        exact .inl hfault
      | cons d before =>
        obtain ⟨rfl, rfl⟩ := List.cons.inj hitems
        rw [List.foldlM_cons] at hbefore
        obtain ⟨c', hc', hbefore⟩ := bind_eq_ok_iff.mp hbefore
        exact .inr ⟨c', hc', ih.mpr ⟨before, a', after, c, rfl, hbefore, hfault⟩⟩

/-- Whether a chain fails, and how, without what it gives. -/
def verdict (x : Except ε α) : Except ε Unit := x.map fun _ => ()

theorem verdict_eq_ok_iff : verdict x = .ok () ↔ ∃ a, x = .ok a := by
  cases x <;> simp [verdict, Except.map]

theorem verdict_eq_error_iff : verdict x = .error e ↔ x = .error e := by
  cases x <;> simp [verdict, Except.map]

theorem verdict_map (f : α → β) (x : Except ε α) : verdict (x.map f) = verdict x := by
  cases x <;> rfl

/-- A step that never fails has no part in the verdict. -/
theorem verdict_bind_of_ok {f : α → Except ε β} (h : ∀ a, x = .ok a → ∃ b, f a = .ok b) :
    verdict (x >>= f) = verdict x := by
  cases x with
  | error e => rfl
  | ok a =>
    obtain ⟨b, hb⟩ := h a rfl
    change verdict (f a) = _
    rw [hb]
    rfl

/-- Two steps fail as the first one does, or else as the second. -/
theorem verdict_bind_pure {γ : Type} {y : Except ε β} (f : α → β → γ) :
    verdict (do return f (← x) (← y)) = verdict x >>= fun _ => verdict y := by
  cases x with
  | error e => rfl
  | ok a => cases y <;> rfl

/-- Going through a list of lists fails as going through all of them one after the other. -/
theorem verdict_mapM_flatMap {γ δ : Type} {f : γ → Except ε δ} {g : α → Except ε β}
    {parts : α → List γ} {items : List α}
    (h : ∀ a ∈ items, verdict (g a) = verdict ((parts a).mapM f)) :
    verdict (items.mapM g) = verdict ((items.flatMap parts).mapM f) := by
  induction items with
  | nil => rfl
  | cons a rest ih =>
    rw [List.mapM_cons, List.flatMap_cons, List.mapM_append, verdict_bind_pure, verdict_bind_pure,
      h a (by simp), ih fun b hb => h b (by simp [hb])]

end SettingText
