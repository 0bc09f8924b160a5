import SettingText.Proofs.Registry.Catalogue

/-!
Resolving keeps a registry coherent: every converter kept for a type is, but for the sheets of its
editors, the one that the catalogue of the registry builds for the type. So resolving answers as
building does, also behind resolutions that failed half way.
-/

namespace SettingText.Registry

variable {α β γ δ : Type}

def answer (work : RegistryM α) (r : Registry) : Except Fault α := (work.run.run r).1

/-- The registry behind work on it. -/
def after (work : RegistryM α) (r : Registry) : Registry := (work.run.run r).2

/-- Every kept converter is like the one that the catalogue builds. -/
def Coherent (r : Registry) : Prop :=
  ∀ d held, r.cache.find? d = some held →
    ∃ c, r.catalogue.build d = .ok c ∧ held.converter.Alike c

/-- Two outcomes agree: both fail with one fault, or both succeed with related results. -/
inductive Agree (rel : α → β → Prop) : Except Fault α → Except Fault β → Prop
  | ok {a b} (h : rel a b) : Agree rel (.ok a) (.ok b)
  | error (fault) : Agree rel (.error fault) (.error fault)

/-- Work on a registry that answers as a plan does, and neither changes the catalogue nor spoils
what is kept. -/
structure Follows (rel : α → β → Prop) (r : Registry) (work : RegistryM α)
    (plan : Except Fault β) : Prop where
  catalogue : (after work r).catalogue = r.catalogue
  coherent : (after work r).Coherent
  agree : Agree rel (answer work r) plan

theorem run_bind (work : RegistryM α) (f : α → RegistryM β) (r : Registry) :
    (work >>= f).run.run r =
      match work.run.run r with
      | (.ok a, r') => (f a).run.run r'
      | (.error fault, r') => (.error fault, r') := by
  rw [ExceptT.run_bind, StateT.run_bind]
  rcases work.run.run r with ⟨outcome, r'⟩
  cases outcome <;> rfl

theorem run_get (r : Registry) : (MonadState.get : RegistryM Registry).run.run r = (.ok r, r) := rfl

theorem run_set (r r' : Registry) :
    (MonadStateOf.set r' : RegistryM Unit).run.run r = (.ok (), r') := rfl

theorem Follows.pure {rel : α → β → Prop} {r : Registry} (hr : r.Coherent) {a : α} {b : β}
    (h : rel a b) : Follows rel r (Pure.pure a) (.ok b) :=
  ⟨rfl, hr, .ok h⟩

theorem Follows.throw {rel : α → β → Prop} {r : Registry} (hr : r.Coherent) (fault : Fault) :
    Follows rel r (MonadExcept.throw fault) (.error fault) :=
  ⟨rfl, hr, .error fault⟩

/-- Work after work follows plan after plan. -/
theorem Follows.bind {rel : α → β → Prop} {rel' : γ → δ → Prop} {r : Registry}
    {work : RegistryM α} {plan : Except Fault β} {f : α → RegistryM γ} {g : β → Except Fault δ}
    (h : Follows rel r work plan)
    (hf : ∀ a b r', r'.catalogue = r.catalogue → r'.Coherent → rel a b → plan = .ok b →
      Follows rel' r' (f a) (g b)) :
    Follows rel' r (work >>= f) (plan >>= g) := by
  obtain ⟨hcatalogue, hcoherent, hagree⟩ := h
  have hrun := run_bind work f r
  rw [after] at hcatalogue hcoherent
  rw [answer] at hagree
  rcases hw : work.run.run r with ⟨outcome, r'⟩
  rw [hw] at hcatalogue hcoherent hagree hrun
  cases hagree with
  | error fault =>
    exact ⟨by rw [after, hrun]; exact hcatalogue, by rw [after, hrun]; exact hcoherent,
      by rw [answer, hrun]; exact .error fault⟩
  | ok hab =>
    obtain ⟨hc, hco, ha⟩ := hf _ _ r' hcatalogue hcoherent hab rfl
    exact ⟨by rw [after, hrun]; exact hc.trans hcatalogue, by rw [after, hrun]; exact hco,
      by rw [answer, hrun]; exact ha⟩

/-- The result of work may be changed on the way, as long as it stays related to that of the plan. -/
theorem Follows.map {rel : α → β → Prop} {rel' : γ → β → Prop} {r : Registry}
    {work : RegistryM α} {plan : Except Fault β} (h : Follows rel r work plan) {f : α → γ}
    (hf : ∀ a b, rel a b → rel' (f a) b) :
    Follows rel' r (work >>= fun a => Pure.pure (f a)) plan := by
  rw [← bind_ok plan]
  exact h.bind fun a b _ _ hco hab _ => .pure hco (hf a b hab)

/-- Work that reads the registry first. -/
theorem Follows.get {rel : α → β → Prop} {r : Registry} {f : Registry → RegistryM α}
    {plan : Except Fault β} (h : Follows rel r (f r) plan) :
    Follows rel r (MonadState.get >>= f) plan :=
  ⟨h.catalogue, h.coherent, h.agree⟩

/-- Putting a converter together follows the plan when resolving each component does. -/
theorem follows_assemble {r : Registry} (hr : r.Coherent) (resolver : NameResolver)
    (prefixes : List String) (recipe : Recipe)
    {part : (e : Descriptor) → e ∈ recipe.components → RegistryM Converter}
    {plan : (e : Descriptor) → e ∈ recipe.components → Except Fault Converter}
    (h : ∀ e he r', r'.catalogue = r.catalogue → r'.Coherent →
      Follows Converter.Alike r' (part e he) (plan e he)) :
    Follows (Option.Rel Converter.Alike) r (assemble resolver prefixes recipe part)
      (assemble resolver prefixes recipe plan) := by
  cases recipe with
  | plain => exact .pure hr .none
  | none fault => exact .throw hr fault
  | className bound => exact .pure hr (.some rfl)
  | optional base =>
    exact (h base _ r rfl hr).bind fun _ _ _ _ hco hlike _ =>
      .pure hco (.some (congrArg Converter.optional hlike))
  | array element =>
    refine (h _ _ r rfl hr).bind fun inner inner' r' _ hco hlike _ => ?_
    cases elementOf element with
    | other shown => exact .throw hco _
    | type d =>
      exact .pure hco (.some (congrArg
        (fun c => Converter.array d (.collection (.sequence fun _ => []) c .asIs)) hlike))
  | entry key value =>
    refine (h key _ r rfl hr).bind fun _ _ r₁ hc₁ hco₁ hk _ => ?_
    refine (h value _ r₁ hc₁ hco₁).bind fun _ _ _ _ hco₂ hv _ => ?_
    exact .pure hco₂ (.some (congrArg₂ Converter.entry hk hv))
  | map key value =>
    refine (h key _ r rfl hr).bind fun _ _ r₁ hc₁ hco₁ hk _ => ?_
    refine (h value _ r₁ hc₁ hco₁).bind fun _ _ _ _ hco₂ hv _ => ?_
    exact .pure hco₂ (.some (congrArg₂ (fun k v => Converter.map
      (.collection (.sequence fun _ => []) (.entry k v) .entries)) hk hv))
  | collection container element finish =>
    exact (h element _ r rfl hr).bind fun _ _ _ _ hco hlike _ =>
      .pure hco (.some (congrArg (Converter.collection container · finish) hlike))

/-- A held converter is like a built one. -/
def HeldLike (held : Held) (c : Converter) : Prop := held.converter.Alike c

variable {r : Registry} {d : Descriptor}

theorem catalogue_converter? : r.catalogue.converter? d = (r.scalar? d).map (·.converter) := by
  rw [Catalogue.converter?, scalar?]
  cases h : r.scalars.find? d with
  | none => simp [catalogue, h]
  | some held => cases hp : held.converter.isPresent <;> simp [catalogue, h, Option.filter, hp]

theorem catalogue_originConverter? :
    r.catalogue.originConverter? d = (r.originScalar? d).map (·.converter) := by
  cases d with
  | shape origin args => exact catalogue_converter?
  | _ => rfl

/-- A type without a recipe is served as the catalogue serves it. -/
theorem follows_serve (hr : r.Coherent) (d : Descriptor) :
    Follows HeldLike r (serve d) (r.catalogue.serve d) := by
  rw [serve, Catalogue.serve, catalogue_originConverter?]
  refine .get ?_
  cases r.originScalar? d with
  | some held => exact .pure hr rfl
  | none =>
    dsimp only [Registry.catalogue, Option.map_none]
    cases r.editors.find? r.classes d.rawClass with
    | some kind => exact ⟨rfl, hr, .ok rfl⟩
    | none =>
      dsimp only
      cases r.fallback d.rawClass with
      | none => exact .throw hr _
      | some offer =>
        obtain ⟨c, method⟩ := offer
        cases method <;> exact ⟨rfl, hr, .ok rfl⟩

@[simp] theorem catalogue_remember (r : Registry) (d : Descriptor) (held : Held) :
    (r.remember d held).catalogue = r.catalogue := by
  unfold Registry.remember
  split <;> rfl

/-- Keeping a converter like the one that is built keeps a registry coherent. -/
theorem Coherent.remember (hr : r.Coherent) {held : Held} {c : Converter}
    (hbuild : r.catalogue.build d = .ok c) (hlike : HeldLike held c) :
    (r.remember d held).Coherent := by
  unfold Registry.remember
  split
  · intro e found he
    by_cases hed : e = d
    · subst hed
      rw [Shelf.find?_put_same] at he
      cases he
      exact ⟨c, hbuild, hlike⟩
    · rw [Shelf.find?_put_other _ hed] at he
      exact hr e found he
  · exact hr

/-- The last step of resolving: the converter is kept and handed out. -/
theorem follows_keep (hr : r.Coherent) {held : Held} {c : Converter}
    (hbuild : r.catalogue.build d = .ok c) (hlike : HeldLike held c) :
    Follows HeldLike r (do modify (·.remember d held); return held) (.ok c) :=
  ⟨catalogue_remember r d held, hr.remember hbuild hlike, .ok hlike⟩

/-- Resolving a type in a coherent registry answers as building its converter does, and leaves a
coherent registry with the same catalogue, whether it succeeds or not. The induction is on the
weight of the type, since a type is resolved by resolving its components. -/
theorem follows_resolve {r : Registry} (hr : r.Coherent) (d : Descriptor) :
    Follows HeldLike r (resolve d) (r.catalogue.build d) := by
  rw [resolve]
  refine .get ?_
  cases hcached : r.cached? d with
  | some held =>
    rw [cached?] at hcached
    split at hcached
    · obtain ⟨c, hbuild, hlike⟩ := hr d held hcached
      rw [hbuild]
      exact .pure hr hlike
    · cases hcached
  | none =>
    dsimp only
    cases hscalar : r.scalar? d with
    | some held =>
      have hbuild : r.catalogue.build d = .ok held.converter :=
        Catalogue.build_of_registered (by rw [catalogue_converter?, hscalar]; rfl)
      rw [hbuild]
      exact follows_keep hr hbuild rfl
    | none =>
      have hnone : r.catalogue.converter? d = none := by rw [catalogue_converter?, hscalar]; rfl
      have hbuild : r.catalogue.build d =
          (assemble r.resolver r.prefixes (Recipe.of d) fun e _ => r.catalogue.build e) >>=
            fun assembled => assembled.elim (r.catalogue.serve d) .ok :=
        Catalogue.build_of_unregistered hnone
      have hpart : ∀ e (_ : e ∈ (Recipe.of d).components) r', r'.catalogue = r.catalogue →
          r'.Coherent → Follows Converter.Alike r' (do return (← resolve e).converter)
            (r.catalogue.build e) := by
        intro e he r' hc hco
        have := Recipe.weight_components_lt d e he
        rw [← hc]
        exact (follows_resolve hco e).map fun _ _ h => h
      rw [hbuild]
      refine (follows_assemble hr _ _ _ hpart).bind fun assembled plan r₁ hc₁ hco₁ ho hplan => ?_
      rw [hplan] at hbuild
      cases ho with
      | @some c c' hlike =>
        -- Noting the new converter down and holding it leaves catalogue and cache as they are.
        let r₂ := ((r₁.note (.built c.shown d.text)).hold c).2
        have hlike : HeldLike ⟨r₁.nextSerial, c⟩ c' := hlike
        obtain ⟨hc₂, hco₂, hagree⟩ := follows_keep (r := r₂) hco₁ (hc₁ ▸ hbuild) hlike
        exact ⟨hc₂, hco₂, hagree⟩
      | none =>
        have hserve := follows_serve hco₁ d
        rw [hc₁] at hserve
        change Follows HeldLike r₁ (serve d >>= fun held => do
          modify (·.remember d held)
          return held) (r.catalogue.serve d)
        rw [← bind_ok (r.catalogue.serve d)]
        exact hserve.bind fun held c r₂ hc₂ hco₂ hlike hc =>
          follows_keep hco₂ (by rw [hc₂, hc₁, hbuild]; exact hc) hlike
termination_by d.weight

/-- What a type resolves to is like the converter that the catalogue builds for it. -/
theorem Coherent.build_of_resolves (hr : r.Coherent) {held : Held}
    (hheld : answer (resolve d) r = .ok held) :
    ∃ c, r.catalogue.build d = .ok c ∧ held.converter.Alike c := by
  have hagree := (follows_resolve hr d).agree
  rw [hheld] at hagree
  generalize r.catalogue.build d = x at hagree ⊢
  cases hagree with
  | @ok _ c hlike => exact ⟨c, rfl, hlike⟩

/-- A type that the catalogue builds a converter for resolves to one like it. -/
theorem Coherent.resolves_of_build (hr : r.Coherent) {c : Converter}
    (hbuild : r.catalogue.build d = .ok c) :
    ∃ held, answer (resolve d) r = .ok held ∧ held.converter.Alike c := by
  have hagree := (follows_resolve hr d).agree
  rw [hbuild] at hagree
  generalize answer (resolve d) r = x at hagree ⊢
  cases hagree with
  | @ok held _ hlike => exact ⟨held, rfl, hlike⟩

end SettingText.Registry
