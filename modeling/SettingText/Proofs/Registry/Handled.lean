import SettingText.Proofs.Registry.Used

/-!
Registries in any state, also where editors were registered or taken away while converters were kept.
Whatever was done, all that is kept is accounted for: it was registered for its type, or put together
from what is kept for the components of the type, or serves a type without a recipe. So a registry
hands out one and the same converter for a component, whichever type it is resolved for.
-/

namespace SettingText

namespace Recipe

/-- The converter that a recipe puts together from those of its components, in their order. -/
def complete (resolver : NameResolver) (prefixes : List String) :
    Recipe → List Converter → Except Fault (Option Converter)
  | none fault, _ => .error fault
  | className bound, _ => .ok (some (.className resolver (.cls bound) prefixes))
  | optional _, [base] => .ok (some (.optional base))
  | array element, [inner] =>
    (Converter.arrayOf (Registry.elementOf element)
      (.collection (.sequence fun _ => []) inner .asIs)).map some
  | entry _ _, [key, value] => .ok (some (.entry key value))
  | map _ _, [key, value] =>
    .ok (some (.map (.collection (.sequence fun _ => []) (.entry key value) .entries)))
  | collection container _ finish, [inner] => .ok (some (.collection container inner finish))
  | _, _ => .ok Option.none

theorem eq_plain_of_complete {resolver : NameResolver} {prefixes : List String} {recipe : Recipe}
    {parts : List Converter} (hlength : parts.length = recipe.components.length)
    (h : recipe.complete resolver prefixes parts = .ok Option.none) : recipe = plain := by
  cases recipe with
  | plain => rfl
  | none | className => cases h
  | optional | collection =>
    obtain ⟨c, rfl⟩ := List.length_eq_one_iff.mp hlength
    cases h
  | array element =>
    obtain ⟨c, rfl⟩ := List.length_eq_one_iff.mp hlength
    obtain ⟨_, _, h⟩ := map_eq_ok_iff.mp h
    cases h
  | entry | map =>
    obtain ⟨key, value, rfl⟩ := List.length_eq_two.mp hlength
    cases h

end Recipe

namespace Registry

variable {r r' : Registry} {d e : Descriptor}

theorem answer_bind {α β : Type} (work : RegistryM α) (f : α → RegistryM β) (r : Registry) :
    answer (work >>= f) r = answer work r >>= fun a => answer (f a) (after work r) := by
  rw [answer, answer, after, run_bind]
  rcases work.run.run r with ⟨outcome, r'⟩
  cases outcome <;> rfl

theorem after_bind {α β : Type} (work : RegistryM α) (f : α → RegistryM β) (r : Registry) :
    after (work >>= f) r =
      match answer work r with
      | .ok a => after (f a) (after work r)
      | .error _ => after work r := by
  rw [answer, after, after, run_bind]
  rcases work.run.run r with ⟨outcome, r'⟩
  cases outcome <;> rfl

/-- Putting a converter together: first the components are resolved, one after the other, then their
converters are put together. -/
theorem assemble_eq_complete (resolver : NameResolver) (prefixes : List String) (recipe : Recipe)
    (part : Descriptor → RegistryM Converter) :
    assemble resolver prefixes recipe (fun e _ => part e) = (do
      let parts ← recipe.components.mapM part
      match recipe.complete resolver prefixes parts with
      | .ok assembled => return assembled
      | .error fault => throw fault) := by
  cases recipe with
  | array element =>
    simp only [assemble, Recipe.components, Recipe.complete, List.mapM_cons, List.mapM_nil, bind_assoc,
      pure_bind]
    congr 1
    funext inner
    cases Converter.arrayOf (elementOf element) (.collection (.sequence fun _ => []) inner .asIs) <;> rfl
  | _ =>
    simp only [assemble, Recipe.components, Recipe.complete, List.mapM_cons, List.mapM_nil, bind_assoc,
      pure_bind]

/-- The converter that a registry puts together for a type from those of its components. -/
def complete (r : Registry) (d : Descriptor) (parts : List Converter) :
    Except Fault (Option Converter) :=
  (Recipe.of d).complete r.resolver r.prefixes parts

/-- The converter of a component. -/
def component (e : Descriptor) : RegistryM Converter := do return (← resolve e).converter

theorem answer_component (r : Registry) (d : Descriptor) :
    answer (component d) r = (answer (resolve d) r).map (·.converter) := by
  rw [component, answer_bind]
  cases answer (resolve d) r <;> rfl

theorem after_component (r : Registry) (d : Descriptor) :
    after (component d) r = after (resolve d) r := by
  rw [component, after_bind]
  cases answer (resolve d) r <;> rfl

theorem answer_mapM_cons (e : Descriptor) (es : List Descriptor) (r : Registry) :
    answer ((e :: es).mapM component) r = answer (component e) r >>= fun c =>
      (answer (es.mapM component) (after (component e) r)).map (c :: ·) := by
  rw [List.mapM_cons, answer_bind]
  refine bind_congr fun c => ?_
  rw [answer_bind]
  cases answer (es.mapM component) (after (component e) r) <;> rfl

theorem after_mapM_cons (e : Descriptor) (es : List Descriptor) (r : Registry) :
    after ((e :: es).mapM component) r =
      match answer (component e) r with
      | .ok _ => after (es.mapM component) (after (component e) r)
      | .error _ => after (component e) r := by
  rw [List.mapM_cons, after_bind]
  cases answer (component e) r with
  | error fault => rfl
  | ok c =>
    dsimp only
    rw [after_bind]
    cases answer (es.mapM component) (after (component e) r) <;> rfl

/-- What is left to do for a type when its recipe has been followed. -/
def settle (d : Descriptor) (assembled : Except Fault (Option Converter)) : RegistryM Held := do
  let held ← match assembled with
    | .error fault => throw fault
    | .ok (some converter) => do
      noting (.built converter.shown d.text)
      holding converter
    | .ok none => serve d
  modify (·.remember d held)
  return held

theorem run_resolve_of_cached {held : Held} (h : r.cached? d = some held) :
    (resolve d).run.run r = (.ok held, r) := by
  rw [resolve, run_bind, run_get]
  dsimp only
  rw [h]
  rfl

theorem run_resolve_of_scalar {held : Held} (hcached : r.cached? d = none)
    (h : r.scalar? d = some held) : (resolve d).run.run r = (.ok held, r.remember d held) := by
  rw [resolve, run_bind, run_get]
  dsimp only
  rw [hcached]
  dsimp only
  rw [h]
  rfl

theorem run_resolve_of_unregistered (hcached : r.cached? d = none) (h : r.scalar? d = none) :
    (resolve d).run.run r = ((Recipe.of d).components.mapM component >>= fun parts =>
      settle d (r.complete d parts)).run.run r := by
  rw [resolve, run_bind, run_get]
  dsimp only
  rw [hcached]
  dsimp only
  rw [h]
  dsimp only
  change (assemble r.resolver r.prefixes (Recipe.of d) (fun e _ => component e) >>= _).run.run r = _
  rw [assemble_eq_complete, bind_assoc]
  congr 2
  congr 1
  funext parts
  change _ = settle d ((Recipe.of d).complete r.resolver r.prefixes parts)
  cases (Recipe.of d).complete r.resolver r.prefixes parts with
  | error fault => rfl
  | ok assembled => cases assembled <;> rfl

theorem answer_resolve_of_unregistered (hcached : r.cached? d = none) (hscalar : r.scalar? d = none) :
    answer (resolve d) r = answer ((Recipe.of d).components.mapM component) r >>= fun parts =>
      answer (settle d (r.complete d parts)) (after ((Recipe.of d).components.mapM component) r) := by
  rw [answer, run_resolve_of_unregistered hcached hscalar]
  exact answer_bind _ _ r

theorem after_resolve_of_unregistered (hcached : r.cached? d = none) (hscalar : r.scalar? d = none) :
    after (resolve d) r =
      match answer ((Recipe.of d).components.mapM component) r with
      | .ok parts =>
        after (settle d (r.complete d parts)) (after ((Recipe.of d).components.mapM component) r)
      | .error _ => after ((Recipe.of d).components.mapM component) r := by
  rw [after, run_resolve_of_unregistered hcached hscalar]
  change after (_ >>= fun parts => settle d (r.complete d parts)) r = _
  rw [after_bind]
  cases answer ((Recipe.of d).components.mapM component) r <;> rfl

/-- A converter that serves a type without a recipe: the one registered for its class alone, an editor
for its class, or what the fallback offers. -/
inductive ServedBy (r : Registry) (d : Descriptor) : Converter → Prop
  | origin {held : Held} (h : r.originScalar? d = some held) : ServedBy r d held.converter
  | editor (e : EditorInUse) : ServedBy r d (.editor d.rawClass (some e))
  | offer {offer : Offer} (h : r.fallback d.rawClass = some offer) : ServedBy r d offer.converter

/-- Registries that differ in their numbers and journals at most. -/
structure SameStock (r r' : Registry) : Prop where
  frame : r'.frame = r.frame
  cache : r'.cache = r.cache

theorem run_serve (r : Registry) (d : Descriptor) :
    ∃ r', r.SameStock r' ∧ ((serve d).run.run r = (.error (.noConverter d), r') ∨
      ∃ held, (serve d).run.run r = (.ok held, r') ∧ r.ServedBy d held.converter) := by
  rw [serve, run_bind, run_get]
  dsimp only
  cases horigin : r.originScalar? d with
  | some held => exact ⟨r, ⟨rfl, rfl⟩, .inr ⟨held, rfl, .origin horigin⟩⟩
  | none =>
    dsimp only
    cases r.editors.find? r.classes d.rawClass with
    | some kind => 
      refine ⟨_, ?_, .inr ⟨⟨r.nextSerial, _⟩, rfl, .editor ⟨kind, r.nextEditor⟩⟩⟩
      exact ⟨rfl, rfl⟩
    | none =>
      dsimp only
      cases hoffer : r.fallback d.rawClass with
      | none => exact ⟨r, ⟨rfl, rfl⟩, .inl rfl⟩
      | some offer =>
        obtain ⟨c, method⟩ := offer
        cases method <;> refine ⟨_, ?_, .inr ⟨⟨r.nextSerial, c⟩, rfl, .offer hoffer⟩⟩ <;>
          exact ⟨rfl, rfl⟩

/-- Settling a type keeps one converter for it, or nothing when it fails; it fails as putting the converter
together did, or for want of one. -/
theorem run_settle (r : Registry) (d : Descriptor) (assembled : Except Fault (Option Converter)) :
    ∃ r', r.SameStock r' ∧
      ((∃ fault, (settle d assembled).run.run r = (.error fault, r') ∧
          (assembled = .error fault ∨ fault = .noConverter d)) ∨
        ∃ held, (settle d assembled).run.run r = (.ok held, r'.remember d held) ∧
          (assembled = .ok (some held.converter) ∨
            assembled = .ok none ∧ r.ServedBy d held.converter)) := by
  cases assembled with
  | error fault => exact ⟨r, ⟨rfl, rfl⟩, .inl ⟨fault, rfl, .inl rfl⟩⟩
  | ok assembled =>
    cases assembled with
    | some c =>
      exact ⟨((r.note (.built c.shown d.text)).hold c).2, ⟨rfl, rfl⟩,
        .inr ⟨⟨r.nextSerial, c⟩, rfl, .inl rfl⟩⟩
    | none =>
      obtain ⟨r', hsame, hrun⟩ := run_serve r d
      refine ⟨r', hsame, ?_⟩
      have hsettle : (settle d (.ok none)).run.run r =
          (serve d >>= fun held => do modify (·.remember d held); return held).run.run r := rfl
      rw [hsettle, run_bind]
      obtain hrun | ⟨held, hrun, hserved⟩ := hrun
      · exact .inl ⟨_, by rw [hrun], .inr rfl⟩
      · exact .inr ⟨held, by rw [hrun]; rfl, .inr ⟨rfl, hserved⟩⟩

/-- The converter is kept for the type. -/
def KeepsFor (r : Registry) (d : Descriptor) (c : Converter) : Prop :=
  ∃ held, r.cached? d = some held ∧ held.converter = c

/-- Where a kept converter comes from. -/
inductive Accounts (r : Registry) (d : Descriptor) (held : Held) : Prop
  | registered (h : r.scalar? d = some held)
  | assembled {parts : List Converter} (hnone : r.scalar? d = none)
      (hparts : List.Forall₂ r.KeepsFor (Recipe.of d).components parts)
      (h : r.complete d parts = .ok (some held.converter))
  | served (hnone : r.scalar? d = none) (hplain : Recipe.of d = .plain)
      (hserved : r.ServedBy d held.converter)

/-- All that is kept is accounted for. -/
def Accounted (r : Registry) : Prop := ∀ d held, r.cached? d = some held → r.Accounts d held

/-- The second registry is the first with more converters kept, all of them for types lighter than the
weight. -/
structure KeepsMore (weight : Nat) (r r' : Registry) : Prop where
  frame : r'.frame = r.frame
  kept : ∀ d held, r.cached? d = some held → r'.cached? d = some held
  heavier : ∀ d, weight ≤ d.weight → r'.cached? d = r.cached? d

theorem KeepsMore.refl (weight : Nat) (r : Registry) : KeepsMore weight r r :=
  ⟨rfl, fun _ _ h => h, fun _ _ => rfl⟩

theorem KeepsMore.trans {weight : Nat} {r r' r'' : Registry} (h : KeepsMore weight r r')
    (h' : KeepsMore weight r' r'') : KeepsMore weight r r'' where
  frame := h'.frame.trans h.frame
  kept d held hd := h'.kept d held (h.kept d held hd)
  heavier d hd := (h'.heavier d hd).trans (h.heavier d hd)

theorem KeepsMore.mono {weight weight' : Nat} (h : KeepsMore weight r r') (hle : weight ≤ weight') :
    KeepsMore weight' r r' :=
  ⟨h.frame, h.kept, fun d hd => h.heavier d (by omega)⟩

theorem memoize_of_frame (h : r'.frame = r.frame) : r'.memoize = r.memoize := (congrArg memoize h :)

theorem complete_of_frame (h : r'.frame = r.frame) (d : Descriptor) (parts : List Converter) :
    r'.complete d parts = r.complete d parts := by
  have hresolver : r'.resolver = r.resolver := (congrArg resolver h :)
  have hprefixes : r'.prefixes = r.prefixes := (congrArg prefixes h :)
  rw [complete, complete, hresolver, hprefixes]

theorem SameStock.cached? (h : r.SameStock r') (d : Descriptor) : r'.cached? d = r.cached? d := by
  rw [Registry.cached?, Registry.cached?, memoize_of_frame h.frame, h.cache]

theorem SameStock.keepsMore (h : r.SameStock r') (weight : Nat) : KeepsMore weight r r' :=
  ⟨h.frame, fun d _ hd => (h.cached? d).trans hd, fun d _ => h.cached? d⟩

theorem cached?_remember_same (hm : r.memoize = true) (d : Descriptor) (held : Held) :
    (r.remember d held).cached? d = some held := by
  rw [remember, if_pos hm, cached?, if_pos hm]
  exact r.cache.find?_put_same d held

theorem cached?_remember_other (r : Registry) {d e : Descriptor} (h : e ≠ d) (held : Held) :
    (r.remember d held).cached? e = r.cached? e := by
  rw [remember]
  split
  · rw [cached?, cached?]
    simp only [Shelf.find?_put_other _ h]
  · rfl

theorem scalar?_of_frame (h : r'.frame = r.frame) (d : Descriptor) : r'.scalar? d = r.scalar? d := by
  have hscalars : r'.scalars = r.scalars := (congrArg scalars h :)
  rw [scalar?, scalar?, hscalars]

/-- The second registry keeps what the first keeps, and has the same to build from, but for editors. -/
structure CarriesOn (r r' : Registry) : Prop where
  scalar? : ∀ d, r'.scalar? d = r.scalar? d
  complete : ∀ d parts, r'.complete d parts = r.complete d parts
  fallback : r'.fallback = r.fallback
  kept : ∀ d held, r.cached? d = some held → r'.cached? d = some held

theorem KeepsMore.carriesOn {weight : Nat} (h : KeepsMore weight r r') : r.CarriesOn r' :=
  ⟨scalar?_of_frame h.frame, complete_of_frame h.frame, (congrArg Registry.fallback h.frame :), h.kept⟩

theorem ServedBy.of_carriesOn {c : Converter} (hc : r.ServedBy d c) (h : r.CarriesOn r') :
    r'.ServedBy d c := by
  cases hc with
  | origin horigin =>
    refine .origin (horigin ▸ ?_)
    cases d with
    | shape => exact h.scalar? _
    | _ => rfl
  | editor e => exact .editor e
  | offer hoffer => exact .offer (by rw [h.fallback, hoffer])

theorem Accounts.of_carriesOn {held : Held} (hd : r.Accounts d held) (h : r.CarriesOn r') :
    r'.Accounts d held := by
  cases hd with
  | registered hfound => exact .registered ((h.scalar? d).trans hfound)
  | assembled hnone hparts hassembled =>
    refine .assembled ((h.scalar? d).trans hnone) (hparts.imp fun e c hc => ?_)
      ((h.complete d _).trans hassembled)
    obtain ⟨found, hfound, rfl⟩ := hc
    exact ⟨found, h.kept e found hfound, rfl⟩
  | served hnone hplain hserved =>
    exact .served ((h.scalar? d).trans hnone) hplain (hserved.of_carriesOn h)

theorem SameStock.accounted (h : r.SameStock r') (hr : r.Accounted) : r'.Accounted := by
  intro d held hd
  rw [h.cached?] at hd
  exact (hr d held hd).of_carriesOn (h.keepsMore 0).carriesOn

/-- Keeping a converter that is accounted for, for a type for which none was kept. -/
theorem keepsMore_remember (hcached : r.cached? d = none) (held : Held) :
    KeepsMore (d.weight + 1) r (r.remember d held) where
  frame := frame_remember r d held
  kept e found he := by
    have hne : e ≠ d := by
      rintro rfl
      rw [hcached] at he
      cases he
    rwa [cached?_remember_other r hne]
  heavier e he := cached?_remember_other r (by rintro rfl; omega) held

theorem Accounted.remember (hr : r.Accounted) (hcached : r.cached? d = none) {held : Held}
    (hd : r.Accounts d held) : (r.remember d held).Accounted := by
  intro e found he
  have hmore := keepsMore_remember hcached held
  by_cases hed : e = d
  · subst hed
    by_cases hm : r.memoize = true
    · rw [cached?_remember_same hm] at he
      cases he
      exact hd.of_carriesOn hmore.carriesOn
    · rw [Registry.remember, if_neg hm] at he
      rw [hcached] at he
      cases he
  · rw [cached?_remember_other r hed] at he
    exact (hr e found he).of_carriesOn hmore.carriesOn

/-- What resolving types leaves behind: a registry that keeps more, all of it accounted for. -/
structure Settles (weight : Nat) (r r' : Registry) : Prop where
  keepsMore : KeepsMore weight r r'
  accounted : r'.Accounted

/-- Resolving components one after the other, each of which settles with its converter kept. -/
theorem settles_mapM {weight : Nat} (hr : r.Accounted) {es : List Descriptor}
    (h : ∀ e ∈ es, ∀ r : Registry, r.Accounted → Settles weight r (after (resolve e) r) ∧
      ∀ held, answer (resolve e) r = .ok held → r.memoize = true →
        (after (resolve e) r).cached? e = some held) :
    Settles weight r (after (es.mapM component) r) ∧
      ∀ parts, answer (es.mapM component) r = .ok parts → r.memoize = true →
        List.Forall₂ (after (es.mapM component) r).KeepsFor es parts := by
  induction es generalizing r with
  | nil =>
    refine ⟨⟨.refl _ _, hr⟩, fun parts hparts _ => ?_⟩
    cases hparts
    exact .nil
  | cons e rest ih =>
    obtain ⟨hfirst, hkept⟩ := h e (by simp) r hr
    rw [answer_mapM_cons, after_mapM_cons, answer_component, after_component]
    cases hresolve : answer (resolve e) r with
    | error fault => exact ⟨hfirst, by rintro parts ⟨⟩⟩
    | ok held =>
      obtain ⟨hrest, hparts⟩ := ih hfirst.accounted fun e he => h e (by simp [he])
      refine ⟨⟨hfirst.keepsMore.trans hrest.keepsMore, hrest.accounted⟩, fun found hfound hm => ?_⟩
      obtain ⟨parts, hanswer, rfl⟩ := map_eq_ok_iff.mp hfound
      have hmemoize := (memoize_of_frame hfirst.keepsMore.frame).trans hm
      have hheld := hrest.keepsMore.kept e held (hkept held hresolve hm)
      exact .cons ⟨held, hheld, rfl⟩ (hparts parts hanswer hmemoize)

theorem settles_settle (hr : r.Accounted) (hcached : r.cached? d = none) (hscalar : r.scalar? d = none)
    {parts : List Converter}
    (hparts : r.memoize = true → List.Forall₂ r.KeepsFor (Recipe.of d).components parts) :
    let work := settle d (r.complete d parts)
    Settles (d.weight + 1) r (after work r) ∧ ∀ held, answer work r = .ok held → r.memoize = true →
      (after work r).cached? d = some held := by
  intro work
  obtain ⟨r', hsame, ⟨fault, hrun, -⟩ | ⟨held, hrun, horigin⟩⟩ :=
    run_settle r d (r.complete d parts)
  · rw [after, answer, hrun]
    exact ⟨⟨hsame.keepsMore _, hsame.accounted hr⟩, by simp⟩
  · have hmore := hsame.keepsMore (d.weight + 1)
    have hcached' : r'.cached? d = none := (hsame.cached? d).trans hcached
    rw [after, answer, hrun]
    refine ⟨⟨hmore.trans (keepsMore_remember hcached' held), ?_⟩, fun found hfound hm => ?_⟩
    · by_cases hm : r.memoize = true
      · refine (hsame.accounted hr).remember hcached' (Accounts.of_carriesOn ?_ hmore.carriesOn)
        obtain hassembled | ⟨hnothing, hserved⟩ := horigin
        · exact .assembled hscalar (hparts hm) hassembled
        · exact .served hscalar (Recipe.eq_plain_of_complete (hparts hm).length_eq.symm hnothing) hserved
      · have hm' : r'.memoize ≠ true := fun h => hm (memoize_of_frame hsame.frame ▸ h)
        rw [Registry.remember, if_neg hm']
        exact hsame.accounted hr
    · cases hfound
      exact cached?_remember_same ((memoize_of_frame hsame.frame).trans hm) d held

/-- Resolving a type settles, and a converter that is handed out is kept when the registry memoizes. By
induction on the weight of the type: the components weigh less, so what is kept on the way leaves the type
itself alone. -/
theorem settles_resolve {r : Registry} (hr : r.Accounted) (d : Descriptor) :
    Settles (d.weight + 1) r (after (resolve d) r) ∧
      ∀ held, answer (resolve d) r = .ok held → r.memoize = true →
        (after (resolve d) r).cached? d = some held := by
  cases hcached : r.cached? d with
  | some held =>
    rw [after, answer, run_resolve_of_cached hcached]
    refine ⟨⟨.refl _ _, hr⟩, fun found hfound _ => ?_⟩
    cases hfound
    exact hcached
  | none =>
    cases hscalar : r.scalar? d with
    | some held =>
      rw [after, answer, run_resolve_of_scalar hcached hscalar]
      refine ⟨⟨keepsMore_remember hcached held, hr.remember hcached (.registered hscalar)⟩, ?_⟩
      intro found hfound hm
      cases hfound
      exact cached?_remember_same hm d held
    | none =>
      have hcomponents : ∀ e ∈ (Recipe.of d).components, ∀ r : Registry, r.Accounted →
          Settles d.weight r (after (resolve e) r) ∧ ∀ held, answer (resolve e) r = .ok held →
            r.memoize = true → (after (resolve e) r).cached? e = some held := by
        intro e he r hr
        have hlt := Recipe.weight_components_lt d e he
        obtain ⟨hsettles, hkept⟩ := settles_resolve hr e
        exact ⟨⟨hsettles.keepsMore.mono hlt, hsettles.accounted⟩, hkept⟩
      obtain ⟨hsettles, hparts⟩ := settles_mapM hr hcomponents
      have hframe := hsettles.keepsMore.frame
      have hcached₁ := (hsettles.keepsMore.heavier d (Nat.le_refl _)).trans hcached
      have hscalar₁ := (scalar?_of_frame hframe d).trans hscalar
      rw [answer_resolve_of_unregistered hcached hscalar, after_resolve_of_unregistered hcached hscalar]
      cases hmap : answer ((Recipe.of d).components.mapM component) r with
      | error fault =>
        exact ⟨⟨hsettles.keepsMore.mono (by omega), hsettles.accounted⟩, by rintro held ⟨⟩⟩
      | ok parts =>
        have hmemoize := memoize_of_frame hframe
        obtain ⟨hlast, hkept⟩ := settles_settle hsettles.accounted hcached₁ hscalar₁ fun hm =>
          hparts parts hmap (hmemoize.symm.trans hm)
        rw [complete_of_frame hframe] at hlast hkept
        refine ⟨⟨(hsettles.keepsMore.mono (by omega)).trans hlast.keepsMore, hlast.accounted⟩, ?_⟩
        intro held hheld hm
        exact hkept held hheld (hmemoize.trans hm)
termination_by d.weight

theorem length_of_answer_mapM {es : List Descriptor} {parts : List Converter}
    (h : answer (es.mapM component) r = .ok parts) : parts.length = es.length := by
  induction es generalizing r parts with
  | nil =>
    cases h
    rfl
  | cons e rest ih =>
    rw [answer_mapM_cons] at h
    obtain ⟨c, _, h⟩ := bind_eq_ok_iff.mp h
    obtain ⟨cs, hrest, rfl⟩ := map_eq_ok_iff.mp h
    rw [List.length_cons, List.length_cons, ih hrest]

theorem run_component_of_cached {held : Held} (h : r.cached? d = some held) :
    (component d).run.run r = (.ok held.converter, r) := by
  rw [component, run_bind, run_resolve_of_cached h]
  rfl

theorem run_mapM_of_keepsFor {es : List Descriptor} {parts : List Converter}
    (h : List.Forall₂ r.KeepsFor es parts) : (es.mapM component).run.run r = (.ok parts, r) := by
  induction h with
  | nil => rfl
  | cons hfirst _ ih =>
    obtain ⟨held, hheld, rfl⟩ := hfirst
    rw [List.mapM_cons, run_bind, run_component_of_cached hheld]
    dsimp only
    rw [run_bind, ih]
    rfl

/-- A type with a recipe gets what its recipe makes of the converters of its components, whether they and
the type are kept already or not. -/
theorem Accounted.answer_component_of_recipe (hr : r.Accounted) (hscalar : r.scalar? d = none)
    (hrecipe : Recipe.of d ≠ .plain) :
    (answer (component d) r).map some =
      answer ((Recipe.of d).components.mapM component) r >>= r.complete d := by
  cases hcached : r.cached? d with
  | some held =>
    rw [answer, run_component_of_cached hcached]
    cases hr d held hcached with
    | registered h =>
      rw [hscalar] at h
      cases h
    | assembled _ hparts h =>
      rw [answer, run_mapM_of_keepsFor hparts]
      exact h.symm
    | served _ hplain => contradiction
  | none =>
    rw [answer_component, answer_resolve_of_unregistered hcached hscalar]
    cases hparts : answer ((Recipe.of d).components.mapM component) r with
    | error fault => rfl
    | ok parts =>
      change (Except.map _ (answer (settle d (r.complete d parts)) _)).map some = r.complete d parts
      cases hcomplete : r.complete d parts with
      | error fault => rfl
      | ok assembled =>
        cases assembled with
        | some c => rfl
        | none => exact absurd (Recipe.eq_plain_of_complete (length_of_answer_mapM hparts) hcomplete) hrecipe

theorem Accounted.answer_component_of_scalar (hr : r.Accounted) {held : Held}
    (h : r.scalar? d = some held) : answer (component d) r = .ok held.converter := by
  cases hcached : r.cached? d with
  | none => rw [answer_component, answer, run_resolve_of_scalar hcached h]; rfl
  | some kept =>
    rw [answer, run_component_of_cached hcached]
    cases hr d kept hcached with
    | registered hkept => rw [Option.some.inj (hkept.symm.trans h)]
    | assembled hnone | served hnone =>
      rw [hnone] at h
      cases h

/-- A type without a recipe is served, whether its converter is kept already or not. -/
theorem Accounted.servedBy_of_plain (hr : r.Accounted) (hscalar : r.scalar? d = none)
    (hplain : Recipe.of d = .plain) {c : Converter} (h : answer (component d) r = .ok c) :
    r.ServedBy d c := by
  cases hcached : r.cached? d with
  | some kept =>
    rw [answer, run_component_of_cached hcached] at h
    cases h
    cases hr d kept hcached with
    | registered hkept =>
      rw [hscalar] at hkept
      cases hkept
    | assembled _ hparts hassembled =>
      rw [hplain] at hparts
      cases hparts
      rw [complete, hplain] at hassembled
      cases hassembled
    | served _ _ hserved => exact hserved
  | none =>
    have hnothing : r.complete d [] = .ok none := by
      rw [complete, hplain]
      rfl
    rw [answer_component, answer_resolve_of_unregistered hcached hscalar, hplain] at h
    obtain ⟨held, hheld, rfl⟩ := map_eq_ok_iff.mp h
    change answer (settle d (r.complete d [])) r = .ok held at hheld
    rw [hnothing] at hheld
    obtain ⟨r', -, ⟨fault, hrun, -⟩ | ⟨served, hrun, hassembled | ⟨-, hserved⟩⟩⟩ := run_settle r d (.ok none)
    · rw [answer, hrun] at hheld
      cases hheld
    · cases hassembled
    · rw [answer, hrun] at hheld
      cases hheld
      exact hserved

/-- A registry that was new, and that was used in any way since; editors may have been registered and
taken away in between. -/
inductive Handled : Registry → Prop
  | new {r : Registry} (h : r.cache = {}) : Handled r
  | use {r : Registry} (h : Handled r) (use : Use) : Handled (r.reply use).2
  | registerEditor {r : Registry} (h : Handled r) (c : ClassRef) (kind : EditorKind) :
      Handled (r.registerEditor c kind)
  | unregisterEditor {r : Registry} (h : Handled r) (c : ClassRef) : Handled (r.unregisterEditor c)

/-- What accounts for a kept converter has nothing to do with the editors that are registered now, nor with
what they were given. -/
theorem Accounted.of_editors (hr : r.Accounted) (table : EditorTable) (b : Bench)
    (journal : List LogRecord) : Accounted { r with editors := table, bench := b, journal } := by
  have hsame : r.CarriesOn { r with editors := table, bench := b, journal } :=
    ⟨fun _ => rfl, fun _ _ => rfl, rfl, fun _ _ h => h⟩
  exact fun d held hd => (hr d held hd).of_carriesOn hsame

theorem accounted_of_cache_empty (h : r.cache = {}) : r.Accounted := by
  intro d held hd
  rw [cached?, h] at hd
  split at hd <;> cases hd

/-- However a registry came to be what it is, all that it keeps is accounted for. -/
theorem Handled.accounted (hr : r.Handled) : r.Accounted := by
  induction hr with
  | new h => exact accounted_of_cache_empty h
  | @use r _ use ih =>
    cases use with
    | put | remove => exact accounted_of_cache_empty rfl
    | contains => exact ih
    | resolve d => exact (settles_resolve ih d).1.accounted
    | convert value d =>
      obtain ⟨b, hb⟩ := exists_after_convert r value d
      change (after (convert value d) r).Accounted
      rw [hb]
      exact (settles_resolve ih d).1.accounted.of_editors _ b _
  | registerEditor _ c kind ih => exact ih.of_editors _ _ _
  | unregisterEditor _ c ih => exact ih.of_editors _ _ _

theorem Handled.session (hr : r.Handled) (uses : List Use) : (r.session uses).2.Handled := by
  induction uses generalizing r with
  | nil => exact hr
  | cons use rest ih => exact ih (hr.use use)

theorem Used.handled (h : r.Used) : r.Handled := by
  obtain ⟨new, uses, hnew, rfl⟩ := h
  exact (Handled.new hnew).session uses

end Registry

end SettingText
