import SettingText.Proofs.Converter.Confined
import SettingText.Proofs.Converter.Order
import SettingText.Proofs.Registry.Used

/-!
The test of the prefixes holds through every composition. A registry that leaves the test to its
resolvers does as the registry does, use after use. So two registries whose resolvers agree on the names
with an allowed prefix can never be told apart.
-/

namespace SettingText

def Held.confined (held : Held) : Held := { held with converter := held.converter.confined }

def Offer.confined (offer : Offer) : Offer := { offer with converter := offer.converter.confined }

namespace Shelf

def confined (s : Shelf) : Shelf := ⟨s.entries.map fun entry => (entry.1, entry.2.confined)⟩

theorem find?_confined (s : Shelf) (d : Descriptor) :
    s.confined.find? d = (s.find? d).map Held.confined := by
  simp only [confined, find?, List.find?_map, Option.map_map]
  rfl

theorem confined_erase (s : Shelf) (d : Descriptor) : (s.erase d).confined = s.confined.erase d := by
  simp only [confined, erase, List.filter_map]
  rfl

theorem confined_put (s : Shelf) (d : Descriptor) (held : Held) :
    (s.put d held).confined = s.confined.put d held.confined := by
  simp only [confined, put, List.map_cons, List.filter_map]
  rfl

end Shelf

namespace Registry

variable {α β γ δ : Type} {r : Registry} {d : Descriptor}

/-- The registry in which every test of a prefix is left to the resolvers. -/
def confined (r : Registry) : Registry :=
  { r with
    scalars := r.scalars.confined
    cache := r.cache.confined
    fallback := fun c => (r.fallback c).map Offer.confined
    resolver := r.resolver.within r.prefixes
    prefixes := [] }

theorem scalar?_confined (r : Registry) (d : Descriptor) :
    r.confined.scalar? d = (r.scalar? d).map Held.confined := by
  rw [scalar?, scalar?, confined, Shelf.find?_confined]
  cases r.scalars.find? d with
  | none => rfl
  | some held =>
    simp only [Option.map_some, Option.filter, Held.confined, Converter.isPresent_confined]
    split <;> rfl

theorem cached?_confined (r : Registry) (d : Descriptor) :
    r.confined.cached? d = (r.cached? d).map Held.confined := by
  rw [cached?, cached?, confined, Shelf.find?_confined]
  split <;> rfl

theorem originScalar?_confined (r : Registry) (d : Descriptor) :
    r.confined.originScalar? d = (r.originScalar? d).map Held.confined := by
  cases d with
  | shape origin args => exact scalar?_confined r _
  | _ => rfl

theorem confined_remember (r : Registry) (d : Descriptor) (held : Held) :
    (r.remember d held).confined = r.confined.remember d held.confined := by
  cases hm : r.memoize <;> simp [remember, confined, hm, Shelf.confined_put]

/-- The work on the confined registry mirrors that on the registry: it gives what that gives, changed in
    one way, and leaves what that leaves, confined. -/
def Mirrors (f : α → β) (r : Registry) (work : RegistryM α) (mirror : RegistryM β) : Prop :=
  mirror.run.run r.confined = ((work.run.run r).1.map f, (work.run.run r).2.confined)

theorem Mirrors.pure {f : α → β} (a : α) : Mirrors f r (Pure.pure a) (Pure.pure (f a)) := rfl

theorem Mirrors.throw {f : α → β} (fault : Fault) :
    Mirrors f r (MonadExcept.throw fault) (MonadExcept.throw fault) := rfl

theorem Mirrors.get {f : α → β} {work : Registry → RegistryM α} {mirror : Registry → RegistryM β}
    (h : Mirrors f r (work r) (mirror r.confined)) :
    Mirrors f r (MonadState.get >>= work) (MonadState.get >>= mirror) := h

theorem Mirrors.bind {f : α → β} {g : γ → δ} {work : RegistryM α} {mirror : RegistryM β}
    {next : α → RegistryM γ} {next' : β → RegistryM δ} (h : Mirrors f r work mirror)
    (hnext : ∀ a r', Mirrors g r' (next a) (next' (f a))) :
    Mirrors g r (work >>= next) (mirror >>= next') := by
  rw [Mirrors] at h
  rw [Mirrors, run_bind, run_bind, h]
  rcases work.run.run r with ⟨outcome, r'⟩
  cases outcome with
  | error fault => rfl
  | ok a => exact hnext a r'

theorem mirrors_modify {change change' : Registry → Registry}
    (h : (change r).confined = change' r.confined) :
    Mirrors id r (modify change : RegistryM Unit) (modify change') := by
  change (Except.ok (), change' r.confined) = _
  rw [← h]
  rfl

theorem mirrors_assemble (resolver : NameResolver) (prefixes : List String) (recipe : Recipe)
    {part part' : (e : Descriptor) → e ∈ recipe.components → RegistryM Converter}
    (h : ∀ e he r', Mirrors Converter.confined r' (part e he) (part' e he)) :
    Mirrors (Option.map Converter.confined) r (assemble resolver prefixes recipe part)
      (assemble (resolver.within prefixes) [] recipe part') := by
  cases recipe with
  | plain | className => exact .pure _
  | none fault => exact .throw fault
  | optional | collection => exact (h _ _ r).bind fun _ _ => .pure _
  | array element =>
    refine (h _ _ r).bind fun inner r' => ?_
    cases elementOf element with
    | other shown => exact .throw _
    | type d => exact .pure _
  | entry | map =>
    refine (h _ _ r).bind fun _ r₁ => ?_
    exact (h _ _ r₁).bind fun _ _ => .pure _

theorem mirrors_noting (record : LogRecord) : Mirrors id r (noting record) (noting record) := rfl

theorem mirrors_holding (c : Converter) :
    Mirrors Held.confined r (holding c) (holding c.confined) := rfl

theorem mirrors_serve (r : Registry) (d : Descriptor) :
    Mirrors Held.confined r (serve d) (serve d) := by
  rw [serve]
  refine .get ?_
  rw [originScalar?_confined]
  cases r.originScalar? d with
  | some held => exact .pure held
  | none =>
    dsimp only [confined, Option.map_none]
    cases r.editors.find? r.classes d.rawClass with
    | some kind => rfl
    | none =>
      dsimp only
      cases r.fallback d.rawClass with
      | none => exact .throw _
      | some offer =>
        obtain ⟨c, method⟩ := offer
        have hhold (r' : Registry) : Mirrors Held.confined r'
            (noting (.viaFallback c.shown d.text) >>= fun _ => holding c)
            (noting (.viaFallback c.confined.shown d.text) >>= fun _ => holding c.confined) := by
          rw [Converter.shown_confined]
          exact (mirrors_noting _).bind fun _ _ => mirrors_holding c
        cases method with
        | none => exact hhold _
        | some name => exact (mirrors_noting _).bind fun _ r₁ => hhold r₁

theorem mirrors_resolve (r : Registry) (d : Descriptor) :
    Mirrors Held.confined r (resolve d) (resolve d) := by
  have hkeep (held : Held) (r : Registry) : Mirrors Held.confined r
      (do modify (·.remember d held); return held)
      (do modify (·.remember d held.confined); return held.confined) :=
    (mirrors_modify (confined_remember r d held)).bind fun _ _ => .pure held
  rw [resolve]
  refine .get ?_
  rw [cached?_confined]
  cases r.cached? d with
  | some held => exact .pure held
  | none =>
    dsimp only [Option.map_none]
    rw [scalar?_confined]
    cases r.scalar? d with
    | some held => exact hkeep held r
    | none =>
      dsimp only [Option.map_none]
      have hparts : Mirrors (Option.map Converter.confined) r
          (assemble r.resolver r.prefixes (Recipe.of d) fun e _ => do return (← resolve e).converter)
          (assemble (r.resolver.within r.prefixes) [] (Recipe.of d) fun e _ => do
            return (← resolve e).converter) := by
        -- a type is resolved by resolving its components, which weigh less
        refine mirrors_assemble _ _ _ fun e he r' => ?_
        have hlt := Recipe.weight_components_lt d e he
        exact (mirrors_resolve r' e).bind fun held _ => .pure held.converter
      refine hparts.bind fun assembled r₁ => ?_
      cases assembled with
      | some c =>
        dsimp only [Option.map_some]
        rw [Converter.shown_confined]
        refine (mirrors_noting _).bind fun _ r₂ => ?_
        exact (mirrors_holding c).bind fun held r₃ => hkeep held r₃
      | none => exact (mirrors_serve r₁ d).bind fun held r₂ => hkeep held r₂
termination_by d.weight

theorem mirrors_apply (r : Registry) (c : Converter) (value : Option Setting) :
    Mirrors id r (apply c value) (apply c.confined value) := by
  rw [Mirrors, run_apply, run_apply, Converter.convert_confined]
  exact Prod.ext (congrFun Except.map_id _).symm rfl

theorem mirrors_convert (r : Registry) (value : Option Setting) (d : Descriptor) :
    Mirrors id r (convert value d) (convert value d) :=
  (mirrors_resolve r d).bind fun held r' => mirrors_apply r' held.converter value

end Registry

/-- A use in which every test of a prefix is left to the resolver. -/
def Use.confined : Use → Use
  | put d c => put d c.confined
  | use => use

namespace Registry

variable {r : Registry}

theorem confined_reply (r : Registry) (use : Use) :
    (r.reply use).2.confined = (r.confined.reply use.confined).2 := by
  cases use with
  | put d c =>
    simp only [reply, put, hold, putHeld, note, confined, Use.confined, Shelf.confined_put]
    rfl
  | remove d =>
    simp only [reply, remove, confined, Use.confined, Shelf.confined_erase]
    rfl
  | contains d => rfl
  | resolve d =>
    have hmirrors := congrArg Prod.snd (mirrors_resolve r d)
    exact hmirrors.symm
  | convert value d =>
    have hmirrors := congrArg Prod.snd (mirrors_convert r value d)
    exact hmirrors.symm

theorem confined_session (r : Registry) (uses : List Use) :
    (r.session uses).2.confined = (r.confined.session (uses.map Use.confined)).2 := by
  induction uses generalizing r with
  | nil => rfl
  | cons use rest ih =>
    have hrest := ih (r.reply use).2
    rw [confined_reply] at hrest
    exact hrest

theorem answer_convert_confined (r : Registry) (value : Option Setting) (d : Descriptor) :
    answer (convert value d) r.confined = answer (convert value d) r := by
  have hmirrors := congrArg Prod.fst (mirrors_convert r value d)
  rw [answer, answer, hmirrors]
  exact congrFun Except.map_id _

theorem confined_shareAmong (r : Registry) (types : List Descriptor) (c : Converter) :
    (r.shareAmong types c).confined = r.confined.shareAmong types c.confined := by
  have hshelf (held : Held) (shelf : Shelf) :
      (types.foldl (fun shelf d => shelf.put d held) shelf).confined =
        types.foldl (fun shelf d => shelf.put d held.confined) shelf.confined := by
    induction types generalizing shelf with
    | nil => rfl
    | cons d rest ih => rw [List.foldl_cons, ih, Shelf.confined_put, List.foldl_cons]
  simp only [shareAmong, hold, confined, hshelf]
  rfl

theorem confined_withBuiltins (r : Registry) :
    r.withBuiltins.confined = r.confined.withBuiltins := by
  have hfold (table : List (List Descriptor × Converter)) (r : Registry) :
      (table.foldl (fun r entry => r.shareAmong entry.1 entry.2) r).confined =
        (table.map fun entry => (entry.1, entry.2.confined)).foldl
          (fun r entry => r.shareAmong entry.1 entry.2) r.confined := by
    induction table generalizing r with
    | nil => rfl
    | cons entry rest ih => rw [List.foldl_cons, ih, confined_shareAmong, List.map_cons, List.foldl_cons]
  exact hfold (builtinScalars r.resolver r.prefixes) r

/-- A registry with the converters every program starts with and no others, which looks for classes by a
    resolver and allows names with some prefixes. -/
def restricted (base : Registry) (resolver : NameResolver) (prefixes : List String) : Registry :=
  withBuiltins { base with scalars := {}, cache := {}, resolver, prefixes }

/-- A type whose values are classes: any classes, or those below a bound. -/
inductive IsClassReference : Descriptor → Prop
  | any : IsClassReference (.plain (.builtin "type"))
  | below (bound rest) : IsClassReference (.shape (.cls (.builtin "type")) (bound :: rest))

theorem exists_build_of_isClassReference (base : Registry) (resolver : NameResolver)
    (prefixes : List String) (h : IsClassReference d) :
    ∃ bound, (base.restricted resolver prefixes).catalogue.build d =
      .ok (.className resolver bound prefixes) := by
  cases h with
  | any => exact ⟨.cls .object, Catalogue.build_of_registered rfl⟩
  | below bound rest =>
    refine ⟨.cls bound.rawClass, ?_⟩
    rw [Catalogue.build_of_className rfl rfl]
    rfl

theorem confined_restricted (base : Registry) (resolver : NameResolver) (prefixes : List String) :
    (base.restricted resolver prefixes).confined =
      base.confined.restricted (resolver.within prefixes) [] :=
  confined_withBuiltins _

/-- Registries that are the same once the tests are left to the resolvers convert alike, whatever they
    were used for before. -/
theorem answer_convert_session_eq {r₁ r₂ : Registry} (h : r₁.confined = r₂.confined)
    (uses : List Use) (value : Option Setting) (d : Descriptor) :
    answer (convert value d) (r₁.session uses).2 = answer (convert value d) (r₂.session uses).2 := by
  have hfirst := answer_convert_confined (r₁.session uses).2 value d
  have hsecond := answer_convert_confined (r₂.session uses).2 value d
  rw [confined_session] at hfirst hsecond
  rw [← hfirst, ← hsecond, h]

theorem catalogue_conversions (r : Registry) (conversions : List (Option Setting × Descriptor)) :
    (r.session (conversions.map fun c => .convert c.1 c.2)).2.catalogue = r.catalogue := by
  rw [catalogue_session]
  induction conversions with
  | nil => rfl
  | cons c rest ih => exact ih

/-- In a restricted registry in which nothing but conversions was done, class references resolve to class
    converters that test the prefixes. -/
theorem exists_resolves_of_isClassReference (base : Registry) (resolver : NameResolver)
    (prefixes : List String) (h : IsClassReference d) (conversions : List (Option Setting × Descriptor)) :
    ∃ held bound, answer (resolve d)
        ((base.restricted resolver prefixes).session (conversions.map fun c => .convert c.1 c.2)).2 =
          .ok held ∧
      held.converter = .className resolver bound prefixes := by
  have hnew : (base.restricted resolver prefixes).cache = {} := cache_withBuiltins _
  have hcoherent := (coherent_of_cache_empty hnew).session
    (conversions.map fun c => .convert c.1 c.2)
  obtain ⟨bound, hbuild⟩ := exists_build_of_isClassReference base resolver prefixes h
  rw [← catalogue_conversions _ conversions] at hbuild
  obtain ⟨held, hheld, hlike⟩ := hcoherent.resolves_of_build hbuild
  exact ⟨held, bound, hheld, Converter.eq_className_of_alike hlike⟩

/-- A class name without an allowed prefix is reported as a malformed text, wherever in a setting the
    conversion comes to it. -/
theorem answer_convert_of_comesTo {held : Held} {s piece : Setting} {raw : String} {b : Bench}
    {resolver : NameResolver} {bound : ClassBound} {prefixes : List String} (hne : prefixes ≠ [])
    (hheld : answer (resolve d) r = .ok held)
    (hcomes : Converter.ComesTo r.classes (.className resolver bound prefixes) piece b
      held.converter s r.bench)
    (hraw : piece.raw = some raw) (houtside : ∀ p ∈ prefixes, (Text.strip raw).startsWith p = false) :
    answer (convert (some s) d) r =
      .error (.malformed (some raw) (ClassFault.outsidePrefixes (Text.strip raw)).message (some piece)
        (some "type") (some .lookup)) := by
  rw [(convert_of_resolves hheld (some s)).1]
  refine hcomes.on_eq_error ?_
  rw [Converter.convert_className_of_outside _ _ _ hraw hne houtside]
  rfl

/-- The restriction to prefixes holds through every composition. Registries whose resolvers agree on the
    names with an allowed prefix convert alike to every type, whatever they were used for before. They
    convert as a registry without prefixes whose resolver refuses every other name. Class references
    resolve to converters that test the prefixes; and where a conversion comes to a class name that has
    none of them, it reports that fragment as a malformed text. -/
theorem class_prefixes_confine (base : Registry) {prefixes : List String} (hne : prefixes ≠ [])
    {first second : NameResolver}
    (hagree : ∀ name, (∃ p ∈ prefixes, name.startsWith p = true) → first name = second name) :
    (∀ uses value d,
      answer (convert value d) ((base.restricted first prefixes).session uses).2 =
          answer (convert value d) ((base.restricted second prefixes).session uses).2 ∧
        answer (convert value d) ((base.restricted first prefixes).session uses).2 =
          answer (convert value d) ((base.restricted (first.within prefixes) []).session uses).2) ∧
    (∀ (conversions : List (Option Setting × Descriptor)) (d : Descriptor), IsClassReference d →
      ∃ held bound, answer (resolve d)
          ((base.restricted first prefixes).session (conversions.map fun c => .convert c.1 c.2)).2 =
            .ok held ∧
        held.converter = .className first bound prefixes) ∧
    ∀ (r : Registry) (d : Descriptor) (held : Held) (s piece : Setting) (raw : String)
      (resolver : NameResolver) (bound : ClassBound) (b : Bench), answer (resolve d) r = .ok held →
      Converter.ComesTo r.classes (.className resolver bound prefixes) piece b held.converter s r.bench →
      piece.raw = some raw → (∀ p ∈ prefixes, (Text.strip raw).startsWith p = false) →
      answer (convert (some s) d) r =
        .error (.malformed (some raw) (ClassFault.outsidePrefixes (Text.strip raw)).message (some piece)
          (some "type") (some .lookup)) := by
  refine ⟨?_, fun conversions d hreference => ?_, ?_⟩
  · intro uses value d
    constructor
    · refine answer_convert_session_eq ?_ uses value d
      rw [confined_restricted, confined_restricted, NameResolver.within_eq hne hagree]
    · refine answer_convert_session_eq ?_ uses value d
      rw [confined_restricted, confined_restricted, NameResolver.within_nil]
  · exact exists_resolves_of_isClassReference base first prefixes hreference conversions
  · intro r d held s piece raw resolver bound b hheld hcomes hraw houtside
    exact answer_convert_of_comesTo hne hheld hcomes hraw houtside

/-- Two resolvers that find nothing in one module, and differ on every other name. -/
theorem class_prefixes_confine_module :
    let base : Registry := { classes := ⟨[], [], [], []⟩ }
    let first : NameResolver := fun name => .error (.notImportable name)
    let second : NameResolver := fun name =>
      if name.startsWith "fractions." then .error (.notImportable name) else .ok (.cls (.builtin "int"))
    let value : Setting := .ofText (some "os.path")
    let d : Descriptor := .optional (.plain (.builtin "type"))
    let r := ((base.restricted first ["fractions."]).session []).2
    answer (convert (some value) d) r =
        answer (convert (some value) d) ((base.restricted second ["fractions."]).session []).2 ∧
      (∃ held bound, answer (resolve (.plain (.builtin "type"))) r = .ok held ∧
        held.converter = .className first bound ["fractions."]) ∧
      answer (convert (some value) d) r =
        .error (.malformed (some "os.path") (ClassFault.outsidePrefixes "os.path").message (some value)
          (some "type") (some .lookup)) := by
  intro base first second value d r
  have hagree : ∀ name, (∃ p ∈ ["fractions."], name.startsWith p = true) → first name = second name := by
    intro name hname
    have hstarts : name.startsWith "fractions." = true := by simpa using hname
    simp only [first, second, hstarts, if_true]
  obtain ⟨halike, hreferences, hreports⟩ := class_prefixes_confine base (by decide) hagree
  have hnew : r.cache = {} := cache_withBuiltins _
  have hbuild : r.catalogue.build d = .ok (.optional (.className first (.cls .object) ["fractions."])) := by
    rw [Catalogue.build_of_optional rfl rfl, Catalogue.build_of_registered rfl]
    rfl
  obtain ⟨⟨serial, c⟩, hheld, hlike⟩ := (coherent_of_cache_empty hnew).resolves_of_build hbuild
  obtain ⟨_, rfl, hinner⟩ := Converter.exists_of_alike_optional hlike
  obtain rfl := Converter.eq_className_of_alike hinner
  have hstrip : Text.strip "os.path" = "os.path" := by decide +kernel
  have hreport := hreports r d _ value value "os.path" first (.cls .object) r.bench hheld
    (.optional rfl .self) rfl (by
      rw [hstrip]
      decide +kernel)
  rw [hstrip] at hreport
  exact ⟨(halike [] (some value) d).1, hreferences [] _ .any, hreport⟩

end Registry

end SettingText
