import SettingText.Proofs.Registry.Memoization

/-!
Registries in use, whatever their editors go by. Resolving a type leaves everything in a registry as
it is but its numbers, its journal and the converters it keeps, and every use leaves a coherent
registry coherent.
-/

namespace SettingText.Registry

variable {α β : Type} {r : Registry} {d : Descriptor}

/-- The registry without what resolving a type may change in it. -/
def frame (r : Registry) : Registry :=
  { r with
    cache := if r.memoize then {} else r.cache
    nextSerial := 0
    nextEditor := 0
    journal := [] }

/-- The work leaves the frame of the registry as it is, whether it succeeds or not. -/
def Frames (r : Registry) (work : RegistryM α) : Prop := (after work r).frame = r.frame

theorem Frames.pure (a : α) : r.Frames (Pure.pure a) := rfl

theorem Frames.throw (fault : Fault) : r.Frames (MonadExcept.throw fault : RegistryM α) := rfl

theorem Frames.modify {f : Registry → Registry} (h : (f r).frame = r.frame) :
    r.Frames (modify f : RegistryM Unit) := h

theorem Frames.modifyGet {f : Registry → α × Registry} (h : (f r).2.frame = r.frame) :
    r.Frames (modifyGet f : RegistryM α) := h

theorem Frames.get {f : Registry → RegistryM α} (h : r.Frames (f r)) :
    r.Frames (MonadState.get >>= f) := h

/-- Work after work leaves the frame as it is when both do. -/
theorem Frames.bind {work : RegistryM α} {f : α → RegistryM β} (h : r.Frames work)
    (hf : ∀ a (r' : Registry), r'.frame = r.frame → r'.Frames (f a)) : r.Frames (work >>= f) := by
  have hrun := run_bind work f r
  rw [Frames, after] at h
  rcases hw : work.run.run r with ⟨outcome, r'⟩
  rw [hw] at h hrun
  rw [Frames, after, hrun]
  cases outcome with
  | error fault => exact h
  | ok a => exact (hf a r' h).trans h

theorem frame_remember (r : Registry) (d : Descriptor) (held : Held) :
    (r.remember d held).frame = r.frame := by
  cases hm : r.memoize <;> simp [remember, frame, hm]

theorem frames_noting (record : LogRecord) : r.Frames (noting record) := rfl

theorem frames_holding (c : Converter) : r.Frames (holding c) := rfl

theorem frames_assemble (resolver : NameResolver) (prefixes : List String) (recipe : Recipe)
    {part : (e : Descriptor) → e ∈ recipe.components → RegistryM Converter}
    (h : ∀ e he (r' : Registry), r'.frame = r.frame → r'.Frames (part e he)) :
    r.Frames (assemble resolver prefixes recipe part) := by
  cases recipe with
  | plain | className => exact .pure _
  | none fault => exact .throw fault
  | optional | collection => exact (h _ _ r rfl).bind fun _ _ _ => .pure _
  | array element =>
    refine (h _ _ r rfl).bind fun inner r' _ => ?_
    cases Converter.arrayOf (elementOf element) (.collection (.sequence fun _ => []) inner .asIs) with
    | ok c => exact .pure _
    | error fault => exact .throw fault
  | entry | map =>
    refine (h _ _ r rfl).bind fun _ r₁ h₁ => ?_
    exact (h _ _ r₁ h₁).bind fun _ _ _ => .pure _

theorem frames_serve (r : Registry) (d : Descriptor) : r.Frames (serve d) := by
  rw [serve]
  refine .get ?_
  cases r.originScalar? d with
  | some held => exact .pure held
  | none =>
    dsimp only
    cases r.editors.find? r.classes d.rawClass with
    | some kind =>
      refine (frames_noting _).bind fun _ r₁ _ => ?_
      exact .bind (.modifyGet rfl) fun _ _ _ => frames_holding _
    | none =>
      dsimp only
      cases r.fallback d.rawClass with
      | none => exact .throw _
      | some offer =>
        obtain ⟨c, method⟩ := offer
        have hhold : ∀ r' : Registry, r'.Frames (noting (.viaFallback c.shown d.text) >>= fun _ =>
            holding c) := fun _ => (frames_noting _).bind fun _ _ _ => frames_holding c
        cases method with
        | none => exact .bind (.pure _) fun _ r₁ _ => hhold r₁
        | some name => exact (frames_noting _).bind fun _ r₁ _ => hhold r₁

/-- Resolving a type leaves the frame of a registry as it is. -/
theorem frames_resolve (r : Registry) (d : Descriptor) : r.Frames (resolve d) := by
  rw [resolve]
  refine .get ?_
  have hkeep : ∀ (held : Held) (r : Registry), r.Frames (do modify (·.remember d held); return held) :=
    fun held r => .bind (.modify (frame_remember r d held)) fun _ _ _ => .pure held
  cases r.cached? d with
  | some held => exact .pure held
  | none =>
    dsimp only
    cases r.scalar? d with
    | some held => exact hkeep held r
    | none =>
      refine .bind (frames_assemble _ _ _ fun e he r' _ => ?_) fun assembled r₁ _ => ?_
      · -- A type is resolved by resolving its components, which weigh less.
        have := Recipe.weight_components_lt d e he
        exact (frames_resolve r' e).bind fun _ _ _ => .pure _
      · cases assembled with
        | some c =>
          refine (frames_noting _).bind fun _ r₂ _ => ?_
          exact (frames_holding c).bind fun held r₃ _ => hkeep held r₃
        | none => exact (frames_serve r₁ d).bind fun held r₂ _ => hkeep held r₂
termination_by d.weight

theorem catalogue_after_resolve (r : Registry) (d : Descriptor) :
    (after (resolve d) r).catalogue = r.catalogue :=
  (congrArg catalogue (frames_resolve r d) :)

/-- Resolving gives nothing to an editor. -/
theorem bench_after_resolve (r : Registry) (d : Descriptor) :
    (after (resolve d) r).bench = r.bench :=
  (congrArg bench (frames_resolve r d) :)

theorem memoize_after_resolve (r : Registry) (d : Descriptor) :
    (after (resolve d) r).memoize = r.memoize :=
  (congrArg memoize (frames_resolve r d) :)

theorem cache_after_resolve (h : r.memoize = false) (d : Descriptor) :
    (after (resolve d) r).cache = r.cache := by
  have hcache := congrArg cache (frames_resolve r d)
  simpa [frame, memoize_after_resolve, h] using hcache

/-- Converting to a type that resolves is the work of the converter handed out for it, which changes
nothing more than the sheets of its editors. -/
theorem convert_of_resolves {held : Held} (h : answer (resolve d) r = .ok held)
    (value : Option Setting) :
    answer (convert value d) r = (held.converter.convert r.classes value).on r.bench ∧
      after (convert value d) r = { after (resolve d) r with
        bench := ((held.converter.convert r.classes value).run.run r.bench).2 } := by
  have hclasses : (after (resolve d) r).classes = r.classes :=
    congrArg Catalogue.classes (catalogue_after_resolve r d)
  have hbench := bench_after_resolve r d
  have hrun := run_bind (resolve d) (fun held => apply held.converter value) r
  rw [after] at hclasses hbench
  rw [answer] at h
  rw [← hclasses, ← hbench, answer, after, after, convert, hrun]
  rcases hr : (resolve d).run.run r with ⟨outcome, r'⟩
  rw [hr] at h
  cases h
  dsimp only
  rw [run_apply]
  exact ⟨rfl, rfl⟩

/-- Converting to a type that does not resolve fails as resolving it does. -/
theorem convert_of_not_resolves {fault : Fault} (h : answer (resolve d) r = .error fault)
    (value : Option Setting) :
    answer (convert value d) r = .error fault ∧
      after (convert value d) r = after (resolve d) r := by
  have hrun := run_bind (resolve d) (fun held => apply held.converter value) r
  rw [answer] at h
  rw [answer, after, after, convert, hrun]
  rcases hr : (resolve d).run.run r with ⟨outcome, r'⟩
  rw [hr] at h
  cases h
  exact ⟨rfl, rfl⟩

/-- Converting leaves in a registry what resolving does, but for the sheets of its editors. -/
theorem exists_after_convert (r : Registry) (value : Option Setting) (d : Descriptor) :
    ∃ b, after (convert value d) r = { after (resolve d) r with bench := b } := by
  cases h : answer (resolve d) r with
  | ok held => exact ⟨_, (convert_of_resolves h value).2⟩
  | error fault => exact ⟨_, (convert_of_not_resolves h value).2⟩

theorem catalogue_reply (r : Registry) (use : Use) :
    (r.reply use).2.catalogue = (use.expected r.catalogue).2 := by
  cases use with
  | put d c => exact catalogue_put r d c
  | remove d => exact catalogue_remove r d
  | contains d => rfl
  | resolve d => exact catalogue_after_resolve r d
  | convert value d =>
    obtain ⟨b, hb⟩ := exists_after_convert r value d
    change (after (convert value d) r).catalogue = r.catalogue
    rw [hb]
    exact catalogue_after_resolve r d

/-- A coherent registry is coherent behind a use of it. -/
theorem Coherent.reply (hr : r.Coherent) (use : Use) : (r.reply use).2.Coherent := by
  cases use with
  | put d c | remove d => exact coherent_of_cache_empty rfl
  | contains d => exact hr
  | resolve d => exact (follows_resolve hr d).coherent
  | convert value d =>
    obtain ⟨b, hb⟩ := exists_after_convert r value d
    change (after (convert value d) r).Coherent
    rw [hb]
    exact (follows_resolve hr d).coherent

theorem Coherent.session (hr : r.Coherent) (uses : List Use) : (r.session uses).2.Coherent := by
  induction uses generalizing r with
  | nil => exact hr
  | cons use rest ih => exact ih (hr.reply use)

/-- What a coherent registry makes of a setting at a type, when the editors in the converter of the
type answer by the latest text only. -/
theorem Coherent.answer_convert (hr : r.Coherent) {c : Converter}
    (hbuild : r.catalogue.build d = .ok c) (hc : c.IsPure) (value : Option Setting) :
    answer (convert value d) r = c.outcome r.classes value := by
  obtain ⟨held, hheld, hlike⟩ := hr.resolves_of_build hbuild
  have hpure := hlike.symm.isPure hc
  rw [(convert_of_resolves hheld value).1, hpure.on_eq_outcome, hlike.outcome_eq hpure]

/-- A registry that was new, and has been used in any way since, whatever its editors go by. -/
def Used (r : Registry) : Prop :=
  ∃ (new : Registry) (uses : List Use), new.cache = {} ∧ (new.session uses).2 = r

/-- A new registry has been used in no way yet. -/
theorem Used.of_new (hnew : r.cache = {}) : r.Used := ⟨r, [], hnew, rfl⟩

theorem Used.coherent (h : r.Used) : r.Coherent := by
  obtain ⟨new, uses, hnew, rfl⟩ := h
  exact (coherent_of_cache_empty hnew).session uses

/-- A registry that does not memoize keeps nothing. -/
def KeepsByMemoizing (r : Registry) : Prop := r.memoize = false → r.cache = {}

theorem KeepsByMemoizing.reply (hr : r.KeepsByMemoizing) (use : Use) :
    (r.reply use).2.KeepsByMemoizing := by
  have hresolve : ∀ d, (after (resolve d) r).KeepsByMemoizing := by
    intro d hm
    rw [memoize_after_resolve] at hm
    rw [cache_after_resolve hm, hr hm]
  cases use with
  | put d c | remove d => exact fun _ => rfl
  | contains d => exact hr
  | resolve d => exact hresolve d
  | convert value d =>
    obtain ⟨b, hb⟩ := exists_after_convert r value d
    change (after (convert value d) r).KeepsByMemoizing
    rw [hb]
    exact hresolve d

theorem Used.keepsByMemoizing (h : r.Used) : r.KeepsByMemoizing := by
  obtain ⟨new, uses, hnew, rfl⟩ := h
  have hkeeps : new.KeepsByMemoizing := fun _ => hnew
  clear hnew
  induction uses generalizing new with
  | nil => exact hkeeps
  | cons use rest ih => exact ih _ (hkeeps.reply use)

/-- The catalogue behind a session hangs on the catalogue before it alone. -/
theorem catalogue_session (r : Registry) (uses : List Use) :
    (r.session uses).2.catalogue = uses.foldl (fun k use => (use.expected k).2) r.catalogue := by
  induction uses generalizing r with
  | nil => rfl
  | cons use rest ih =>
    rw [List.foldl_cons, ← catalogue_reply]
    exact ih _

/-- Two held converters are alike. -/
def HeldAlike (held held' : Held) : Prop := held.converter.Alike held'.converter

/-- Coherent registries resolve a type alike when their catalogues build the same converter for it. -/
theorem Coherent.resolve_agrees_of_build {r₁ r₂ : Registry} (h₁ : r₁.Coherent) (h₂ : r₂.Coherent)
    (hsame : r₂.catalogue.build d = r₁.catalogue.build d) :
    Agree HeldAlike (answer (resolve d) r₁) (answer (resolve d) r₂) := by
  have hplan := (follows_resolve h₂ d).agree.symm fun held c (h : HeldLike held c) =>
    Converter.Alike.symm h
  rw [hsame] at hplan
  refine (follows_resolve h₁ d).agree.trans (fun held c held' h h' => ?_) hplan
  exact (Eq.trans h h' : held.converter.unnumbered = held'.converter.unnumbered)

/-- Coherent registries with one catalogue resolve alike. -/
theorem Coherent.resolve_agrees {r₁ r₂ : Registry} (h₁ : r₁.Coherent) (h₂ : r₂.Coherent)
    (hsame : r₁.catalogue = r₂.catalogue) (d : Descriptor) :
    Agree HeldAlike (answer (resolve d) r₁) (answer (resolve d) r₂) :=
  h₁.resolve_agrees_of_build h₂ (by rw [hsame])

/-- A new registry with the same catalogue resolves every type alike, now and behind every session. -/
def AnswersAsNew (r : Registry) : Prop :=
  ∀ new : Registry, new.cache = {} → new.catalogue = r.catalogue → ∀ uses d,
    Agree HeldAlike (answer (resolve d) (r.session uses).2) (answer (resolve d) (new.session uses).2)

/-- A registry answers as a new one exactly when all that it keeps is what would be built anew. -/
theorem answersAsNew_iff_coherent (hr : r.KeepsByMemoizing) : r.AnswersAsNew ↔ r.Coherent := by
  constructor
  · -- In the empty session what is kept is handed out; the registry without it has to build.
    intro hnew d held hheld
    have hmemoize : r.memoize = true := by
      by_contra hm
      rw [hr (by simpa using hm)] at hheld
      cases hheld
    have hcached : r.cached? d = some held := by rw [cached?, if_pos hmemoize, hheld]
    have hkept : answer (resolve d) r = .ok held := by
      rw [resolve, answer, run_bind, run_get]
      dsimp only
      rw [hcached]
      rfl
    have hagree : Agree HeldAlike (answer (resolve d) r) (answer (resolve d) { r with cache := {} }) :=
      hnew { r with cache := {} } rfl rfl [] d
    rw [hkept] at hagree
    generalize hanew : answer (resolve d) { r with cache := {} } = x at hagree
    cases hagree with
    | @ok _ held' hlike =>
      obtain ⟨c, hbuild, hlike'⟩ :=
        (coherent_of_cache_empty (r := { r with cache := {} }) rfl).build_of_resolves hanew
      exact ⟨c, hbuild, Eq.trans hlike hlike'⟩
  · intro hcoherent new hnew hsame uses d
    refine (hcoherent.session uses).resolve_agrees
      ((coherent_of_cache_empty hnew).session uses) ?_ d
    rw [catalogue_session, catalogue_session, hsame]

end SettingText.Registry
