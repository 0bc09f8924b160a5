import SettingText.Proofs.Registry.Standard

/-!
Keeping resolved converters cannot be told from resolving anew: two coherent registries with the same
catalogue reply alike to every session, and each kept converter works like one resolved anew.
-/

namespace SettingText

/-- Two converters give the same for every setting, whatever their editors were given before. -/
def Converter.SameOutcomes (u : Universe) (c c' : Converter) : Prop :=
  ∀ value b b', (c.convert u value).on b = (c'.convert u value).on b'

theorem Converter.Alike.sameOutcomes {u : Universe} {c c' : Converter} (h : c.Alike c')
    (hp : c.IsPure) : c.SameOutcomes u c' := by
  intro value b b'
  rw [hp.on_eq_outcome, (h.isPure hp).on_eq_outcome, h.outcome_eq hp]

namespace Registry

variable {α β γ : Type}

theorem Agree.symm {rel : α → β → Prop} {rel' : β → α → Prop} (h : ∀ a b, rel a b → rel' b a)
    {x : Except Fault α} {y : Except Fault β} (hxy : Agree rel x y) : Agree rel' y x := by
  cases hxy with
  | error fault => exact .error fault
  | ok hab => exact .ok (h _ _ hab)

theorem Agree.trans {rel : α → β → Prop} {rel' : β → γ → Prop} {rel'' : α → γ → Prop}
    (h : ∀ a b c, rel a b → rel' b c → rel'' a c) {x : Except Fault α} {y : Except Fault β}
    {z : Except Fault γ} (hxy : Agree rel x y) (hyz : Agree rel' y z) : Agree rel'' x z := by
  cases hxy with
  | error fault =>
    cases hyz
    exact .error fault
  | ok hab =>
    cases hyz with
    | ok hbc => exact .ok (h _ _ _ hab hbc)

theorem Agree.map {rel : α → β → Prop} {rel' : γ → β → Prop} {f : α → γ} {x : Except Fault α}
    {y : Except Fault β} (hxy : Agree rel x y)
    (h : ∀ a b, y = .ok b → rel a b → rel' (f a) b) : Agree rel' (x.map f) y := by
  cases hxy with
  | error fault => exact .error fault
  | ok hab => exact .ok (h _ _ rfl hab)

end Registry

namespace Reply

/-- Two replies agree: they are the same, but that a resolved converter need only work the same. -/
def Agrees (u : Universe) : Reply → Reply → Prop
  | previous c, previous c' => c = c'
  | contained b, contained b' => b = b'
  | resolved x, resolved y => Registry.Agree (Converter.SameOutcomes u) x y
  | converted x, converted y => x = y
  | _, _ => False

variable {u : Universe}

theorem Agrees.symm {a b : Reply} (h : a.Agrees u b) : b.Agrees u a := by
  cases a <;> cases b <;> first | exact h.elim | exact Eq.symm h | skip
  exact Registry.Agree.symm (fun _ _ hcc value b b' => (hcc value b' b).symm) h

theorem Agrees.trans {a b c : Reply} (hab : a.Agrees u b) (hbc : b.Agrees u c) :
    a.Agrees u c := by
  cases a <;> cases b <;> first | exact hab.elim | skip
  all_goals cases c <;> first | exact hbc.elim | exact Eq.trans hab hbc | skip
  exact Registry.Agree.trans
    (fun _ _ _ h h' value b b' => (h value b b).trans (h' value b b')) hab hbc

end Reply

/-- What a registry with the catalogue is to reply, and the catalogue behind it. -/
def Use.expected (k : Catalogue) : Use → Reply × Catalogue
  | put d c => (.previous (k.registered d), k.register d c)
  | remove d => (.previous (k.registered d), k.unregister d)
  | contains d => (.contained (k.registered d).isSome, k)
  | resolve d => (.resolved (k.build d), k)
  | convert value d => (.converted (k.outcome value d), k)

namespace Registry

variable {r : Registry}

/-- A coherent registry replies to a use as is expected of its catalogue. -/
theorem reply_expected (hr : r.Coherent) (hp : r.catalogue.IsPure) (use : Use) :
    (r.reply use).1.Agrees r.classes (use.expected r.catalogue).1 ∧
      (r.reply use).2.catalogue = (use.expected r.catalogue).2 ∧ (r.reply use).2.Coherent := by
  cases use with
  | put d c => exact ⟨rfl, catalogue_put r d c, coherent_of_cache_empty rfl⟩
  | remove d => exact ⟨rfl, catalogue_remove r d, coherent_of_cache_empty rfl⟩
  | contains d =>
    refine ⟨?_, rfl, hr⟩
    change (r.scalars.find? d).isSome = ((r.scalars.find? d).map (·.converter)).isSome
    rw [Option.isSome_map]
  | resolve d =>
    obtain ⟨hc, hco, hagree⟩ := follows_resolve hr d
    refine ⟨?_, hc, hco⟩
    refine Agree.map hagree fun held c hbuild hlike => ?_
    have hlike : held.converter.Alike c := hlike
    exact hlike.sameOutcomes (hlike.symm.isPure (hp.keeps.build hbuild))
  | convert value d =>
    obtain ⟨hc, hco, _⟩ := follows_convert hr hp value d
    exact ⟨answer_convert hr hp value d, hc, hco⟩

theorem classes_expected (k : Catalogue) (use : Use) :
    (use.expected k).2.classes = k.classes := by
  cases use <;> rfl

theorem isPure_expected {k : Catalogue} (hk : k.IsPure) {use : Use} (hu : use.IsPure) :
    (use.expected k).2.IsPure := by
  cases use with
  | put d c => exact hk.register d hu
  | remove d => exact hk.unregister d
  | _ => exact hk

/-- Two coherent registries with the same catalogue reply alike to every session. By induction on
the session: behind each use both are coherent again, with the catalogue expected of it. -/
theorem session_agrees {r₁ r₂ : Registry} (h₁ : r₁.Coherent) (h₂ : r₂.Coherent)
    (hsame : r₁.catalogue = r₂.catalogue) (hp : r₁.catalogue.IsPure) (uses : List Use)
    (huses : ∀ use ∈ uses, use.IsPure) :
    List.Forall₂ (Reply.Agrees r₁.classes) (r₁.session uses).1 (r₂.session uses).1 ∧
      (r₁.session uses).2.Coherent ∧
      (r₁.session uses).2.catalogue.IsPure := by
  induction uses generalizing r₁ r₂ with
  | nil => exact ⟨.nil, h₁, hp⟩
  | cons use rest ih =>
    obtain ⟨hreply₁, hcatalogue₁, hcoherent₁⟩ := reply_expected h₁ hp use
    obtain ⟨hreply₂, hcatalogue₂, hcoherent₂⟩ := reply_expected h₂ (hsame ▸ hp) use
    have hclasses : r₂.classes = r₁.classes := (congrArg Catalogue.classes hsame).symm
    have hnext : (r₁.reply use).2.classes = r₁.classes :=
      (congrArg Catalogue.classes hcatalogue₁).trans (classes_expected _ use)
    rw [← hsame, hclasses] at hreply₂
    have hpure : (r₁.reply use).2.catalogue.IsPure := by
      rw [hcatalogue₁]
      exact isPure_expected hp (huses use (by simp))
    have hrest := ih hcoherent₁ hcoherent₂ (by rw [hcatalogue₁, hcatalogue₂, hsame]) hpure
      fun use huse => huses use (by simp [huse])
    rw [hnext] at hrest
    exact ⟨.cons (hreply₁.trans hreply₂.symm) hrest.1, hrest.2⟩

/-- Keeping resolved converters cannot be told from resolving anew. Whatever a new registry is used
for, with memoization and without it the replies agree; and behind every session, each converter that
is kept works like the one that is built anew from the registrations of that moment. -/
theorem memoization_transparent {r : Registry} (hnew : r.cache = {}) (hp : r.catalogue.IsPure)
    (uses : List Use) (huses : ∀ use ∈ uses, use.IsPure) :
    List.Forall₂ (Reply.Agrees r.classes) (session { r with memoize := true } uses).1
        (session { r with memoize := false } uses).1 ∧
      ∀ d held, (session { r with memoize := true } uses).2.cache.find? d = some held →
        ∃ fresh, answer (resolve d)
            { (session { r with memoize := true } uses).2 with cache := {}, memoize := false } =
              .ok fresh ∧
          held.converter.SameOutcomes r.classes fresh.converter := by
  have hcoherent (b : Bool) : Coherent { r with memoize := b } := coherent_of_cache_empty hnew
  obtain ⟨hreplies, hco, hpure⟩ :=
    session_agrees (hcoherent true) (hcoherent false) rfl hp uses huses
  refine ⟨hreplies, fun d held hfound => ?_⟩
  obtain ⟨c, hbuild, hlike⟩ := hco d held hfound
  generalize (session { r with memoize := true } uses).2 = r' at *
  have hanew := (follows_resolve (r := { r' with cache := {}, memoize := false })
    (coherent_of_cache_empty rfl) d).agree
  rw [show catalogue { r' with cache := {}, memoize := false } = r'.catalogue from rfl, hbuild]
    at hanew
  generalize answer (resolve d) { r' with cache := {}, memoize := false } = x at hanew ⊢
  cases hanew with
  | @ok fresh _ hfresh =>
    have hfresh : fresh.converter.Alike c := hfresh
    have hc : c.IsPure := hpure.keeps.build hbuild
    have hsame : held.converter.Alike fresh.converter := hlike.trans hfresh.symm
    exact ⟨fresh, rfl, hsame.sameOutcomes (hlike.symm.isPure hc)⟩

/-- An entry type is given up half way, when the type of its keys is resolved and that of its values
is not; a converter for the values is registered then. -/
theorem memoization_transparent_half_way :
    List.Forall₂ (Reply.Agrees ⟨[], [], [], []⟩)
      (session { standard ⟨[], [], [], []⟩ with memoize := true }
        [.resolve (.shape (.cls Datum.entryClass) [.plain (.builtin "str"), .plain (.builtin "int")]),
          .put (.plain (.builtin "int")) .truth,
          .convert (some (.ofText (some "key=yes")))
            (.shape (.cls Datum.entryClass) [.plain (.builtin "str"), .plain (.builtin "int")])]).1
      (session { standard ⟨[], [], [], []⟩ with memoize := false }
        [.resolve (.shape (.cls Datum.entryClass) [.plain (.builtin "str"), .plain (.builtin "int")]),
          .put (.plain (.builtin "int")) .truth,
          .convert (some (.ofText (some "key=yes")))
            (.shape (.cls Datum.entryClass) [.plain (.builtin "str"), .plain (.builtin "int")])]).1 :=
  (memoization_transparent (cache_standard _) (isPure_standard _) _
    (by simp [Use.IsPure, Converter.IsPure])).1

end Registry

end SettingText
