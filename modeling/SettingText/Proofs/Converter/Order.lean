import SettingText.Proofs.Converter.Outcome

/-!
The order in which a conversion goes through the fragments of a setting. It comes to a fragment when all
before it converts, with the texts that the editors have been given by then, and when the fragment fails
it fails in the same way.
-/

namespace SettingText

namespace Work

variable {α β : Type} {b b' : Bench} {fault : Fault}

theorem on_bind_of_run {w : Work α} {f : α → Work β} {a : α} (h : w.run.run b = (.ok a, b')) :
    (w >>= f).on b = (f a).on b' := by
  rw [on_bind, h]

theorem on_bind_of_error {w : Work α} {f : α → Work β} (h : w.on b = .error fault) :
    (w >>= f).on b = .error fault := by
  rw [on_bind]
  rw [on] at h
  rcases hrun : w.run.run b with ⟨outcome, after⟩
  rw [hrun] at h
  cases h
  rfl

theorem on_mapM_of_error {f : α → Work β} {before after : List α} {a : α} {results : List β}
    (hbefore : (before.mapM f).run.run b = (.ok results, b')) (ha : (f a).on b' = .error fault) :
    ((before ++ a :: after).mapM f).on b = .error fault := by
  rw [List.mapM_append, on_bind_of_run hbefore, List.mapM_cons]
  exact on_bind_of_error (on_bind_of_error ha)

theorem on_foldlM_of_error {f : β → α → Work β} {before after : List α} {a : α} {start result : β}
    (hbefore : (before.foldlM f start).run.run b = (.ok result, b'))
    (ha : (f result a).on b' = .error fault) :
    ((before ++ a :: after).foldlM f start).on b = .error fault := by
  rw [List.foldlM_append, on_bind_of_run hbefore, List.foldlM_cons]
  exact on_bind_of_error ha

end Work

namespace Converter

/-- A set takes in what the next fragment becomes. -/
def taking (u : Universe) (inner : Converter) (s : Setting) (items : List Datum) (text : String) :
    Work (List Datum) := do
  Work.ofCause (Datum.addItem items (← inner.convert u (some (s.child (some text)))))

/-- Converting a setting comes to a fragment `t`, which is for the converter `c` and finds the editors on
    the bench `b'`: everything before it converts. -/
inductive ComesTo (u : Universe) (c : Converter) (t : Setting) (b' : Bench) :
    Converter → Setting → Bench → Prop
  | self : ComesTo u c t b' c t b'
  | optional {base s raw b} (hs : s.raw = some raw) (h : ComesTo u c t b' base s b) :
      ComesTo u c t b' (.optional base) s b
  | array {element sequence s b} (h : ComesTo u c t b' sequence s b) :
      ComesTo u c t b' (.array element sequence) s b
  | map {entries s b} (h : ComesTo u c t b' entries s b) : ComesTo u c t b' (.map entries) s b
  | key {key value s raw b} (hs : s.raw = some raw)
      (h : ComesTo u c t b' key (s.child (some (entryTexts raw).1)) b) :
      ComesTo u c t b' (.entry key value) s b
  | value {key value s raw k b b₁} (hs : s.raw = some raw)
      (hk : (key.convert u (some (s.child (some (entryTexts raw).1)))).run.run b = (.ok k, b₁))
      (h : ComesTo u c t b' value (s.child (entryTexts raw).2) b₁) :
      ComesTo u c t b' (.entry key value) s b
  | item {first inner finish s raw before text after items b b₁} (hs : s.raw = some raw)
      (hsplit : itemTexts raw = before ++ text :: after)
      (hbefore : (before.mapM fun text => inner.convert u (some (s.child (some text)))).run.run b =
        (.ok items, b₁))
      (h : ComesTo u c t b' inner (s.child (some text)) b₁) :
      ComesTo u c t b' (.collection (.sequence first) inner finish) s b
  | setItem {inner finish s raw before text after items b b₁} (hs : s.raw = some raw)
      (hsplit : itemTexts raw = before ++ text :: after)
      (hbefore : (before.foldlM (taking u inner s) []).run.run b = (.ok items, b₁))
      (h : ComesTo u c t b' inner (s.child (some text)) b₁) :
      ComesTo u c t b' (.collection .set inner finish) s b

variable {u : Universe} {c whole : Converter} {s t : Setting} {b b' : Bench} {fault : Fault}

/-- A conversion fails as the fragment that it comes to. By induction on the way to the fragment. -/
theorem ComesTo.on_eq_error (h : ComesTo u c t b' whole s b)
    (hfault : (c.convert u (some t)).on b' = .error fault) :
    (whole.convert u (some s)).on b = .error fault := by
  induction h with
  | self => exact hfault
  | optional hs h ih =>
    rw [convert_optional, present?_of_raw hs]
    exact ih
  | array h ih => exact Work.on_bind_of_error ih
  | map h ih => exact Work.on_bind_of_error ih
  | key hs h ih =>
    rw [convert_entry, present?_of_raw hs]
    exact Work.on_bind_of_error ih
  | value hs hk h ih =>
    rw [convert_entry, present?_of_raw hs]
    exact (Work.on_bind_of_run hk).trans (Work.on_bind_of_error ih)
  | item hs hsplit hbefore h ih =>
    rw [convert_collection, present?_of_raw hs]
    dsimp only
    rw [hsplit]
    exact Work.on_bind_of_error (Work.on_mapM_of_error hbefore ih)
  | @setItem inner _ s _ _ text _ items _ _ hs hsplit hbefore h ih =>
    have htaking : (taking u inner s items text).on _ = .error fault := Work.on_bind_of_error ih
    rw [convert_collection, present?_of_raw hs]
    dsimp only
    rw [hsplit]
    exact Work.on_bind_of_error (Work.on_foldlM_of_error hbefore htaking)

end Converter

end SettingText
