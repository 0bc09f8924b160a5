import SettingText.Converter.Convert

/-!
Work with editors whose answers depend on the latest text only: what such work gives is the same on
every bench, so a converter made of such editors has one outcome for a setting.
-/

namespace SettingText

namespace Work

variable {α β : Type}

/-- What work gives on a bench. -/
def on (b : Bench) (w : Work α) : Except Fault α := (w.run.run b).1

/-- What work gives where no editor was given anything. -/
def result (w : Work α) : Except Fault α := w.on .empty

/-- What work gives does not depend on what the editors were given before. -/
def Steady (w : Work α) : Prop := ∀ b, w.on b = w.result

theorem on_bind (b : Bench) (w : Work α) (f : α → Work β) :
    (w >>= f).on b =
      match w.run.run b with
      | (.ok a, after) => (f a).on after
      | (.error fault, _) => .error fault := by
  rw [on, ExceptT.run_bind, StateT.run_bind]
  rcases w.run.run b with ⟨outcome, after⟩
  cases outcome <;> rfl

/-- Steady work after steady work is steady, and one result feeds the other. -/
theorem on_bind_of_steady {w : Work α} {f : α → Work β} (hw : w.Steady) (hf : ∀ a, (f a).Steady)
    (b : Bench) : (w >>= f).on b = w.result >>= fun a => (f a).result := by
  rw [on_bind, ← hw b, on]
  rcases w.run.run b with ⟨outcome, after⟩
  cases outcome with
  | error fault => rfl
  | ok a => exact hf a after

theorem result_bind {w : Work α} {f : α → Work β} (hw : w.Steady) (hf : ∀ a, (f a).Steady) :
    (w >>= f).result = w.result >>= fun a => (f a).result :=
  on_bind_of_steady hw hf .empty

theorem Steady.bind {w : Work α} {f : α → Work β} (hw : w.Steady) (hf : ∀ a, (f a).Steady) :
    (w >>= f).Steady := fun b => by
  rw [on_bind_of_steady hw hf, result_bind hw hf]

@[simp] theorem result_pure (a : α) : (pure a : Work α).result = .ok a := rfl

@[simp] theorem result_ofCause (outcome : Except Cause α) :
    (ofCause outcome).result = outcome.mapError .stray := rfl

theorem steady_pure (a : α) : (pure a : Work α).Steady := fun _ => rfl

theorem steady_throw (fault : Fault) : (throw fault : Work α).Steady := fun _ => rfl

theorem steady_ofExcept (outcome : Except Fault α) : (ofExcept outcome).Steady := fun _ => rfl

theorem steady_ofCause (outcome : Except Cause α) : (ofCause outcome).Steady := fun _ => rfl

theorem Steady.mapM {f : α → Work β} (hf : ∀ a, (f a).Steady) (items : List α) :
    (items.mapM f).Steady := by
  induction items with
  | nil => exact steady_pure _
  | cons a rest ih =>
    rw [List.mapM_cons]
    exact (hf a).bind fun _ => ih.bind fun _ => steady_pure _

/-- Going through a list with steady work is going through it with the results. -/
theorem result_mapM {f : α → Work β} (hf : ∀ a, (f a).Steady) (items : List α) :
    (items.mapM f).result = items.mapM fun a => (f a).result := by
  induction items with
  | nil => rfl
  | cons a rest ih =>
    rw [List.mapM_cons, List.mapM_cons,
      result_bind (hf a) fun _ => (Steady.mapM hf rest).bind fun _ => steady_pure _]
    congr 1
    funext b
    rw [result_bind (Steady.mapM hf rest) fun _ => steady_pure _, ih]
    rfl

theorem Steady.foldlM {f : β → α → Work β} (hf : ∀ b a, (f b a).Steady) (items : List α) (b : β) :
    (items.foldlM f b).Steady := by
  induction items generalizing b with
  | nil => exact steady_pure _
  | cons a rest ih =>
    rw [List.foldlM_cons]
    exact (hf b a).bind fun _ => ih _

theorem result_foldlM {f : β → α → Work β} (hf : ∀ b a, (f b a).Steady) (items : List α) (b : β) :
    (items.foldlM f b).result = items.foldlM (fun b a => (f b a).result) b := by
  induction items generalizing b with
  | nil => rfl
  | cons a rest ih =>
    rw [List.foldlM_cons, List.foldlM_cons, result_bind (hf b a) fun _ => Steady.foldlM hf rest _]
    congr 1
    funext c
    exact ih c

end Work

end SettingText
