import SettingText.Proofs.Converter.Outcome
import SettingText.Proofs.Except

/-!
What holds of everything that some work gives, on whatever bench it is done. Unlike an outcome, this
asks nothing of the editors: an answer may depend on every text an editor was ever given.
-/

namespace SettingText

namespace Work

variable {α β : Type}

/-- Whatever the editors were given before, what the work gives satisfies the condition. -/
def Ensures (w : Work α) (P : α → Prop) : Prop := ∀ b a, w.on b = .ok a → P a

variable {P : α → Prop} {w : Work α}

theorem ensures_true (w : Work α) : w.Ensures fun _ => True := fun _ _ _ => trivial

theorem ensures_pure {a : α} (h : P a) : (pure a : Work α).Ensures P := by
  intro b a' ha
  cases ha
  exact h

theorem ensures_throw (fault : Fault) : (throw fault : Work α).Ensures P := by
  intro b a ha
  cases ha

theorem ensures_ofExcept {outcome : Except Fault α} (h : ∀ a, outcome = .ok a → P a) :
    (ofExcept outcome).Ensures P :=
  fun _ => h

theorem ensures_ofCause {outcome : Except Cause α} (h : ∀ a, outcome = .ok a → P a) :
    (ofCause outcome).Ensures P :=
  ensures_ofExcept fun a ha => h a (mapError_eq_ok_iff.mp ha)

theorem Ensures.mono {Q : α → Prop} (hw : w.Ensures P) (h : ∀ a, P a → Q a) : w.Ensures Q :=
  fun b a ha => h a (hw b a ha)

/-- What the first work ensures may be used for the second. -/
theorem Ensures.bind {Q : β → Prop} {f : α → Work β} (hw : w.Ensures P)
    (hf : ∀ a, P a → (f a).Ensures Q) : (w >>= f).Ensures Q := by
  intro b x hx
  rw [on_bind] at hx
  have hw := hw b
  rw [on] at hw
  rcases hrun : w.run.run b with ⟨outcome, b'⟩
  rw [hrun] at hx hw
  cases outcome with
  | error fault => cases hx
  | ok a => exact hf a (hw a rfl) b' x hx

/-- Going through a list ensures of each result what the step for its item does. -/
theorem ensures_mapM {f : α → Work β} {R : α → β → Prop} (items : List α)
    (h : ∀ a ∈ items, (f a).Ensures (R a)) :
    (items.mapM f).Ensures fun results => ∃ parts : List (α × β),
      parts.map (·.1) = items ∧ parts.map (·.2) = results ∧ ∀ p ∈ parts, R p.1 p.2 := by
  induction items with
  | nil => exact ensures_pure ⟨[], rfl, rfl, by simp⟩
  | cons a rest ih =>
    rw [List.mapM_cons]
    refine (h a (by simp)).bind fun x hx => ?_
    refine (ih fun b hb => h b (by simp [hb])).bind fun xs hxs => ensures_pure ?_
    obtain ⟨parts, rfl, rfl, hparts⟩ := hxs
    exact ⟨(a, x) :: parts, rfl, rfl, List.forall_mem_cons.mpr ⟨hx, hparts⟩⟩

/-- Gathering from a list keeps what every step keeps, about the items that were gone through. -/
theorem ensures_foldlM {f : β → α → Work β} {inv : List α → β → Prop} {start : β} (items : List α)
    (hstart : inv [] start)
    (hstep : ∀ before a x, inv before x → (f x a).Ensures (inv (before ++ [a]))) :
    (items.foldlM f start).Ensures (inv items) := by
  suffices hall : ∀ before x, inv before x → (items.foldlM f x).Ensures (inv (before ++ items)) from
    hall [] start hstart
  induction items with
  | nil =>
    intro before x hx
    rw [List.append_nil]
    exact ensures_pure hx
  | cons a rest ih =>
    intro before x hx
    rw [List.foldlM_cons, ← List.singleton_append, ← List.append_assoc]
    exact (hstep before a x hx).bind fun y hy => ih (before ++ [a]) y hy

end Work

namespace Datum

/-- A set takes nothing but the item it is given. -/
theorem subset_of_addItem {items result : List Datum} {x : Datum} (h : addItem items x = .ok result) :
    result ⊆ items ++ [x] := by
  obtain ⟨_, _, h⟩ := bind_eq_ok_iff.mp h
  obtain ⟨held, _, h⟩ := bind_eq_ok_iff.mp h
  cases held <;> cases h <;> simp

end Datum

section

variable {convert : String → Work Datum} {R : String → Datum → Prop} {finish : Finish}
  {texts : List String}

/-- What a sequence is finished with was converted item by item from its texts. -/
theorem ensures_gather_sequence (h : ∀ text, (convert text).Ensures (R text)) :
    (gather convert (.sequence fun _ => []) finish texts).Ensures fun x =>
      ∃ parts : List (String × Datum), parts.map (·.1) = texts ∧ (∀ p ∈ parts, R p.1 p.2) ∧
        finish.apply false (parts.map (·.2)) = .ok x := by
  refine (Work.ensures_mapM texts fun text _ => h text).bind fun items hitems => ?_
  obtain ⟨parts, htexts, rfl, hparts⟩ := hitems
  exact Work.ensures_ofCause fun x hx => ⟨parts, htexts, hparts, hx⟩

/-- Items each of which was converted from one of the texts. -/
def GatheredFrom (R : String → Datum → Prop) (texts : List String) (items : List Datum) : Prop :=
  ∃ parts : List (String × Datum), parts.map (·.1) = texts ∧ (∀ p ∈ parts, R p.1 p.2) ∧
    items ⊆ parts.map (·.2)

/-- An item converted from one more text may be put into a set. -/
theorem GatheredFrom.addItem {items result : List Datum} {text : String} {x : Datum}
    (h : GatheredFrom R texts items) (hx : R text x) (hresult : Datum.addItem items x = .ok result) :
    GatheredFrom R (texts ++ [text]) result := by
  obtain ⟨parts, rfl, hparts, hitems⟩ := h
  refine ⟨parts ++ [(text, x)], by simp, List.forall_mem_append.mpr ⟨hparts, by simpa using hx⟩, ?_⟩
  intro y hy
  rw [List.map_append]
  obtain hmem | hmem := List.mem_append.mp (Datum.subset_of_addItem hresult hy)
  · exact List.mem_append_left _ (hitems hmem)
  · exact List.mem_append_right _ (by simpa using hmem)

/-- What a set is finished with are items that were converted from its texts. -/
theorem ensures_gather_set (h : ∀ text, (convert text).Ensures (R text)) :
    (gather convert .set finish texts).Ensures fun x =>
      ∃ items, GatheredFrom R texts items ∧ finish.apply true items = .ok x := by
  have hstart : GatheredFrom R [] [] := ⟨[], rfl, by simp, by simp⟩
  have hfold := Work.ensures_foldlM texts hstart fun before text items hitems =>
    (h text).bind fun x hx => Work.ensures_ofCause fun result => hitems.addItem hx
  exact hfold.bind fun items hitems => Work.ensures_ofCause fun x hx => ⟨items, hitems, hx⟩

end

end SettingText
