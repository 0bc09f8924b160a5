import SettingText.Proofs.Converter.Outcome

/-!
Where a setting comes from has no bearing on what it is converted to. Two settings with one text give the
same value, or fail alike: their faults differ in the settings they name and in nothing else, and the
editors are given the same texts on the way.
-/

namespace SettingText

/-- The fault without the setting that it names. -/
def Fault.unattached : Fault → Fault
  | .malformed raw reason _ target cause => .malformed raw reason none target cause
  | fault => fault

/-- The detail of a fault but for the setting it names. -/
def Fault.ownDetail (fault : Fault) : List (String × Json) :=
  fault.detail.filter fun field => field.1 != "setting"

namespace Fault

theorem message_unattached (fault : Fault) : fault.unattached.message = fault.message := by
  cases fault <;> rfl

theorem code_unattached (fault : Fault) : fault.unattached.code = fault.code := by
  cases fault <;> rfl

theorem ownDetail_unattached (fault : Fault) : fault.unattached.ownDetail = fault.ownDetail := by
  cases fault with
  | malformed raw reason value target cause =>
    cases value <;> cases target <;> simp [unattached, ownDetail, detail]
  | _ => rfl

theorem unattached_ofParse (s t : Setting) (raw : String) (target : Option String) (cause : Cause) :
    (ofParse s raw target cause).unattached = (ofParse t raw target cause).unattached := by
  rw [ofParse, ofParse]
  split <;> rfl

end Fault

/-- An outcome, with its fault told without the setting. -/
def unattachedOutcome {α : Type} (x : Except Fault α) : Except Fault α :=
  x.mapError Fault.unattached

/-- Outcomes that are told alike without the settings are one value, or faults that are told alike. -/
theorem eq_or_error_of_unattachedOutcome {α : Type} {x y : Except Fault α}
    (h : unattachedOutcome x = unattachedOutcome y) :
    (∃ a, x = .ok a ∧ y = .ok a) ∨
      ∃ f g, x = .error f ∧ y = .error g ∧ f.unattached = g.unattached := by
  cases x with
  | ok a =>
    cases y with
    | ok b => exact .inl ⟨a, rfl, by rw [Except.ok.inj h]⟩
    | error g => cases h
  | error f =>
    cases y with
    | ok b => cases h
    | error g => exact .inr ⟨f, g, rfl, rfl, Except.error.inj h⟩

namespace Work

variable {α β : Type}

/-- What work gives on a bench and the bench behind it, with its fault told without the setting. -/
def unattached (w : Work α) (b : Bench) : Except Fault α × Bench :=
  (unattachedOutcome (w.run.run b).1, (w.run.run b).2)

/-- Two pieces of work give the same and leave the same behind, but for the settings in their faults. -/
def SameUnattached (w w' : Work α) : Prop := ∀ b, w.unattached b = w'.unattached b

theorem SameUnattached.refl (w : Work α) : w.SameUnattached w := fun _ => rfl

theorem SameUnattached.ofExcept {x y : Except Fault α} (h : unattachedOutcome x = unattachedOutcome y) :
    (ofExcept x).SameUnattached (ofExcept y) := by
  intro b
  exact Prod.ext h rfl

theorem run_bind (w : Work α) (f : α → Work β) (b : Bench) :
    (w >>= f).run.run b =
      match w.run.run b with
      | (.ok a, after) => (f a).run.run after
      | (.error fault, after) => (.error fault, after) := by
  rw [ExceptT.run_bind, StateT.run_bind]
  rcases w.run.run b with ⟨outcome, after⟩
  cases outcome <;> rfl

theorem SameUnattached.bind {w w' : Work α} {f f' : α → Work β} (hw : w.SameUnattached w')
    (hf : ∀ a, (f a).SameUnattached (f' a)) : (w >>= f).SameUnattached (w' >>= f') := by
  intro b
  have hb := hw b
  rw [unattached, unattached] at hb ⊢
  rw [run_bind, run_bind]
  rcases hrun : w.run.run b with ⟨x, after⟩
  rcases hrun' : w'.run.run b with ⟨x', after'⟩
  rw [hrun, hrun'] at hb
  obtain ⟨hx, hafter⟩ := Prod.mk.inj hb
  obtain rfl : after = after' := hafter
  -- the benches are the same, so the second works start from the same one
  cases x with
  | error fault =>
    cases x' with
    | error fault' => exact Prod.ext (congrArg Except.error (Except.error.inj hx)) rfl
    | ok a' => cases hx
  | ok a =>
    cases x' with
    | error fault' => cases hx
    | ok a' =>
      obtain rfl : a = a' := Except.ok.inj hx
      exact hf a after

theorem SameUnattached.mapM {f f' : α → Work β} (h : ∀ a, (f a).SameUnattached (f' a))
    (items : List α) : (items.mapM f).SameUnattached (items.mapM f') := by
  induction items with
  | nil => exact .refl _
  | cons a rest ih =>
    rw [List.mapM_cons, List.mapM_cons]
    exact (h a).bind fun _ => ih.bind fun _ => .refl _

theorem SameUnattached.foldlM {f f' : β → α → Work β} (h : ∀ b a, (f b a).SameUnattached (f' b a))
    (items : List α) (b : β) : (items.foldlM f b).SameUnattached (items.foldlM f' b) := by
  induction items generalizing b with
  | nil => exact .refl _
  | cons a rest ih =>
    rw [List.foldlM_cons, List.foldlM_cons]
    exact (h b a).bind fun c => ih c

end Work

namespace Converter

/-- No function of the whole setting is in the converter. -/
def ReadsText : Converter → Prop
  | function .. => False
  | collection _ inner _ => inner.ReadsText
  | entry key value => key.ReadsText ∧ value.ReadsText
  | map entries => entries.ReadsText
  | optional base => base.ReadsText
  | array _ sequence => sequence.ReadsText
  | _ => True

end Converter

variable {u : Universe} {s t : Setting}

theorem unattachedOutcome_parsed {target : Option String} {parse : String → Except Fault Datum}
    (h : s.raw = t.raw) : unattachedOutcome (parsed target parse (some s)) =
      unattachedOutcome (parsed target parse (some t)) := by
  cases hraw : s.raw with
  | none =>
    rw [parsed, parsed, Converter.present?_of_absent hraw, Converter.present?_of_absent (h ▸ hraw)]
  | some raw =>
    rw [parsed, parsed, Converter.present?_of_raw hraw, Converter.present?_of_raw (h ▸ hraw)]
    dsimp only
    cases parse raw with
    | ok d => rfl
    | error fault =>
      cases fault with
      | stray cause => exact congrArg Except.error (Fault.unattached_ofParse s t raw target cause)
      | _ => rfl

theorem unattachedOutcome_judged (target : ClassRef) (raw : String) (given : Except Cause Datum) :
    unattachedOutcome (judged u target s raw given) =
      unattachedOutcome (judged u target t raw given) := by
  cases given with
  | error cause => exact congrArg Except.error (Fault.unattached_ofParse s t raw _ cause)
  | ok d =>
    cases d with
    | nothing => rfl
    | _ =>
      simp only [judged]
      split <;> rfl

theorem sameUnattached_edited (target : ClassRef) (inUse : Option EditorInUse) (raw : String) :
    (edited u target inUse s raw).SameUnattached (edited u target inUse t raw) := by
  cases inUse with
  | none => exact fun _ => rfl
  | some editor =>
    refine (Work.SameUnattached.refl _).bind fun _ => (Work.SameUnattached.refl _).bind fun bench => ?_
    exact .ofExcept (unattachedOutcome_judged target raw _)

theorem sameUnattached_gather {convert convert' : String → Work Datum}
    (h : ∀ text, (convert text).SameUnattached (convert' text)) (container : Container)
    (finish : Finish) (texts : List String) :
    (gather convert container finish texts).SameUnattached
      (gather convert' container finish texts) := by
  cases container with
  | unfit typeName => exact .refl _
  | sequence first => exact (Work.SameUnattached.mapM h texts).bind fun _ => .refl _
  | set =>
    refine Work.SameUnattached.bind ?_ fun _ => .refl _
    exact .foldlM (fun items text => (h text).bind fun _ => .refl _) texts []

/-- Work on a setting that is skipped where the text is missing. -/
theorem sameUnattached_present {f f' : Setting → String → Work Datum} (h : s.raw = t.raw)
    (hf : ∀ raw, (f s raw).SameUnattached (f' t raw)) :
    Work.SameUnattached
      (match present? (some s) with
        | none => pure .nothing
        | some (setting, raw) => f setting raw)
      (match present? (some t) with
        | none => pure .nothing
        | some (setting, raw) => f' setting raw) := by
  cases hraw : s.raw with
  | none =>
    rw [Converter.present?_of_absent hraw, Converter.present?_of_absent (h ▸ hraw)]
    exact .refl _
  | some raw =>
    rw [Converter.present?_of_raw hraw, Converter.present?_of_raw (h ▸ hraw)]
    exact hf raw

/-- Converting settings with one text is the same work, but for the settings that faults name. By
induction on the converter: the fragments cut out of the two settings have the same texts again. -/
theorem Converter.ReadsText.sameUnattached {c : Converter} (hc : c.ReadsText) (h : s.raw = t.raw) :
    (c.convert u (some s)).SameUnattached (c.convert u (some t)) := by
  have hchild : ∀ (s t : Setting) raw, (s.child raw).raw = (t.child raw).raw := fun _ _ _ => rfl
  induction c generalizing s t with
  | missing => exact .refl _
  | text | truth =>
    intro b
    simp only [convert, rawOf, truthOf, Option.bind_some, h]
  | level | moment | date | clock | uri | unparsed | className | factory =>
    exact .ofExcept (unattachedOutcome_parsed h)
  | function => exact hc.elim
  | editor target inUse => exact sameUnattached_present h fun raw => sameUnattached_edited target inUse raw
  | collection container inner finish ih =>
    exact sameUnattached_present h fun raw =>
      sameUnattached_gather (fun text => ih hc (hchild s t (some text))) container finish
        (itemTexts raw)
  | entry key value ihk ihv =>
    rw [convert_entry, convert_entry]
    exact sameUnattached_present h fun raw =>
      (ihk hc.1 (hchild s t _)).bind fun _ => (ihv hc.2 (hchild s t _)).bind fun _ => .refl _
  | map entries ih => exact (ih hc h).bind fun _ => .refl _
  | optional base ih =>
    rw [convert_optional, convert_optional]
    cases hraw : s.raw with
    | none =>
      rw [present?_of_absent hraw, present?_of_absent (h ▸ hraw)]
      exact .refl _
    | some raw =>
      rw [present?_of_raw hraw, present?_of_raw (h ▸ hraw)]
      exact ih hc h
  | array element sequence ih => exact (ih hc h).bind fun _ => .refl _

end SettingText
