import SettingText.Proofs.Converter.Outcome
import SettingText.Proofs.Except

/-!
How work may fail, on whatever bench it is done, and conversions that never fail for want of a
converter: to look for one is the business of resolving a type, so only what was plugged into a
converter could.
-/

namespace SettingText

namespace Work

variable {α β : Type} {P : Fault → Prop} {w : Work α}

/-- Whatever the editors were given before, a fault of the work satisfies the condition. -/
def FailsOnly (w : Work α) (P : Fault → Prop) : Prop := ∀ b fault, w.on b = .error fault → P fault

theorem failsOnly_pure (a : α) : (pure a : Work α).FailsOnly P := by
  intro b fault h
  cases h

theorem failsOnly_throw {fault : Fault} (h : P fault) : (throw fault : Work α).FailsOnly P := by
  intro b found hfound
  cases hfound
  exact h

theorem failsOnly_ofExcept {outcome : Except Fault α} (h : ∀ fault, outcome = .error fault → P fault) :
    (ofExcept outcome).FailsOnly P :=
  fun _ => h

theorem failsOnly_ofCause (h : ∀ cause, P (.stray cause)) (outcome : Except Cause α) :
    (ofCause outcome).FailsOnly P := by
  refine failsOnly_ofExcept fun fault hfault => ?_
  obtain ⟨cause, _, rfl⟩ := mapError_eq_error_iff.mp hfault
  exact h cause

theorem FailsOnly.bind {f : α → Work β} (hw : w.FailsOnly P) (hf : ∀ a, (f a).FailsOnly P) :
    (w >>= f).FailsOnly P := by
  intro b fault h
  have hw := hw b
  rw [on_bind] at h
  rw [on] at hw
  rcases hrun : w.run.run b with ⟨outcome, b'⟩
  rw [hrun] at h hw
  cases outcome with
  | error found =>
    cases h
    exact hw fault rfl
  | ok a => exact hf a b' fault h

theorem failsOnly_mapM {f : α → Work β} (items : List α) (h : ∀ a, (f a).FailsOnly P) :
    (items.mapM f).FailsOnly P := by
  induction items with
  | nil => exact failsOnly_pure _
  | cons a rest ih =>
    rw [List.mapM_cons]
    exact (h a).bind fun _ => ih.bind fun _ => failsOnly_pure _

theorem failsOnly_foldlM {f : β → α → Work β} (items : List α) (h : ∀ b a, (f b a).FailsOnly P)
    (start : β) : (items.foldlM f start).FailsOnly P := by
  induction items generalizing start with
  | nil => exact failsOnly_pure _
  | cons a rest ih =>
    rw [List.foldlM_cons]
    exact (h start a).bind ih

end Work

/-- The fault is not the want of a converter. -/
def Fault.FindsAll (fault : Fault) : Prop := ∀ d, fault ≠ .noConverter d

open Work

theorem Fault.findsAll_stray (cause : Cause) : (stray cause).FindsAll := fun _ h => by cases h

theorem Fault.findsAll_ofParse (s : Setting) (raw : String) (target : Option String) (cause : Cause) :
    (ofParse s raw target cause).FindsAll := by
  intro d h
  unfold ofParse at h
  split at h <;> cases h

theorem findsAll_of_parsed {target : Option String} {parse : String → Except Fault Datum}
    (hparse : ∀ raw fault, parse raw = .error fault → fault.FindsAll) {value : Option Setting}
    {fault : Fault} (h : parsed target parse value = .error fault) : fault.FindsAll := by
  unfold parsed at h
  split at h
  · cases h
  · next s raw _ =>
    unfold attributed at h
    split at h
    · cases h
      exact Fault.findsAll_ofParse s raw target _
    · exact hparse raw fault h

theorem findsAll_of_parsedBy {target : String} {parse : String → Except Cause Datum}
    {value : Option Setting} {fault : Fault} (h : parsedBy target parse value = .error fault) :
    fault.FindsAll := by
  refine findsAll_of_parsed (fun raw found hfound => ?_) h
  obtain ⟨cause, _, rfl⟩ := mapError_eq_error_iff.mp hfound
  exact Fault.findsAll_stray cause

theorem failsOnly_edited (u : Universe) (target : ClassRef) (inUse : Option EditorInUse) (s : Setting)
    (raw : String) : (edited u target inUse s raw).FailsOnly Fault.FindsAll := by
  cases inUse with
  | none => exact failsOnly_throw fun d h => by cases h
  | some e =>
    intro b fault h
    rw [Converter.on_edited] at h
    unfold judged at h
    split at h
    · cases h
      exact Fault.findsAll_ofParse s raw _ _
    · cases h
    · split at h
      · cases h
      · intro d hd
        cases h
        cases hd

theorem failsOnly_gather {convert : String → Work Datum}
    (h : ∀ text, (convert text).FailsOnly Fault.FindsAll) (container : Container) (finish : Finish)
    (texts : List String) : (gather convert container finish texts).FailsOnly Fault.FindsAll := by
  have hcause {α : Type} : ∀ outcome : Except Cause α, (ofCause outcome).FailsOnly Fault.FindsAll :=
    failsOnly_ofCause Fault.findsAll_stray
  cases container with
  | unfit typeName => exact failsOnly_throw fun d hd => by cases hd
  | sequence first => exact (failsOnly_mapM texts h).bind fun _ => hcause _
  | set =>
    exact (failsOnly_foldlM texts (fun _ text => (h text).bind fun _ => hcause _) []).bind fun _ => hcause _

theorem failsOnly_mapOfItems (d : Datum) : (mapOfItems d).FailsOnly Fault.FindsAll := by
  cases d with
  | nothing => exact failsOnly_pure _
  | _ => exact (failsOnly_ofCause Fault.findsAll_stray _).bind fun _ => failsOnly_pure _

theorem failsOnly_tupleOfItems (d : Datum) : (tupleOfItems d).FailsOnly Fault.FindsAll := by
  cases d with
  | nothing => exact failsOnly_pure _
  | _ => exact (failsOnly_ofCause Fault.findsAll_stray _).bind fun _ => failsOnly_pure _

namespace Converter

/-- What was plugged into the converter, a function of the setting or the making of an object, never
fails for want of a converter. All else in a converter comes with the program. -/
def Independent : Converter → Prop
  | function _ run => ∀ value fault, run value = .error fault → fault.FindsAll
  | factory _ _ make => ∀ text fault, make text = .error fault → fault.FindsAll
  | collection _ inner _ => inner.Independent
  | entry key value => key.Independent ∧ value.Independent
  | map entries => entries.Independent
  | optional base => base.Independent
  | array _ sequence => sequence.Independent
  | _ => True

/-- No conversion by such a converter fails for want of a converter. -/
theorem Independent.failsOnly {c : Converter} (h : c.Independent) (u : Universe)
    (value : Option Setting) : (c.convert u value).FailsOnly Fault.FindsAll := by
  induction c generalizing value with
  | missing => exact failsOnly_throw (Fault.findsAll_stray _)
  | text | truth => exact failsOnly_pure _
  | level | moment | date | clock | uri | className =>
    exact failsOnly_ofExcept fun _ => findsAll_of_parsedBy
  | unparsed =>
    refine failsOnly_ofExcept fun _ => findsAll_of_parsed fun _ _ hfault => ?_
    cases hfault
    exact Fault.findsAll_stray _
  | function name run => exact failsOnly_ofExcept (h value)
  | factory label target make => exact failsOnly_ofExcept fun _ => findsAll_of_parsed h
  | editor target inUse =>
    rw [convert_editor]
    split
    · exact failsOnly_pure _
    · exact failsOnly_edited u target inUse _ _
  | collection container inner finish ih =>
    rw [convert_collection]
    split
    · exact failsOnly_pure _
    · exact failsOnly_gather (fun _ => ih h _) _ _ _
  | entry key value ihk ihv =>
    rw [convert_entry]
    split
    · exact failsOnly_pure _
    · exact (ihk h.1 _).bind fun _ => (ihv h.2 _).bind fun _ => failsOnly_pure _
  | map entries ih => exact (ih h _).bind failsOnly_mapOfItems
  | optional base ih =>
    rw [convert_optional]
    split
    · exact failsOnly_pure _
    · exact ih h _
  | array element sequence ih => exact (ih h _).bind failsOnly_tupleOfItems

end Converter

end SettingText
